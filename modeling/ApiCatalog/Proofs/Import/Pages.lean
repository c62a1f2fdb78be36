import ApiCatalog.Import.Pages
import ApiCatalog.Proofs.Ordered
import ApiCatalog.Proofs.Task
import ApiCatalog.Proofs.Upsert

/-! # What importing pages leaves

The import of pages does not fail, and is an upsert of the pages by the entries of the definition. A
second import of the same entries creates no page and changes none.
-/

namespace ApiCatalog

def pageUpsert (apiId : String) (contributor : Option String) : Upsert Page PageEntry String where
  id := Page.id
  mark := "page~"
  key := PageEntry.name
  isAbout entry page := page.apiId == apiId && page.name == entry.name
  revise entry page := page.revise entry.name entry.body contributor
  create id entry := .ofEntry id apiId contributor entry
  id_revise _ _ := rfl
  id_create _ _ := rfl
  isAbout_revise {entry page} entry' h := by
    rw [Bool.and_eq_true, beq_iff_eq, beq_iff_eq] at h
    simp [Page.revise, h.2]
  key_eq {entry entry' page} h h' := by
    rw [Bool.and_eq_true, beq_iff_eq, beq_iff_eq] at h h'
    exact h.2.symm.trans h'.2
  key_eq_create {entry entry' id} h := by
    rw [Bool.and_eq_true, beq_iff_eq, beq_iff_eq] at h
    exact h.2.symm
  revise_revise _ _ := rfl
  revise_create _ _ := rfl

/-- What tells pages apart: the API and the name. -/
def Page.address (page : Page) : String × String := (page.apiId, page.name)

theorem keyed_pageUpsert (apiId : String) (contributor : Option String) :
    (pageUpsert apiId contributor).Keyed (fun _ => true) Page.address
      fun entry => (apiId, entry.name) where
  isAbout_iff entry page := by simp [pageUpsert, Page.address]
  keyOf_create _ _ := rfl
  key_eq_iff := by simp [pageUpsert]

theorem pageUpsert_isAbout_create (apiId : String) (contributor : Option String) (id : String)
    (entry : PageEntry) :
    (pageUpsert apiId contributor).isAbout entry ((pageUpsert apiId contributor).create id entry) =
      true := by
  simp [pageUpsert, Page.ofEntry]

namespace PageStep

variable {apiId : String} {contributor : Option String} {store : Store} {old : List Page}

def after (apiId : String) (contributor : Option String) (store : Store) : PageStep → Store
  | update id entry => store.withPage id entry.name entry.body contributor
  | create entry => store.withNewPage apiId entry contributor

/-- What a step relies on: the page that it updates is there. -/
def Ready (store : Store) : PageStep → Prop
  | update id _ => id ∈ store.pages.map (·.id)
  | create _ => True

theorem ready_after {step : PageStep} (h : step.Ready store) (step' : PageStep) :
    step.Ready (step'.after apiId contributor store) := by
  cases step with
  | create _ => exact trivial
  | update id entry =>
    cases step' with
    | create entry' =>
      rw [Ready, after, Store.withNewPage, Store.countWrite, List.map_append]
      exact List.mem_append_left _ h
    | update id' entry' =>
      rw [Ready, after, Store.pageIds_withPage]
      exact h

theorem gives_run {step : PageStep} (h : step.Ready store) :
    (step.run apiId contributor).Gives store () (step.after apiId contributor store) := by
  cases step with
  | create entry =>
    exact (CatalogM.Gives.onStore (Store.createPage_eq apiId entry contributor store)).bind
      (CatalogM.Gives.count _ _ _)
  | update id entry =>
    obtain ⟨page, hpage, rfl⟩ := List.mem_map.mp h
    obtain ⟨found, hfound⟩ : ∃ found, store.page? page.id = some found :=
      Option.isSome_iff_exists.mp (List.find?_isSome.mpr ⟨page, hpage, by simp⟩)
    have hupdate := Store.updatePage_eq page.id entry.name entry.body contributor store
    rw [hfound] at hupdate
    exact (CatalogM.Gives.onStore hupdate).bind (CatalogM.Gives.count _ _ _)

theorem find?_pages_of_api (contributor : Option String) (entry : PageEntry) :
    (old.filter (·.apiId == apiId)).find? (·.name == entry.name) =
      old.find? ((pageUpsert apiId contributor).isAbout entry) := by
  rw [List.find?_filter]
  congr 1
  funext page
  simp [pageUpsert, Bool.beq_eq_decide_eq]

/-- The steps that are planned change the pages as the upsert does, and nothing else. -/
theorem foldl_after_plan (old : List Page) (entries : List PageEntry) (store : Store) :
    (entries.map (plan (old.filter (·.apiId == apiId)))).foldl (after apiId contributor) store =
      { store with
        pages := entries.foldl ((pageUpsert apiId contributor).step old) store.pages }.countWrite
        fun n =>
          { n with
            pageCreates :=
              n.pageCreates + entries.countP ((pageUpsert apiId contributor).isNew old)
            pageUpdates :=
              n.pageUpdates + entries.countP (!(pageUpsert apiId contributor).isNew old ·) } := by
  induction entries generalizing store with
  | nil => rfl
  | cons entry entries ih =>
    rw [List.map_cons, List.foldl_cons, ih, List.foldl_cons, List.countP_cons, List.countP_cons,
      plan, find?_pages_of_api contributor, Upsert.step, Upsert.isNew]
    cases old.find? ((pageUpsert apiId contributor).isAbout entry) with
    | none =>
      simp [after, Store.withNewPage, Store.countWrite, Nat.add_assoc, Nat.add_comm 1]
      rfl
    | some page =>
      simp [after, Store.withPage, Store.countWrite, Nat.add_assoc, Nat.add_comm 1]
      rfl

theorem ready_plan (entry : PageEntry) : (plan (store.pagesOf apiId) entry).Ready store := by
  unfold plan
  split
  · rename_i page hpage
    exact List.mem_map_of_mem (List.mem_of_mem_filter (List.mem_of_find?_eq_some hpage))
  · exact trivial

end PageStep

namespace Store

def withPages (store : Store) (apiId : String) (contributor : Option String)
    (entries : List PageEntry) : Store :=
  { store with
    pages :=
      (pageUpsert apiId contributor).run store.pages (firsts PageEntry.name entries) }.countWrite
    fun n =>
      { n with
        pageCreates :=
          n.pageCreates + (firsts PageEntry.name entries).countP
            ((pageUpsert apiId contributor).isNew store.pages)
        pageUpdates :=
          n.pageUpdates + (firsts PageEntry.name entries).countP
            (!(pageUpsert apiId contributor).isNew store.pages ·) }

theorem withPages_again {store old : Store} {apiId : String} {contributor : Option String}
    {entries : List PageEntry}
    (hrun : store.pages =
      (pageUpsert apiId contributor).run old.pages (firsts PageEntry.name entries))
    (hold : (old.pages.map (·.id)).Nodup) :
    store.withPages apiId contributor entries =
      store.countWrite fun n =>
        { n with
          pageUpdates := n.pageUpdates + (entries.map (·.name)).toFinset.card } := by
  have hid : ((pageUpsert apiId contributor).ids old.pages).Nodup := hold
  have hkey := nodup_map_firsts PageEntry.name entries
  have hcreate := pageUpsert_isAbout_create apiId contributor
  have hfound : ∀ entry ∈ firsts PageEntry.name entries,
      (pageUpsert apiId contributor).isNew store.pages entry = false := by
    rw [hrun]
    exact fun _ he => Upsert.isNew_run hid hkey hcreate he
  have hnone : (firsts PageEntry.name entries).countP
      ((pageUpsert apiId contributor).isNew store.pages) = 0 :=
    List.countP_eq_zero.mpr fun entry he => by simp [hfound entry he]
  have hall : (firsts PageEntry.name entries).countP
      (!(pageUpsert apiId contributor).isNew store.pages ·) =
        (entries.map (·.name)).toFinset.card := by
    rw [← length_firsts, List.countP_eq_length]
    exact fun entry he => by simp [hfound entry he]
  have hsame : (pageUpsert apiId contributor).run store.pages (firsts PageEntry.name entries) =
      store.pages := by
    rw [hrun]
    exact Upsert.run_run_of_isAbout_create hid hkey hcreate
  simp only [withPages, countWrite, hnone, hall, hsame, Nat.add_zero]

end Store

theorem gives_importPages (apiId : String) (contributor : Option String)
    (entries : List PageEntry) (store : Store) :
    (importPages apiId contributor entries).Gives store ()
      (store.withPages apiId contributor entries) := by
  refine (CatalogM.Gives.fromStore _ store).bind ?_
  have hsteps := CatalogM.Gives.forM (PageStep.after apiId contributor)
    (fun step store => step.Ready store) (fun _ _ h => PageStep.gives_run h)
    (fun step _ _ h => PageStep.ready_after h step) (pageSteps store apiId entries)
    fun step hstep => by
      obtain ⟨entry, _, rfl⟩ := List.mem_map.mp hstep
      exact PageStep.ready_plan entry
  rwa [pageSteps, Store.pagesOf, PageStep.foldl_after_plan] at hsteps

end ApiCatalog
