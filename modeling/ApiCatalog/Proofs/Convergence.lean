import ApiCatalog.Proofs.History
import ApiCatalog.Proofs.Import.Outcome
import ApiCatalog.Proofs.Login

/-! # What pages converge to

After an import an API has one page for each name that the definition asks for. Its body is the one
asked for, whatever it was before. Its type is the one asked for if the page is new; a page that was
there keeps its type.
-/

namespace ApiCatalog

namespace Catalog

theorem nodup_pageAddresses_after (identities : Identities) (history : List Event) :
    (((start identities).after history).store.pages.map Page.address).Nodup := by
  have hboth : ((start identities).after history).store.Consistent ∧
      (((start identities).after history).store.pages.map Page.address).Nodup := by
    refine after_induction
      (P := fun c => c.store.Consistent ∧ (c.store.pages.map Page.address).Nodup) ?_
      ⟨consistent_start identities, List.nodup_nil⟩ history
    rintro c event ⟨hconsistent, hpages⟩
    refine ⟨consistent_afterEvent hconsistent event, ?_⟩
    cases event with
    | imported apiId parsed actingUser =>
      rw [afterEvent]
      rcases runOn_importParsed hconsistent.seeded_owner apiId parsed actingUser with
        ⟨e, metrics, he⟩ | ⟨existing, definition, members, metrics, -, he⟩ <;> rw [he]
      · exact hpages
      · exact Store.nodup_pageAddresses_imported hconsistent.pageIds_nodup hpages
    | loggedIn authenticator reply =>
      rw [afterEvent]
      rcases authenticator.store_connect reply c with ⟨_, _, hsame⟩ | ⟨_, _, hgiven⟩
      · exact hsame ▸ hpages
      · obtain ⟨memberships, writes, he⟩ := hgiven.exists_eq
        rw [he]
        exact hpages
    | roleAdded role => exact hpages
    | groupInserted group => exact hpages
  exact hboth.2

end Catalog

section Imported

variable {identities : Identities} {history : List Event} {apiId : Option String}
  {definition : Definition} {actingUser : Option String} {api : Api} {c' : Catalog}

/-- An import leaves one page of each name that the definition asks for, with the body of the first
entry of that name. The type is that of the page which was there before, if there was one, and that
of the entry otherwise. -/
theorem import_converges_pages
    (hrun : (importParsed apiId (.ok definition) actingUser).runOn
      ((Catalog.start identities).after history) = (.ok api, c')) :
    let before := ((Catalog.start identities).after history).store
    ∀ entry ∈ firsts PageEntry.name definition.pages,
      let carries (page : Page) : Bool := page.apiId == api.id && page.name == entry.name
      ∃ page, c'.store.pages.filter carries = [page] ∧ page.body = entry.body ∧
        page.type = ((before.pages.find? carries).map (·.type)).getD entry.type := by
  intro before entry hentry carries
  have hconsistent : before.Consistent :=
    Catalog.consistent_after (Catalog.consistent_start identities) history
  have haddresses : ((before.pages.filter fun _ => true).map Page.address).Nodup := by
    rw [List.filter_true]
    exact Catalog.nodup_pageAddresses_after identities history
  obtain ⟨existing, definition, members, hready, rfl, hstore⟩ := eq_imported_of_runOn hrun
  obtain rfl := Except.ok.inj hready.parsed_eq
  have hpages : c'.store.pages = (pageUpsert (before.targetId existing definition) actingUser).run
      before.pages (firsts PageEntry.name definition.pages) := by
    rw [hstore]
    exact Store.pages_imported
  obtain ⟨page, hpage, hcases⟩ := (keyed_pageUpsert _ actingUser).filter_isAbout_run
    hconsistent.pageIds_nodup (nodup_map_firsts PageEntry.name definition.pages) haddresses
    (pageUpsert_isAbout_create _ _) hentry
  refine ⟨page, hpages ▸ hpage, ?_⟩
  rcases hcases with ⟨old, hfind, rfl⟩ | ⟨hfind, id, rfl⟩
  · have hold : before.pages.find? carries = some old := hfind
    exact ⟨rfl, by rw [hold]; rfl⟩
  · have hnone : before.pages.find? carries = none := hfind
    exact ⟨rfl, by rw [hnone]; rfl⟩

/-- A page that was imported as text is replaced by a service description and stays a text. -/
theorem import_converges_pages_home :
    let home (type : PageType) (text : String) : Definition :=
      { details := { name := "Shop", version := "1" }
        pages := [{ name := "Home", type, body := { content := some text } }] }
    let before := (Catalog.start {}).after [.imported none (.ok (home .markdown "# Shop")) none]
    ∃ api c' page,
      (importParsed (some "api~1") (.ok (home .swagger "swagger: 2.0")) none).runOn before =
        (.ok api, c') ∧
      c'.store.pages.filter (fun page => page.apiId == api.id && page.name == "Home") = [page] ∧
      page.body.content = some "swagger: 2.0" ∧ page.type = .markdown := by
  intro home before
  obtain ⟨api, c', hrun, hid⟩ : ∃ api c',
      (importParsed (some "api~1") (.ok (home .swagger "swagger: 2.0")) none).runOn before =
        (.ok api, c') ∧ api.id = "api~1" := ⟨_, _, rfl, rfl⟩
  obtain ⟨page, hpage, hbody, htype⟩ := import_converges_pages hrun _ List.mem_cons_self
  rw [hid] at htype
  exact ⟨api, c', page, hrun, hpage, by rw [hbody], htype⟩

end Imported

end ApiCatalog
