import ApiCatalog.Proofs.Confinement
import ApiCatalog.Proofs.Regular
import ApiCatalog.Proofs.Reimport

/-! # Integrity of the store

In ordinary use the natural keys of pages, open plans and groups stay distinct, and nothing that is
stored refers to an API or a group that is not.
-/

namespace ApiCatalog

theorem Grows.exists_of_mem {α : Type} {Kept : α → α → Prop} {New : α → Prop} {xs ys : List α}
    (h : Grows Kept New xs ys) {y : α} (hy : y ∈ ys) : (∃ x ∈ xs, Kept x y) ∨ New y := by
  induction h with
  | new hys => exact Or.inr (hys y hy)
  | kept hxy _ ih =>
    rcases List.mem_cons.mp hy with rfl | hy
    · exact Or.inl ⟨_, List.mem_cons_self, hxy⟩
    · exact (ih hy).imp_left fun ⟨x, hx, hkept⟩ => ⟨x, List.mem_cons_of_mem _ hx, hkept⟩

theorem Grows.exists_kept {α : Type} {Kept : α → α → Prop} {New : α → Prop} {xs ys : List α}
    (h : Grows Kept New xs ys) {x : α} (hx : x ∈ xs) : ∃ y ∈ ys, Kept x y := by
  induction h with
  | new _ => exact absurd hx List.not_mem_nil
  | kept hxy _ ih =>
    rcases List.mem_cons.mp hx with rfl | hx
    · exact ⟨_, List.mem_cons_self, hxy⟩
    · obtain ⟨y, hy, hkept⟩ := ih hx
      exact ⟨y, List.mem_cons_of_mem _ hy, hkept⟩

namespace Store

/-- What belongs to an API or a group belongs to one that is stored. -/
structure Anchored (store : Store) : Prop where
  pages : ∀ page ∈ store.pages, page.apiId ∈ store.apis.map (·.id)
  plans : ∀ plan ∈ store.plans, plan.apiId ∈ store.apis.map (·.id)
  apiMembers : ∀ m ∈ store.memberships, m.reference.type = .api →
    m.reference.id ∈ store.apis.map (·.id)
  groupMembers : ∀ m ∈ store.memberships, m.reference.type = .group →
    m.reference.id ∈ store.groups.map (·.id)

theorem Anchored.fresh : Store.fresh.Anchored where
  pages _ h := absurd h List.not_mem_nil
  plans _ h := absurd h List.not_mem_nil
  apiMembers _ h := absurd h List.not_mem_nil
  groupMembers _ h := absurd h List.not_mem_nil

theorem Anchored.of_growsIn {before after : Store} {target : String} (h : before.Anchored)
    (hgrows : before.GrowsIn target after) (htarget : target ∈ after.apis.map (·.id)) :
    after.Anchored := by
  have hapis : ∀ {id}, id ∈ before.apis.map (·.id) → id ∈ after.apis.map (·.id) := by
    intro id hid
    obtain ⟨api, hapi, rfl⟩ := List.mem_map.mp hid
    obtain ⟨api', hapi', hkept⟩ := hgrows.apis.exists_kept hapi
    exact List.mem_map.mpr ⟨api', hapi', hkept.id⟩
  refine ⟨fun page hpage => ?_, fun plan hplan => ?_, fun m hm htype => ?_, fun m hm htype => ?_⟩
  · rcases hgrows.pages.exists_of_mem hpage with ⟨old, hold, hkept⟩ | hnew
    · exact hkept.apiId ▸ hapis (h.pages old hold)
    · exact hnew ▸ htarget
  · rcases hgrows.plans.exists_of_mem hplan with ⟨old, hold, hkept⟩ | hnew
    · exact hkept.apiId ▸ hapis (h.plans old hold)
    · exact hnew ▸ htarget
  · rcases hgrows.memberships.exists_of_mem hm with ⟨old, hold, hkept⟩ | hnew
    · have href : m.reference = old.reference := congrArg Prod.fst hkept.key
      rw [href] at htype ⊢
      exact hapis (h.apiMembers old hold htype)
    · rw [hnew]
      exact htarget
  · rcases hgrows.memberships.exists_of_mem hm with ⟨old, hold, hkept⟩ | hnew
    · have href : m.reference = old.reference := congrArg Prod.fst hkept.key
      rw [href] at htype ⊢
      exact List.map_subset _ hgrows.groups.subset (h.groupMembers old hold htype)
    · rw [hnew] at htype
      cases htype

/-- After roles have been given, a membership is on a reference that had one, or on one of those on
which roles were given. -/
theorem mem_foldl_assignments {user : Member} {assignments : List Assignment} {store : Store}
    {m : Membership} (h : m ∈ (assignments.foldl (Assignment.after user) store).memberships) :
    (∃ old ∈ store.memberships, old.reference = m.reference) ∨
      ∃ a ∈ assignments, a.reference = m.reference := by
  induction assignments generalizing store with
  | nil => exact Or.inl ⟨m, h, rfl⟩
  | cons a assignments ih =>
    rcases ih h with ⟨old, hold, href⟩ | ⟨b, hb, href⟩
    · rcases mem_of_mem_putMembership hold with rfl | hold
      · have hkey := congrArg Prod.fst (store.key_granted a.reference user a.role)
        exact Or.inr ⟨a, List.mem_cons_self, hkey.symm.trans href⟩
      · exact Or.inl ⟨old, hold, href⟩
    · exact Or.inr ⟨b, List.mem_cons_of_mem _ hb, href⟩

theorem Anchored.given {store store' : Store} (h : store.Anchored)
    (hgiven : store.GivenOutsideApis store') : store'.Anchored := by
  obtain ⟨memberships, writes, he⟩ := hgiven.exists_eq
  obtain ⟨user, assignments, hout, hstore⟩ := hgiven
  have hreferences : ∀ m ∈ memberships,
      (∃ old ∈ store.memberships, old.reference = m.reference) ∨
        ∃ a ∈ assignments, a.reference = m.reference := by
    intro m hm
    have hstored : m ∈ store'.memberships := he ▸ hm
    rw [hstore] at hstored
    exact mem_foldl_assignments hstored
  subst he
  refine { h with apiMembers := fun m hm htype => ?_, groupMembers := fun m hm htype => ?_ }
  · rcases hreferences m hm with ⟨old, hold, href⟩ | ⟨a, ha, href⟩
    · exact href ▸ h.apiMembers old hold (href ▸ htype)
    · exact absurd (href ▸ htype) (hout a ha).1
  · rcases hreferences m hm with ⟨old, hold, href⟩ | ⟨a, ha, href⟩
    · exact href ▸ h.groupMembers old hold (href ▸ htype)
    · exact href ▸ (hout a ha).2 (href ▸ htype)

end Store

theorem nodup_map_filter {α ι κ : Type} [DecidableEq ι] {f : α → ι} {g : α → κ} {xs : List α}
    (h : (xs.map fun x => (f x, g x)).Nodup) (i : ι) :
    ((xs.filter (f · == i)).map g).Nodup := by
  refine ((List.Nodup.of_map _ h).filter _).map_on fun x hx y hy he => ?_
  obtain ⟨hx, hxi⟩ := List.mem_filter.mp hx
  obtain ⟨hy, hyi⟩ := List.mem_filter.mp hy
  have hfst : f x = f y := (beq_iff_eq.mp hxi).trans (beq_iff_eq.mp hyi).symm
  exact List.inj_on_of_nodup_map h hx hy (Prod.ext hfst he)

namespace Catalog

theorem anchored_afterEvent {c : Catalog} (hregular : c.store.Regular) (h : c.store.Anchored)
    (visit : Visit) : (c.afterEvent visit.event).store.Anchored := by
  cases visit with
  | imported apiId payload actingUser =>
    rw [Visit.event, afterEvent]
    rcases runOn_importParsed hregular.seeded_owner apiId (Definition.parse payload) actingUser with
      ⟨e, metrics, he⟩ | ⟨existing, definition, members, metrics, hi, he⟩ <;> rw [he]
    · exact h
    · have hexisting := fun api (hapi : existing = some api) => hi.api?_eq hapi
      refine h.of_growsIn (Store.growsIn_imported hregular.toConsistent
        (fun api hapi => (Store.mem_of_api?_eq_some (hexisting api hapi)).1)
        (scope_of_planMembers hi.members_eq)) ?_
      exact List.mem_map_of_mem (Store.mem_of_api?_eq_some (Store.api?_imported hexisting)).1
  | loggedIn authenticator reply =>
    rw [Visit.event, afterEvent]
    rcases authenticator.store_connect reply c with ⟨_, _, hsame⟩ | ⟨_, _, hgiven⟩
    · exact hsame ▸ h
    · exact h.given hgiven

theorem anchored_after (identities : Identities) (visits : List Visit) :
    ((start identities).after (visits.map Visit.event)).store.Anchored := by
  have hall : ∀ (c : Catalog), c.store.Regular → c.store.Anchored →
      (c.after (visits.map Visit.event)).store.Anchored := by
    induction visits with
    | nil => exact fun _ _ h => h
    | cons visit visits ih =>
      exact fun c hregular h =>
        ih _ (regular_afterEvent hregular visit) (anchored_afterEvent hregular h visit)
  exact hall _ Store.Regular.fresh Store.Anchored.fresh

/-- In a catalog in ordinary use the names of the pages of an API, the keys of its open plans and
the names of all groups are distinct, the latter are not blank, and whatever refers to an API or a
group refers to one that is stored. Every API is noted to be exported in the default version. -/
theorem integrity_after (identities : Identities) (visits : List Visit) :
    let store := ((start identities).after (visits.map Visit.event)).store
    (∀ apiId, ((store.pagesOf apiId).map (·.name)).Nodup) ∧
      (∀ apiId, (((store.plansOf apiId).filter (·.isOpen)).map Plan.key).Nodup) ∧
      (store.groups.map (·.name)).Nodup ∧
      (∀ group ∈ store.groups, Text.isBlankText group.name = false) ∧
      store.Anchored ∧
      (∀ api ∈ store.apis, ∀ id ∈ api.groups, id ∈ store.groups.map (·.id)) ∧
      ∀ api ∈ store.apis, api.exportVersion? = some ExportVersion.default.name := by
  intro store
  have h : store.Regular := regular_after identities visits
  refine ⟨fun apiId => ?_, fun apiId => ?_, h.groupNames_nodup, h.groups,
    anchored_after identities visits, h.apiGroups, fun api hapi => ?_⟩
  · exact nodup_map_filter h.pageAddresses_nodup apiId
  · rw [Store.plansOf, List.filter_comm]
    exact nodup_map_filter h.planAddresses_nodup apiId
  · rw [Api.exportVersion?, ← (h.apis api hapi).noted, Fields.lookup_insert, if_pos rfl]

end Catalog

end ApiCatalog
