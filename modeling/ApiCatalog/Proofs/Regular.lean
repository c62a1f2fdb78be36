import ApiCatalog.Proofs.Canonical
import ApiCatalog.Proofs.History
import ApiCatalog.Proofs.Import.Outcome
import ApiCatalog.Proofs.Login

/-! # Regular stores

A store that has only seen payloads being imported and users logging in holds canonical values, and
no two groups of one name, pages of one name on an API, or open plans of one key on an API.
-/

namespace ApiCatalog

structure Api.Regular (api : Api) : Prop where
  name : Text.isBlankText api.details.name = false
  version : Text.isBlankText api.details.version = false
  details : api.details.Canonical
  groups : Names.Sorted api.groups
  noted : Fields.insert Api.exportVersionKey ExportVersion.default.name api.metadata = api.metadata

namespace Store

structure Regular (store : Store) : Prop extends store.Consistent where
  roles_eq : store.roles = seededRoles
  apis : ∀ api ∈ store.apis, api.Regular
  apiGroups : ∀ api ∈ store.apis, ∀ id ∈ api.groups, id ∈ store.groups.map (·.id)
  groups : ∀ group ∈ store.groups, Text.isBlankText group.name = false
  groupNames_nodup : (store.groups.map (·.name)).Nodup
  pages : ∀ page ∈ store.pages, Text.isBlankText page.name = false ∧ page.body.Canonical
  pageAddresses_nodup : (store.pages.map Page.address).Nodup
  plans : ∀ plan ∈ store.plans, Text.isBlankText plan.name = false ∧ plan.terms.Canonical
  planAddresses_nodup : ((store.plans.filter Plan.isOpen).map Plan.address).Nodup

variable {store : Store}

theorem Regular.fresh : Store.fresh.Regular where
  toConsistent := Consistent.fresh
  roles_eq := rfl
  apis _ h := absurd h List.not_mem_nil
  apiGroups _ h := absurd h List.not_mem_nil
  groups _ h := absurd h List.not_mem_nil
  groupNames_nodup := List.nodup_nil
  pages _ h := absurd h List.not_mem_nil
  pageAddresses_nodup := List.nodup_nil
  plans _ h := absurd h List.not_mem_nil
  planAddresses_nodup := List.nodup_nil

section Imported

variable {existing : Option Api} {definition : Definition} {actingUser : Option String}
  {members : List PlannedMember}

theorem mem_apisSaved {api : Api} (h : api ∈ store.apisSaved existing definition) :
    api ∈ store.apis ∨ ∃ createdAt, api =
      { (store.withGroups definition.groups).savedApi existing definition with createdAt } := by
  cases existing with
  | some old =>
    rcases mem_of_mem_replaceFirst h with h | ⟨stored, _, he⟩
    · exact Or.inl h
    · exact Or.inr ⟨stored.createdAt, he⟩
  | none =>
    rcases List.mem_append.mp h with h | h
    · exact Or.inl h
    · exact Or.inr ⟨_, List.mem_singleton.mp h⟩

theorem regular_savedApi (hexisting : ∀ api, existing = some api → api.Regular)
    (hdefinition : definition.Canonical) : (store.savedApi existing definition).Regular where
  name := hdefinition.name
  version := hdefinition.version
  details := hdefinition.details
  groups := by
    cases existing with
    | some api => exact Names.sorted_insertAll (hexisting api rfl).groups _
    | none => exact Names.sorted_insertAll List.Pairwise.nil _
  noted := Fields.insert_insert_self _ _ _

theorem mem_groups_savedApi {id : String}
    (h : id ∈ (store.savedApi existing definition).groups) :
    (∃ api, existing = some api ∧ id ∈ api.groups) ∨ id ∈ store.groups.map (·.id) := by
  rcases Names.mem_insertAll.mp h with h | h
  · obtain ⟨name, _, group, hgroup, rfl⟩ := mem_groupIdsNamed.mp h
    exact Or.inr (List.mem_map_of_mem (mem_of_groupNamed?_eq_some hgroup).1)
  · cases existing with
    | some api => exact Or.inl ⟨api, rfl, h⟩
    | none => exact absurd h List.not_mem_nil

theorem Regular.imported (h : store.Regular) (hdefinition : definition.Canonical)
    (hexisting : ∀ api, existing = some api → api ∈ store.apis)
    (hconsistent : (store.imported existing definition actingUser members).Consistent) :
    (store.imported existing definition actingUser members).Regular where
  toConsistent := hconsistent
  roles_eq := roles_imported.trans h.roles_eq
  apis := by
    rw [apis_imported]
    intro api hapi
    rcases mem_apisSaved hapi with hapi | ⟨createdAt, rfl⟩
    · exact h.apis api hapi
    · exact { regular_savedApi (fun api he => h.apis api (hexisting api he)) hdefinition with }
  apiGroups := by
    rw [apis_imported, groups_imported]
    have hkept : ∀ id ∈ store.groups.map (·.id),
        id ∈ (store.withGroups definition.groups).groups.map (·.id) := fun id hid => by
      rw [withGroups, countWrite, List.map_append]
      exact List.mem_append_left _ hid
    intro api hapi id hid
    rcases mem_apisSaved hapi with hapi | ⟨createdAt, rfl⟩
    · exact hkept id (h.apiGroups api hapi id hid)
    · rcases mem_groups_savedApi hid with ⟨old, he, hold⟩ | hid
      · exact hkept id (h.apiGroups old (hexisting old he) id hold)
      · exact hid
  groups := by
    rw [groups_imported]
    intro group hgroup
    rcases mem_withGroups hgroup with hgroup | hname
    · exact h.groups group hgroup
    · exact hdefinition.groups group.name hname
  groupNames_nodup := by
    rw [groups_imported]
    exact nodup_names_withGroups h.groupNames_nodup _
  pages := by
    rw [pages_imported]
    refine Upsert.forall_mem_run _ h.pageIds_nodup (nodup_map_firsts _ _) h.pages ?_ ?_
    · exact fun entry hentry _ _ => hdefinition.pages entry (mem_of_mem_firsts hentry)
    · exact fun entry hentry _ => hdefinition.pages entry (mem_of_mem_firsts hentry)
  pageAddresses_nodup := nodup_pageAddresses_imported h.pageIds_nodup h.pageAddresses_nodup
  plans := by
    rw [plans_imported]
    refine Upsert.forall_mem_run _ h.planIds_nodup (nodup_map_firsts _ _) h.plans ?_ ?_
    · exact fun entry hentry _ _ => hdefinition.plans entry (mem_of_mem_firsts hentry)
    · exact fun entry hentry _ => hdefinition.plans entry (mem_of_mem_firsts hentry)
  planAddresses_nodup := by
    rw [plans_imported]
    exact (keyed_planUpsert _).nodup_run h.planIds_nodup (nodup_map_firsts _ _)
      h.planAddresses_nodup

end Imported

theorem Regular.given {store' : Store} (h : store.Regular) (hgiven : store.GivenOutsideApis store')
    (hconsistent : store'.Consistent) : store'.Regular := by
  obtain ⟨memberships, writes, rfl⟩ := hgiven.exists_eq
  exact { h with toConsistent := hconsistent }

end Store

/-- What happens to a catalog in ordinary use. -/
inductive Visit where
  | imported (apiId : Option String) (payload : List UInt8) (actingUser : Option String)
  | loggedIn (authenticator : Authenticator) (reply : UserinfoReply)

def Visit.event : Visit → Event
  | imported apiId payload actingUser => .imported apiId (Definition.parse payload) actingUser
  | loggedIn authenticator reply => .loggedIn authenticator reply

namespace Catalog

theorem regular_afterEvent {c : Catalog} (h : c.store.Regular) (visit : Visit) :
    (c.afterEvent visit.event).store.Regular := by
  have hconsistent := consistent_afterEvent h.toConsistent visit.event
  cases visit with
  | imported apiId payload actingUser =>
    rw [Visit.event, afterEvent] at hconsistent ⊢
    rcases runOn_importParsed h.seeded_owner apiId (Definition.parse payload) actingUser with
      ⟨e, metrics, he⟩ | ⟨existing, definition, members, metrics, hi, he⟩
    · rw [he]
      exact h
    · rw [he] at hconsistent ⊢
      exact h.imported (Definition.canonical_of_parse hi.parsed_eq)
        (fun api hapi => (Store.mem_of_api?_eq_some (hi.api?_eq hapi)).1) hconsistent
  | loggedIn authenticator reply =>
    rcases authenticator.store_connect reply c with ⟨_, _, hsame⟩ | ⟨_, _, hgiven⟩
    · rw [Visit.event, afterEvent, hsame]
      exact h
    · exact h.given hgiven hconsistent

theorem regular_after (identities : Identities) (visits : List Visit) :
    ((start identities).after (visits.map Visit.event)).store.Regular := by
  have hall : ∀ (c : Catalog), c.store.Regular →
      (c.after (visits.map Visit.event)).store.Regular := by
    induction visits with
    | nil => exact fun _ h => h
    | cons visit visits ih => exact fun c h => ih _ (regular_afterEvent h visit)
  exact hall _ Store.Regular.fresh

end Catalog

end ApiCatalog
