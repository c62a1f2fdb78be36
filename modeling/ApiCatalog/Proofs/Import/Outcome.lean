import ApiCatalog.Import
import ApiCatalog.Proofs.Import.Groups
import ApiCatalog.Proofs.Import.Members
import ApiCatalog.Proofs.Import.Pages
import ApiCatalog.Proofs.Import.Plans

/-! # What imports leave

An import fails before its first write or not at all. The store that a successful import leaves is
given in one piece.
-/

namespace ApiCatalog

namespace Store

def savedApi (store : Store) (existing : Option Api) (definition : Definition) : Api :=
  (existing.getD { id := store.freshApiId, details := definition.details }).describedBy definition
    (store.groupIdsNamed definition.groups)

def withSaved (store : Store) (existing : Option Api) (api : Api) : Store :=
  match existing with
  | some _ => store.withApi api
  | none => store.withNewApi api

def withOwner (store : Store) (existing : Option Api) (actingUser : Option String)
    (apiId : String) : Store :=
  match existing, actingUser with
  | none, some username =>
    store.withGrant (.api apiId) { id := username, reference := some username }
      ⟨.api, Role.primaryOwner⟩
  | _, _ => store

/-- The store when an import comes to the members. -/
def beforeMembers (store : Store) (existing : Option Api) (definition : Definition)
    (actingUser : Option String) : Store :=
  let grouped := store.withGroups definition.groups
  let api := grouped.savedApi existing definition
  (grouped.withSaved existing api).withOwner existing actingUser api.id

def targetId (store : Store) (existing : Option Api) (definition : Definition) : String :=
  ((store.withGroups definition.groups).savedApi existing definition).id

/-- The store that a successful import leaves. -/
def imported (store : Store) (existing : Option Api) (definition : Definition)
    (actingUser : Option String) (members : List PlannedMember) : Store :=
  let apiId := store.targetId existing definition
  (((store.beforeMembers existing definition actingUser).withMembers apiId members).withPages apiId
    actingUser definition.pages).withPlans apiId definition.plans

variable {store : Store} {existing : Option Api} {actingUser : Option String}

theorem withSaved_eq (store : Store) (existing : Option Api) (api : Api) :
    ∃ writes, store.withSaved existing api =
      { store with apis := (store.withSaved existing api).apis, writes } := by
  cases existing <;> exact ⟨_, rfl⟩

theorem withOwner_eq (store : Store) (existing : Option Api) (actingUser : Option String)
    (apiId : String) :
    ∃ memberships writes,
      store.withOwner existing actingUser apiId = { store with memberships, writes } := by
  cases existing <;> cases actingUser <;> exact ⟨_, _, rfl⟩

def apisSaved (store : Store) (existing : Option Api) (definition : Definition) : List Api :=
  ((store.withGroups definition.groups).withSaved existing
    ((store.withGroups definition.groups).savedApi existing definition)).apis

theorem beforeMembers_eq (store : Store) (existing : Option Api) (definition : Definition)
    (actingUser : Option String) :
    ∃ memberships writes,
      store.beforeMembers existing definition actingUser =
        { store with
          apis := store.apisSaved existing definition
          memberships
          groups := (store.withGroups definition.groups).groups
          writes } := by
  rw [beforeMembers]
  obtain ⟨writes, hsaved⟩ := (store.withGroups definition.groups).withSaved_eq existing
    ((store.withGroups definition.groups).savedApi existing definition)
  rw [hsaved]
  exact withOwner_eq _ existing actingUser (store.targetId existing definition)

section Imported

variable {definition : Definition} {members : List PlannedMember}

theorem apis_imported :
    (store.imported existing definition actingUser members).apis =
      store.apisSaved existing definition := by
  obtain ⟨memberships, writes, hbefore⟩ := store.beforeMembers_eq existing definition actingUser
  have hapis := congrArg Store.apis hbefore
  exact hapis

theorem groups_imported :
    (store.imported existing definition actingUser members).groups =
      (store.withGroups definition.groups).groups := by
  obtain ⟨memberships, writes, hbefore⟩ := store.beforeMembers_eq existing definition actingUser
  have hgroups := congrArg Store.groups hbefore
  exact hgroups

theorem roles_imported :
    (store.imported existing definition actingUser members).roles = store.roles := by
  obtain ⟨memberships, writes, hbefore⟩ := store.beforeMembers_eq existing definition actingUser
  have hroles := congrArg Store.roles hbefore
  exact hroles

/-- An import into an API that finds its groups has written the API alone before the members. -/
theorem beforeMembers_of_grouped (h : store.withGroups definition.groups = store) (api : Api)
    (actingUser : Option String) :
    store.beforeMembers (some api) definition actingUser =
      store.withApi (store.savedApi (some api) definition) := by
  rw [beforeMembers, h]
  rfl

theorem memberships_imported :
    (store.imported existing definition actingUser members).memberships =
      ((store.beforeMembers existing definition actingUser).withMembers
        (store.targetId existing definition) members).memberships := rfl

theorem pages_beforeMembers :
    (store.beforeMembers existing definition actingUser).pages = store.pages := by
  obtain ⟨memberships, writes, hbefore⟩ := store.beforeMembers_eq existing definition actingUser
  rw [hbefore]

theorem plans_beforeMembers :
    (store.beforeMembers existing definition actingUser).plans = store.plans := by
  obtain ⟨memberships, writes, hbefore⟩ := store.beforeMembers_eq existing definition actingUser
  rw [hbefore]

theorem pages_imported :
    (store.imported existing definition actingUser members).pages =
      (pageUpsert (store.targetId existing definition) actingUser).run store.pages
        (firsts PageEntry.name definition.pages) := by
  have hbefore : (store.beforeMembers existing definition actingUser).pages = store.pages :=
    pages_beforeMembers
  rw [← hbefore]
  rfl

theorem nodup_pageAddresses_imported (hid : (store.pages.map (·.id)).Nodup)
    (h : (store.pages.map Page.address).Nodup) :
    ((store.imported existing definition actingUser members).pages.map Page.address).Nodup := by
  have hrun := (keyed_pageUpsert (store.targetId existing definition) actingUser).nodup_run hid
    (nodup_map_firsts PageEntry.name definition.pages) (by rwa [List.filter_true])
  rw [List.filter_true] at hrun
  rw [pages_imported]
  exact hrun

theorem plans_imported :
    (store.imported existing definition actingUser members).plans =
      (planUpsert (store.targetId existing definition)).run store.plans
        (firsts PlanEntry.key definition.plans) := by
  have hbefore : (store.beforeMembers existing definition actingUser).plans = store.plans :=
    plans_beforeMembers
  rw [← hbefore]
  rfl

theorem nodup_beforeMembers (h : (store.memberships.map Membership.key).Nodup) :
    ((store.beforeMembers existing definition actingUser).memberships.map
      Membership.key).Nodup := by
  cases existing with
  | some api => exact h
  | none =>
    cases actingUser with
    | some username => exact nodup_key_putMembership h
    | none => exact h

end Imported

theorem freshApiId_not_mem (store : Store) : store.freshApiId ∉ store.apiIds :=
  freshId_not_mem _ _

theorem api?_freshApiId (store : Store) : store.api? store.freshApiId = none := by
  rw [api?, List.find?_eq_none]
  intro api hapi he
  refine store.freshApiId_not_mem ?_
  simp only [apiIds, List.mem_append]
  exact Or.inl (Or.inl (Or.inl (List.mem_map.mpr ⟨api, hapi, beq_iff_eq.mp he⟩)))

theorem reference_ne_freshApiId {m : Membership} (h : m ∈ store.memberships) :
    m.reference ≠ .api store.freshApiId := by
  intro href
  refine store.freshApiId_not_mem ?_
  simp only [apiIds, List.mem_append]
  refine Or.inl (Or.inl (Or.inr (List.mem_map.mpr ⟨m, ?_, congrArg Reference.id href⟩)))
  exact List.mem_filter.mpr ⟨h, by rw [href]; rfl⟩

theorem page_apiId_ne_freshApiId {page : Page} (h : page ∈ store.pages) :
    page.apiId ≠ store.freshApiId := by
  intro hid
  refine store.freshApiId_not_mem ?_
  simp only [apiIds, List.mem_append]
  exact Or.inl (Or.inr (List.mem_map.mpr ⟨page, h, hid⟩))

theorem plan_apiId_ne_freshApiId {plan : Plan} (h : plan ∈ store.plans) :
    plan.apiId ≠ store.freshApiId := by
  intro hid
  refine store.freshApiId_not_mem ?_
  simp only [apiIds, List.mem_append]
  exact Or.inr (List.mem_map.mpr ⟨plan, h, hid⟩)

theorem membership?_freshApiId (store : Store) (userId : String) :
    store.membership? (.api store.freshApiId) userId = none := by
  refine List.find?_eq_none.mpr fun m hm => ?_
  simp [reference_ne_freshApiId hm]

theorem savedApi_id_of_existing {api : Api} {definition : Definition} :
    (store.savedApi (some api) definition).id = api.id := rfl

end Store

open CatalogM

theorem gives_saveApi {store : Store} {existing : Option Api} (definition : Definition)
    (h : ∀ api, existing = some api → store.api? api.id = some api) :
    (saveApi existing definition (store.groupIdsNamed definition.groups)).Gives store
      (store.savedApi existing definition)
      (store.withSaved existing (store.savedApi existing definition)) := by
  cases existing with
  | some api =>
    have hupdate := Store.updateApi_eq (store.savedApi (some api) definition) store
    rw [Store.savedApi_id_of_existing, h api rfl] at hupdate
    exact (Gives.onStore hupdate).bind ((Gives.count _ _ _).bind (Gives.pure _ _))
  | none =>
    have hcreate := Store.createApi_eq (store.savedApi none definition) store
    have hfree : store.api? (store.savedApi none definition).id = none := store.api?_freshApiId
    rw [hfree] at hcreate
    refine (Gives.fromStore _ store).bind ?_
    exact (Gives.onStore hcreate).bind ((Gives.count _ _ _).bind (Gives.pure _ _))

theorem gives_assignOwner {store : Store} (apiId username : String)
    (h : store.hasRole ⟨.api, Role.primaryOwner⟩ = true) :
    (assignOwner apiId username).Gives store ()
      (store.withOwner none (some username) apiId) := by
  have hgive := Store.giveRole_eq (.api apiId) { id := username, reference := some username }
    ⟨.api, Role.primaryOwner⟩ store
  rw [if_pos h] at hgive
  exact (Gives.onStore hgive).bind (Gives.count _ _ _)

theorem runOn_assignOwner_of_missing {c : Catalog} (apiId username : String)
    (h : c.store.hasRole ⟨.api, Role.primaryOwner⟩ = false) :
    (assignOwner apiId username).runOn c =
      (.error (.missingRole ⟨.api, Role.primaryOwner⟩), c) := by
  have hgive := Store.giveRole_eq (.api apiId) { id := username, reference := some username }
    ⟨.api, Role.primaryOwner⟩ c.store
  rw [h] at hgive
  exact runOn_bind_error (by rw [runOn_onStore, hgive]; rfl)

section Reconcile

variable {c : Catalog} {existing : Option Api} {definition : Definition}
  {actingUser : Option String} {members : List PlannedMember}

theorem runOn_reconcile_of_refused {e : Error} (h : planMembers c definition.members = .error e) :
    (reconcile existing definition actingUser).runOn c = (.error e, c) := by
  rw [reconcile, runOn_bind_ok (runOn_get c)]
  exact runOn_bind_error (by rw [runOn_ofResult, h])

/-- Once the members are planned, nothing can go wrong any more, if there is the role for the owner
of a new API. -/
theorem runOn_reconcile_of_planned
    (hexisting : ∀ api, existing = some api → c.store.api? api.id = some api)
    (howner : existing = none → actingUser.isSome →
      c.store.hasRole ⟨.api, Role.primaryOwner⟩ = true)
    (hmembers : planMembers c definition.members = .ok members) :
    ∃ metrics, (reconcile existing definition actingUser).runOn c =
      (.ok ((c.store.withGroups definition.groups).savedApi existing definition),
        { c with
          store := c.store.imported existing definition actingUser members, metrics }) := by
  have hroles := (planMembers_eq_ok_iff.mp hmembers).2
  obtain ⟨memberships, writes, hbefore⟩ :=
    c.store.beforeMembers_eq existing definition actingUser
  have hrest : Gives (do
      importMembers (c.store.targetId existing definition) members
      importPages (c.store.targetId existing definition) actingUser definition.pages
      importPlans (c.store.targetId existing definition) definition.plans
      return (c.store.withGroups definition.groups).savedApi existing definition)
      (c.store.beforeMembers existing definition actingUser)
      ((c.store.withGroups definition.groups).savedApi existing definition)
      (c.store.imported existing definition actingUser members) := by
    have hm : ∀ m ∈ members,
        (c.store.beforeMembers existing definition actingUser).hasRole m.role = true := by
      rw [hbefore]
      exact hroles
    exact (gives_importMembers _ hm).bind ((gives_importPages _ _ _ _).bind
      ((gives_importPlans _ _ _).bind (Gives.pure _ _)))
  rw [reconcile, runOn_bind_ok (runOn_get c), runOn_bind_ok (by rw [runOn_ofResult, hmembers])]
  refine Gives.bind (gives_importGroups definition.groups c.store) ?_ c rfl
  refine Gives.bind (gives_saveApi definition hexisting) ?_
  -- an owner is given first to a new API with an acting user only
  cases existing with
  | some api => exact hrest
  | none =>
    cases actingUser with
    | some username =>
      exact Gives.bind
        (gives_assignOwner (c.store.targetId none definition) username (howner rfl rfl)) hrest
    | none => exact hrest

/-- Without that role a new API is left behind without its owner. -/
theorem runOn_reconcile_of_unowned (username : String)
    (hmembers : planMembers c definition.members = .ok members)
    (hnone : c.store.hasRole ⟨.api, Role.primaryOwner⟩ = false) :
    ∃ c', (reconcile none definition (some username)).runOn c =
      (.error (.missingRole ⟨.api, Role.primaryOwner⟩), c') := by
  obtain ⟨metrics, hgroups⟩ := gives_importGroups definition.groups c.store c rfl
  obtain ⟨metrics', hsaved⟩ := @gives_saveApi (c.store.withGroups definition.groups) none definition
    (fun api hapi => nomatch hapi) { c with store := c.store.withGroups definition.groups, metrics }
    rfl
  rw [reconcile, runOn_bind_ok (runOn_get c), runOn_bind_ok (by rw [runOn_ofResult, hmembers]),
    runOn_bind_ok hgroups, runOn_bind_ok hsaved]
  exact ⟨_, runOn_bind_error (runOn_assignOwner_of_missing _ username hnone)⟩

end Reconcile

/-- What makes an import succeed: the API is there if one is given, and the members are known. -/
structure Importable (c : Catalog) (apiId : Option String)
    (parsed : Except DefinitionFault Definition) (existing : Option Api) (definition : Definition)
    (members : List PlannedMember) : Prop where
  existing_eq : apiId.map c.store.api? = existing.map some
  parsed_eq : parsed = .ok definition
  members_eq : planMembers c definition.members = .ok members

section ImportParsed

variable {c : Catalog} {apiId : Option String} {parsed : Except DefinitionFault Definition}
  {actingUser : Option String}

theorem Importable.api?_eq {existing : Option Api} {definition : Definition}
    {members : List PlannedMember} (h : Importable c apiId parsed existing definition members)
    {api : Api} (hapi : existing = some api) : c.store.api? api.id = some api := by
  have he := h.existing_eq
  rw [hapi, Option.map_some, Option.map_eq_some_iff] at he
  obtain ⟨id, _, hid⟩ := he
  rw [(Store.mem_of_api?_eq_some hid).2, hid]

theorem Importable.targetId_eq {existing : Option Api} {definition : Definition}
    {members : List PlannedMember} (h : Importable c apiId parsed existing definition members) :
    c.store.targetId existing definition = apiId.getD c.store.freshApiId := by
  have hfound := h.existing_eq
  cases existing with
  | none =>
    rw [Option.map_eq_none_iff.mp hfound]
    rfl
  | some api =>
    obtain ⟨id, rfl, hid⟩ := Option.map_eq_some_iff.mp hfound
    exact (Store.mem_of_api?_eq_some hid).2

theorem runOn_existingApi? {existing : Option Api}
    (h : apiId.map c.store.api? = existing.map some) :
    (existingApi? apiId).runOn c = (.ok existing, c) := by
  cases apiId with
  | none =>
    rw [Option.map_eq_none_iff.mp h.symm]
    rfl
  | some id =>
    rw [Option.map_some, eq_comm, Option.map_eq_some_iff] at h
    obtain ⟨api, rfl, hid⟩ := h
    rw [existingApi?, runOn_bind_ok (runOn_fromStore _ c), ← hid]
    rfl

theorem runOn_importParsed_of_owned {existing : Option Api} {definition : Definition}
    {members : List PlannedMember} (h : Importable c apiId parsed existing definition members)
    (howner : existing = none → actingUser.isSome →
      c.store.hasRole ⟨.api, Role.primaryOwner⟩ = true) :
    ∃ metrics, (importParsed apiId parsed actingUser).runOn c =
      (.ok ((c.store.withGroups definition.groups).savedApi existing definition),
        { c with
          store := c.store.imported existing definition actingUser members, metrics }) := by
  obtain ⟨metrics, hrun⟩ := runOn_reconcile_of_planned
    (fun _ he => h.api?_eq he) howner h.members_eq
  rw [importParsed, runOn_counting, runOn_bind_ok (runOn_existingApi? h.existing_eq), h.parsed_eq,
    hrun]
  exact ⟨_, rfl⟩

theorem runOn_importParsed_of_importable
    (howner : c.store.hasRole ⟨.api, Role.primaryOwner⟩ = true) {existing : Option Api}
    {definition : Definition} {members : List PlannedMember}
    (h : Importable c apiId parsed existing definition members) (actingUser : Option String) :
    ∃ metrics, (importParsed apiId parsed actingUser).runOn c =
      (.ok ((c.store.withGroups definition.groups).savedApi existing definition),
        { c with
          store := c.store.imported existing definition actingUser members, metrics }) :=
  runOn_importParsed_of_owned h fun _ _ => howner

/-- An import into an API that there is not is refused, whatever the payload is. -/
theorem runOn_importParsed_of_unknown {id : String} (h : c.store.api? id = none) :
    ∃ metrics, (importParsed (some id) parsed actingUser).runOn c =
      (.error (.apiNotFound id), { c with metrics }) := by
  have hmissing : (existingApi? (some id)).runOn c = (.error (.apiNotFound id), c) := by
    rw [existingApi?, runOn_bind_ok (runOn_fromStore _ c), h]
    rfl
  rw [importParsed, runOn_counting, runOn_bind_error hmissing]
  exact ⟨_, rfl⟩

theorem runOn_importParsed_of_malformed {existing : Option Api} {fault : DefinitionFault}
    (h : apiId.map c.store.api? = existing.map some) :
    ∃ metrics, (importParsed apiId (.error fault) actingUser).runOn c =
      (.error fault.toError, { c with metrics }) := by
  rw [importParsed, runOn_counting, runOn_bind_ok (runOn_existingApi? h)]
  exact ⟨_, rfl⟩

theorem runOn_importParsed_of_unplanned {existing : Option Api} {definition : Definition}
    {e : Error} (h : apiId.map c.store.api? = existing.map some)
    (hmembers : planMembers c definition.members = .error e) :
    ∃ metrics, (importParsed apiId (.ok definition) actingUser).runOn c =
      (.error e, { c with metrics }) := by
  rw [importParsed, runOn_counting, runOn_bind_ok (runOn_existingApi? h),
    runOn_reconcile_of_refused hmembers]
  exact ⟨_, rfl⟩

theorem unknown_or_existing (store : Store) (apiId : Option String) :
    (∃ id, apiId = some id ∧ store.api? id = none) ∨
      ∃ existing : Option Api, apiId.map store.api? = existing.map some := by
  cases apiId with
  | none => exact Or.inr ⟨none, rfl⟩
  | some id =>
    cases h : store.api? id with
    | none => exact Or.inl ⟨id, rfl, h⟩
    | some api => exact Or.inr ⟨some api, by simp [h]⟩

theorem refused_or_importable (c : Catalog) (apiId : Option String)
    (parsed : Except DefinitionFault Definition) (actingUser : Option String) :
    (∃ e metrics,
        (importParsed apiId parsed actingUser).runOn c = (.error e, { c with metrics })) ∨
      ∃ existing definition members, Importable c apiId parsed existing definition members := by
  rcases unknown_or_existing c.store apiId with ⟨id, rfl, hid⟩ | ⟨existing, hexisting⟩
  · exact Or.inl ⟨_, runOn_importParsed_of_unknown hid⟩
  · cases parsed with
    | error fault => exact Or.inl ⟨_, runOn_importParsed_of_malformed hexisting⟩
    | ok definition =>
      cases hmembers : planMembers c definition.members with
      | error e => exact Or.inl ⟨e, runOn_importParsed_of_unplanned hexisting hmembers⟩
      | ok members => exact Or.inr ⟨existing, definition, members, hexisting, rfl, hmembers⟩

/-- An import is refused and leaves the store as it is, or it leaves a store known beforehand. -/
theorem runOn_importParsed (howner : c.store.hasRole ⟨.api, Role.primaryOwner⟩ = true)
    (apiId : Option String) (parsed : Except DefinitionFault Definition)
    (actingUser : Option String) :
    (∃ e metrics,
        (importParsed apiId parsed actingUser).runOn c = (.error e, { c with metrics })) ∨
      ∃ existing definition members metrics,
        Importable c apiId parsed existing definition members ∧
        (importParsed apiId parsed actingUser).runOn c =
          (.ok ((c.store.withGroups definition.groups).savedApi existing definition),
            { c with
              store := c.store.imported existing definition actingUser members, metrics }) := by
  rcases refused_or_importable c apiId parsed actingUser with
    hrefused | ⟨existing, definition, members, h⟩
  · exact Or.inl hrefused
  · obtain ⟨metrics, hrun⟩ := runOn_importParsed_of_importable howner h actingUser
    exact Or.inr ⟨existing, definition, members, metrics, h, hrun⟩

/-- A successful import leaves the store known beforehand, whatever roles there are. -/
theorem eq_imported_of_runOn {api : Api} {c' : Catalog}
    (hrun : (importParsed apiId parsed actingUser).runOn c = (.ok api, c')) :
    ∃ existing definition members,
      Importable c apiId parsed existing definition members ∧
      api = (c.store.withGroups definition.groups).savedApi existing definition ∧
      c'.store = c.store.imported existing definition actingUser members := by
  rcases refused_or_importable c apiId parsed actingUser with
    ⟨e, metrics, he⟩ | ⟨existing, definition, members, h⟩
  · rw [he] at hrun
    cases hrun
  refine ⟨existing, definition, members, h, ?_⟩
  by_cases howner : existing = none → actingUser.isSome →
      c.store.hasRole ⟨.api, Role.primaryOwner⟩ = true
  · obtain ⟨metrics, he⟩ := runOn_importParsed_of_owned h howner
    rw [he] at hrun
    cases hrun
    exact ⟨rfl, rfl⟩
  · push Not at howner
    obtain ⟨rfl, hacting, hnone⟩ := howner
    obtain ⟨username, rfl⟩ := Option.isSome_iff_exists.mp hacting
    obtain ⟨c'', he⟩ := runOn_reconcile_of_unowned username h.members_eq
      (Bool.eq_false_of_not_eq_true hnone)
    rw [importParsed, runOn_counting, runOn_bind_ok (runOn_existingApi? h.existing_eq), h.parsed_eq,
      he] at hrun
    cases hrun

end ImportParsed

end ApiCatalog
