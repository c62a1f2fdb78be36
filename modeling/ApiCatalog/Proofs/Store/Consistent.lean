import ApiCatalog.Proofs.Store.Fresh
import ApiCatalog.Proofs.Store.Writes

/-! # Consistency of the store

Ids and keys are unique, members hold roles that exist, and the built-in roles are never lost. A
fresh store is consistent, and every write keeps it so.
-/

namespace ApiCatalog

/-- In a list without repeated keys an element is found under its key and nowhere else. -/
theorem find?_eq_some_iff_of_nodup {α κ : Type} {key : α → κ} {xs : List α} {p : α → Bool} {k : κ}
    (h : (xs.map key).Nodup) (hp : ∀ x, p x = true ↔ key x = k) {x : α} :
    xs.find? p = some x ↔ x ∈ xs ∧ key x = k := by
  constructor
  · intro hx
    exact ⟨List.mem_of_find?_eq_some hx, (hp x).mp (List.find?_some hx)⟩
  · rintro ⟨hx, hk⟩
    obtain ⟨y, hy⟩ : ∃ y, xs.find? p = some y :=
      Option.isSome_iff_exists.mp (List.find?_isSome.mpr ⟨x, hx, (hp x).mpr hk⟩)
    have hyk : key y = k := (hp y).mp (List.find?_some hy)
    rw [hy, List.inj_on_of_nodup_map h (List.mem_of_find?_eq_some hy) hx (hyk.trans hk.symm)]

inductive StoreWrite where
  | createApi (api : Api)
  | updateApi (api : Api)
  | giveRole (reference : Reference) (user : Member) (role : RoleName)
  | createPage (apiId : String) (entry : PageEntry) (contributor : Option String)
  | updatePage (id name : String) (body : PageBody) (contributor : Option String)
  | createPlan (apiId : String) (entry : PlanEntry)
  | updatePlan (id name : String) (terms : PlanTerms)
  | createGroup (name : String)
  | insertGroup (group : Group)
  | addRole (role : Role)

def StoreWrite.run : StoreWrite → Store → Store
  | createApi api, store => (Store.createApi api store).2
  | updateApi api, store => (Store.updateApi api store).2
  | giveRole reference user role, store => (Store.giveRole reference user role store).2
  | createPage apiId entry contributor, store =>
    (Store.createPage apiId entry contributor store).2
  | updatePage id name body contributor, store =>
    (Store.updatePage id name body contributor store).2
  | createPlan apiId entry, store => (Store.createPlan apiId entry store).2
  | updatePlan id name terms, store => (Store.updatePlan id name terms store).2
  | createGroup name, store => (Store.createGroup name store).2
  | insertGroup group, store => store.insertGroup group
  | addRole role, store => store.addRole role

namespace Store

variable {store : Store}

structure Consistent (store : Store) : Prop where
  apiIds_nodup : (store.apis.map (·.id)).Nodup
  memberKeys_nodup : (store.memberships.map Membership.key).Nodup
  pageIds_nodup : (store.pages.map (·.id)).Nodup
  planIds_nodup : (store.plans.map (·.id)).Nodup
  groupIds_nodup : (store.groups.map (·.id)).Nodup
  roleNames_nodup : (store.roles.map Role.roleName).Nodup
  holds : ∀ m ∈ store.memberships, ∀ scope name, m.role? scope = some name →
    store.hasRole ⟨scope, name⟩ = true
  seeded : ∀ role ∈ seededRoles, store.hasRole role.roleName = true

theorem hasRole_iff {role : RoleName} :
    store.hasRole role = true ↔ ∃ r ∈ store.roles, r.roleName = role := by
  simp [hasRole, role?, List.find?_isSome]

theorem hasRole_addRole {role : Role} {name : RoleName} :
    (store.addRole role).hasRole name = true ↔
      role.roleName = name ∨ store.hasRole name = true := by
  simp only [hasRole_iff, addRole, List.mem_append, List.mem_filter, List.mem_singleton,
    bne_iff_ne]
  constructor
  · rintro ⟨r, ⟨hr, _⟩ | rfl, rfl⟩
    · exact Or.inr ⟨r, hr, rfl⟩
    · exact Or.inl rfl
  · rintro (rfl | ⟨r, hr, rfl⟩)
    · exact ⟨role, Or.inr rfl, rfl⟩
    · by_cases h : r.roleName = role.roleName
      · exact ⟨role, Or.inr rfl, h.symm⟩
      · exact ⟨r, Or.inl ⟨hr, h⟩, rfl⟩

theorem mem_of_api?_eq_some {id : String} {api : Api} (h : store.api? id = some api) :
    api ∈ store.apis ∧ api.id = id := by
  have hk := List.find?_some h
  exact ⟨List.mem_of_find?_eq_some h, beq_iff_eq.mp hk⟩

theorem mem_of_membership?_eq_some {reference : Reference} {userId : String} {m : Membership}
    (h : store.membership? reference userId = some m) :
    m ∈ store.memberships ∧ m.key = (reference, userId) := by
  have hk := List.find?_some h
  rw [Bool.and_eq_true, beq_iff_eq, beq_iff_eq] at hk
  exact ⟨List.mem_of_find?_eq_some h, Prod.ext hk.1 hk.2⟩

/-- Whoever lists the pages of an API finds each of them by its id. -/
theorem fetchedPages_eq (h : (store.pages.map (·.id)).Nodup) (apiId : String) :
    store.fetchedPages apiId = store.pagesOf apiId := by
  have hfetch : ∀ page ∈ store.pagesOf apiId, store.page? page.id = some page := fun page hpage =>
    (find?_eq_some_iff_of_nodup h fun _ => beq_iff_eq).mpr ⟨List.mem_of_mem_filter hpage, rfl⟩
  rw [fetchedPages, List.filterMap_congr hfetch, List.filterMap_some]

@[simp] theorem key_granted (store : Store) (reference : Reference) (user : Member)
    (role : RoleName) : (store.granted reference user role).key = (reference, user.id) := by
  rw [granted, Membership.key_grant]
  cases h : store.membership? reference user.id with
  | none => rfl
  | some m => exact (mem_of_membership?_eq_some h).2

theorem membership?_withGrant (store : Store) (reference reference' : Reference) (user : Member)
    (role : RoleName) (userId : String) :
    (store.withGrant reference user role).membership? reference' userId =
      if reference = reference' ∧ user.id = userId then some (store.granted reference user role)
      else store.membership? reference' userId := by
  have h := find?_putMembership (store.granted reference user role) store.memberships reference'
    userId
  simp only [key_granted, Prod.mk.injEq] at h
  exact h

theorem role?_granted (reference : Reference) (user : Member) (role : RoleName)
    (scope : RoleScope) :
    (store.granted reference user role).role? scope =
      if scope = role.scope then some role.name else store.roleOf? reference scope user.id := by
  have h := HeldRoles.get?_give
    ((store.membership? reference user.id).getD (.empty reference user.id)).roles role scope
  rw [granted, Membership.role?, Membership.grant, h]
  cases hm : store.membership? reference user.id with
  | none => cases scope <;> simp [roleOf?, hm, Membership.empty, HeldRoles.get?]
  | some m => simp [roleOf?, hm, Membership.role?]

theorem roleOf?_withGrant (store : Store) (reference reference' : Reference) (user : Member)
    (role : RoleName) (scope : RoleScope) (userId : String) :
    (store.withGrant reference user role).roleOf? reference' scope userId =
      if reference = reference' ∧ user.id = userId ∧ role.scope = scope then some role.name
      else store.roleOf? reference' scope userId := by
  rw [roleOf?, membership?_withGrant]
  by_cases h : reference = reference' ∧ user.id = userId
  · obtain ⟨rfl, rfl⟩ := h
    simp [role?_granted, eq_comm]
  · rw [if_neg h, if_neg fun hc => h ⟨hc.1, hc.2.1⟩, roleOf?]

theorem mem_membershipsWith {reference : Reference} {role : RoleName} {m : Membership} :
    m ∈ store.membershipsWith reference role ↔
      m ∈ store.memberships ∧ m.reference = reference ∧ m.role? role.scope = some role.name := by
  rw [membershipsWith, membershipsOf, List.mem_filter, List.mem_mergeSort, List.mem_filter,
    beq_iff_eq, beq_iff_eq, and_assoc]

theorem mem_members {reference : Reference} {scope : RoleScope} {member : ScopedMember} :
    member ∈ store.members reference scope ↔
      ∃ m ∈ store.memberships, m.reference = reference ∧
        m.role? scope = some member.role ∧ member = ⟨m.user, member.role, .user⟩ := by
  simp only [members, membershipsOf, List.mem_filterMap, List.mem_mergeSort, List.mem_filter,
    beq_iff_eq, ScopedMember.ofMembership?, Option.map_eq_some_iff]
  constructor
  · rintro ⟨m, ⟨hm, href⟩, role, hrole, rfl⟩
    exact ⟨m, hm, href, hrole, rfl⟩
  · rintro ⟨m, hm, href, hrole, he⟩
    exact ⟨m, ⟨hm, href⟩, _, hrole, he.symm⟩

theorem roleOf?_eq_some_iff (h : (store.memberships.map Membership.key).Nodup)
    {reference : Reference} {scope : RoleScope} {userId name : String} :
    store.roleOf? reference scope userId = some name ↔
      ∃ m ∈ store.memberships, m.reference = reference ∧ m.user.id = userId ∧
        m.role? scope = some name := by
  rw [roleOf?, Option.bind_eq_some_iff]
  constructor
  · rintro ⟨m, hm, hn⟩
    obtain ⟨hmem, hkey⟩ := mem_of_membership?_eq_some hm
    obtain ⟨rfl, rfl⟩ := Prod.mk.inj hkey
    exact ⟨m, hmem, rfl, rfl, hn⟩
  · rintro ⟨m, hmem, rfl, rfl, hn⟩
    obtain ⟨m', hm'⟩ : ∃ m', store.membership? m.reference m.user.id = some m' :=
      Option.isSome_iff_exists.mp (List.find?_isSome.mpr ⟨m, hmem, by simp⟩)
    obtain ⟨hmem', hkey⟩ := mem_of_membership?_eq_some hm'
    exact ⟨m, List.inj_on_of_nodup_map h hmem' hmem hkey ▸ hm', hn⟩

theorem nodup_map_append_singleton {α κ : Type} {key : α → κ} {xs : List α} {x : α}
    (h : (xs.map key).Nodup) (hx : key x ∉ xs.map key) : ((xs ++ [x]).map key).Nodup := by
  rw [List.map_append, List.map_singleton]
  exact nodup_append_singleton h hx

namespace Consistent

theorem fresh : Consistent Store.fresh where
  apiIds_nodup := List.nodup_nil
  memberKeys_nodup := List.nodup_nil
  pageIds_nodup := List.nodup_nil
  planIds_nodup := List.nodup_nil
  groupIds_nodup := List.nodup_nil
  roleNames_nodup := by decide
  holds := fun _ h => absurd h List.not_mem_nil
  seeded := fun _ h => hasRole_iff.mpr ⟨_, h, rfl⟩

theorem seeded_owner (h : store.Consistent) :
    store.hasRole ⟨.api, Role.primaryOwner⟩ = true :=
  h.seeded { scope := .api, name := Role.primaryOwner, isSystem := true } (by decide)

theorem withGrant (h : store.Consistent) (reference : Reference) (user : Member) {role : RoleName}
    (hr : store.hasRole role = true) : (store.withGrant reference user role).Consistent :=
  { h with
    memberKeys_nodup := nodup_key_putMembership h.memberKeys_nodup
    holds := by
      intro m hm scope name hn
      rcases mem_of_mem_putMembership hm with rfl | hm
      · rw [role?_granted] at hn
        split at hn
        · obtain ⟨rfl⟩ := hn
          rename_i hs
          exact hs ▸ hr
        · obtain ⟨m, hm, hn⟩ := Option.bind_eq_some_iff.mp hn
          exact h.holds m (mem_of_membership?_eq_some hm).1 scope name hn
      · exact h.holds m hm scope name hn }

theorem withNewApi (h : store.Consistent) {api : Api} (hn : store.api? api.id = none) :
    (store.withNewApi api).Consistent :=
  { h with
    apiIds_nodup := by
      have hnot : api.id ∉ store.apis.map (·.id) := fun hm => by
        obtain ⟨a, ha, he⟩ := List.mem_map.mp hm
        exact List.find?_eq_none.mp hn a ha (beq_iff_eq.mpr he)
      exact nodup_map_append_singleton h.apiIds_nodup hnot }

theorem withApi (h : store.Consistent) (api : Api) : (store.withApi api).Consistent :=
  { h with
    apiIds_nodup := by
      have hid : (store.withApi api).apis.map (·.id) = store.apis.map (·.id) :=
        map_replaceFirst store.apis fun _ hx => (beq_iff_eq.mp hx).symm
      exact hid ▸ h.apiIds_nodup }

theorem withNewPage (h : store.Consistent) (apiId : String) (entry : PageEntry)
    (contributor : Option String) : (store.withNewPage apiId entry contributor).Consistent :=
  { h with
    pageIds_nodup := nodup_map_append_singleton h.pageIds_nodup (freshId_not_mem _ _) }

theorem withPage (h : store.Consistent) (id name : String) (body : PageBody)
    (contributor : Option String) : (store.withPage id name body contributor).Consistent :=
  { h with pageIds_nodup := (pageIds_withPage store id name body contributor) ▸ h.pageIds_nodup }

theorem withNewPlan (h : store.Consistent) (apiId : String) (entry : PlanEntry) :
    (store.withNewPlan apiId entry).Consistent :=
  { h with
    planIds_nodup := nodup_map_append_singleton h.planIds_nodup (freshId_not_mem _ _) }

theorem withPlan (h : store.Consistent) (id name : String) (terms : PlanTerms) :
    (store.withPlan id name terms).Consistent :=
  { h with planIds_nodup := (planIds_withPlan store id name terms) ▸ h.planIds_nodup }

theorem withNewGroup (h : store.Consistent) (name : String) :
    (store.withNewGroup name).Consistent :=
  { h with
    groupIds_nodup := by
      have hfresh : store.freshGroupId ∉ store.groups.map (·.id) := fun hm =>
        freshId_not_mem _ _ (List.mem_append_left _ (List.mem_append_left _ hm))
      exact nodup_map_append_singleton h.groupIds_nodup hfresh }

theorem insertGroup (h : store.Consistent) (group : Group) :
    (store.insertGroup group).Consistent :=
  { h with
    groupIds_nodup := by
      refine nodup_map_append_singleton (h.groupIds_nodup.sublist ?_) ?_
      · exact List.filter_sublist.map _
      · simp }

theorem addRole (h : store.Consistent) (role : Role) : (store.addRole role).Consistent :=
  { h with
    roleNames_nodup := by
      refine nodup_map_append_singleton (h.roleNames_nodup.sublist ?_) ?_
      · exact List.filter_sublist.map _
      · simp
    holds := fun m hm scope name hn => hasRole_addRole.mpr (Or.inr (h.holds m hm scope name hn))
    seeded := fun r hr => hasRole_addRole.mpr (Or.inr (h.seeded r hr)) }

end Consistent

end Store

theorem StoreWrite.consistent_run {store : Store} (h : store.Consistent) (write : StoreWrite) :
    (write.run store).Consistent := by
  cases write with
  | createApi api =>
    rw [run, Store.createApi_eq]
    split
    · exact h
    · rename_i hn
      exact h.withNewApi (Option.not_isSome_iff_eq_none.mp hn)
  | updateApi api =>
    rw [run, Store.updateApi_eq]
    split
    · exact h
    · exact h.withApi api
  | giveRole reference user role =>
    rw [run, Store.giveRole_eq]
    split
    · rename_i hr
      exact h.withGrant reference user hr
    · exact h
  | createPage apiId entry contributor => exact h.withNewPage apiId entry contributor
  | updatePage id name body contributor =>
    rw [run, Store.updatePage_eq]
    split
    · exact h
    · exact h.withPage id name body contributor
  | createPlan apiId entry => exact h.withNewPlan apiId entry
  | updatePlan id name terms =>
    rw [run, Store.updatePlan_eq]
    split
    · exact h
    · exact h.withPlan id name terms
  | createGroup name => exact h.withNewGroup name
  | insertGroup group => exact h.insertGroup group
  | addRole role => exact h.addRole role

end ApiCatalog
