import ApiCatalog.Proofs.Store.Consistent
import ApiCatalog.Proofs.Store.Counts

/-! # How a store represents what it keeps

Whatever a store goes through from its start on, each record is found under its own key and under no
other one, members hold roles that there are, and as many pages and plans are stored as were
created. An operation that is refused leaves no trace.
-/

namespace ApiCatalog

namespace HeldRoles

variable {roles : HeldRoles}

theorem mem_toList {role : RoleName} :
    role ∈ roles.toList ↔ roles.get? role.scope = some role.name := by
  rcases role with ⟨scope, name⟩
  simp only [toList, List.mem_filterMap, Option.map_eq_some_iff]
  constructor
  · rintro ⟨scope', -, name', hname, he⟩
    cases he
    exact hname
  · intro h
    exact ⟨scope, by cases scope <;> decide, name, h, rfl⟩

theorem map_scope_toList (roles : HeldRoles) :
    roles.toList.map (·.scope) =
      [RoleScope.management, .portal, .api, .application].filter (roles.get? · |>.isSome) := by
  rcases roles with ⟨management, portal, api, application⟩
  cases management <;> cases portal <;> cases api <;> cases application <;> rfl

theorem nodup_scopes (roles : HeldRoles) : (roles.toList.map (·.scope)).Nodup := by
  rw [map_scope_toList]
  exact List.Nodup.filter _ (by decide)

end HeldRoles

namespace Store

variable {α : Type} {kind : WriteKind} {operation : StoreM α} {store : Store}

theorem Writes.discard (h : Writes kind operation) : Writes kind (discard operation) := by
  intro store
  rw [discard_eq]
  rcases h store with ⟨e, he⟩ | ⟨x, store', he, hwrote⟩
  · exact Or.inl ⟨e, by rw [he]; rfl⟩
  · exact Or.inr ⟨(), store', by rw [he]; rfl, hwrote⟩

structure Tallied (store : Store) : Prop where
  pages : store.pages.length = store.writes.pageCreates
  plans : store.plans.length = store.writes.planCreates

theorem Wrote.tallied {n : Nat} {store' : Store} (h : Wrote kind n store store')
    (htallied : store.Tallied) : store'.Tallied where
  pages := by
    have hcreated := Option.some.inj (h.created?_eq .pageCreate)
    have hcounted := h.get_eq .pageCreate
    simp only [WriteCounts.get] at hcounted
    rw [hcreated, htallied.pages, hcounted]
  plans := by
    have hcreated := Option.some.inj (h.created?_eq .planCreate)
    have hcounted := h.get_eq .planCreate
    simp only [WriteCounts.get] at hcounted
    rw [hcreated, htallied.plans, hcounted]

end Store

namespace StoreWrite

/-- An operation with its outcome. Groups and roles are never refused. -/
def attempt : StoreWrite → StoreM Unit
  | createApi api => discard (Store.createApi api)
  | updateApi api => discard (Store.updateApi api)
  | giveRole reference user role => discard (Store.giveRole reference user role)
  | createPage apiId entry contributor => discard (Store.createPage apiId entry contributor)
  | updatePage id name body contributor => discard (Store.updatePage id name body contributor)
  | createPlan apiId entry => discard (Store.createPlan apiId entry)
  | updatePlan id name terms => discard (Store.updatePlan id name terms)
  | createGroup name => discard (Store.createGroup name)
  | insertGroup group => modify (Store.insertGroup group)
  | addRole role => modify (Store.addRole role)

variable {store : Store}

theorem attempt_snd (write : StoreWrite) (store : Store) :
    (write.attempt store).2 = write.run store := by
  cases write with
  | insertGroup group => rfl
  | addRole role => rfl
  | _ => exact congrArg Prod.snd (Store.discard_eq _ store)

/-- An operation is refused and leaves the store as it is, or it leaves the pages and the plans
counted as they were. -/
theorem attempt_cases (write : StoreWrite) (store : Store) :
    (∃ e, write.attempt store = (.error e, store)) ∨
      ∃ store', write.attempt store = (.ok (), store') ∧ (store.Tallied → store'.Tallied) := by
  have hwrites : ∀ {kind : WriteKind} {operation : StoreM Unit}, Store.Writes kind operation →
      (∃ e, operation store = (.error e, store)) ∨
        ∃ store', operation store = (.ok (), store') ∧ (store.Tallied → store'.Tallied) :=
    fun h => (h store).imp_right fun ⟨_, store', he, hwrote⟩ => ⟨store', he, hwrote.tallied⟩
  cases write with
  | createApi api => exact hwrites (Store.writes_createApi api).discard
  | updateApi api => exact hwrites (Store.writes_updateApi api).discard
  | giveRole reference user role =>
    exact hwrites (Store.writes_giveRole reference user role).discard
  | createPage apiId entry contributor =>
    exact hwrites (Store.writes_createPage apiId entry contributor).discard
  | updatePage id name body contributor =>
    exact hwrites (Store.writes_updatePage id name body contributor).discard
  | createPlan apiId entry => exact hwrites (Store.writes_createPlan apiId entry).discard
  | updatePlan id name terms => exact hwrites (Store.writes_updatePlan id name terms).discard
  | createGroup name => exact hwrites (Store.writes_createGroup name).discard
  | insertGroup group => exact Or.inr ⟨_, rfl, fun h => ⟨h.pages, h.plans⟩⟩
  | addRole role => exact Or.inr ⟨_, rfl, fun h => ⟨h.pages, h.plans⟩⟩

theorem memberships_run (write : StoreWrite) (store : Store) :
    (write.run store).memberships = store.memberships ∨
      ∃ reference user role,
        (write.run store).memberships =
          Store.putMembership (store.granted reference user role) store.memberships := by
  cases write with
  | createApi api =>
    rw [run, Store.createApi_eq]
    split <;> exact Or.inl rfl
  | updateApi api =>
    rw [run, Store.updateApi_eq]
    split <;> exact Or.inl rfl
  | giveRole reference user role =>
    rw [run, Store.giveRole_eq]
    split
    · exact Or.inr ⟨reference, user, role, rfl⟩
    · exact Or.inl rfl
  | updatePage id name body contributor =>
    rw [run, Store.updatePage_eq]
    split <;> exact Or.inl rfl
  | updatePlan id name terms =>
    rw [run, Store.updatePlan_eq]
    split <;> exact Or.inl rfl
  | _ => exact Or.inl rfl

end StoreWrite

namespace Store

variable {store : Store}

/-- A consistent store in which every member holds a role and the counts tell what is stored. -/
structure WellKept (store : Store) : Prop extends Consistent store, Tallied store where
  some_role : ∀ m ∈ store.memberships, m.roles.toList ≠ []

theorem WellKept.fresh : WellKept Store.fresh :=
  { Consistent.fresh with
    pages := rfl
    plans := rfl
    some_role := fun _ h => absurd h List.not_mem_nil }

theorem toList_granted_ne_nil (store : Store) (reference : Reference) (user : Member)
    (role : RoleName) : (store.granted reference user role).roles.toList ≠ [] := by
  have hgiven := store.role?_granted reference user role role.scope
  rw [if_pos rfl] at hgiven
  exact List.ne_nil_of_mem (HeldRoles.mem_toList.mpr hgiven)

theorem WellKept.attempt (h : store.WellKept) (write : StoreWrite) :
    (write.attempt store).2.WellKept := by
  have hconsistent : (write.attempt store).2.Consistent := by
    rw [StoreWrite.attempt_snd]
    exact write.consistent_run h.toConsistent
  have htallied : (write.attempt store).2.Tallied := by
    rcases write.attempt_cases store with ⟨e, he⟩ | ⟨store', he, htallied⟩ <;> rw [he]
    · exact h.toTallied
    · exact htallied h.toTallied
  have hroles : ∀ m ∈ (write.attempt store).2.memberships, m.roles.toList ≠ [] := by
    rw [StoreWrite.attempt_snd]
    intro m hm
    rcases write.memberships_run store with he | ⟨reference, user, role, he⟩ <;> rw [he] at hm
    · exact h.some_role m hm
    · rcases mem_of_mem_putMembership hm with rfl | hm
      · exact store.toList_granted_ne_nil reference user role
      · exact h.some_role m hm
  exact { hconsistent, htallied with some_role := hroles }

/-- The store after a sequence of operations, each of which may succeed or fail. -/
def afterWrites (store : Store) (writes : List StoreWrite) : Store :=
  writes.foldl (fun store write => (write.attempt store).2) store

theorem WellKept.afterWrites (h : store.WellKept) (writes : List StoreWrite) :
    (store.afterWrites writes).WellKept := by
  induction writes generalizing store with
  | nil => exact h
  | cons write writes ih => exact ih (h.attempt write)

/-- Whatever operations a store has gone through from its start on, an API is found under its own
id and a membership under its own reference and user. Members hold a role, one in a scope at most,
and only roles that there are. All records are told apart by their keys, the built-in roles are all
there, and the counts of created pages and plans tell how many there are. An operation that fails
changes neither what is stored nor what is counted. -/
theorem representation_afterWrites (writes : List StoreWrite) :
    let store := Store.fresh.afterWrites writes
    (∀ id api, store.api? id = some api ↔ api ∈ store.apis ∧ api.id = id) ∧
    (∀ reference userId m, store.membership? reference userId = some m ↔
      m ∈ store.memberships ∧ m.reference = reference ∧ m.user.id = userId) ∧
    (∀ m ∈ store.memberships,
      m.roles.toList ≠ [] ∧ (m.roles.toList.map (·.scope)).Nodup ∧
        ∀ role ∈ m.roles.toList, role ∈ store.roles.map Role.roleName) ∧
    ((store.apis.map (·.id)).Nodup ∧ (store.memberships.map Membership.key).Nodup ∧
      (store.roles.map Role.roleName).Nodup ∧ (store.groups.map (·.id)).Nodup ∧
      (store.pages.map (·.id)).Nodup ∧ (store.plans.map (·.id)).Nodup) ∧
    (∀ role ∈ seededRoles, role.roleName ∈ store.roles.map Role.roleName) ∧
    (store.pages.length = store.writes.pageCreates ∧
      store.plans.length = store.writes.planCreates) ∧
    ∀ (write : StoreWrite) (e : Error),
      (write.attempt store).1 = .error e → (write.attempt store).2 = store := by
  intro store
  have h : store.WellKept := WellKept.fresh.afterWrites writes
  have hrole : ∀ {role}, store.hasRole role = true → role ∈ store.roles.map Role.roleName :=
    fun hr => List.mem_map.mpr (hasRole_iff.mp hr)
  refine ⟨fun id api => ?_, fun reference userId m => ?_, fun m hm => ?_,
    ⟨h.apiIds_nodup, h.memberKeys_nodup, h.roleNames_nodup, h.groupIds_nodup, h.pageIds_nodup,
      h.planIds_nodup⟩, fun role hr => hrole (h.seeded role hr), ⟨h.pages, h.plans⟩,
    fun write e he => ?_⟩
  · exact find?_eq_some_iff_of_nodup h.apiIds_nodup fun _ => beq_iff_eq
  · have hfound := find?_eq_some_iff_of_nodup (k := (reference, userId)) (x := m)
      (p := fun m => m.reference == reference && m.user.id == userId) h.memberKeys_nodup
      fun m => by simp [Membership.key]
    rwa [Membership.key, Prod.mk.injEq] at hfound
  · refine ⟨h.some_role m hm, m.roles.nodup_scopes, fun role hr => hrole ?_⟩
    exact h.holds m hm role.scope role.name (HeldRoles.mem_toList.mp hr)
  · rcases write.attempt_cases store with ⟨e', hrefused⟩ | ⟨store', hdone, -⟩
    · rw [hrefused]
    · rw [hdone] at he
      cases he

end Store

end ApiCatalog
