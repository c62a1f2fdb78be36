import ApiCatalog.Proofs.Store.Representation
import Mathlib.Logic.Function.Basic

/-! # The store as tables

APIs are kept under their ids, and memberships under a reference and a user. The lists of a store
are read as such tables here, with operations that look up and write by key, and nothing else is
left of the lists: each operation of the store is the one on the tables. That a record lies under
its own key is then proved of what is written, and not of how it is looked up.
-/

namespace ApiCatalog

structure Tables where
  apis : String → Option Api
  memberships : Reference × String → Option Membership
  /-- The roles that there are. -/
  hasRole : RoleName → Bool

namespace Tables

def putApi (tables : Tables) (id : String) (api : Api) : Tables :=
  { tables with apis := Function.update tables.apis id (some api) }

def putMembership (tables : Tables) (key : Reference × String) (m : Membership) : Tables :=
  { tables with memberships := Function.update tables.memberships key (some m) }

def write (tables : Tables) : StoreWrite → Tables
  | .createApi api =>
    if (tables.apis api.id).isSome then tables else tables.putApi api.id api
  | .updateApi api =>
    (tables.apis api.id).elim tables fun stored =>
      tables.putApi api.id { api with createdAt := stored.createdAt }
  | .giveRole reference user role =>
    let known := tables.memberships (reference, user.id)
    if tables.hasRole role then
      tables.putMembership (reference, user.id)
        ((known.getD (.empty reference user.id)).grant user role)
    else tables
  | .addRole role => { tables with hasRole := Function.update tables.hasRole role.roleName true }
  | _ => tables

def afterWrites (tables : Tables) (writes : List StoreWrite) : Tables :=
  writes.foldl write tables

/-- Every record lies under its own key. -/
structure Keyed (tables : Tables) : Prop where
  api_id : ∀ id api, tables.apis id = some api → api.id = id
  membership_key : ∀ key m, tables.memberships key = some m → m.key = key

variable {tables : Tables}

theorem keyed_of_empty (hasRole : RoleName → Bool) :
    Keyed ⟨fun _ => none, fun _ => none, hasRole⟩ where
  api_id _ _ h := nomatch h
  membership_key _ _ h := nomatch h

theorem apis_putApi (tables : Tables) (id id' : String) (api : Api) :
    (tables.putApi id api).apis id' = if id' = id then some api else tables.apis id' :=
  Function.update_apply tables.apis id (some api) id'

theorem memberships_putMembership (tables : Tables) (key key' : Reference × String)
    (m : Membership) :
    (tables.putMembership key m).memberships key' =
      if key' = key then some m else tables.memberships key' :=
  Function.update_apply tables.memberships key (some m) key'

theorem Keyed.putApi (h : tables.Keyed) {id : String} {api : Api} (hid : api.id = id) :
    (tables.putApi id api).Keyed where
  api_id id' api' hfind := by
    rw [apis_putApi] at hfind
    split at hfind
    · rename_i he
      cases hfind
      exact hid.trans he.symm
    · exact h.api_id id' api' hfind
  membership_key := h.membership_key

theorem Keyed.putMembership (h : tables.Keyed) {key : Reference × String} {m : Membership}
    (hkey : m.key = key) : (tables.putMembership key m).Keyed where
  api_id := h.api_id
  membership_key key' m' hfind := by
    rw [memberships_putMembership] at hfind
    split at hfind
    · rename_i he
      cases hfind
      exact hkey.trans he.symm
    · exact h.membership_key key' m' hfind

theorem Keyed.write (h : tables.Keyed) (write : StoreWrite) : (tables.write write).Keyed := by
  cases write with
  | createApi api =>
    rw [Tables.write]
    split
    · exact h
    · exact h.putApi rfl
  | updateApi api =>
    rw [Tables.write]
    cases tables.apis api.id with
    | none => exact h
    | some stored => exact h.putApi rfl
  | giveRole reference user role =>
    rw [Tables.write]
    split
    · apply h.putMembership
      rw [Membership.key_grant]
      cases hknown : tables.memberships (reference, user.id) with
      | none => rfl
      | some m => exact h.membership_key _ m hknown
    · exact h
  | addRole role => exact ⟨h.api_id, h.membership_key⟩
  | _ => exact h

theorem Keyed.afterWrites (h : tables.Keyed) (writes : List StoreWrite) :
    (tables.afterWrites writes).Keyed := by
  induction writes generalizing tables with
  | nil => exact h
  | cons write writes ih => exact ih (h.write write)

end Tables

namespace Store

def tables (store : Store) : Tables where
  apis := store.api?
  memberships key := store.membership? key.1 key.2
  hasRole := store.hasRole

variable {store : Store}

theorem tables_withNewApi {api : Api} (h : store.api? api.id = none) :
    (store.withNewApi api).tables = store.tables.putApi api.id api := by
  have hfind : (store.withNewApi api).api? =
      Function.update store.api? api.id (some api) := by
    funext id
    have happend : (store.withNewApi api).api? id =
        (store.api? id).or ([api].find? (·.id == id)) := List.find?_append
    rw [happend, List.find?_singleton]
    by_cases he : id = api.id
    · rw [he, h, Function.update_self]
      simp
    · rw [Function.update_of_ne he, if_neg (by simpa using Ne.symm he), Option.or_none]
  exact congrArg (fun apis => { store.tables with apis }) hfind

theorem tables_withApi {api stored : Api} (h : store.api? api.id = some stored) :
    (store.withApi api).tables =
      store.tables.putApi api.id { api with createdAt := stored.createdAt } := by
  have hfind : (store.withApi api).api? =
      Function.update store.api? api.id (some { api with createdAt := stored.createdAt }) := by
    funext id
    by_cases he : id = api.id
    · rw [he, Function.update_self]
      exact find?_replaceFirst h (by simp)
    · rw [Function.update_of_ne he]
      exact find?_replaceFirst_of_not fun other hother => by
        rw [beq_iff_eq] at hother
        simp [hother, Ne.symm he]
  exact congrArg (fun apis => { store.tables with apis }) hfind

theorem tables_withGrant (store : Store) (reference : Reference) (user : Member)
    (role : RoleName) :
    (store.withGrant reference user role).tables =
      store.tables.putMembership (reference, user.id) (store.granted reference user role) := by
  have hfind : (fun key : Reference × String =>
      (store.withGrant reference user role).membership? key.1 key.2) =
      Function.update (fun key : Reference × String => store.membership? key.1 key.2)
        (reference, user.id) (some (store.granted reference user role)) := by
    funext ⟨reference', userId⟩
    have hkey : (reference = reference' ∧ user.id = userId) ↔
        (reference', userId) = (reference, user.id) := by
      rw [Prod.mk.injEq, eq_comm, @eq_comm _ userId]
    rw [membership?_withGrant, Function.update_apply, if_congr hkey rfl rfl]
  exact congrArg (fun memberships => { store.tables with memberships }) hfind

theorem tables_addRole (store : Store) (role : Role) :
    (store.addRole role).tables =
      { store.tables with
        hasRole := Function.update store.tables.hasRole role.roleName true } := by
  have hroles : (store.addRole role).hasRole =
      Function.update store.hasRole role.roleName true := by
    funext name
    rw [Bool.eq_iff_iff, hasRole_addRole]
    by_cases he : name = role.roleName
    · rw [he, Function.update_self]
      simp
    · rw [Function.update_of_ne he, or_iff_right (Ne.symm he)]
  exact congrArg (fun hasRole => { store.tables with hasRole }) hroles

/-- Each operation on the store is the one on its tables. -/
theorem tables_run (write : StoreWrite) (store : Store) :
    (write.run store).tables = store.tables.write write := by
  cases write with
  | createApi api =>
    rw [StoreWrite.run, createApi_eq, Tables.write]
    by_cases h : (store.api? api.id).isSome = true
    · rw [if_pos h, if_pos (show (store.tables.apis api.id).isSome = true from h)]
    · rw [if_neg h, if_neg (show ¬(store.tables.apis api.id).isSome = true from h)]
      exact tables_withNewApi (Option.not_isSome_iff_eq_none.mp h)
  | updateApi api =>
    have hlookup : store.tables.apis api.id = store.api? api.id := rfl
    rw [StoreWrite.run, updateApi_eq, Tables.write, hlookup]
    cases h : store.api? api.id with
    | none => rfl
    | some stored => exact tables_withApi h
  | giveRole reference user role =>
    have hhas : store.tables.hasRole role = store.hasRole role := rfl
    rw [StoreWrite.run, giveRole_eq, Tables.write, hhas]
    split
    · exact store.tables_withGrant reference user role
    · rfl
  | updatePage id name body contributor =>
    rw [StoreWrite.run, updatePage_eq]
    split <;> rfl
  | updatePlan id name terms =>
    rw [StoreWrite.run, updatePlan_eq]
    split <;> rfl
  | addRole role => exact store.tables_addRole role
  | _ => rfl

theorem tables_afterWrites_eq (store : Store) (writes : List StoreWrite) :
    (store.afterWrites writes).tables = store.tables.afterWrites writes := by
  induction writes generalizing store with
  | nil => rfl
  | cons write writes ih =>
    rw [Tables.afterWrites, List.foldl_cons, ← tables_run, ← StoreWrite.attempt_snd]
    exact ih (write.attempt store).2

/-- Whatever operations a store has gone through, its tables are those that the operations make by
keys from empty ones, and every record lies under its own key. -/
theorem tables_afterWrites (writes : List StoreWrite) :
    let initial : Tables := ⟨fun _ => none, fun _ => none, fresh.hasRole⟩
    (fresh.afterWrites writes).tables = initial.afterWrites writes ∧
      (initial.afterWrites writes).Keyed := by
  intro initial
  have hkeyed : initial.Keyed := Tables.keyed_of_empty _
  exact ⟨fresh.tables_afterWrites_eq writes, hkeyed.afterWrites writes⟩

end Store

end ApiCatalog
