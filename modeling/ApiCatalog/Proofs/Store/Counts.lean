import ApiCatalog.Proofs.Store.Writes

/-! # Counts of writes

The store counts every write under its kind. An operation that is refused counts nothing, and any
other one counts once, so that the counts tell how many records have been created.
-/

namespace ApiCatalog

inductive WriteKind where
  | apiCreate
  | apiUpdate
  | memberUpsert
  | pageCreate
  | pageUpdate
  | planCreate
  | planUpdate
  | groupCreate
  deriving DecidableEq, Repr

def WriteCounts.get (counts : WriteCounts) : WriteKind → Nat
  | .apiCreate => counts.apiCreates
  | .apiUpdate => counts.apiUpdates
  | .memberUpsert => counts.memberUpserts
  | .pageCreate => counts.pageCreates
  | .pageUpdate => counts.pageUpdates
  | .planCreate => counts.planCreates
  | .planUpdate => counts.planUpdates
  | .groupCreate => counts.groupCreates

theorem WriteCounts.get_since (counts earlier : WriteCounts) (kind : WriteKind) :
    (counts.since earlier).get kind = counts.get kind - earlier.get kind := by
  cases kind <;> rfl

theorem length_replaceFirst {α : Type} (p : α → Bool) (f : α → α) (xs : List α) :
    (replaceFirst p f xs).length = xs.length := by
  have h := congrArg List.length (map_replaceFirst (p := p) (f := f) (g := fun _ => ()) xs
    fun _ _ => rfl)
  simpa using h

namespace Store

/-- How many records there are of those that a write of a kind creates. -/
def created? (store : Store) : WriteKind → Option Nat
  | .apiCreate => some store.apis.length
  | .pageCreate => some store.pages.length
  | .planCreate => some store.plans.length
  | .groupCreate => some store.groups.length
  | _ => none

def Accurate (store : Store) : Prop :=
  ∀ kind n, store.created? kind = some n → store.writes.get kind = n

structure Wrote (kind : WriteKind) (n : Nat) (store store' : Store) : Prop where
  get_eq : ∀ k, store'.writes.get k = store.writes.get k + if k = kind then n else 0
  created?_eq : ∀ k, store'.created? k = (store.created? k).map (· + if k = kind then n else 0)

namespace Wrote

variable {kind : WriteKind} {m n : Nat} {store store' store'' : Store}

theorem refl (kind : WriteKind) (store : Store) : Wrote kind 0 store store where
  get_eq k := by simp
  created?_eq k := by simp

theorem trans (h : Wrote kind m store store') (h' : Wrote kind n store' store'') :
    Wrote kind (m + n) store store'' where
  get_eq k := by
    rw [h'.get_eq, h.get_eq]
    split <;> omega
  created?_eq k := by
    rw [h'.created?_eq, h.created?_eq, Option.map_map]
    congr 1
    funext size
    simp only [Function.comp_apply]
    split <;> omega

theorem accurate (h : Wrote kind n store store') (haccurate : store.Accurate) :
    store'.Accurate := by
  intro k size hsize
  rw [h.created?_eq, Option.map_eq_some_iff] at hsize
  obtain ⟨old, hold, rfl⟩ := hsize
  rw [h.get_eq, haccurate k old hold]

end Wrote

variable (store : Store)

theorem wrote_withNewApi (api : Api) : Wrote .apiCreate 1 store (store.withNewApi api) where
  get_eq k := by cases k <;> rfl
  created?_eq k := by cases k <;> simp [created?, withNewApi, countWrite]

theorem wrote_withApi (api : Api) : Wrote .apiUpdate 1 store (store.withApi api) where
  get_eq k := by cases k <;> rfl
  created?_eq k := by cases k <;> simp [created?, withApi, countWrite, length_replaceFirst]

theorem wrote_withGrant (reference : Reference) (user : Member) (role : RoleName) :
    Wrote .memberUpsert 1 store (store.withGrant reference user role) where
  get_eq k := by cases k <;> rfl
  created?_eq k := by cases k <;> simp [created?, withGrant, countWrite]

theorem wrote_withNewPage (apiId : String) (entry : PageEntry) (contributor : Option String) :
    Wrote .pageCreate 1 store (store.withNewPage apiId entry contributor) where
  get_eq k := by cases k <;> rfl
  created?_eq k := by cases k <;> simp [created?, withNewPage, countWrite]

theorem wrote_withPage (id name : String) (body : PageBody) (contributor : Option String) :
    Wrote .pageUpdate 1 store (store.withPage id name body contributor) where
  get_eq k := by cases k <;> rfl
  created?_eq k := by cases k <;> simp [created?, withPage, countWrite, length_replaceFirst]

theorem wrote_withNewPlan (apiId : String) (entry : PlanEntry) :
    Wrote .planCreate 1 store (store.withNewPlan apiId entry) where
  get_eq k := by cases k <;> rfl
  created?_eq k := by cases k <;> simp [created?, withNewPlan, countWrite]

theorem wrote_withPlan (id name : String) (terms : PlanTerms) :
    Wrote .planUpdate 1 store (store.withPlan id name terms) where
  get_eq k := by cases k <;> rfl
  created?_eq k := by cases k <;> simp [created?, withPlan, countWrite, length_replaceFirst]

theorem wrote_withNewGroup (name : String) :
    Wrote .groupCreate 1 store (store.withNewGroup name) where
  get_eq k := by cases k <;> rfl
  created?_eq k := by cases k <;> simp [created?, withNewGroup, countWrite]

/-- Whether an operation is refused and writes nothing, or is one write of a kind. -/
def Writes {α : Type} (kind : WriteKind) (operation : StoreM α) : Prop :=
  ∀ store, (∃ e, operation store = (.error e, store)) ∨
    ∃ x store', operation store = (.ok x, store') ∧ Wrote kind 1 store store'

theorem writes_createApi (api : Api) : Writes .apiCreate (createApi api) := by
  intro store
  rw [createApi_eq]
  split
  · exact Or.inl ⟨_, rfl⟩
  · exact Or.inr ⟨_, _, rfl, store.wrote_withNewApi api⟩

theorem writes_updateApi (api : Api) : Writes .apiUpdate (updateApi api) := by
  intro store
  rw [updateApi_eq]
  cases store.api? api.id with
  | none => exact Or.inl ⟨_, rfl⟩
  | some _ => exact Or.inr ⟨_, _, rfl, store.wrote_withApi api⟩

theorem writes_giveRole (reference : Reference) (user : Member) (role : RoleName) :
    Writes .memberUpsert (giveRole reference user role) := by
  intro store
  rw [giveRole_eq]
  split
  · exact Or.inr ⟨_, _, rfl, store.wrote_withGrant reference user role⟩
  · exact Or.inl ⟨_, rfl⟩

theorem writes_createPage (apiId : String) (entry : PageEntry) (contributor : Option String) :
    Writes .pageCreate (createPage apiId entry contributor) :=
  fun store => Or.inr ⟨_, _, rfl, store.wrote_withNewPage apiId entry contributor⟩

theorem writes_updatePage (id name : String) (body : PageBody) (contributor : Option String) :
    Writes .pageUpdate (updatePage id name body contributor) := by
  intro store
  rw [updatePage_eq]
  cases store.page? id with
  | none => exact Or.inl ⟨_, rfl⟩
  | some _ => exact Or.inr ⟨_, _, rfl, store.wrote_withPage id name body contributor⟩

theorem writes_createPlan (apiId : String) (entry : PlanEntry) :
    Writes .planCreate (createPlan apiId entry) :=
  fun store => Or.inr ⟨_, _, rfl, store.wrote_withNewPlan apiId entry⟩

theorem writes_updatePlan (id name : String) (terms : PlanTerms) :
    Writes .planUpdate (updatePlan id name terms) := by
  intro store
  rw [updatePlan_eq]
  cases store.plan? id with
  | none => exact Or.inl ⟨_, rfl⟩
  | some _ => exact Or.inr ⟨_, _, rfl, store.wrote_withPlan id name terms⟩

theorem writes_createGroup (name : String) : Writes .groupCreate (createGroup name) :=
  fun store => Or.inr ⟨_, _, rfl, store.wrote_withNewGroup name⟩

end Store

end ApiCatalog
