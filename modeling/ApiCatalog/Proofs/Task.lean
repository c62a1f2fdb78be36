import ApiCatalog.Catalog
import Mathlib.Order.Defs.Unbundled

/-! # Running tasks

What a task on the catalog gives, step by step, and relations between the catalogs before and after
a task that hold however it ends.
-/

namespace ApiCatalog.CatalogM

variable {α β : Type}

@[simp] theorem runOn_get (c : Catalog) : (get : CatalogM Catalog).runOn c = (.ok c, c) := rfl

@[simp] theorem runOn_fromStore (view : Store → α) (c : Catalog) :
    (fromStore view).runOn c = (.ok (view c.store), c) := rfl

@[simp] theorem runOn_ofResult (result : Except Error α) (c : Catalog) :
    (ofResult result).runOn c = (result, c) := by
  cases result <;> rfl

theorem runOn_onStore (operation : StoreM α) (c : Catalog) :
    (onStore operation).runOn c =
      ((operation c.store).1, { c with store := (operation c.store).2 }) := rfl

theorem runOn_counting (metric : String → Metric) (task : CatalogM α) (c : Catalog) :
    (counting metric task).runOn c =
      ((task.runOn c).1,
        { (task.runOn c).2 with
          metrics :=
            (task.runOn c).2.metrics.add (metric (Metric.outcome (task.runOn c).1)) 1 }) := rfl

theorem runOn_bind (task : CatalogM α) (next : α → CatalogM β) (c : Catalog) :
    (task >>= next).runOn c =
      match task.runOn c with
      | (.ok x, c') => (next x).runOn c'
      | (.error e, c') => (.error e, c') := by
  have h : (task >>= next).runOn c = ExceptT.bindCont next (task.runOn c).1 (task.runOn c).2 := rfl
  rw [h]
  rcases task.runOn c with ⟨e | x, c'⟩ <;> rfl

section Bind

variable {task : CatalogM α} {next : α → CatalogM β} {c c' c'' : Catalog}

theorem runOn_bind_ok {x : α} (h : task.runOn c = (.ok x, c')) :
    (task >>= next).runOn c = (next x).runOn c' := by
  rw [runOn_bind, h]

theorem runOn_bind_error {e : Error} (h : task.runOn c = (.error e, c')) :
    (task >>= next).runOn c = (.error e, c') := by
  rw [runOn_bind, h]

theorem error_of_bind_error {e : Error} (h : (task >>= next).runOn c = (.error e, c'')) :
    task.runOn c = (.error e, c'') ∨
      ∃ x c', task.runOn c = (.ok x, c') ∧ (next x).runOn c' = (.error e, c'') := by
  rw [runOn_bind] at h
  rcases ht : task.runOn c with ⟨e | x, c'⟩ <;> rw [ht] at h
  · cases h
    exact Or.inl rfl
  · exact Or.inr ⟨x, c', rfl, h⟩

end Bind

/-- What a task gives on every catalog with a store, and the store that it leaves. -/
def Gives (task : CatalogM α) (store : Store) (x : α) (store' : Store) : Prop :=
  ∀ c : Catalog, c.store = store →
    ∃ metrics, task.runOn c = (.ok x, { c with store := store', metrics })

namespace Gives

variable {store store' store'' : Store}

theorem pure (x : α) (store : Store) : Gives (Pure.pure x) store x store := by
  rintro c rfl
  exact ⟨c.metrics, rfl⟩

theorem fromStore (view : Store → α) (store : Store) :
    Gives (CatalogM.fromStore view) store (view store) store := by
  rintro c rfl
  exact ⟨c.metrics, rfl⟩

theorem count (metric : Metric) (n : Nat) (store : Store) :
    Gives (CatalogM.count metric n) store () store := by
  rintro c rfl
  exact ⟨c.metrics.add metric n, rfl⟩

theorem onStore {operation : StoreM α} {x : α} (h : operation store = (.ok x, store')) :
    Gives (CatalogM.onStore operation) store x store' := by
  rintro c rfl
  exact ⟨c.metrics, by rw [runOn_onStore, h]⟩

theorem bind {task : CatalogM α} {next : α → CatalogM β} {x : α} {y : β}
    (ht : Gives task store x store') (hn : Gives (next x) store' y store'') :
    Gives (task >>= next) store y store'' := by
  intro c hc
  obtain ⟨metrics, h⟩ := ht c hc
  obtain ⟨metrics', h'⟩ := hn { c with store := store', metrics } rfl
  exact ⟨metrics', by rw [runOn_bind_ok h, h']⟩

/-- A list of steps leaves what the steps leave one after the other. `Ready` is what a step relies
on, and no step destroys it for the others. -/
theorem forM {σ : Type} {run : σ → CatalogM Unit} (after : Store → σ → Store)
    (Ready : σ → Store → Prop)
    (hrun : ∀ s store, Ready s store → Gives (run s) store () (after store s))
    (hkeep : ∀ s s' store, Ready s' store → Ready s' (after store s))
    (steps : List σ) (h : ∀ s ∈ steps, Ready s store) :
    Gives (steps.forM run) store () (steps.foldl after store) := by
  induction steps generalizing store with
  | nil => exact Gives.pure () store
  | cons s steps ih =>
    refine (hrun s store (h s List.mem_cons_self)).bind (ih fun s' hs' => ?_)
    exact hkeep s s' store (h s' (List.mem_cons_of_mem _ hs'))

end Gives

/-- A relation between the catalog before a task and the one after it. -/
def Moves (R : Catalog → Catalog → Prop) (task : CatalogM α) : Prop :=
  ∀ c, R c (task.runOn c).2

namespace Moves

variable {R : Catalog → Catalog → Prop}

section Refl

variable [Std.Refl R]

theorem pure (x : α) : Moves R (Pure.pure x : CatalogM α) := fun c => refl_of R c

theorem throw (e : Error) : Moves R (MonadExcept.throw e : CatalogM α) := fun c => refl_of R c

theorem get : Moves R (MonadState.get : CatalogM Catalog) := fun c => refl_of R c

theorem fromStore (view : Store → α) : Moves R (CatalogM.fromStore view) := fun c => refl_of R c

theorem ofResult (result : Except Error α) : Moves R (CatalogM.ofResult result) := fun c => by
  rw [runOn_ofResult]
  exact refl_of R c

end Refl

theorem bind [IsTrans Catalog R] {task : CatalogM α} {next : α → CatalogM β}
    (ht : Moves R task) (hn : ∀ x, Moves R (next x)) : Moves R (task >>= next) := by
  intro c
  have h := ht c
  rw [runOn_bind]
  rcases hc : task.runOn c with ⟨e | x, c'⟩ <;> rw [hc] at h
  · exact h
  · exact trans_of R h (hn x c')

theorem forM [Std.Refl R] [IsTrans Catalog R] {σ : Type} {run : σ → CatalogM Unit}
    (h : ∀ s, Moves R (run s)) (steps : List σ) : Moves R (steps.forM run) := by
  induction steps with
  | nil => exact Moves.pure ()
  | cons s steps ih => exact (h s).bind fun _ => ih

end Moves

end ApiCatalog.CatalogM
