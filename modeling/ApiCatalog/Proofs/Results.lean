import Mathlib.Data.List.Forall2

/-! # Results of checks

A chain of checks succeeds if each of them does, and so does a check of every element of a list.
-/

namespace ApiCatalog

variable {ε α β : Type}

theorem bind_eq_ok_iff {x : Except ε α} {next : α → Except ε β} {y : β} :
    x >>= next = .ok y ↔ ∃ a, x = .ok a ∧ next a = .ok y := by
  cases x with
  | error e =>
    constructor
    · intro h
      cases h
    · rintro ⟨a, h, _⟩
      cases h
  | ok a =>
    constructor
    · exact fun h => ⟨a, rfl, h⟩
    · rintro ⟨_, ⟨⟩, h⟩
      exact h

theorem bind_eq_error_iff {x : Except ε α} {next : α → Except ε β} {e : ε} :
    x >>= next = .error e ↔ x = .error e ∨ ∃ a, x = .ok a ∧ next a = .error e := by
  cases x with
  | error e' =>
    constructor
    · intro h
      cases h
      exact Or.inl rfl
    · rintro (h | ⟨_, h, _⟩)
      · cases h
        rfl
      · cases h
  | ok a =>
    constructor
    · exact fun h => Or.inr ⟨a, rfl, h⟩
    · rintro (h | ⟨_, ⟨⟩, h⟩)
      · cases h
      · exact h

theorem mapError_eq_error_iff {ε' : Type} {x : Except ε α} {f : ε → ε'} {e' : ε'} :
    x.mapError f = .error e' ↔ ∃ e, x = .error e ∧ f e = e' := by
  cases x <;> simp [Except.mapError]

theorem mapM_eq_ok_iff {check : α → Except ε β} {xs : List α} {ys : List β} :
    xs.mapM check = .ok ys ↔ List.Forall₂ (fun x y => check x = .ok y) xs ys := by
  induction xs generalizing ys with
  | nil =>
    rw [List.mapM_nil, List.forall₂_nil_left_iff]
    exact ⟨fun h => (Except.ok.inj h).symm, fun h => congrArg Except.ok h.symm⟩
  | cons x xs ih =>
    simp only [List.mapM_cons, bind_eq_ok_iff, ih, List.forall₂_cons_left_iff]
    constructor
    · rintro ⟨y, hy, ys', hys, he⟩
      exact ⟨y, ys', hy, hys, (Except.ok.inj he).symm⟩
    · rintro ⟨y, ys', hy, hys, rfl⟩
      exact ⟨y, hy, ys', hys, rfl⟩

theorem exists_of_mapM_eq_error {check : α → Except ε β} {xs : List α} {e : ε}
    (h : xs.mapM check = .error e) : ∃ x ∈ xs, check x = .error e := by
  induction xs with
  | nil => cases h
  | cons x xs ih =>
    rw [List.mapM_cons, bind_eq_error_iff] at h
    rcases h with h | ⟨y, -, h⟩
    · exact ⟨x, List.mem_cons_self, h⟩
    · rcases bind_eq_error_iff.mp h with h | ⟨ys, -, h⟩
      · obtain ⟨x', hx', he⟩ := ih h
        exact ⟨x', List.mem_cons_of_mem x hx', he⟩
      · cases h

/-- The check of a list fails by the first element that does not pass. -/
theorem mapM_eq_error_iff {check : α → Except ε β} {fails : α → Bool}
    (hfails : ∀ x, fails x = true ↔ ∃ e, check x = .error e) {xs : List α} {e : ε} :
    xs.mapM check = .error e ↔ ∃ x, xs.find? fails = some x ∧ check x = .error e := by
  induction xs with
  | nil =>
    rw [List.mapM_nil]
    exact ⟨fun h => (nomatch h), fun ⟨_, h, _⟩ => nomatch h⟩
  | cons x xs ih =>
    rw [List.mapM_cons, bind_eq_error_iff]
    cases hx : check x with
    | error e' =>
      rw [List.find?_cons_of_pos ((hfails x).mpr ⟨e', hx⟩)]
      constructor
      · rintro (h | ⟨_, h, _⟩)
        · exact ⟨x, rfl, hx.trans h⟩
        · cases h
      · rintro ⟨_, ⟨⟩, h⟩
        exact Or.inl (hx.symm.trans h)
    | ok y =>
      have hpass : ¬fails x = true := fun hc => by
        obtain ⟨e', he'⟩ := (hfails x).mp hc
        exact nomatch hx.symm.trans he'
      rw [List.find?_cons_of_neg hpass, ← ih]
      constructor
      · rintro (h | ⟨_, -, h⟩)
        · cases h
        · rcases bind_eq_error_iff.mp h with h | ⟨_, -, h⟩
          · exact h
          · cases h
      · exact fun h => Or.inr ⟨y, rfl, bind_eq_error_iff.mpr (Or.inl h)⟩

theorem exists_of_forall₂ {R : α → β → Prop} {xs : List α} {ys : List β}
    (h : List.Forall₂ R xs ys) {y : β} (hy : y ∈ ys) : ∃ x ∈ xs, R x y := by
  induction h with
  | nil => exact absurd hy List.not_mem_nil
  | cons hxy _ ih =>
    rcases List.mem_cons.mp hy with rfl | hy
    · exact ⟨_, List.mem_cons_self, hxy⟩
    · obtain ⟨x, hx, hxy⟩ := ih hy
      exact ⟨x, List.mem_cons_of_mem _ hx, hxy⟩

theorem exists_forall₂ {R : α → β → Prop} {xs : List α} (h : ∀ x ∈ xs, ∃ y, R x y) :
    ∃ ys, List.Forall₂ R xs ys := by
  induction xs with
  | nil => exact ⟨[], List.Forall₂.nil⟩
  | cons x xs ih =>
    obtain ⟨⟨y, hy⟩, hxs⟩ := List.forall_mem_cons.mp h
    obtain ⟨ys, hys⟩ := ih hxs
    exact ⟨y :: ys, List.Forall₂.cons hy hys⟩

theorem bind_of_some {x : Option α} {a : α} (h : x = some a) (next : α → Option β) :
    x >>= next = next a := by
  rw [h]
  rfl

end ApiCatalog
