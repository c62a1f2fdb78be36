import ApiCatalog.Store.Fresh
import Mathlib.Data.List.Nodup
import Mathlib.Data.List.Perm.Subperm

/-! # Fresh ids are fresh

The numbered ids that are tried differ from each other, and one more of them is tried than there
are ids in use, so that one of them is free.
-/

namespace ApiCatalog

theorem toDigits_injective : Function.Injective (Nat.toDigits 10) := by
  intro m n h
  have hd := congrArg (Nat.ofDigitChars 10 · 0) h
  simpa only [Nat.ofDigitChars_ten_toDigits] using hd

theorem numbered_injective (mark : String) :
    Function.Injective fun n : Nat => mark ++ toString n := by
  intro m n h
  have hs : (toString m).toList = (toString n).toList :=
    congrArg String.toList ((String.append_right_inj mark).mp h)
  rw [Nat.toString_eq_repr, Nat.toString_eq_repr, Nat.toList_repr, Nat.toList_repr] at hs
  exact toDigits_injective hs

/-- If the id found is in use, so are all those before it. -/
theorem mem_of_firstFree_mem {used : List String} {mark : String} {fuel n : Nat}
    (h : firstFree used mark fuel n ∈ used) : ∀ i ≤ fuel, mark ++ toString (n + i) ∈ used := by
  induction fuel generalizing n with
  | zero =>
    intro i hi
    obtain rfl : i = 0 := Nat.le_zero.mp hi
    exact h
  | succ fuel ih =>
    rw [firstFree] at h
    by_cases hn : mark ++ toString n ∈ used
    · rw [if_pos (List.contains_iff_mem.mpr hn)] at h
      rintro (_ | i) hi
      · exact hn
      · have hi' := ih h i (Nat.le_of_succ_le_succ hi)
        rwa [Nat.add_assoc, Nat.add_comm 1] at hi'
    · rw [if_neg fun hc => hn (List.contains_iff_mem.mp hc)] at h
      exact absurd h hn

theorem freshId_not_mem (mark : String) (used : List String) : freshId mark used ∉ used := by
  intro h
  have htried : ((List.range (used.length + 1)).map fun i => mark ++ toString (1 + i)) ⊆ used := by
    intro id hid
    obtain ⟨i, hi, rfl⟩ := List.mem_map.mp hid
    exact mem_of_firstFree_mem h i (Nat.le_of_lt_succ (List.mem_range.mp hi))
  have hinj : Function.Injective fun i : Nat => mark ++ toString (1 + i) := fun i j hij =>
    Nat.add_left_cancel (numbered_injective mark hij)
  have hlen := (List.subperm_of_subset (List.nodup_range.map hinj) htried).length_le
  rw [List.length_map, List.length_range] at hlen
  exact Nat.not_succ_le_self _ hlen

end ApiCatalog
