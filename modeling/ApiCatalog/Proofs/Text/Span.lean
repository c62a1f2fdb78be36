import Mathlib.Data.List.TakeDrop

/-! # Runs of characters

Where a run of characters ends at the front of a text.
-/

namespace ApiCatalog.Text

variable {p : Char → Bool} {text rest : List Char}

theorem span_append (htext : text.all p = true) (hrest : ∀ c, rest.head? = some c → p c = false) :
    (text ++ rest).span p = (text, rest) := by
  rw [List.span_eq_takeWhile_dropWhile, List.takeWhile_append_of_pos (List.all_eq_true.mp htext),
    List.dropWhile_append_of_pos (List.all_eq_true.mp htext)]
  cases rest with
  | nil => simp
  | cons c rest => simp [hrest c rfl]

theorem exists_span (p : Char → Bool) (cs : List Char) :
    ∃ text rest, cs.span p = (text, rest) ∧ cs = text ++ rest ∧ text.all p = true ∧
      ∀ c, rest.head? = some c → p c = false := by
  refine ⟨cs.takeWhile p, cs.dropWhile p, List.span_eq_takeWhile_dropWhile p cs,
    List.takeWhile_append_dropWhile.symm, List.all_takeWhile, fun c hc => ?_⟩
  have hnot := List.head?_dropWhile_not p cs
  rw [hc] at hnot
  simpa using hnot

theorem span_append_cons {c : Char} (hc : p c = false) (cs rest : List Char) :
    (cs ++ c :: rest).span p = ((cs.span p).1, (cs.span p).2 ++ c :: rest) := by
  obtain ⟨text, rest', hspan, rfl, htext, hrest⟩ := exists_span p cs
  rw [hspan, List.append_assoc]
  refine span_append htext fun d hd => ?_
  cases rest' with
  | nil => exact Option.some.inj hd ▸ hc
  | cons d' rest' => exact hrest d hd

theorem takeWhile_append_cons {mark : Char} {text : List Char} (h : mark ∉ text)
    (rest : List Char) : (text ++ mark :: rest).takeWhile (· != mark) = text := by
  have htext : ∀ c ∈ text, (c != mark) = true := fun c hc =>
    bne_iff_ne.mpr fun he => h (he ▸ hc)
  rw [List.takeWhile_append_of_pos htext, List.takeWhile_cons_of_neg (by simp), List.append_nil]

/-- The first place where a character stands divides a text in one way only. -/
theorem eq_of_append_cons_eq {mark : Char} {text text' rest rest' : List Char} (h : mark ∉ text)
    (h' : mark ∉ text') (heq : text ++ mark :: rest = text' ++ mark :: rest') :
    text = text' ∧ rest = rest' := by
  have htext : text = text' := by
    rw [← takeWhile_append_cons h rest, heq, takeWhile_append_cons h']
  subst htext
  exact ⟨rfl, (List.cons.inj (List.append_cancel_left heq)).2⟩

end ApiCatalog.Text
