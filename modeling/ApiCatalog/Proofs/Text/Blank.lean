import ApiCatalog.Text.Blank

/-! # Trimming

What is left of a text without the blank characters at its ends.
-/

namespace ApiCatalog.Text

variable {cs before core after : List Char}

structure Trimmed (cs : List Char) : Prop where
  head : ∀ c, cs.head? = some c → isBlank c = false
  last : ∀ c, cs.getLast? = some c → isBlank c = false

theorem dropBlank_eq_self (h : ∀ c, cs.head? = some c → isBlank c = false) :
    dropBlank cs = cs := by
  cases cs with
  | nil => rfl
  | cons c cs => simp [dropBlank, h c rfl]

theorem dropBlank_append (h : before.all isBlank = true) (cs : List Char) :
    dropBlank (before ++ cs) = dropBlank cs :=
  List.dropWhile_append_of_pos (List.all_eq_true.mp h)

theorem trimChars_append (hbefore : before.all isBlank = true) (hafter : after.all isBlank = true)
    (h : Trimmed core) : trimChars (before ++ (core ++ after)) = core := by
  have hreverse : after.reverse.all isBlank = true := by rwa [List.all_reverse]
  rw [trimChars, dropBlank_append hbefore]
  cases core with
  | nil =>
    have hnil := dropBlank_append hafter []
    rw [List.append_nil] at hnil
    rw [List.nil_append, hnil]
    rfl
  | cons c core =>
    have hlast : dropBlank (c :: core).reverse = (c :: core).reverse :=
      dropBlank_eq_self fun d hd => h.last d (by rwa [List.head?_reverse] at hd)
    have hfirst : dropBlank (c :: core ++ after) = c :: core ++ after :=
      dropBlank_eq_self fun d hd => h.head d hd
    rw [hfirst, List.reverse_append, dropBlank_append hreverse, hlast, List.reverse_reverse]

theorem Trimmed.trimChars_eq (h : Trimmed cs) : trimChars cs = cs := by
  have hsame : trimChars ([] ++ (cs ++ [])) = cs := trimChars_append rfl rfl h
  rwa [List.nil_append, List.append_nil] at hsame

theorem trimmed_of_all (h : ∀ c ∈ cs, isBlank c = false) : Trimmed cs :=
  ⟨fun c hc => h c (List.mem_of_head? hc), fun c hc => h c (List.mem_of_getLast? hc)⟩

theorem Trimmed.append (h : Trimmed before) (h' : Trimmed after) : Trimmed (before ++ after) where
  head c hc := by
    rw [List.head?_append, Option.or_eq_some_iff] at hc
    rcases hc with hc | ⟨-, hc⟩
    · exact h.head c hc
    · exact h'.head c hc
  last c hc := by
    rw [List.getLast?_append, Option.or_eq_some_iff] at hc
    rcases hc with hc | ⟨-, hc⟩
    · exact h'.last c hc
    · exact h.last c hc

theorem Trimmed.around (h : Trimmed before) (hne : before ≠ []) (h' : Trimmed after)
    (hne' : after ≠ []) (core : List Char) : Trimmed (before ++ (core ++ after)) where
  head c hc := by
    obtain ⟨d, before, rfl⟩ := List.exists_cons_of_ne_nil hne
    exact h.head c hc
  last c hc := by
    rw [← List.append_assoc, List.getLast?_append, Option.or_eq_some_iff] at hc
    rcases hc with hc | ⟨hnone, -⟩
    · exact h'.last c hc
    · exact absurd (List.getLast?_eq_none_iff.mp hnone) hne'

theorem trimmed_between {c d : Char} (hc : isBlank c = false) (hd : isBlank d = false)
    (core : List Char) : Trimmed (c :: (core ++ [d])) := by
  have hfirst : Trimmed [c] := trimmed_of_all (by simpa using hc)
  have hlast : Trimmed [d] := trimmed_of_all (by simpa using hd)
  exact hfirst.around (List.cons_ne_nil _ _) hlast (List.cons_ne_nil _ _) core

theorem exists_dropBlank (cs : List Char) :
    ∃ before, before.all isBlank = true ∧ cs = before ++ dropBlank cs :=
  ⟨cs.takeWhile isBlank, List.all_takeWhile, List.takeWhile_append_dropWhile.symm⟩

theorem head_dropBlank {c : Char} (h : (dropBlank cs).head? = some c) : isBlank c = false := by
  have hnot := List.head?_dropWhile_not isBlank cs
  rw [dropBlank] at h
  rw [h] at hnot
  simpa using hnot

/-- Trimming takes blank characters from the ends and leaves none there. -/
theorem exists_trimChars (cs : List Char) :
    ∃ before after, before.all isBlank = true ∧ after.all isBlank = true ∧
      cs = before ++ (trimChars cs ++ after) ∧ Trimmed (trimChars cs) := by
  obtain ⟨before, hbefore, hcs⟩ := exists_dropBlank cs
  obtain ⟨after, hafter, hrest⟩ := exists_dropBlank (dropBlank cs).reverse
  have hkept : dropBlank cs = trimChars cs ++ after.reverse := by
    rw [trimChars, ← List.reverse_append, ← hrest, List.reverse_reverse]
  refine ⟨before, after.reverse, hbefore, by rwa [List.all_reverse], hkept ▸ hcs, ⟨?_, ?_⟩⟩
  · intro c hc
    have hhead : (dropBlank cs).head? = some c := by
      rw [hkept, List.head?_append, hc]
      rfl
    exact head_dropBlank hhead
  · intro c hc
    rw [trimChars, List.getLast?_reverse] at hc
    exact head_dropBlank hc

theorem trimmed_trimChars (cs : List Char) : Trimmed (trimChars cs) := by
  obtain ⟨_, _, -, -, -, h⟩ := exists_trimChars cs
  exact h

theorem trim_trim (s : String) : trim (trim s) = trim s := by
  rw [trim, trim, String.toList_ofList, (trimmed_trimChars s.toList).trimChars_eq]

theorem trimChars_eq_nil_iff : trimChars cs = [] ↔ cs.all isBlank = true := by
  constructor
  · intro h
    obtain ⟨before, after, hbefore, hafter, hcs, -⟩ := exists_trimChars cs
    rw [hcs, h, List.nil_append, List.all_append, hbefore, hafter]
    rfl
  · intro h
    have hnil : trimChars (cs ++ ([] ++ [])) = [] := trimChars_append h rfl ⟨nofun, nofun⟩
    rwa [List.append_nil, List.append_nil] at hnil

end ApiCatalog.Text
