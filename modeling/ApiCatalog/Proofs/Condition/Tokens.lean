import ApiCatalog.Proofs.Condition.Grammar
import ApiCatalog.Proofs.Text.Span

/-! # Reading tokens

Each reader of a token finds what the grammar says, and finds it wherever it is.
-/

namespace ApiCatalog.Condition.Parser.Outcome

variable {α β : Type} {o : Outcome α} {rest place : List Char}

theorem map_eq_done_iff {f : α → β} {value : β} :
    o.map f = done value rest ↔ ∃ a, o = done a rest ∧ f a = value := by
  cases o <;> simp [map, and_comm]

theorem andThen_eq_done_iff {next : α → List Char → Outcome β} {value : β} :
    o.andThen next = done value rest ↔
      ∃ a mid, o = done a mid ∧ next a mid = done value rest := by
  cases o <;> simp [andThen]

theorem orElse_eq_done_iff {other : Outcome α} {value : α} :
    o.orElse other = done value rest ↔
      o = done value rest ∨ o = refused ∧ other = done value rest := by
  cases o <;> simp [orElse]

theorem orElse_cases (o other : Outcome α) : o.orElse other = o ∨ o.orElse other = other := by
  cases o <;> simp [orElse]

theorem ofOption_eq_done_iff {found : Option (α × List Char)} {value : α} :
    ofOption found = done value rest ↔ found = some (value, rest) := by
  cases found <;> simp [ofOption, Prod.ext_iff]

theorem map_eq_broken_iff {f : α → β} : o.map f = broken place ↔ o = broken place := by
  cases o <;> simp [map]

theorem andThen_eq_broken_iff {next : α → List Char → Outcome β} :
    o.andThen next = broken place ↔
      o = broken place ∨ ∃ a mid, o = done a mid ∧ next a mid = broken place := by
  cases o <;> simp [andThen]

theorem orElse_eq_broken_iff {other : Outcome α} :
    o.orElse other = broken place ↔ o = broken place ∨ o = refused ∧ other = broken place := by
  cases o <;> simp [orElse]

theorem ofOption_ne_broken (found : Option (α × List Char)) : ofOption found ≠ broken place := by
  cases found <;> simp [ofOption]

end ApiCatalog.Condition.Parser.Outcome

namespace ApiCatalog.Condition.Grammar

open Condition.Parser
open Text (span_append exists_span)

/-- The end of a text behind some of its characters. -/
structure Behind (cs rest : List Char) : Prop where
  suffix : rest <:+ cs
  length_lt : rest.length < cs.length

theorem Behind.cons {c : Char} {cs rest : List Char} (h : rest <:+ cs) : Behind (c :: cs) rest :=
  ⟨h.trans (List.suffix_cons c cs), Nat.lt_succ_of_le h.length_le⟩

theorem Behind.append {text : List Char} (rest : List Char) (h : text ≠ []) :
    Behind (text ++ rest) rest := by
  cases text with
  | nil => exact absurd rfl h
  | cons c text => exact .cons (List.suffix_append text rest)

theorem Behind.of_suffix {cs cs' rest : List Char} (hsuffix : cs' <:+ cs) (h : Behind cs' rest) :
    Behind cs rest :=
  ⟨h.suffix.trans hsuffix, Nat.lt_of_lt_of_le h.length_lt hsuffix.length_le⟩

theorem Behind.trans_suffix {cs mid rest : List Char} (h : Behind cs mid) (hsuffix : rest <:+ mid) :
    Behind cs rest :=
  ⟨hsuffix.trans h.suffix, Nat.lt_of_le_of_lt hsuffix.length_le h.length_lt⟩

theorem longest_run_iff {p : Char → Bool} {text rest : List Char} :
    Longest (fun text => text ≠ [] ∧ text.all p = true) text rest ↔
    text ≠ [] ∧ text.all p = true ∧ ∀ c, rest.head? = some c → p c = false := by
  constructor
  · rintro ⟨⟨hne, hall⟩, hlongest⟩
    refine ⟨hne, hall, fun c hc => ?_⟩
    obtain ⟨rest, rfl⟩ : ∃ tail, rest = c :: tail := List.head?_eq_some_iff.mp hc
    rw [Bool.eq_false_iff]
    intro hp
    have hlonger := hlongest (text ++ [c]) rest (List.append_cons text c rest)
      ⟨by simp, by simp [hall, hp]⟩
    rw [List.length_append, List.length_singleton] at hlonger
    omega
  · rintro ⟨hne, hall, hrest⟩
    refine ⟨⟨hne, hall⟩, fun text' rest' he ⟨_, hall'⟩ => ?_⟩
    rcases List.append_eq_append_iff.mp he with ⟨more, rfl, rfl⟩ | ⟨more, rfl, rfl⟩
    · cases more with
      | nil => simp
      | cons c more => simp [hrest c rfl] at hall'
    · simp

theorem spaced_dropSpace (cs : List Char) : Spaced cs (dropSpace cs) :=
  ⟨cs.takeWhile isSpace, List.all_takeWhile, List.takeWhile_append_dropWhile.symm⟩

theorem Spaced.refl (cs : List Char) : Spaced cs cs := ⟨[], rfl, rfl⟩

theorem Spaced.trans {cs cs' rest : List Char} (h : Spaced cs cs') (h' : Spaced cs' rest) :
    Spaced cs rest := by
  obtain ⟨space, hspace, rfl⟩ := h
  obtain ⟨space', hspace', rfl⟩ := h'
  exact ⟨space ++ space', by simp [hspace, hspace'], (List.append_assoc _ _ _).symm⟩

theorem Spaced.suffix {cs rest : List Char} (h : Spaced cs rest) : rest <:+ cs := by
  obtain ⟨space, -, rfl⟩ := h
  exact List.suffix_append space rest

theorem Spaced.behind {c : Char} {cs rest : List Char} (h : Spaced cs (c :: rest)) :
    Behind cs rest :=
  (Behind.cons List.suffix_rfl).of_suffix h.suffix

theorem Spaced.dropSpace_eq {cs rest : List Char} (h : Spaced cs rest)
    (hrest : ∀ c, rest.head? = some c → isSpace c = false) : dropSpace cs = rest := by
  obtain ⟨space, hspace, rfl⟩ := h
  rw [dropSpace, List.dropWhile_append_of_pos (List.all_eq_true.mp hspace)]
  cases rest with
  | nil => rfl
  | cons c rest => simp [hrest c rfl]

theorem isSpace_head_dropSpace {cs : List Char} {c : Char} (h : (dropSpace cs).head? = some c) :
    isSpace c = false := by
  have hnot := List.head?_dropWhile_not isSpace cs
  rw [dropSpace] at h
  rw [h] at hnot
  simpa using hnot

@[simp] theorem dropSpace_dropSpace (cs : List Char) : dropSpace (dropSpace cs) = dropSpace cs :=
  (Spaced.refl _).dropSpace_eq fun _ h => isSpace_head_dropSpace h

theorem after?_eq_some_iff {word cs rest : List Char} :
    after? word cs = some rest ↔ cs = word ++ rest := by
  induction word generalizing cs with
  | nil => simp [after?, eq_comm]
  | cons w word ih =>
    cases cs with
    | nil => simp [after?]
    | cons c cs =>
      by_cases h : c = w
      · simp [after?, h, ih]
      · simp [after?, h]

theorem after1?_eq_some_iff {c : Char} {cs rest : List Char} :
    after1? c cs = some rest ↔ cs = c :: rest := by
  cases cs with
  | nil => simp [after1?]
  | cons d cs =>
    by_cases h : d = c
    · simp [after1?, h]
    · simp [after1?, h]

theorem afterLetters?_eq_some_iff {word cs rest : List Char} :
    afterLetters? word cs = some rest ↔ Letters word cs rest := by
  induction word generalizing cs with
  | nil => simp [afterLetters?, Letters, eq_comm]
  | cons w word ih =>
    cases cs with
    | nil => simp [afterLetters?, Letters]
    | cons c cs =>
      by_cases h : c.toLower = w
      · rw [afterLetters?, if_pos h, ih]
        constructor
        · rintro ⟨letters, hletters, rfl⟩
          exact ⟨c :: letters, by simp [h, hletters], rfl⟩
        · rintro ⟨letters, hletters, he⟩
          cases letters with
          | nil => cases hletters
          | cons c' letters =>
            obtain ⟨rfl, rfl⟩ := List.cons.inj he
            exact ⟨letters, (List.cons.inj hletters).2, rfl⟩
      · rw [afterLetters?, if_neg h]
        constructor
        · nofun
        · rintro ⟨letters, hletters, he⟩
          cases letters with
          | nil => cases hletters
          | cons c' letters =>
            obtain ⟨rfl, rfl⟩ := List.cons.inj he
            exact absurd (List.cons.inj hletters).1 h

theorem afterLetters?_eq_none_of_head {w : Char} {word cs : List Char}
    (h : ∀ c, cs.head? = some c → c.toLower ≠ w) : afterLetters? (w :: word) cs = none := by
  cases cs with
  | nil => rfl
  | cons c cs => rw [afterLetters?, if_neg (h c rfl)]

/-- A character with a given small letter is that letter or its capital. -/
theorem eq_or_eq_toUpper {c w : Char} (h : c.toLower = w) : c = w ∨ c = w.toUpper := by
  subst h
  delta Char.toLower Char.toUpper
  by_cases hc : c.val ≥ 'A'.val ∧ c.val ≤ 'Z'.val
  · right
    have hval : 65 ≤ c.val.toNat ∧ c.val.toNat ≤ 90 := by
      simpa [UInt32.le_iff_toNat_le] using hc
    have hlower : (c.val + ('a'.val - 'A'.val)).toNat = c.val.toNat + 32 := by
      rw [UInt32.toNat_add, show ('a'.val - 'A'.val).toNat = 32 from rfl]
      omega
    rw [dif_pos hc, dif_pos]
    · rw [Char.ext_iff, ← UInt32.toNat_inj, UInt32.toNat_add, hlower,
        show ('A'.val - 'a'.val).toNat = 4294967264 from rfl]
      omega
    · rw [UInt32.le_iff_toNat_le, UInt32.le_iff_toNat_le, hlower,
        show 'a'.val.toNat = 97 from rfl, show 'z'.val.toNat = 122 from rfl]
      omega
  · left
    rw [dif_neg hc]

theorem Letters.exists_cons {w : Char} {word cs rest : List Char}
    (h : Letters (w :: word) cs rest) :
    ∃ c tail, (c = w ∨ c = w.toUpper) ∧ cs = c :: tail ∧ Letters word tail rest := by
  obtain ⟨letters, hletters, rfl⟩ := h
  cases letters with
  | nil => cases hletters
  | cons c letters =>
    obtain ⟨hc, hword⟩ := List.cons.inj hletters
    exact ⟨c, letters ++ rest, eq_or_eq_toUpper hc, rfl, letters, hword, rfl⟩

theorem keyword?_eq_some_iff {word cs rest : List Char} :
    keyword? word cs = some rest ↔ Keyword word cs rest := by
  have hstarts : (!startsIdent rest) = true ↔ ∀ c, rest.head? = some c → isIdentChar c = false := by
    cases rest <;> simp [startsIdent]
  rw [keyword?, Option.filter_eq_some_iff, afterLetters?_eq_some_iff, hstarts, Keyword]

theorem keyword?_eq_none_of_head {w : Char} {word cs : List Char}
    (h : ∀ c, cs.head? = some c → c.toLower ≠ w) : keyword? (w :: word) cs = none := by
  rw [keyword?, afterLetters?_eq_none_of_head h]
  rfl

theorem Letters.suffix {word cs rest : List Char} (h : Letters word cs rest) : rest <:+ cs := by
  obtain ⟨letters, -, rfl⟩ := h
  exact List.suffix_append letters rest

theorem Letters.behind {w : Char} {word cs rest : List Char} (h : Letters (w :: word) cs rest) :
    Behind cs rest := by
  obtain ⟨c, tail, -, rfl, hword⟩ := h.exists_cons
  exact .cons hword.suffix

theorem identifier?_eq_some_iff {name : String} {cs rest : List Char} :
    identifier? cs = some (name, rest) ↔ Identifier name cs rest := by
  obtain ⟨text, rest', hspan, hcs, htext, hrest⟩ := exists_span isIdentChar cs
  rw [Identifier, longest_run_iff, identifier?, hspan]
  constructor
  · intro h
    cases text with
    | nil => cases h
    | cons c text =>
      cases h
      exact ⟨by simpa using hcs, by simp, by simpa using htext, hrest⟩
  · rintro ⟨he, hne, hall, hhead⟩
    have hsame := span_append hall hhead
    rw [← he, hspan] at hsame
    cases hsame
    simp [hne]

theorem upTo?_eq_some_iff {quote : Char} {text : String} {cs rest : List Char} :
    upTo? quote cs = some (text, rest) ↔
      quote ∉ text.toList ∧ cs = text.toList ++ quote :: rest := by
  obtain ⟨before, rest', hspan, hcs, hbefore, hrest⟩ := exists_span (· != quote) cs
  rw [upTo?, hspan]
  constructor
  · intro h
    cases rest' with
    | nil => cases h
    | cons c rest' =>
      cases h
      have hc : c = quote := by simpa using hrest c rfl
      refine ⟨fun hmem => ?_, by simpa [hc] using hcs⟩
      rw [String.toList_ofList] at hmem
      exact absurd (List.all_eq_true.mp hbefore quote hmem) (by simp)
  · rintro ⟨hmem, he⟩
    have hall : text.toList.all (· != quote) = true :=
      List.all_eq_true.mpr fun c hc => bne_iff_ne.mpr fun h => hmem (h ▸ hc)
    have hsame : (text.toList ++ quote :: rest).span (· != quote) = (text.toList, quote :: rest) :=
      span_append hall (by simp)
    rw [← he, hspan] at hsame
    cases hsame
    simp

theorem quoted?_eq_some_iff {text : String} {cs rest : List Char} :
    quoted? cs = some (text, rest) ↔ Quoted text cs rest := by
  unfold quoted?
  split
  · simp [Quoted, QuotedBy, upTo?_eq_some_iff]
  · simp [Quoted, QuotedBy, upTo?_eq_some_iff]
  · rename_i hsingle hdouble
    simp only [Quoted, QuotedBy, reduceCtorEq, false_iff, not_or, not_and]
    exact ⟨fun _ h => hsingle _ h, fun _ h => hdouble _ h⟩

end ApiCatalog.Condition.Grammar
