import ApiCatalog.Proofs.Condition.Tokens

/-! # Reading references

The readers of paths and of references to the profile find what the grammar says. A reference to
the profile is read as far as its steps go.
-/

namespace ApiCatalog.Condition.Grammar

open Condition.Parser

/-- A reader repeated for as long as it goes finds a chain of steps behind which there is none. -/
theorem many_eq_iff {form : List Char → Option (String × List Char)}
    {Step : String → List Char → List Char → Prop}
    (hform : ∀ {name cs rest}, form cs = some (name, rest) ↔ Step name cs rest)
    (hbehind : ∀ {name cs rest}, Step name cs rest → Behind cs rest) {n : Nat}
    {cs : List Char} (hn : cs.length ≤ n) {names : List String} {rest : List Char} :
    many form n cs = (names, rest) ↔ Steps Step names cs rest ∧ form rest = none := by
  have hnil : form [] = none := by
    cases h : form [] with
    | none => rfl
    | some found => exact absurd (hbehind (hform.mp h)).length_lt (Nat.not_lt_zero _)
  induction n generalizing cs names with
  | zero =>
    obtain rfl := List.eq_nil_of_length_eq_zero (Nat.le_zero.mp hn)
    constructor
    · rintro ⟨⟩
      exact ⟨.nil [], hnil⟩
    · rintro ⟨hsteps, -⟩
      cases hsteps with
      | nil => rfl
      | cons hstep => exact absurd (hbehind hstep).length_lt (Nat.not_lt_zero _)
  | succ n ih =>
    rw [many]
    cases h : form cs with
    | none =>
      constructor
      · rintro ⟨⟩
        exact ⟨.nil _, h⟩
      · rintro ⟨hsteps, -⟩
        cases hsteps with
        | nil => rfl
        | cons hstep => exact absurd (hform.mpr hstep) (by simp [h])
    | some found =>
      obtain ⟨name, mid⟩ := found
      have hlt := (hbehind (hform.mp h)).length_lt
      have hrest : ∀ {names}, many form n mid = (names, rest) ↔
          Steps Step names mid rest ∧ form rest = none := ih (by omega)
      constructor
      · rintro ⟨⟩
        obtain ⟨hsteps, hlast⟩ := hrest.mp rfl
        exact ⟨.cons (hform.mp h) hsteps, hlast⟩
      · rintro ⟨hsteps, hlast⟩
        cases hsteps with
        | nil => exact absurd h (by simp [hlast])
        | cons hstep hsteps =>
          obtain ⟨rfl, rfl⟩ := Prod.mk.inj (Option.some.inj (h.symm.trans (hform.mpr hstep)))
          simp [hrest.mpr ⟨hsteps, hlast⟩]

theorem Spaced.dropSpace_cons {cs rest : List Char} {c : Char} (h : Spaced cs (c :: rest))
    (hc : isSpace c = false) : dropSpace cs = c :: rest :=
  h.dropSpace_eq fun _ hd => Option.some.inj hd ▸ hc

theorem after1?_dropSpace_iff {c : Char} (hc : isSpace c = false) {cs rest : List Char} :
    after1? c (dropSpace cs) = some rest ↔ Spaced cs (c :: rest) := by
  rw [after1?_eq_some_iff]
  exact ⟨fun h => h ▸ spaced_dropSpace cs, fun h => h.dropSpace_cons hc⟩

theorem after?_dropSpace_iff {c : Char} (hc : isSpace c = false) {word cs rest : List Char} :
    after? (c :: word) (dropSpace cs) = some rest ↔ Spaced cs (c :: word ++ rest) := by
  rw [after?_eq_some_iff]
  exact ⟨fun h => h ▸ spaced_dropSpace cs, fun h => h.dropSpace_cons hc⟩

theorem Quoted.exists_cons {text : String} {cs rest : List Char} (h : Quoted text cs rest) :
    ∃ quote tail, (quote = '\'' ∨ quote = '"') ∧ cs = quote :: tail := by
  rcases h with ⟨-, h⟩ | ⟨-, h⟩
  · exact ⟨_, _, Or.inl rfl, h⟩
  · exact ⟨_, _, Or.inr rfl, h⟩

theorem quoted?_dropSpace_iff {text : String} {cs rest : List Char} :
    quoted? (dropSpace cs) = some (text, rest) ↔ ∃ cs', Spaced cs cs' ∧ Quoted text cs' rest := by
  rw [quoted?_eq_some_iff]
  constructor
  · exact fun h => ⟨_, spaced_dropSpace cs, h⟩
  · rintro ⟨cs', hspaced, h⟩
    obtain ⟨quote, tail, hquote, rfl⟩ := h.exists_cons
    rwa [hspaced.dropSpace_cons (by rcases hquote with rfl | rfl <;> rfl)]

theorem Identifier.behind {name : String} {cs rest : List Char} (h : Identifier name cs rest) :
    Behind cs rest := by
  obtain ⟨rfl, ⟨hne, -⟩, -⟩ := h
  exact .append rest hne

theorem QuotedBy.behind {quote : Char} {text : String} {cs rest : List Char}
    (h : QuotedBy quote text cs rest) : Behind cs rest := by
  obtain ⟨-, rfl⟩ := h
  exact .cons ((List.suffix_cons quote rest).trans (List.suffix_append _ _))

theorem PathStep.behind {name : String} {cs rest : List Char} (h : PathStep name cs rest) :
    Behind cs rest := by
  cases h with
  | dot h => exact .cons h.behind.suffix
  | bracket h => exact .cons ((List.suffix_cons ']' rest).trans h.behind.suffix)

theorem pathStep?_eq_some_iff {name : String} {cs rest : List Char} :
    pathStep? cs = some (name, rest) ↔ PathStep name cs rest := by
  unfold pathStep?
  split
  · rename_i cs
    rw [identifier?_eq_some_iff]
    exact ⟨.dot, fun h => by cases h; assumption⟩
  · rename_i cs
    simp only [Option.bind_eq_bind, Option.bind_eq_some_iff, Prod.exists, upTo?_eq_some_iff]
    constructor
    · rintro ⟨text, rest', htext, h⟩
      split at h
      · rename_i rest''
        cases h
        exact .bracket ⟨htext.1, congrArg _ htext.2⟩
      · cases h
    · rintro (_ | ⟨hmem, he⟩)
      exact ⟨name, ']' :: rest, ⟨hmem, (List.cons.inj he).2⟩, rfl⟩
  · rename_i hdot hbracket
    simp only [reduceCtorEq, false_iff]
    rintro (_ | ⟨-, rfl⟩)
    · exact hdot _ rfl
    · exact hbracket _ rfl

theorem isBlank_of_isIdentChar {c : Char} (h : isIdentChar c = true) : Text.isBlank c = false := by
  have hall : ∀ n ∈ [9, 10, 11, 12, 13, 0x20, 0x85, 0xa0, 0x1680, 0x2000, 0x2001, 0x2002, 0x2003,
      0x2004, 0x2005, 0x2006, 0x2007, 0x2008, 0x2009, 0x200a, 0x2028, 0x2029, 0x202f, 0x205f,
      0x3000], isIdentChar (Char.ofNat n) = false := by
    decide +kernel
  rw [Bool.eq_false_iff]
  intro hblank
  rw [← Char.ofNat_toNat c, hall] at h
  · cases h
  · simp only [Text.isBlank, Text.isBlankCode, Bool.or_eq_true, Bool.and_eq_true,
      decide_eq_true_eq, beq_iff_eq] at hblank
    simp only [List.mem_cons, List.not_mem_nil, or_false]
    omega

theorem PathStep.isBlank_last {name : String} {cs rest : List Char} (h : PathStep name cs rest) :
    ∃ text c, cs = text ++ c :: rest ∧ Text.isBlank c = false := by
  cases h with
  | dot h =>
    obtain ⟨rfl, ⟨hne, hall⟩, -⟩ := h
    obtain ⟨init, c, he⟩ := (List.eq_nil_or_concat name.toList).resolve_left hne
    rw [List.concat_eq_append] at he
    refine ⟨'.' :: init, c, by simp [he], isBlank_of_isIdentChar ?_⟩
    exact List.all_eq_true.mp hall c (by simp [he])
  | bracket h =>
    obtain ⟨-, rfl⟩ := h
    exact ⟨'[' :: '\'' :: (name.toList ++ ['\'']), ']', by simp, rfl⟩

theorem Steps.isBlank_last {path : List String} {cs rest : List Char}
    (h : Steps PathStep path cs rest) :
    cs = rest ∨ ∃ text c, cs = text ++ c :: rest ∧ Text.isBlank c = false := by
  induction h with
  | nil => exact Or.inl rfl
  | cons hstep _ ih =>
    obtain ⟨text, c, rfl, hc⟩ := hstep.isBlank_last
    rcases ih with rfl | ⟨text', c', rfl, hc'⟩
    · exact Or.inr ⟨text, c, rfl, hc⟩
    · exact Or.inr ⟨text ++ c :: text', c', by simp, hc'⟩

theorem Steps.trimmed {path : List String} {cs : List Char} (h : Steps PathStep path cs []) :
    Text.Trimmed ('$' :: cs) where
  head c hc := Option.some.inj hc ▸ rfl
  last c hc := by
    rcases h.isBlank_last with rfl | ⟨text, d, rfl, hd⟩
    · exact Option.some.inj hc ▸ rfl
    · rw [← List.cons_append, List.getLast?_concat] at hc
      exact Option.some.inj hc ▸ hd

theorem jsonPath?_eq_some_iff {text : String} {path : List String} :
    jsonPath? text = some path ↔ PathText path text := by
  have hmany : ∀ cs, many pathStep? cs.length cs = (path, []) ↔ Steps PathStep path cs [] := by
    intro cs
    rw [many_eq_iff pathStep?_eq_some_iff PathStep.behind (Nat.le_refl _)]
    exact and_iff_left rfl
  unfold jsonPath?
  constructor
  · intro h
    split at h
    · rename_i cs htrim
      split at h
      · rename_i names hnames
        cases h
        obtain ⟨before, after, hbefore, hafter, htext, -⟩ := Text.exists_trimChars text.toList
        exact ⟨before, cs, after, hbefore, hafter, htrim ▸ htext, (hmany cs).mp hnames⟩
      · cases h
    · cases h
  · rintro ⟨before, steps, after, hbefore, hafter, htext, hsteps⟩
    rw [htext, Text.trimChars_append hbefore hafter hsteps.trimmed]
    simp [(hmany steps).mpr hsteps]

theorem pathReference?_eq_some_iff {path : List String} {cs rest : List Char} :
    pathReference? cs = some (path, rest) ↔
      ∃ text cs₀ cs₁ cs₂ cs₃ cs₄ cs₅,
        cs = ['#', 'j', 's', 'o', 'n', 'P', 'a', 't', 'h'] ++ cs₀ ∧ Spaced cs₀ ('(' :: cs₁) ∧
        Spaced cs₁ (['#', 'p', 'r', 'o', 'f', 'i', 'l', 'e'] ++ cs₂) ∧ Spaced cs₂ (',' :: cs₃) ∧
        Spaced cs₃ cs₄ ∧ Quoted text cs₄ cs₅ ∧ Spaced cs₅ (')' :: rest) ∧ PathText path text := by
  unfold pathReference?
  simp only [Option.bind_eq_bind, Option.bind_eq_some_iff, Prod.exists, after?_eq_some_iff,
    after1?_dropSpace_iff (c := '(') rfl, after?_dropSpace_iff (c := '#') rfl,
    after1?_dropSpace_iff (c := ',') rfl, quoted?_dropSpace_iff,
    after1?_dropSpace_iff (c := ')') rfl, jsonPath?_eq_some_iff]
  constructor
  · rintro ⟨cs₀, h₀, cs₁, h₁, cs₂, h₂, cs₃, h₃, text, cs₅, ⟨cs₄, h₄, htext⟩, rest', h₅, path', hpath,
      ⟨⟩⟩
    exact ⟨text, cs₀, cs₁, cs₂, cs₃, cs₄, cs₅, h₀, h₁, h₂, h₃, h₄, htext, h₅, hpath⟩
  · rintro ⟨text, cs₀, cs₁, cs₂, cs₃, cs₄, cs₅, h₀, h₁, h₂, h₃, h₄, htext, h₅, hpath⟩
    exact ⟨cs₀, h₀, cs₁, h₁, cs₂, h₂, cs₃, h₃, text, cs₅, ⟨cs₄, h₄, htext⟩, rest, h₅, path, hpath,
      rfl⟩

theorem Quoted.behind {text : String} {cs rest : List Char} (h : Quoted text cs rest) :
    Behind cs rest := by
  rcases h with h | h
  · exact h.behind
  · exact h.behind

theorem ProfileStep.behind {name : String} {cs rest : List Char} (h : ProfileStep name cs rest) :
    Behind cs rest := by
  cases h with
  | dot h => exact .cons h.behind.suffix
  | bracket h₁ h₂ h₃ =>
    exact .cons (h₃.behind.suffix.trans (h₂.behind.suffix.trans h₁.suffix))

theorem profileStep?_eq_some_iff {name : String} {cs rest : List Char} :
    profileStep? cs = some (name, rest) ↔ ProfileStep name cs rest := by
  unfold profileStep?
  split
  · rename_i cs
    rw [identifier?_eq_some_iff]
    exact ⟨.dot, fun h => by cases h; assumption⟩
  · rename_i cs
    simp only [Option.bind_eq_bind, Option.bind_eq_some_iff, Prod.exists, quoted?_dropSpace_iff,
      after1?_dropSpace_iff (c := ']') rfl]
    constructor
    · rintro ⟨text, cs₂, ⟨cs₁, h₁, h₂⟩, rest', h₃, ⟨⟩⟩
      exact .bracket h₁ h₂ h₃
    · rintro (_ | ⟨h₁, h₂, h₃⟩)
      exact ⟨name, _, ⟨_, h₁, h₂⟩, rest, h₃, rfl⟩
  · rename_i hdot hbracket
    simp only [reduceCtorEq, false_iff]
    rintro (_ | _)
    · exact hdot _ rfl
    · exact hbracket _ rfl

theorem profileReference?_eq_some_iff {path : List String} {cs rest : List Char} :
    profileReference? cs = some (path, rest) ↔
      ∃ mid, Keyword ['p', 'r', 'o', 'f', 'i', 'l', 'e'] (dropHash cs) mid ∧
        Steps ProfileStep path mid rest ∧ profileStep? rest = none := by
  simp only [profileReference?, Option.bind_eq_bind, Option.bind_eq_some_iff,
    keyword?_eq_some_iff, Option.pure_def, Option.some.injEq]
  refine exists_congr fun mid => and_congr_right fun _ => ?_
  exact many_eq_iff profileStep?_eq_some_iff ProfileStep.behind (Nat.le_refl _)

end ApiCatalog.Condition.Grammar
