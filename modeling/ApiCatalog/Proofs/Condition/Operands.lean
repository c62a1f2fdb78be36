import ApiCatalog.Proofs.Condition.Numbers
import ApiCatalog.Proofs.Condition.References

/-! # Reading operands

What the reader of operands finds is an operand, and it finds every operand behind which a formula
can go on. The forms of operands differ in their first characters, so that the order in which they
are tried does not matter.
-/

namespace ApiCatalog.Condition.Grammar

open Condition.Parser

theorem exists_hash (cs : List Char) :
    ∃ hash, (hash = [] ∨ hash = ['#']) ∧ cs = hash ++ dropHash cs := by
  unfold dropHash
  split
  · exact ⟨['#'], .inr rfl, rfl⟩
  · exact ⟨[], .inl rfl, rfl⟩

theorem reference_of_pathReference? {path : List String} {cs rest : List Char}
    (h : pathReference? cs = some (path, rest)) : Reference path cs rest := by
  obtain ⟨text, cs₀, cs₁, cs₂, cs₃, cs₄, cs₅, rfl, h₀, h₁, h₂, h₃, h₄, h₅, hpath⟩ :=
    pathReference?_eq_some_iff.mp h
  exact .jsonPath h₀ h₁ h₂ h₃ h₄ h₅ hpath

theorem reference_of_profileReference? {path : List String} {cs rest : List Char}
    (h : profileReference? cs = some (path, rest)) : Reference path cs rest := by
  obtain ⟨mid, hword, hsteps, -⟩ := profileReference?_eq_some_iff.mp h
  obtain ⟨hash, hhash, hcs⟩ := exists_hash cs
  rw [hcs]
  exact .profile hhash hword hsteps

theorem literal_of_word? {value : Json} {cs rest : List Char} (h : word? cs = some (value, rest)) :
    Literal value cs rest := by
  simp only [word?, Option.orElse_eq_some, Option.map_eq_some_iff, Prod.mk.injEq,
    keyword?_eq_some_iff] at h
  rcases h with ⟨_, h, rfl, rfl⟩ | ⟨-, ⟨_, h, rfl, rfl⟩ | ⟨-, _, h, rfl, rfl⟩⟩
  · exact .true h
  · exact .false h
  · exact .null h

theorem readsOperand_of_simpleOperand? {o : Operand} {cs rest : List Char}
    (h : simpleOperand? cs = some (o, rest)) : ReadsOperand o cs rest := by
  simp only [simpleOperand?, Option.orElse_eq_some, Option.map_eq_some_iff, Prod.exists,
    Prod.mk.injEq] at h
  rcases h with ⟨_, _, h, rfl, rfl⟩ | ⟨-, ⟨_, _, h, rfl, rfl⟩ |
    ⟨-, ⟨_, _, h, rfl, rfl⟩ | ⟨-, _, _, h, rfl, rfl⟩⟩⟩
  · exact .profile (reference_of_pathReference? h)
  · exact .profile (reference_of_profileReference? h)
  · exact .literal (.text (quoted?_eq_some_iff.mp h))
  · exact .literal (literal_of_word? h)

theorem readsOperand_of_operand {o : Operand} {cs rest : List Char}
    (h : operand cs = .done o rest) : ReadsOperand o cs rest := by
  rcases Outcome.orElse_eq_done_iff.mp h with h | ⟨-, h⟩
  · exact readsOperand_of_simpleOperand? (Outcome.ofOption_eq_done_iff.mp h)
  · obtain ⟨value, hnumber, rfl⟩ := Outcome.map_eq_done_iff.mp h
    exact .literal (.number (number_eq_done hnumber))

/-- White space aside, the text ends or goes on with one of some characters. -/
def FollowedBy (heads cs : List Char) : Prop := ∀ c, (dropSpace cs).head? = some c → c ∈ heads

theorem FollowedBy.mono {heads heads' cs : List Char} (h : FollowedBy heads cs)
    (hsub : heads ⊆ heads') : FollowedBy heads' cs := fun c hc => hsub (h c hc)

theorem Spaced.followedBy {heads cs rest : List Char} {c : Char} (h : Spaced cs (c :: rest))
    (hc : isSpace c = false) (hmem : c ∈ heads) : FollowedBy heads cs := by
  intro d hd
  rw [h.dropSpace_cons hc] at hd
  exact Option.some.inj hd ▸ hmem

theorem FollowedBy.head {heads cs : List Char} (h : FollowedBy heads cs) {c : Char}
    (hc : cs.head? = some c) : isSpace c = true ∨ c ∈ heads := by
  obtain ⟨rest, rfl⟩ := List.head?_eq_some_iff.mp hc
  cases hspace : isSpace c with
  | true => exact .inl rfl
  | false => exact .inr (h c (by rw [(Spaced.refl _).dropSpace_cons hspace]; rfl))

def afterExpr : List Char := [')']

def afterAnd : List Char := '|' :: 'o' :: 'O' :: afterExpr

def afterUnary : List Char := '&' :: 'a' :: 'A' :: afterAnd

def afterReadOperand : List Char := '=' :: '!' :: afterUnary

theorem FollowedBy.ne_operand {rest : List Char} (h : FollowedBy afterReadOperand rest) {c : Char}
    (hc : rest.head? = some c) : c ≠ 'e' ∧ c ≠ 'E' ∧ c ≠ '.' ∧ c ≠ '[' := by
  have hhead := h.head hc
  refine ⟨?_, ?_, ?_, ?_⟩ <;> rintro rfl <;> revert hhead <;> decide

theorem profileStep?_eq_none {cs : List Char} (h : ∀ c, cs.head? = some c → c ≠ '.' ∧ c ≠ '[') :
    profileStep? cs = none := by
  unfold profileStep?
  split
  · exact absurd rfl (h _ rfl).1
  · exact absurd rfl (h _ rfl).2
  · rfl

theorem Keyword.exists_cons {w : Char} {word cs rest : List Char}
    (h : Keyword (w :: word) cs rest) : ∃ tail, cs = w :: tail ∨ cs = w.toUpper :: tail := by
  obtain ⟨c, tail, rfl | rfl, rfl, -⟩ := h.1.exists_cons
  · exact ⟨tail, .inl rfl⟩
  · exact ⟨tail, .inr rfl⟩

theorem Reference.simpleOperand?_eq {path : List String} {cs rest : List Char}
    (h : Reference path cs rest) (hrest : FollowedBy afterReadOperand rest) :
    simpleOperand? cs = some (.profile path, rest) := by
  cases h with
  | jsonPath h₀ h₁ h₂ h₃ h₄ h₅ hpath =>
    have hread := pathReference?_eq_some_iff.mpr
      ⟨_, _, _, _, _, _, _, rfl, h₀, h₁, h₂, h₃, h₄, h₅, hpath⟩
    simp only [simpleOperand?, hread]
    rfl
  | @profile hash cs mid _ hhash hword hsteps =>
    have hend : profileStep? rest = none := profileStep?_eq_none fun c hc =>
      ⟨(hrest.ne_operand hc).2.2.1, (hrest.ne_operand hc).2.2.2⟩
    obtain ⟨tail, hcs⟩ := hword.exists_cons
    have hdrop : dropHash (hash ++ cs) = cs := by
      rcases hhash with rfl | rfl
      · rcases hcs with rfl | rfl <;> rfl
      · rfl
    have hnone : pathReference? (hash ++ cs) = none := by
      rcases hhash with rfl | rfl <;> rcases hcs with rfl | rfl <;> rfl
    have hread : profileReference? (hash ++ cs) = some (path, rest) :=
      profileReference?_eq_some_iff.mpr ⟨mid, by rwa [hdrop], hsteps, hend⟩
    simp only [simpleOperand?, hnone, hread]
    rfl

theorem simpleOperand?_of_quoted {text : String} {cs rest : List Char} (h : Quoted text cs rest) :
    simpleOperand? cs = some (.literal (.str text), rest) := by
  have hread := quoted?_eq_some_iff.mpr h
  have hnone : pathReference? cs = none ∧ profileReference? cs = none := by
    obtain ⟨_, tail, rfl | rfl, rfl⟩ := h.exists_cons <;> exact ⟨rfl, rfl⟩
  simp only [simpleOperand?, hnone, hread]
  rfl

theorem simpleOperand?_of_word {value : Json} {w : Char} {word cs rest : List Char}
    (h : Keyword (w :: word) cs rest) (hw : w = 't' ∨ w = 'f' ∨ w = 'n')
    (hread : word? cs = some (value, rest)) : simpleOperand? cs = some (.literal value, rest) := by
  have hnone : pathReference? cs = none ∧ profileReference? cs = none ∧ quoted? cs = none := by
    obtain ⟨tail, rfl | rfl⟩ := h.exists_cons <;> rcases hw with rfl | rfl | rfl <;>
      exact ⟨rfl, rfl, rfl⟩
  simp only [simpleOperand?, hnone, hread]
  rfl

theorem word?_of_true {cs rest : List Char} (h : Keyword ['t', 'r', 'u', 'e'] cs rest) :
    word? cs = some (.bool true, rest) := by
  simp only [word?, keyword?_eq_some_iff.mpr h]
  rfl

theorem word?_of_false {cs rest : List Char} (h : Keyword ['f', 'a', 'l', 's', 'e'] cs rest) :
    word? cs = some (.bool false, rest) := by
  have hnone : keyword? ['t', 'r', 'u', 'e'] cs = none := by
    obtain ⟨tail, rfl | rfl⟩ := h.exists_cons <;> rfl
  simp only [word?, keyword?_eq_some_iff.mpr h, hnone]
  rfl

theorem word?_of_null {cs rest : List Char} (h : Keyword ['n', 'u', 'l', 'l'] cs rest) :
    word? cs = some (.null, rest) := by
  have hnone : keyword? ['t', 'r', 'u', 'e'] cs = none ∧
      keyword? ['f', 'a', 'l', 's', 'e'] cs = none := by
    obtain ⟨tail, rfl | rfl⟩ := h.exists_cons <;> exact ⟨rfl, rfl⟩
  simp only [word?, keyword?_eq_some_iff.mpr h, hnone]
  rfl

theorem toLower_ne_of_number {c w : Char}
    (hc : isDigit c = true ∨ c = '+' ∨ c = '-' ∨ c = '.') (hw : w ∈ ['p', 't', 'f', 'n']) :
    c.toLower ≠ w := by
  simp only [List.mem_cons, List.not_mem_nil, or_false] at hw
  intro h
  rcases eq_or_eq_toUpper h with rfl | rfl <;> rcases hw with rfl | rfl | rfl | rfl <;>
    revert hc <;> decide

theorem simpleOperand?_eq_none {c : Char} (cs : List Char)
    (hc : isDigit c = true ∨ c = '+' ∨ c = '-' ∨ c = '.') : simpleOperand? (c :: cs) = none := by
  have hne : c ≠ '#' ∧ c ≠ '\'' ∧ c ≠ '"' := by
    refine ⟨?_, ?_, ?_⟩ <;> rintro rfl <;> revert hc <;> decide
  have hword : ∀ {w word}, w ∈ ['p', 't', 'f', 'n'] → keyword? (w :: word) (c :: cs) = none :=
    fun hw => keyword?_eq_none_of_head (by rintro d ⟨⟩; exact toLower_ne_of_number hc hw)
  have hpath : pathReference? (c :: cs) = none := by
    simp only [pathReference?, after?, if_neg hne.1]
    rfl
  have hdrop : dropHash (c :: cs) = c :: cs := by
    unfold dropHash
    split
    · rename_i he
      exact absurd (List.cons.inj he).1 hne.1
    · rfl
  have hprofile : profileReference? (c :: cs) = none := by
    rw [profileReference?, hdrop, hword (by simp)]
    rfl
  have hquoted : quoted? (c :: cs) = none := by
    unfold quoted?
    split
    · rename_i he
      exact absurd (List.cons.inj he).1 hne.2.1
    · rename_i he
      exact absurd (List.cons.inj he).1 hne.2.2
    · rfl
  have hwords : word? (c :: cs) = none := by
    rw [word?, hword (by simp), hword (by simp), hword (by simp)]
    rfl
  rw [simpleOperand?, hpath, hprofile, hquoted, hwords]
  rfl

theorem simpleOperand?_of_number {value : Json} {cs rest : List Char} (h : Number value cs rest) :
    simpleOperand? cs = none := by
  cases h with
  | decimal h _ =>
    obtain ⟨c, tail, rfl, hc⟩ := h.exists_cons
    exact simpleOperand?_eq_none _ hc
  | nan h =>
    obtain ⟨_, _, hn, rfl, hrest⟩ := h.exists_cons
    obtain ⟨_, _, ha, rfl, -⟩ := hrest.exists_cons
    rcases hn with rfl | rfl <;> rcases ha with rfl | rfl <;> rfl
  | inf h =>
    obtain ⟨_, tail, rfl | rfl, rfl, -⟩ := h.exists_cons <;> rfl

theorem ReadsOperand.operand_eq {o : Operand} {cs rest : List Char} (h : ReadsOperand o cs rest)
    (hrest : FollowedBy afterReadOperand rest) : operand cs = .done o rest := by
  have hsimple : simpleOperand? cs = some (o, rest) → operand cs = .done o rest := fun h => by
    rw [operand, h]
    rfl
  cases h with
  | profile h => exact hsimple (h.simpleOperand?_eq hrest)
  | literal h =>
    cases h with
    | text h => exact hsimple (simpleOperand?_of_quoted h)
    | true h => exact hsimple (simpleOperand?_of_word h (.inl rfl) (word?_of_true h))
    | false h => exact hsimple (simpleOperand?_of_word h (.inr (.inl rfl)) (word?_of_false h))
    | null h => exact hsimple (simpleOperand?_of_word h (.inr (.inr rfl)) (word?_of_null h))
    | number h =>
      rw [operand, simpleOperand?_of_number h, h.number_eq fun c hc =>
        ⟨(hrest.ne_operand hc).1, (hrest.ne_operand hc).2.1⟩]
      rfl

def OperandStart (cs : List Char) : Prop :=
  ∃ c tail, cs = c :: tail ∧ isSpace c = false ∧ c ≠ '!' ∧ c ≠ '(' ∧
    keyword? ['n', 'o', 't'] cs = none

theorem Reference.operandStart {path : List String} {cs rest : List Char}
    (h : Reference path cs rest) : OperandStart cs := by
  cases h with
  | jsonPath => exact ⟨_, _, rfl, rfl, by decide, by decide, rfl⟩
  | profile hhash hword _ =>
    rcases hhash with rfl | rfl
    · obtain ⟨tail, rfl | rfl⟩ := hword.exists_cons <;>
        exact ⟨_, _, rfl, rfl, by decide, by decide, rfl⟩
    · exact ⟨_, _, rfl, rfl, by decide, by decide, rfl⟩

theorem Number.operandStart {value : Json} {cs rest : List Char} (h : Number value cs rest) :
    OperandStart cs := by
  cases h with
  | decimal h _ =>
    obtain ⟨c, tail, rfl, hc⟩ := h.exists_cons
    refine ⟨c, _, rfl, ?_, ?_, ?_, keyword?_eq_none_of_head ?_⟩
    · rw [Bool.eq_false_iff]
      intro hspace
      simp only [isSpace, Bool.or_eq_true, beq_iff_eq] at hspace
      rcases hspace with ((rfl | rfl) | rfl) | rfl <;> revert hc <;> decide
    · rintro rfl
      revert hc
      decide
    · rintro rfl
      revert hc
      decide
    · rintro d ⟨⟩
      exact toLower_ne_of_number hc (by simp)
  | nan h =>
    obtain ⟨_, _, hn, rfl, hrest⟩ := h.exists_cons
    obtain ⟨_, _, ha, rfl, -⟩ := hrest.exists_cons
    rcases hn with rfl | rfl <;> rcases ha with rfl | rfl <;>
      exact ⟨_, _, rfl, rfl, by decide, by decide, rfl⟩
  | inf h =>
    obtain ⟨_, _, rfl | rfl, rfl, -⟩ := h.exists_cons <;>
      exact ⟨_, _, rfl, rfl, by decide, by decide, rfl⟩

theorem Literal.operandStart {value : Json} {cs rest : List Char} (h : Literal value cs rest) :
    OperandStart cs := by
  cases h with
  | text h =>
    obtain ⟨_, _, rfl | rfl, rfl⟩ := h.exists_cons <;>
      exact ⟨_, _, rfl, rfl, by decide, by decide, rfl⟩
  | true h | false h =>
    obtain ⟨_, rfl | rfl⟩ := h.exists_cons <;>
      exact ⟨_, _, rfl, rfl, by decide, by decide, rfl⟩
  | null h =>
    obtain ⟨_, _, hn, rfl, hrest⟩ := h.1.exists_cons
    obtain ⟨_, _, hu, rfl, -⟩ := hrest.exists_cons
    rcases hn with rfl | rfl <;> rcases hu with rfl | rfl <;>
      exact ⟨_, _, rfl, rfl, by decide, by decide, rfl⟩
  | number h => exact h.operandStart

theorem ReadsOperand.operandStart {o : Operand} {cs rest : List Char} (h : ReadsOperand o cs rest) :
    OperandStart cs := by
  cases h with
  | profile h => exact h.operandStart
  | literal h => exact h.operandStart

end ApiCatalog.Condition.Grammar
