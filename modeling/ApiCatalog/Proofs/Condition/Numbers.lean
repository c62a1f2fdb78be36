import ApiCatalog.Proofs.Condition.Tokens
import Mathlib.Data.Option.Basic

/-! # Reading numbers

The reader of decimal numbers finds the longest one. The only text on which it finds none although
there is one is that of a number before a mark that has no exponent.
-/

namespace ApiCatalog.Condition.Grammar

open Condition.Parser
open Text (span_append exists_span)

/-- Among the texts of a kind with which a text starts there is a longest one. -/
theorem exists_longest {kind : List Char → Prop} {text : List Char} (h : kind text)
    (rest : List Char) :
    ∃ text' rest', text ++ rest = text' ++ rest' ∧ Longest kind text' rest' := by
  induction hn : rest.length using Nat.strongRecOn generalizing text rest with
  | ind n ih =>
    by_cases hlongest : Longest kind text rest
    · exact ⟨text, rest, rfl, hlongest⟩
    · obtain ⟨text', rest', he, hkind, hlt⟩ : ∃ text' rest', text ++ rest = text' ++ rest' ∧
          kind text' ∧ text.length < text'.length := by
        by_contra hnone
        refine hlongest ⟨h, fun text' rest' he hkind => Nat.le_of_not_lt fun hlt => ?_⟩
        exact hnone ⟨text', rest', he, hkind, hlt⟩
      have hlength := congrArg List.length he
      rw [List.length_append, List.length_append] at hlength
      obtain ⟨text'', rest'', he', hlongest'⟩ := ih rest'.length (by omega) hkind rest' rfl
      exact ⟨text'', rest'', he.trans he', hlongest'⟩

theorem Longest.eq_nil {kind : List Char → Prop} {text rest : List Char} (more : List Char)
    (h : Longest kind text (more ++ rest)) (hkind : kind (text ++ more)) : more = [] := by
  have hle := h.2 (text ++ more) rest (List.append_assoc _ _ _).symm hkind
  rw [List.length_append] at hle
  exact List.length_eq_zero_iff.mp (by omega)

theorem exists_foldlM {α β : Type} {f : β → α → Option β} {xs : List α}
    (h : ∀ x ∈ xs, ∀ y, ∃ z, f y x = some z) (y : β) : ∃ z, xs.foldlM f y = some z := by
  induction xs generalizing y with
  | nil => exact ⟨y, rfl⟩
  | cons x xs ih =>
    obtain ⟨hx, hxs⟩ := List.forall_mem_cons.mp h
    obtain ⟨z, hz⟩ := hx y
    rw [List.foldlM_cons, hz]
    exact ih hxs z

theorem exists_digitsValue {digits : List Char} (hne : digits ≠ [])
    (hall : digits.all isDigit = true) : ∃ n, digitsValue? 10 digits = some n := by
  rw [digitsValue?, if_neg (by simpa using hne)]
  refine exists_foldlM (fun c hc n => ⟨n * 10 + (c.toNat - '0'.toNat), ?_⟩) 0
  have hdigit : '0' ≤ c ∧ c ≤ '9' := by
    simpa [isDigit] using List.all_eq_true.mp hall c hc
  have hlt : c.toNat - 48 < 10 := by
    have hle : c.toNat ≤ '9'.toNat := hdigit.2
    rw [show '9'.toNat = 57 from rfl] at hle
    omega
  simp [hdigit, hlt]

theorem digitsValue?_ne_nil {base n : Nat} {digits : List Char}
    (h : digitsValue? base digits = some n) : digits ≠ [] := by
  rintro rfl
  cases h

theorem exists_sign (cs : List Char) :
    ∃ sign, IsSign sign ∧ cs = sign ++ dropSign cs ∧
      (cs.head? == some '-') = decide (sign = ['-']) := by
  unfold dropSign
  split
  · exact ⟨['+'], Or.inr (Or.inl rfl), rfl, rfl⟩
  · exact ⟨['-'], Or.inr (Or.inr rfl), rfl, rfl⟩
  · rename_i hplus hminus
    refine ⟨[], Or.inl rfl, rfl, ?_⟩
    cases cs with
    | nil => rfl
    | cons c cs =>
      have hc : c ≠ '-' := fun h => hminus cs (h ▸ rfl)
      simp [hc]

section Sign

variable {sign body : List Char} (h : IsSign sign)
  (hbody : ∀ c, body.head? = some c → c ≠ '+' ∧ c ≠ '-')

include h hbody

theorem dropSign_append : dropSign (sign ++ body) = body := by
  rcases h with rfl | rfl | rfl
  · rw [List.nil_append]
    unfold dropSign
    split
    · exact absurd rfl (hbody '+' rfl).1
    · exact absurd rfl (hbody '-' rfl).2
    · rfl
  · rfl
  · rfl

theorem head?_sign_append : ((sign ++ body).head? == some '-') = decide (sign = ['-']) := by
  rcases h with rfl | rfl | rfl
  · cases body with
    | nil => rfl
    | cons c body => simp [(hbody c rfl).2]
  · rfl
  · rfl

end Sign

theorem isDigit_ne_sign {c : Char} (h : isDigit c = true) : c ≠ '+' ∧ c ≠ '-' := by
  constructor <;> rintro rfl <;> cases h

theorem isDigit_of_mark {c : Char} (h : c = 'e' ∨ c = 'E') : isDigit c = false := by
  rcases h with rfl | rfl <;> rfl

theorem mantissa?_append {whole fraction mantissa rest : List Char}
    (h : Mantissa whole fraction mantissa) (hdigit : ∀ c, rest.head? = some c → isDigit c = false)
    (hpoint : mantissa = whole → rest.head? ≠ some '.') :
    mantissa? (mantissa ++ rest) = some ((whole, fraction), rest) := by
  cases h with
  | whole hall hne =>
    have hpoint := hpoint rfl
    simp only [mantissa?, span_append hall hdigit]
    split
    · exact absurd rfl hpoint
    · simp [hne]
  | point hwhole hfraction hne =>
    rw [List.append_assoc, List.cons_append]
    have hspan : (whole ++ '.' :: (fraction ++ rest)).span isDigit =
        (whole, '.' :: (fraction ++ rest)) := span_append hwhole (by rintro c ⟨⟩; rfl)
    simp only [mantissa?, hspan, span_append hfraction hdigit]
    exact if_neg (by simpa using hne.resolve_left ∘ not_not_intro)

theorem exists_mantissa {cs whole fraction rest : List Char}
    (h : mantissa? cs = some ((whole, fraction), rest)) :
    ∃ mantissa, Mantissa whole fraction mantissa ∧ cs = mantissa ++ rest := by
  obtain ⟨digits, behind, hspan, rfl, hdigits, -⟩ := exists_span isDigit cs
  simp only [mantissa?, hspan] at h
  split at h
  · rename_i more
    obtain ⟨digits', behind', hspan', rfl, hdigits', -⟩ := exists_span isDigit more
    simp only [hspan'] at h
    split at h
    · cases h
    · rename_i hne
      cases h
      refine ⟨_, .point hdigits hdigits' ?_, by simp⟩
      by_contra hnone
      exact hne (by simpa [not_or] using hnone)
  · split at h
    · cases h
    · rename_i hne
      cases h
      exact ⟨_, .whole hdigits (by simpa using hne), rfl⟩

theorem Mantissa.exists_cons {whole fraction mantissa : List Char}
    (h : Mantissa whole fraction mantissa) :
    ∃ c tail, mantissa = c :: tail ∧ (isDigit c = true ∨ c = '.') := by
  cases h with
  | whole hall hne =>
    obtain ⟨c, tail, rfl⟩ := List.exists_cons_of_ne_nil hne
    exact ⟨c, tail, rfl, .inl (List.all_eq_true.mp hall c List.mem_cons_self)⟩
  | point hall _ _ =>
    cases whole with
    | nil => exact ⟨_, _, rfl, .inr rfl⟩
    | cons c tail => exact ⟨c, _, rfl, .inl (List.all_eq_true.mp hall c List.mem_cons_self)⟩

theorem Mantissa.head_ne_sign {whole fraction mantissa : List Char}
    (h : Mantissa whole fraction mantissa) (rest : List Char) :
    ∀ c, (mantissa ++ rest).head? = some c → c ≠ '+' ∧ c ≠ '-' := by
  obtain ⟨d, tail, rfl, hd⟩ := h.exists_cons
  rintro c ⟨⟩
  rcases hd with hd | rfl
  · exact isDigit_ne_sign hd
  · decide

section Decimal

variable {sign whole fraction mantissa rest : List Char} (hsign : IsSign sign)
  (hmantissa : Mantissa whole fraction mantissa)

include hsign hmantissa

theorem decimal_of_head (hdigit : ∀ c, rest.head? = some c → isDigit c = false)
    (hpoint : mantissa = whole → rest.head? ≠ some '.')
    (hmark : ∀ c, rest.head? = some c → c ≠ 'e' ∧ c ≠ 'E') :
    decimal (sign ++ (mantissa ++ rest)) =
      .done (numberValue (sign = ['-']) (whole ++ fraction) (0 - fraction.length)) rest := by
  have hbody := hmantissa.head_ne_sign rest
  simp only [decimal, head?_sign_append hsign hbody, dropSign_append hsign hbody,
    mantissa?_append hmantissa hdigit hpoint]
  cases rest with
  | nil => rfl
  | cons c rest => simp [hmark c rfl]

theorem decimal_marked {mark : Char} {more sign' digits : List Char}
    (hmark : mark = 'e' ∨ mark = 'E') (hmore : dropSign more = digits ++ rest)
    (hnegative : (more.head? == some '-') = decide (sign' = ['-']))
    (hdigits : digits.all isDigit = true)
    (hdigit : ∀ c, rest.head? = some c → isDigit c = false) :
    decimal (sign ++ (mantissa ++ mark :: more)) =
      match digitsValue? 10 digits with
      | none => .broken (sign ++ (mantissa ++ mark :: more))
      | some n => .done (numberValue (sign = ['-']) (whole ++ fraction)
          ((if sign' = ['-'] then -(n : Int) else n) - fraction.length)) rest := by
  have hbody := hmantissa.head_ne_sign (mark :: more)
  have hhead : ∀ c, (mark :: more).head? = some c → isDigit c = false := by
    rintro c ⟨⟩
    exact isDigit_of_mark hmark
  have hpoint : mark ≠ '.' := by
    rcases hmark with rfl | rfl <;> decide
  cases hvalue : digitsValue? 10 digits <;>
    simp only [decimal, head?_sign_append hsign hbody, dropSign_append hsign hbody,
      mantissa?_append hmantissa hhead fun _ => by simpa using hpoint, hmore, hnegative,
      span_append hdigits hdigit, Bool.or_eq_true, beq_iff_eq, hmark, if_true, decide_eq_true_eq,
      hvalue]

end Decimal

theorem Numeral.exists_cons {value : Json} {text : List Char} (h : Numeral value text) :
    ∃ c tail, text = c :: tail ∧ (isDigit c = true ∨ c = '+' ∨ c = '-' ∨ c = '.') := by
  obtain ⟨hsign, hmantissa, -⟩ := h
  rcases hsign with rfl | rfl | rfl
  · obtain ⟨c, tail, rfl, hc⟩ := hmantissa.exists_cons
    exact ⟨c, _, rfl, hc.imp_right (.inr ∘ .inr)⟩
  · exact ⟨_, _, rfl, .inr (.inl rfl)⟩
  · exact ⟨_, _, rfl, .inr (.inr (.inl rfl))⟩

theorem Numeral.append_digit {value : Json} {text : List Char} (h : Numeral value text) {c : Char}
    (hc : isDigit c = true) : ∃ value, Numeral value (text ++ [c]) := by
  cases h with
  | @mk sign whole fraction mantissa text exponent hsign hmantissa hexponent =>
    cases hexponent with
    | absent =>
      cases hmantissa with
      | whole hall hne =>
        have hlonger : Mantissa (whole ++ [c]) [] (whole ++ [c]) :=
          .whole (by simp [hall, hc]) (by simp)
        exact ⟨_, by simpa using Numeral.mk hsign hlonger .absent⟩
      | point hwhole hfraction hne =>
        have hlonger : Mantissa whole (fraction ++ [c]) (whole ++ '.' :: (fraction ++ [c])) :=
          .point hwhole (by simp [hfraction, hc]) (Or.inr (by simp))
        exact ⟨_, by simpa using Numeral.mk hsign hlonger .absent⟩
    | @marked mark sign' digits n hmark hsign' hdigits hvalue =>
      have hall : (digits ++ [c]).all isDigit = true := by simp [hdigits, hc]
      obtain ⟨m, hm⟩ := exists_digitsValue (by simp) hall
      exact ⟨_, by simpa using Numeral.mk hsign hmantissa (.marked hmark hsign' hall hm)⟩

/-- What is read is a number, though it may not be clear yet that it is the longest. -/
theorem exists_numeral {cs rest : List Char} {value : Json} (h : decimal cs = .done value rest) :
    ∃ text, Numeral value text ∧ cs = text ++ rest := by
  obtain ⟨sign, hsign, hcs, hnegative⟩ := exists_sign cs
  simp only [decimal, hnegative] at h
  split at h
  · cases h
  · rename_i whole fraction behind hbehind
    obtain ⟨mantissa, hmantissa, hdrop⟩ := exists_mantissa hbehind
    rw [hdrop] at hcs
    have hplain : ∃ text, Numeral (numberValue (sign = ['-']) (whole ++ fraction)
        (0 - fraction.length)) text ∧ cs = text ++ behind :=
      ⟨_, .mk hsign hmantissa .absent, by simpa using hcs⟩
    split at h
    · cases h
      exact hplain
    · rename_i mark more
      split at h
      · rename_i hmark
        obtain ⟨sign', hsign', hmore, hnegative'⟩ := exists_sign more
        obtain ⟨digits, rest', hspan, hdrop', hdigits, -⟩ := exists_span isDigit (dropSign more)
        simp only [hspan, hnegative', decide_eq_true_eq] at h
        split at h
        · cases h
        · rename_i n hn
          cases h
          refine ⟨_, .mk hsign hmantissa (.marked (by simpa using hmark) hsign' hdigits hn), ?_⟩
          rw [hcs, hmore, hdrop']
          simp
      · cases h
        exact hplain

/-- The longest number is read, unless it stands before a mark without an exponent. -/
theorem decimal_of_longest {value : Json} {text rest : List Char} (h : Numeral value text)
    (hlongest : Longest (fun text => ∃ value, Numeral value text) text rest) :
    decimal (text ++ rest) = .done value rest ∨
      (∃ c, rest.head? = some c ∧ (c = 'e' ∨ c = 'E')) ∧
        decimal (text ++ rest) = .broken (text ++ rest) := by
  have hdigit : ∀ c, rest.head? = some c → isDigit c = false := fun c hc => by
    obtain ⟨tail, rfl⟩ := List.head?_eq_some_iff.mp hc
    rw [Bool.eq_false_iff]
    intro hdigit
    exact List.cons_ne_nil c [] (Longest.eq_nil [c] hlongest (h.append_digit hdigit))
  cases h with
  | @mk sign whole fraction mantissa text exponent hsign hmantissa hexponent =>
    cases hexponent with
    | absent =>
      have hpoint : mantissa = whole → rest.head? ≠ some '.' := fun he hhead => by
        obtain ⟨tail, rfl⟩ := List.head?_eq_some_iff.mp hhead
        cases hmantissa with
        | whole hall hne =>
          have hlonger : Mantissa whole [] (whole ++ '.' :: []) := .point hall rfl (.inl hne)
          exact List.cons_ne_nil '.' [] (Longest.eq_nil ['.'] hlongest
            ⟨_, by simpa using Numeral.mk hsign hlonger .absent⟩)
        | point => simp at he
      by_cases hmark : ∃ c, rest.head? = some c ∧ (c = 'e' ∨ c = 'E')
      · right
        refine ⟨hmark, ?_⟩
        obtain ⟨mark, hhead, hmark⟩ := hmark
        obtain ⟨more, rfl⟩ := List.head?_eq_some_iff.mp hhead
        obtain ⟨sign', hsign', hmore, hnegative⟩ := exists_sign more
        obtain ⟨digits, rest', -, hdrop, hdigits, hdigit'⟩ := exists_span isDigit (dropSign more)
        have hread := decimal_marked hsign hmantissa hmark hdrop hnegative hdigits hdigit'
        -- an exponent would make the number longer
        have hnone : digitsValue? 10 digits = none := by
          rw [Option.eq_none_iff_forall_ne_some]
          intro n hn
          have hsplit : mark :: more = (mark :: (sign' ++ digits)) ++ rest' := by
            rw [hmore, hdrop, List.cons_append, List.append_assoc]
          rw [hsplit] at hlongest
          exact List.cons_ne_nil _ _ (Longest.eq_nil _ hlongest ⟨_, by
            simpa using Numeral.mk hsign hmantissa (.marked hmark hsign' hdigits hn)⟩)
        rw [hnone] at hread
        simpa using hread
      · left
        have hread := decimal_of_head hsign hmantissa hdigit hpoint fun c hc =>
          ⟨fun he => hmark ⟨c, hc, .inl he⟩, fun he => hmark ⟨c, hc, .inr he⟩⟩
        simpa using hread
    | @marked mark sign' digits n hmark hsign' hdigits hvalue =>
      left
      have hne := digitsValue?_ne_nil hvalue
      have hbody : ∀ c, (digits ++ rest).head? = some c → c ≠ '+' ∧ c ≠ '-' := fun c hc => by
        obtain ⟨d, tail, rfl⟩ := List.exists_cons_of_ne_nil hne
        cases hc
        exact isDigit_ne_sign (List.all_eq_true.mp hdigits c List.mem_cons_self)
      have hread := decimal_marked hsign hmantissa hmark (dropSign_append hsign' hbody)
        (head?_sign_append hsign' hbody) hdigits hdigit
      rw [hvalue] at hread
      simpa using hread

theorem decimal_eq_refused {cs : List Char}
    (h : ∀ c, cs.head? = some c → isDigit c = false ∧ c ≠ '+' ∧ c ≠ '-' ∧ c ≠ '.') :
    decimal cs = .refused := by
  cases cs with
  | nil => rfl
  | cons c cs =>
    obtain ⟨hdigit, hplus, hminus, hpoint⟩ := h c rfl
    have hdrop : dropSign (c :: cs) = c :: cs :=
      dropSign_append (.inl rfl) (by rintro d ⟨⟩; exact ⟨hplus, hminus⟩)
    have hspan : (c :: cs).span isDigit = ([], c :: cs) :=
      @span_append _ [] (c :: cs) rfl (by rintro d ⟨⟩; exact hdigit)
    have hnone : mantissa? (c :: cs) = none := by
      simp only [mantissa?, hspan]
      split
      · rename_i he
        exact absurd (List.cons.inj he).1 hpoint
      · rfl
    simp only [decimal, hdrop, hnone]

theorem nonNumber?_eq_some_iff {value : Json} {cs rest : List Char} :
    nonNumber? cs = some (value, rest) ↔
      value = .null ∧ (Letters ['n', 'a', 'n'] cs rest ∨ Letters ['i', 'n', 'f'] cs rest) := by
  have hread : nonNumber? cs = some (value, rest) ↔ value = .null ∧
      (afterLetters? ['n', 'a', 'n'] cs <|> afterLetters? ['i', 'n', 'f'] cs) = some rest := by
    simp only [nonNumber?, Option.map_eq_some_iff, Prod.mk.injEq]
    exact ⟨fun ⟨_, h, hnull, he⟩ => ⟨hnull.symm, he ▸ h⟩, fun ⟨hnull, h⟩ =>
      ⟨rest, h, hnull.symm, rfl⟩⟩
  rw [hread]
  refine and_congr_right fun _ => ?_
  constructor
  · intro h
    rcases (Option.orElse_eq_some _ _ _).mp h with h | ⟨-, h⟩
    · exact .inl (afterLetters?_eq_some_iff.mp h)
    · exact .inr (afterLetters?_eq_some_iff.mp h)
  · rintro (h | h)
    · exact (Option.orElse_eq_some _ _ _).mpr (.inl (afterLetters?_eq_some_iff.mpr h))
    · refine (Option.orElse_eq_some _ _ _).mpr (.inr ⟨?_, afterLetters?_eq_some_iff.mpr h⟩)
      obtain ⟨_, tail, rfl | rfl, rfl, -⟩ := h.exists_cons <;> rfl

/-- What `decimal` finds is the longest of the numbers that are there. -/
theorem decimal_eq_done {value : Json} {cs rest : List Char} (h : decimal cs = .done value rest) :
    Number value cs rest := by
  obtain ⟨text, hnumeral, rfl⟩ := exists_numeral h
  obtain ⟨text', rest', he, hlongest⟩ : ∃ text' rest', text ++ rest = text' ++ rest' ∧
      Longest (fun text => ∃ value, Numeral value text) text' rest' :=
    exists_longest ⟨value, hnumeral⟩ rest
  obtain ⟨value', hnumeral'⟩ := hlongest.1
  rw [he] at h ⊢
  rcases decimal_of_longest hnumeral' hlongest with hread | ⟨-, hread⟩
  · cases h.symm.trans hread
    exact .decimal hnumeral' hlongest
  · cases h.symm.trans hread

theorem number_eq_done {value : Json} {cs rest : List Char} (h : number cs = .done value rest) :
    Number value cs rest := by
  rcases Outcome.orElse_eq_done_iff.mp h with h | ⟨-, h⟩
  · exact decimal_eq_done h
  · obtain ⟨rfl, hletters⟩ := nonNumber?_eq_some_iff.mp (Outcome.ofOption_eq_done_iff.mp h)
    exact hletters.elim .nan .inf

/-- A number is read as far as it goes, unless what looks like an exponent follows. -/
theorem Number.number_eq {value : Json} {cs rest : List Char} (h : Number value cs rest)
    (hmark : ∀ c, rest.head? = some c → c ≠ 'e' ∧ c ≠ 'E') : number cs = .done value rest := by
  cases h with
  | decimal h hlongest =>
    rcases decimal_of_longest h hlongest with hread | ⟨⟨c, hc, hmark'⟩, -⟩
    · rw [number, hread]
      rfl
    · exact absurd hmark' (not_or.mpr (hmark c hc))
  | nan h =>
    rw [number, decimal_eq_refused, nonNumber?_eq_some_iff.mpr ⟨rfl, .inl h⟩]
    · rfl
    · obtain ⟨_, tail, rfl | rfl, rfl, -⟩ := h.exists_cons <;> rintro c ⟨⟩ <;> decide
  | inf h =>
    rw [number, decimal_eq_refused, nonNumber?_eq_some_iff.mpr ⟨rfl, .inr h⟩]
    · rfl
    · obtain ⟨_, tail, rfl | rfl, rfl, -⟩ := h.exists_cons <;> rintro c ⟨⟩ <;> decide

end ApiCatalog.Condition.Grammar
