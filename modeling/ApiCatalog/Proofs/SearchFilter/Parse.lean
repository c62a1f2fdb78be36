import ApiCatalog.Proofs.SearchFilter.Reading
import Mathlib.Data.Option.Basic

/-! # Reading filters

What the reader of filters makes of a test, which ends the name of an attribute where the syntax of
attributes does. No part of a name or of an operator is looked for behind the first equals sign.
-/

namespace ApiCatalog.SearchFilter

theorem IsPlain.append {cs cs' : List Char} (h : IsPlain cs) (h' : IsPlain cs') :
    IsPlain (cs ++ cs') :=
  ⟨fun hmem => (List.mem_append.mp hmem).elim h.1 h'.1,
    fun c hc => (List.mem_append.mp hc).elim (h.2 c) (h'.2 c)⟩

theorem isPlain_of_all {p : Char → Bool} (hequals : p '=' = false)
    (hmeta : ['(', ')', '*', '\\', '&', '|', '!', '\x00'].all (!p ·) = true) {cs : List Char}
    (h : cs.all p = true) : IsPlain cs := by
  constructor
  · intro hmem
    rw [List.all_eq_true.mp h _ hmem] at hequals
    cases hequals
  · intro c hc
    rw [Bool.eq_false_iff]
    intro hcontains
    have hnot := List.all_eq_true.mp hmeta c (List.contains_iff_mem.mp hcontains)
    rw [List.all_eq_true.mp h c hc] at hnot
    cases hnot

/-- Reads a plain text, and reads the same where an equals sign comes in place of the end. -/
structure Stops (read? : List Char → Option (List Char × List Char)) : Prop where
  eq_append : ∀ {cs text rest : List Char}, read? cs = some (text, rest) →
    cs = text ++ rest ∧ IsPlain text
  equals : ∀ cs rest : List Char,
    read? (cs ++ '=' :: rest) = (read? cs).map fun (text, rest') => (text, rest' ++ '=' :: rest)

section Stops

variable {read? read'? : List Char → Option (List Char × List Char)}

theorem Stops.orElse (h : Stops read?) (h' : Stops read'?) :
    Stops fun cs => read? cs <|> read'? cs where
  eq_append hread := by
    rcases (Option.orElse_eq_some _ _ _).mp hread with hread | ⟨-, hread⟩
    · exact h.eq_append hread
    · exact h'.eq_append hread
  equals cs rest := by
    rw [h.equals, h'.equals]
    cases read? cs <;> rfl

theorem Stops.seq (h : Stops read?) (h' : Stops read'?) :
    Stops fun cs => do
      let (text, rest) ← read? cs
      let (text', rest') ← read'? rest
      return (text ++ text', rest') where
  eq_append hread := by
    obtain ⟨⟨text, rest⟩, hfirst, hread⟩ := Option.bind_eq_some_iff.mp hread
    obtain ⟨⟨text', rest'⟩, hsecond, hread⟩ := Option.bind_eq_some_iff.mp hread
    cases hread
    obtain ⟨rfl, hplain⟩ := h.eq_append hfirst
    obtain ⟨rfl, hplain'⟩ := h'.eq_append hsecond
    exact ⟨(List.append_assoc _ _ _).symm, hplain.append hplain'⟩
  equals cs rest := by
    rw [h.equals]
    cases hfirst : read? cs with
    | none => rfl
    | some found =>
      obtain ⟨text, rest'⟩ := found
      simp only [Option.map_some, Option.bind_eq_bind, Option.bind_some, h'.equals]
      cases read'? rest' <;> rfl

theorem Stops.nonempty (h : Stops read?) :
    Stops fun cs => (read? cs).filter fun (text, _) => !text.isEmpty where
  eq_append hread := h.eq_append (Option.filter_eq_some_iff.mp hread).1
  equals cs rest := by
    rw [h.equals]
    cases hread : read? cs with
    | none => rfl
    | some found =>
      obtain ⟨text, rest'⟩ := found
      cases text <;> rfl

end Stops

section Repeated

def repeated (item? : List Char → Option (List Char × List Char)) :
    Nat → List Char → List Char × List Char
  | 0, cs => ([], cs)
  | fuel + 1, cs =>
    match item? cs with
    | some (text, rest) =>
      let (more, rest') := repeated item? fuel rest
      (text ++ more, rest')
    | none => ([], cs)

variable {item? : List Char → Option (List Char × List Char)} (h : Stops item?)

include h

theorem Stops.eq_append_repeated (fuel : Nat) (cs : List Char) :
    cs = (repeated item? fuel cs).1 ++ (repeated item? fuel cs).2 ∧
      IsPlain (repeated item? fuel cs).1 := by
  have hnil : IsPlain [] := ⟨nofun, nofun⟩
  induction fuel generalizing cs with
  | zero => exact ⟨rfl, hnil⟩
  | succ fuel ih =>
    rw [repeated]
    cases hitem : item? cs with
    | none => exact ⟨rfl, hnil⟩
    | some found =>
      obtain ⟨text, rest⟩ := found
      obtain ⟨rfl, hplain⟩ := h.eq_append hitem
      obtain ⟨hrest, hmore⟩ := ih rest
      exact ⟨by rw [List.append_assoc, ← hrest], hplain.append hmore⟩

/-- Enough fuel is as good as more of it. -/
theorem Stops.repeated_equals (hitem : ∀ {cs text rest}, item? cs = some (text, rest) → text ≠ [])
    (rest : List Char) {fuel fuel' : Nat} {cs : List Char} (hfuel : cs.length ≤ fuel)
    (hfuel' : cs.length ≤ fuel') :
    repeated item? fuel' (cs ++ '=' :: rest) =
      ((repeated item? fuel cs).1, (repeated item? fuel cs).2 ++ '=' :: rest) := by
  have hnone : item? [] = none := by
    rw [Option.eq_none_iff_forall_ne_some]
    rintro ⟨text, rest⟩ hread
    exact hitem hread (List.append_eq_nil_iff.mp (h.eq_append hread).1.symm).1
  have hnil : ∀ fuel, repeated item? fuel [] = ([], []) ∧
      repeated item? fuel ('=' :: rest) = ([], '=' :: rest) := by
    intro fuel
    cases fuel with
    | zero => exact ⟨rfl, rfl⟩
    | succ fuel =>
      have hequals := h.equals [] rest
      rw [hnone, List.nil_append] at hequals
      rw [repeated, repeated, hnone, hequals]
      exact ⟨rfl, rfl⟩
  induction fuel generalizing fuel' cs with
  | zero =>
    obtain rfl := List.eq_nil_of_length_eq_zero (Nat.le_zero.mp hfuel)
    exact (hnil fuel').2
  | succ fuel ih =>
    cases fuel' with
    | zero =>
      obtain rfl := List.eq_nil_of_length_eq_zero (Nat.le_zero.mp hfuel')
      rw [(hnil _).1]
      exact (hnil 0).2
    | succ fuel' =>
      rw [repeated, repeated, h.equals]
      cases hread : item? cs with
      | none => rfl
      | some found =>
        obtain ⟨text, rest'⟩ := found
        obtain ⟨rfl, -⟩ := h.eq_append hread
        have hpos := List.length_pos_iff.mpr (hitem hread)
        rw [List.length_append] at hfuel hfuel'
        have hfuel : rest'.length ≤ fuel := by omega
        have hfuel' : rest'.length ≤ fuel' := by omega
        simp only [Option.map_some, ih hfuel hfuel']

theorem Stops.repeated (hitem : ∀ {cs text rest}, item? cs = some (text, rest) → text ≠ []) :
    Stops fun cs => some (repeated item? cs.length cs) where
  eq_append {cs text rest} hread := by
    have happend := h.eq_append_repeated cs.length cs
    rwa [Option.some.inj hread] at happend
  equals cs rest := by
    rw [h.repeated_equals hitem rest (Nat.le_refl cs.length) (by simp)]
    rfl

end Repeated

theorem stops_number? : Stops number? where
  eq_append := by
    intro cs text rest hread
    obtain ⟨digits, behind, hspan, rfl, hdigits, -⟩ := Text.exists_span Char.isDigit cs
    have hplain : IsPlain digits := isPlain_of_all (by decide) (by decide) hdigits
    rw [number?, hspan] at hread
    split at hread
    · cases hread
    · cases hread
    · rename_i he
      cases hread
      cases he
      exact ⟨rfl, hplain⟩
  equals cs rest := by
    rw [number?, number?, Text.span_append_cons (by decide)]
    cases hspan : cs.span Char.isDigit with
    | mk digits behind =>
      dsimp only
      split <;> simp_all

def arc? : List Char → Option (List Char × List Char)
  | '.' :: cs => (number? cs).map fun (digits, rest) => ('.' :: digits, rest)
  | _ => none

def option? : List Char → Option (List Char × List Char)
  | ';' :: cs =>
    match cs.span isNameChar with
    | ([], _) => none
    | (name, rest) => some (';' :: name, rest)
  | _ => none

theorem arcs_eq (fuel : Nat) (cs : List Char) : arcs fuel cs = repeated arc? fuel cs := by
  induction fuel generalizing cs with
  | zero => rfl
  | succ fuel ih =>
    cases cs with
    | nil => rfl
    | cons c cs =>
      by_cases hc : c = '.'
      · subst hc
        rw [arcs, repeated, arc?]
        cases number? cs with
        | none => rfl
        | some found => simp only [Option.map_some, ih, List.cons_append]
      · simp [arcs, repeated, arc?, hc]

theorem options_eq (fuel : Nat) (cs : List Char) : options fuel cs = repeated option? fuel cs := by
  induction fuel generalizing cs with
  | zero => rfl
  | succ fuel ih =>
    cases cs with
    | nil => rfl
    | cons c cs =>
      by_cases hc : c = ';'
      · subst hc
        rw [options, repeated, option?]
        cases cs.span isNameChar with
        | mk name rest =>
          cases name with
          | nil => rfl
          | cons d name => simp only [ih, List.cons_append]
      · simp [options, repeated, option?, hc]

theorem stops_arc? : Stops arc? where
  eq_append := by
    intro cs text rest hread
    unfold arc? at hread
    split at hread
    · obtain ⟨⟨digits, behind⟩, hnumber, he⟩ := Option.map_eq_some_iff.mp hread
      obtain ⟨rfl, hplain⟩ := stops_number?.eq_append hnumber
      cases he
      have hpoint : IsPlain ['.'] := ⟨by decide, by simp [isMeta]⟩
      exact ⟨rfl, hpoint.append hplain⟩
    · cases hread
  equals cs rest := by
    cases cs with
    | nil => rfl
    | cons c cs =>
      by_cases hc : c = '.'
      · subst hc
        simp only [arc?, List.cons_append, stops_number?.equals, Option.map_map]
        rfl
      · simp [arc?, hc]

theorem stops_option? : Stops option? where
  eq_append := by
    intro cs text rest hread
    unfold option? at hread
    split at hread
    · rename_i cs
      obtain ⟨name, behind, hspan, rfl, hname, -⟩ := Text.exists_span isNameChar cs
      rw [hspan] at hread
      have hplain : IsPlain name := isPlain_of_all (by decide) (by decide) hname
      split at hread
      · cases hread
      · rename_i he
        cases hread
        cases he
        have hsign : IsPlain [';'] := ⟨by decide, by simp [isMeta]⟩
        exact ⟨rfl, hsign.append hplain⟩
    · cases hread
  equals cs rest := by
    cases cs with
    | nil => rfl
    | cons c cs =>
      by_cases hc : c = ';'
      · subst hc
        rw [List.cons_append, option?, option?, Text.span_append_cons (by decide)]
        cases hspan : cs.span isNameChar with
        | mk name behind => cases name <;> rfl
      · simp [option?, hc]

theorem ne_nil_of_arc? {cs text rest : List Char} (h : arc? cs = some (text, rest)) :
    text ≠ [] := by
  unfold arc? at h
  split at h
  · obtain ⟨_, -, he⟩ := Option.map_eq_some_iff.mp h
    cases he
    exact nofun
  · cases h

theorem ne_nil_of_option? {cs text rest : List Char} (h : option? cs = some (text, rest)) :
    text ≠ [] := by
  unfold option? at h
  split at h
  · split at h
    · cases h
    · cases h
      exact nofun
  · cases h

theorem stops_identifier? : Stops identifier? := by
  have hseq := stops_number?.seq (stops_arc?.repeated ne_nil_of_arc?).nonempty
  refine (funext fun cs => ?_ : _ = identifier?) ▸ hseq
  rw [identifier?]
  cases number? cs with
  | none => rfl
  | some found =>
    obtain ⟨first, rest⟩ := found
    simp only [Option.bind_eq_bind, Option.bind_some, arcs_eq]
    cases repeated arc? rest.length rest with
    | mk more rest' => cases more <;> rfl

theorem stops_name? : Stops name? where
  eq_append := by
    intro cs text rest hread
    unfold name? at hread
    split at hread
    · cases hread
    · rename_i c cs
      split at hread
      · rename_i hc
        obtain ⟨name, behind, hspan, rfl, hname, -⟩ := Text.exists_span isNameChar cs
        rw [hspan] at hread
        cases hread
        have hfirst : [c].all isNameChar = true := by simp [isNameChar, Char.isAlphanum, hc]
        refine ⟨rfl, isPlain_of_all (p := isNameChar) (by decide) (by decide) ?_⟩
        rw [List.all_cons, hname, Bool.and_true]
        simpa using hfirst
      · cases hread
  equals cs rest := by
    cases cs with
    | nil => rfl
    | cons c cs =>
      rw [List.cons_append, name?, name?, Text.span_append_cons (by decide)]
      split <;> rfl

theorem stops_attributeType? : Stops attributeType? := stops_identifier?.orElse stops_name?

theorem stops_attribute? : Stops attribute? := by
  have hseq := stops_attributeType?.seq (stops_option?.repeated ne_nil_of_option?)
  refine (funext fun cs => ?_ : _ = attribute?) ▸ hseq
  rw [attribute?]
  cases attributeType? cs with
  | none => rfl
  | some found =>
    simp only [Option.bind_eq_bind, Option.bind_some, options_eq]

/-- An attribute is read the same with or without an equals sign behind it. -/
theorem attribute?_equals_iff {name : List Char} (rest : List Char) :
    attribute? (name ++ '=' :: rest) = some (name, '=' :: rest) ↔
      attribute? name = some (name, []) := by
  rw [stops_attribute?.equals]
  cases attribute? name with
  | none => simp
  | some found => simp [Prod.ext_iff]

/-- A mark, the name of a rule and a sign, of which only the end is an equals sign. -/
theorem exists_of_ruleOperator? {cs operator rest : List Char}
    (h : ruleOperator? cs = some (operator, rest)) :
    ∃ head, head ≠ [] ∧ '=' ∉ head ∧ operator = head ++ ['='] ∧ cs = head ++ '=' :: rest := by
  unfold ruleOperator? at h
  split at h
  rename_i mark behind hmark
  obtain ⟨rfl, hmarkPlain⟩ : cs = mark ++ behind ∧ '=' ∉ mark := by
    split at hmark <;> cases hmark
    · exact ⟨rfl, by decide⟩
    · exact ⟨rfl, nofun⟩
  split at h
  rename_i rule behind' hrule
  obtain ⟨rfl, hrulePlain⟩ : behind = rule ++ behind' ∧ '=' ∉ rule := by
    split at hrule
    · split at hrule
      · rename_i htype
        cases hrule
        obtain ⟨rfl, hplain⟩ := stops_attributeType?.eq_append htype
        exact ⟨rfl, by simpa using hplain.1⟩
      · cases hrule
        exact ⟨rfl, nofun⟩
    · cases hrule
      exact ⟨rfl, nofun⟩
  split at h
  · cases h
    exact ⟨mark ++ rule ++ [':'], by simp, by simp [hmarkPlain, hrulePlain], by simp, by simp⟩
  · cases h

theorem escapesAreWhole_append_star (value rest : List Char) :
    escapesAreWhole (value ++ '*' :: rest) = (escapesAreWhole value && escapesAreWhole rest) := by
  fun_induction escapesAreWhole value with
  | case1 => rw [List.nil_append, escapesAreWhole_cons_ne (by decide), Bool.true_and]
  | case2 a b value ih =>
    simp only [List.cons_append, escapesAreWhole, ih, Bool.and_assoc]
  | case3 c value hno ih =>
    by_cases hc : c = '\\'
    · subst hc
      -- the asterisk stands where the digits of the escape have to be
      have hstar : isHexDigit '*' = false := by decide
      rcases value with _ | ⟨a, _ | ⟨b, value⟩⟩
      · cases rest <;> simp [escapesAreWhole, hstar]
      · simp [escapesAreWhole, hstar]
      · exact absurd rfl (hno a b value rfl)
    · rw [List.cons_append, escapesAreWhole_cons_ne hc, ih, bne_iff_ne.mpr hc, Bool.true_and]

theorem IsPattern.of_append_star {value rest : List Char} (h : IsPattern (value ++ '*' :: rest)) :
    IsPattern value ∧ IsPattern rest := by
  obtain ⟨hchars, hwhole⟩ := h
  rw [escapesAreWhole_append_star, Bool.and_eq_true] at hwhole
  exact ⟨⟨fun c hc => hchars c (List.mem_append_left _ hc), hwhole.1⟩,
    ⟨fun c hc => hchars c (List.mem_append_right _ (List.mem_cons_of_mem _ hc)), hwhole.2⟩⟩

theorem value?_append {value cs : List Char} (h : IsPattern value) (hstar : '*' ∉ value)
    (hcs : ∀ c, cs.head? = some c → isValueChar c = false) :
    value? (value ++ cs) = some (value, cs) := by
  have hall : value.all isValueChar = true := by
    refine List.all_eq_true.mpr fun c hc => ?_
    obtain ⟨hopen, hclose, hnul⟩ := h.1 c hc
    have hne : c ≠ '*' := fun he => hstar (he ▸ hc)
    simp [isValueChar, *]
  rw [value?, Text.span_append hall hcs]
  exact if_pos h.2

theorem pattern?_append {value : List Char} (h : IsPattern value) {fuel : Nat}
    (hfuel : value.count '*' ≤ fuel) (rest : List Char) :
    pattern? fuel (value ++ ')' :: rest) = some (value, ')' :: rest) := by
  induction fuel generalizing value with
  | zero =>
    have hstar : '*' ∉ value := List.count_eq_zero.mp (Nat.le_zero.mp hfuel)
    exact value?_append h hstar (by rintro c ⟨⟩; rfl)
  | succ fuel ih =>
    by_cases hstar : '*' ∈ value
    · obtain ⟨front, back, rfl, hfront⟩ := List.eq_append_cons_of_mem hstar
      obtain ⟨hpattern, hrest⟩ := h.of_append_star
      rw [List.count_append, List.count_cons_self, List.count_eq_zero.mpr hfront] at hfuel
      rw [pattern?, List.append_assoc, List.cons_append,
        value?_append hpattern hfront (by rintro c ⟨⟩; rfl)]
      simp only [Option.bind_eq_bind, Option.bind_some, ih hrest (by omega)]
    · rw [pattern?, value?_append h hstar (by rintro c ⟨⟩; rfl)]
      rfl

theorem pattern?_append_self {value : List Char} (h : IsPattern value) (rest : List Char) :
    pattern? (value ++ ')' :: rest).length (value ++ ')' :: rest) = some (value, ')' :: rest) :=
  pattern?_append h (Nat.le_trans List.count_le_length (by simp)) rest

/-- How a text splits at its first equals sign into the head of a test, which is an attribute and
an operator, and what is read as the value. -/
inductive Splits (cs : List Char) : SearchFilter → List Char → Prop
  | equality {name value behind rest : List Char} : attribute? cs = some (name, '=' :: behind) →
      pattern? behind.length behind = some (value, rest) → Splits cs (.test name ['='] value) rest
  | other {name operator head value behind rest : List Char} : operator ≠ ['='] →
      name ++ operator = head ++ ['='] → '=' ∉ head → cs = head ++ '=' :: behind →
      value? behind = some (value, rest) → Splits cs (.test name operator value) rest

theorem splits_of_attributeTest? {cs rest : List Char} {f : SearchFilter}
    (hread : attributeTest? cs = some (f, rest)) : Splits cs f rest := by
  obtain ⟨⟨name, behind⟩, hname, h⟩ := Option.bind_eq_some_iff.mp hread
  obtain ⟨hcs, hplain⟩ := stops_attribute?.eq_append hname
  have hrule : ∀ {operator behind' value : List Char},
      ruleOperator? behind = some (operator, behind') → value? behind' = some (value, rest) →
      Splits cs (.test name operator value) rest := by
    intro operator behind' value hoperator hvalue
    obtain ⟨head, hne, hhead, rfl, rfl⟩ := exists_of_ruleOperator? hoperator
    exact .other (by simpa using hne) (List.append_assoc _ _ _).symm
      (fun hmem => (List.mem_append.mp hmem).elim hplain.1 hhead) (by rw [hcs, List.append_assoc])
      hvalue
  dsimp only at h
  split at h
  · obtain ⟨⟨value, rest'⟩, hvalue, he⟩ := Option.bind_eq_some_iff.mp h
    cases he
    exact .equality hname hvalue
  · rename_i c behind' hequals
    split at h
    · rename_i hc
      obtain ⟨⟨value, rest'⟩, hvalue, he⟩ := Option.bind_eq_some_iff.mp h
      cases he
      have hne : '=' ≠ c := by
        rintro rfl
        revert hc
        decide
      exact .other (by simp) (List.append_assoc name [c] ['=']).symm
        (by simpa [hne] using hplain.1) (by simp [hcs]) hvalue
    · obtain ⟨⟨operator, behind'⟩, hoperator, h⟩ := Option.bind_eq_some_iff.mp h
      obtain ⟨⟨value, rest'⟩, hvalue, he⟩ := Option.bind_eq_some_iff.mp h
      cases he
      exact hrule hoperator hvalue
  · obtain ⟨⟨operator, behind'⟩, hoperator, h⟩ := Option.bind_eq_some_iff.mp h
    obtain ⟨⟨value, rest'⟩, hvalue, he⟩ := Option.bind_eq_some_iff.mp h
    cases he
    exact hrule hoperator hvalue

theorem splits_of_test? {cs rest : List Char} {f : SearchFilter}
    (hread : test? cs = some (f, rest)) : Splits cs f rest := by
  rcases (Option.orElse_eq_some _ _ _).mp hread with hread | ⟨-, hread⟩
  · exact splits_of_attributeTest? hread
  · obtain ⟨⟨operator, behind⟩, hoperator, h⟩ := Option.bind_eq_some_iff.mp hread
    obtain ⟨head, hne, hhead, rfl, hcs⟩ := exists_of_ruleOperator? hoperator
    dsimp only at h
    split at h
    · cases h
    · obtain ⟨⟨value, rest'⟩, hvalue, he⟩ := Option.bind_eq_some_iff.mp h
      cases he
      exact .other (by simpa using hne) rfl hhead hcs hvalue

section Test

variable {head value rest rest' : List Char} {f : SearchFilter} (hhead : '=' ∉ head)
  (hvalue : IsPattern value)

include hhead hvalue

theorem eq_test_of_test? (hstar : '*' ∉ value)
    (h : test? (head ++ '=' :: (value ++ ')' :: rest)) = some (f, rest')) :
    rest' = ')' :: rest ∧
      ∃ name operator, name ++ operator = head ++ ['='] ∧ f = .test name operator value := by
  cases splits_of_test? h with
  | equality hname hread =>
    obtain ⟨hcs, hplain⟩ := stops_attribute?.eq_append hname
    obtain ⟨rfl, rfl⟩ := Text.eq_of_append_cons_eq hhead hplain.1 hcs
    rw [pattern?_append_self hvalue] at hread
    cases hread
    exact ⟨rfl, _, _, rfl, rfl⟩
  | other _ hsplit hhead' hcs hread =>
    obtain ⟨rfl, rfl⟩ := Text.eq_of_append_cons_eq hhead hhead' hcs
    rw [value?_append hvalue hstar (by rintro c ⟨⟩; rfl)] at hread
    cases hread
    exact ⟨rfl, _, _, hsplit, rfl⟩

theorem test?_eq_iff :
    test? (head ++ '=' :: (value ++ ')' :: rest)) =
        some (.test head ['='] value, ')' :: rest) ↔
      attribute? head = some (head, []) := by
  constructor
  · intro h
    cases splits_of_test? h with
    | equality hname hread =>
      obtain ⟨hcs, -⟩ := stops_attribute?.eq_append hname
      obtain ⟨-, rfl⟩ := Text.eq_of_append_cons_eq hhead hhead hcs
      exact (attribute?_equals_iff _).mp hname
    | other hne => exact absurd rfl hne
  · intro h
    have hname := (attribute?_equals_iff (value ++ ')' :: rest)).mpr h
    simp only [test?, attributeTest?, hname, Option.bind_eq_bind, Option.bind_some,
      pattern?_append_self hvalue]
    rfl

end Test

section Filter

variable {fuel : Nat} {cs rest : List Char} {f : SearchFilter}

theorem filterAt_close (fuel : Nat) (cs : List Char) : filterAt fuel (')' :: cs) = none := by
  cases fuel <;> simp [filterAt]

theorem listAt_close (fuel : Nat) (cs : List Char) : listAt fuel (')' :: cs) = ([], ')' :: cs) := by
  cases fuel with
  | zero => rfl
  | succ fuel => rw [listAt, filterAt_close]

theorem listAt_of_some (h : filterAt fuel cs = some (f, rest)) :
    listAt (fuel + 1) cs = (f :: (listAt fuel rest).1, (listAt fuel rest).2) := by
  rw [listAt, h]

theorem listAt_of_none (h : filterAt fuel cs = none) : listAt (fuel + 1) cs = ([], cs) := by
  rw [listAt, h]

theorem filterAt_test (hand : cs.head? ≠ some '&') (hor : cs.head? ≠ some '|')
    (hnot : cs.head? ≠ some '!') : filterAt (fuel + 1) ('(' :: cs) =
      (test? cs).bind fun (f, rest) => match rest with
        | ')' :: rest' => some (f, rest')
        | _ => none := by
  rw [filterAt]
  · rfl
  · rintro _ rfl
    exact hand rfl
  · rintro _ rfl
    exact hor rfl
  · rintro _ rfl
    exact hnot rfl

theorem filterAt_all (fuel : Nat) (cs : List Char) : filterAt (fuel + 1) ('(' :: '&' :: cs) =
    match (listAt fuel cs).2 with
    | ')' :: rest => some (.all (listAt fuel cs).1, rest)
    | _ => none := by
  rw [filterAt]
  rfl

theorem filterAt_any (fuel : Nat) (cs : List Char) : filterAt (fuel + 1) ('(' :: '|' :: cs) =
    match (listAt fuel cs).2 with
    | ')' :: rest => some (.any (listAt fuel cs).1, rest)
    | _ => none := by
  rw [filterAt]
  rfl

section Pairs

variable {mid : List Char} {found : Option SearchFilter}
  (hfirst : filterAt (fuel + 1) cs = some (f, '(' :: mid))
  (hsecond : filterAt fuel ('(' :: mid) = found.map fun g => (g, ')' :: rest))

include hfirst hsecond

/-- Two filters are read if the second one is, and the first one alone if it is not. -/
theorem listAt_pair : listAt (fuel + 2) cs =
    found.elim ([f], '(' :: mid) fun g => ([f, g], ')' :: rest) := by
  rw [listAt_of_some hfirst]
  cases found with
  | none => rw [listAt_of_none hsecond, Option.elim_none]
  | some g => rw [listAt_of_some hsecond, listAt_close, Option.elim_some]

theorem filterAt_all_pair :
    filterAt (fuel + 3) ('(' :: '&' :: cs) = found.map fun g => (.all [f, g], rest) := by
  rw [filterAt_all, listAt_pair hfirst hsecond]
  cases found <;> rfl

theorem filterAt_any_pair :
    filterAt (fuel + 3) ('(' :: '|' :: cs) = found.map fun g => (.any [f, g], rest) := by
  rw [filterAt_any, listAt_pair hfirst hsecond]
  cases found <;> rfl

end Pairs

end Filter

end ApiCatalog.SearchFilter
