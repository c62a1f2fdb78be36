import ApiCatalog.Proofs.Condition.Comparisons

/-! # Spellings of references

A part of the profile can be referred to in several ways: the steps to it stand in brackets or, if
they are identifiers, behind points, and follow the word for the profile or stand in a quoted path.
Comparisons that differ in nothing else evaluate alike.
-/

namespace ApiCatalog

/-- A position as it is written in a path: a decimal number of 64 bits, with a plus sign or
without. -/
def IsIndex (segment : String) (n : Nat) : Prop :=
  ∃ sign digits, segment.toList = sign ++ digits ∧ (sign = [] ∨ sign = ['+']) ∧
    digitsValue? 10 digits = some n ∧ n < wordSize 64

theorem indexOfSegment?_eq_some_iff {segment : String} {n : Nat} :
    indexOfSegment? segment = some n ↔ IsIndex segment n := by
  have hplus : ∀ digits, digitsValue? 10 ('+' :: digits) = none := fun _ => rfl
  unfold indexOfSegment? IsIndex
  simp only [Option.filter_eq_some_iff, decide_eq_true_eq]
  constructor
  · rintro ⟨hvalue, hn⟩
    split at hvalue
    · rename_i rest htext
      exact ⟨['+'], rest, htext, .inr rfl, hvalue, hn⟩
    · exact ⟨[], _, rfl, .inl rfl, hvalue, hn⟩
  · rintro ⟨sign, digits, htext, rfl | rfl, hvalue, hn⟩
    · rw [List.nil_append] at htext
      refine ⟨?_, hn⟩
      split
      · rename_i rest htext'
        rw [← htext, htext', hplus] at hvalue
        cases hvalue
      · rwa [htext]
    · rw [htext]
      exact ⟨hvalue, hn⟩

namespace Json

/-- A way into a value, by the keys of objects and the positions in lists. -/
inductive Leads : Json → List String → Json → Prop
  | here (value : Json) : Leads value [] value
  | key {fields : List (String × Json)} {segment : String} {path : List String}
      {inner part : Json} : fields.lookup segment = some inner → Leads inner path part →
      Leads (.obj fields) (segment :: path) part
  | index {items : List Json} {segment : String} {path : List String} {n : Nat}
      {inner part : Json} : IsIndex segment n → items[n]? = some inner → Leads inner path part →
      Leads (.arr items) (segment :: path) part

theorem leads_cons_iff {value part : Json} {segment : String} {path : List String} :
    Leads value (segment :: path) part ↔
      ∃ inner, value.step? segment = some inner ∧ Leads inner path part := by
  constructor
  · rintro (_ | ⟨hinner, hpart⟩ | ⟨hindex, hinner, hpart⟩)
    · exact ⟨_, hinner, hpart⟩
    · exact ⟨_, by rw [step?, indexOfSegment?_eq_some_iff.mpr hindex]; exact hinner, hpart⟩
  · rintro ⟨inner, hstep, hpart⟩
    cases value with
    | obj fields => exact .key hstep hpart
    | arr items =>
      obtain ⟨n, hindex, hinner⟩ := Option.bind_eq_some_iff.mp hstep
      exact .index (indexOfSegment?_eq_some_iff.mp hindex) hinner hpart
    | _ => cases hstep

theorem Leads.follow_eq {value part : Json} {path : List String} (h : Leads value path part) :
    value.follow path = part := by
  induction path generalizing value with
  | nil =>
    cases h
    rfl
  | cons segment path ih =>
    obtain ⟨inner, hstep, hpart⟩ := leads_cons_iff.mp h
    rw [follow, hstep]
    exact ih hpart

theorem follow_eq_null {value : Json} {path : List String} (h : ∀ part, ¬Leads value path part) :
    value.follow path = .null := by
  induction path generalizing value with
  | nil => exact absurd (.here value) (h value)
  | cons segment path ih =>
    simp only [leads_cons_iff, not_exists, not_and] at h
    rw [follow]
    cases hstep : value.step? segment with
    | none => rfl
    | some inner => exact ih fun part => h part inner hstep

end Json

namespace Condition

open Grammar
open Condition.Parser (isSpace isIdentChar isDigit)

/-- How a step is written: as `.a`, as `['a']` or as `["a"]`. -/
inductive StepStyle where
  | dot
  | single
  | double
  deriving DecidableEq, Repr

namespace StepStyle

def text (segment : String) : StepStyle → List Char
  | dot => '.' :: segment.toList
  | single => '[' :: '\'' :: (segment.toList ++ ['\'', ']'])
  | double => '[' :: '"' :: (segment.toList ++ ['"', ']'])

/-- The segments that can be written so, wherever the step stands. -/
def Admits (segment : String) : StepStyle → Prop
  | dot => segment.toList ≠ [] ∧ segment.toList.all isIdentChar = true
  | single | double => '\'' ∉ segment.toList ∧ '"' ∉ segment.toList

end StepStyle

/-- How a reference starts: as `profile`, as `#profile`, or as `#jsonPath(#profile, '$` or
`#jsonPath(#profile, "$`. -/
inductive ReferenceStyle where
  | plain
  | hashed
  | single
  | double
  deriving DecidableEq, Repr

/-- Whether steps of a style can stand in the reference; the quotes around a path cannot occur
within it. -/
def ReferenceStyle.Allows : ReferenceStyle → StepStyle → Prop
  | plain, _ | hashed, _ => True
  | single, step => step = .dot
  | double, step => step ≠ .double

structure Spelling where
  style : ReferenceStyle
  steps : List (StepStyle × String)
  deriving DecidableEq, Repr

namespace Spelling

def segments (spelling : Spelling) : List String := spelling.steps.map Prod.snd

def stepsText (steps : List (StepStyle × String)) : List Char :=
  steps.flatMap fun (style, segment) => style.text segment

def pathText (quote : Char) (steps : List (StepStyle × String)) : List Char :=
  ['#', 'j', 's', 'o', 'n', 'P', 'a', 't', 'h', '('] ++
    (['#', 'p', 'r', 'o', 'f', 'i', 'l', 'e', ',', ' '] ++
      quote :: '$' :: (stepsText steps ++ [quote, ')']))

def text (spelling : Spelling) : List Char :=
  match spelling.style with
  | .plain => ['p', 'r', 'o', 'f', 'i', 'l', 'e'] ++ stepsText spelling.steps
  | .hashed => ['#', 'p', 'r', 'o', 'f', 'i', 'l', 'e'] ++ stepsText spelling.steps
  | .single => pathText '\'' spelling.steps
  | .double => pathText '"' spelling.steps

def Admissible (spelling : Spelling) : Prop :=
  ∀ step ∈ spelling.steps, spelling.style.Allows step.1 ∧ step.1.Admits step.2

end Spelling

section Steps

variable {rest : List Char}

namespace StepStyle

variable {style : StepStyle} {segment : String}

theorem identifier (h : dot.Admits segment)
    (hrest : ∀ c, rest.head? = some c → isIdentChar c = false) :
    Identifier segment (segment.toList ++ rest) rest :=
  ⟨rfl, longest_run_iff.mpr ⟨h.1, h.2, hrest⟩⟩

theorem profileStep (h : style.Admits segment)
    (hrest : ∀ c, rest.head? = some c → isIdentChar c = false) :
    ProfileStep segment (style.text segment ++ rest) rest := by
  cases style with
  | dot => exact .dot (identifier h hrest)
  | single => exact .bracket (.refl _) (.inl ⟨h.1, by simp⟩) (.refl _)
  | double => exact .bracket (.refl _) (.inr ⟨h.2, by simp⟩) (.refl _)

theorem pathStep (h : style.Admits segment) (hne : style ≠ double)
    (hrest : ∀ c, rest.head? = some c → isIdentChar c = false) :
    PathStep segment (style.text segment ++ rest) rest := by
  cases style with
  | dot => exact .dot (identifier h hrest)
  | single => exact .bracket ⟨h.1, by simp⟩
  | double => exact absurd rfl hne

theorem trimmed (h : style.Admits segment) : Text.Trimmed (style.text segment) := by
  have hbracket : ∀ quote : Char,
      Text.Trimmed ('[' :: quote :: (segment.toList ++ [quote, ']'])) := by
    intro quote
    have hbetween := Text.trimmed_between (c := '[') (d := ']') rfl rfl
      (quote :: (segment.toList ++ [quote]))
    simpa using hbetween
  cases style with
  | dot =>
    refine Text.trimmed_of_all fun c hc => ?_
    rcases List.mem_cons.mp hc with rfl | hc
    · rfl
    · exact isBlank_of_isIdentChar (List.all_eq_true.mp h.2 c hc)
  | single => exact hbracket _
  | double => exact hbracket _

end StepStyle

variable {steps : List (StepStyle × String)}

open Spelling (stepsText)

/-- Neither a step nor what is behind the steps lets an identifier go on. -/
theorem head_stepsText (hrest : ∀ c, rest.head? = some c → isIdentChar c = false) :
    ∀ c, (stepsText steps ++ rest).head? = some c → isIdentChar c = false := by
  cases steps with
  | nil => exact hrest
  | cons step steps =>
    obtain ⟨style, segment⟩ := step
    intro c hc
    cases style <;> cases hc <;> rfl

theorem steps_stepsText {Step : String → List Char → List Char → Prop}
    (hsteps : ∀ step ∈ steps, ∀ {rest : List Char},
      (∀ c, rest.head? = some c → isIdentChar c = false) →
        Step step.2 (step.1.text step.2 ++ rest) rest)
    (hrest : ∀ c, rest.head? = some c → isIdentChar c = false) :
    Steps Step (steps.map Prod.snd) (stepsText steps ++ rest) rest := by
  induction steps with
  | nil => exact .nil rest
  | cons step steps ih =>
    obtain ⟨hstep, hsteps⟩ := List.forall_mem_cons.mp hsteps
    rw [stepsText, List.flatMap_cons, List.append_assoc, ← stepsText]
    exact .cons (hstep (head_stepsText hrest)) (ih hsteps)

theorem trimmed_stepsText (h : ∀ step ∈ steps, step.1.Admits step.2) :
    Text.Trimmed (stepsText steps) := by
  induction steps with
  | nil => exact Text.trimmed_of_all (by simp [stepsText])
  | cons step steps ih =>
    obtain ⟨hstep, hsteps⟩ := List.forall_mem_cons.mp h
    exact (StepStyle.trimmed hstep).append (ih hsteps)

end Steps

namespace Spelling

variable {spelling : Spelling}

theorem keyword (spelling : Spelling) {rest : List Char} (hrest : Apart rest) :
    Keyword ['p', 'r', 'o', 'f', 'i', 'l', 'e']
      (['p', 'r', 'o', 'f', 'i', 'l', 'e'] ++ (stepsText spelling.steps ++ rest))
      (stepsText spelling.steps ++ rest) :=
  ⟨⟨_, by decide, rfl⟩, head_stepsText fun _ => hrest.isIdentChar_eq_false⟩

section Path

variable {quote : Char} {steps : List (StepStyle × String)}
  (hquote : quote = '\'' ∨ quote = '"')

include hquote

theorem notMem_stepsText (hsteps : ∀ step ∈ steps, step.1.Admits step.2 ∧
    (step.1 = .dot ∨ quote = '"' ∧ step.1 = .single)) : quote ∉ stepsText steps := by
  intro hmem
  obtain ⟨⟨style, segment⟩, hstep, hmem⟩ := List.mem_flatMap.mp hmem
  obtain ⟨hadmits, hstyle⟩ := hsteps _ hstep
  dsimp only at hadmits hstyle hmem
  rcases hstyle with rfl | ⟨rfl, rfl⟩
  · rcases List.mem_cons.mp hmem with rfl | hmem
    · revert hquote
      decide
    · have hident := List.all_eq_true.mp hadmits.2 quote hmem
      revert hident
      rcases hquote with rfl | rfl <;> decide +kernel
  · exact hadmits.2 (by simpa [StepStyle.text] using hmem)

theorem reference_pathText (hpath : Steps PathStep (steps.map Prod.snd) (stepsText steps) [])
    (hmem : quote ∉ stepsText steps) (rest : List Char) :
    Grammar.Reference (steps.map Prod.snd) (pathText quote steps ++ rest) rest := by
  have htext : PathText (steps.map Prod.snd) (String.ofList ('$' :: stepsText steps)) :=
    ⟨[], stepsText steps, [], rfl, rfl, by simp, hpath⟩
  have hspaced : Spaced (' ' :: quote :: '$' :: (stepsText steps ++ quote :: ')' :: rest))
      (quote :: '$' :: (stepsText steps ++ quote :: ')' :: rest)) := ⟨[' '], rfl, rfl⟩
  have hquoted : Quoted (String.ofList ('$' :: stepsText steps))
      (quote :: '$' :: (stepsText steps ++ quote :: ')' :: rest)) (')' :: rest) := by
    rcases hquote with rfl | rfl
    · exact .inl ⟨by simp [hmem], by simp⟩
    · exact .inr ⟨by simp [hmem], by simp⟩
  have hread :=
    Grammar.Reference.jsonPath (.refl _) (.refl _) (.refl _) hspaced hquoted (.refl _) htext
  simpa [pathText] using hread

end Path

theorem reference (h : spelling.Admissible) {rest : List Char} (hrest : Apart rest) :
    Grammar.Reference spelling.segments (spelling.text ++ rest) rest := by
  have hident : ∀ c, rest.head? = some c → isIdentChar c = false :=
    fun _ => hrest.isIdentChar_eq_false
  have hword := spelling.keyword hrest
  have hsteps : Steps ProfileStep spelling.segments (stepsText spelling.steps ++ rest) rest :=
    steps_stepsText (fun step hstep _ => StepStyle.profileStep (h step hstep).2) hident
  have hpath : (∀ step ∈ spelling.steps, step.1 ≠ .double) →
      Steps PathStep spelling.segments (stepsText spelling.steps) [] := fun hne => by
    have hsteps : Steps PathStep spelling.segments (stepsText spelling.steps ++ []) [] :=
      steps_stepsText (fun step hstep _ => StepStyle.pathStep (h step hstep).2 (hne step hstep))
        nofun
    rwa [List.append_nil] at hsteps
  obtain ⟨style, steps⟩ := spelling
  cases style with
  | plain =>
    have hplain := Grammar.Reference.profile (.inl rfl) hword hsteps
    simpa [text] using hplain
  | hashed =>
    have hhashed := Grammar.Reference.profile (.inr rfl) hword hsteps
    simpa [text] using hhashed
  | single =>
    have hdot : ∀ step ∈ steps, step.1 = .dot := fun step hstep => (h step hstep).1
    exact reference_pathText (.inl rfl) (hpath fun step hstep => by simp [hdot step hstep])
      (notMem_stepsText (.inl rfl) fun step hstep => ⟨(h step hstep).2, .inl (hdot step hstep)⟩) _
  | double =>
    have hne : ∀ step ∈ steps, step.1 ≠ .double := fun step hstep => (h step hstep).1
    refine reference_pathText (.inr rfl) (hpath hne)
      (notMem_stepsText (.inr rfl) fun step hstep => ⟨(h step hstep).2, ?_⟩) _
    have hstyle := hne step hstep
    cases hcase : step.1 with
    | dot => exact .inl rfl
    | single => exact .inr ⟨rfl, rfl⟩
    | double => exact absurd hcase hstyle

theorem trimmed (h : spelling.Admissible) : Text.Trimmed spelling.text := by
  have hsteps : Text.Trimmed (stepsText spelling.steps) :=
    trimmed_stepsText fun step hstep => (h step hstep).2
  have hpath : ∀ quote, Text.Trimmed (pathText quote spelling.steps) := by
    intro quote
    have hbetween := Text.trimmed_between (c := '#') (d := ')') rfl rfl
      (['j', 's', 'o', 'n', 'P', 'a', 't', 'h', '('] ++
        (['#', 'p', 'r', 'o', 'f', 'i', 'l', 'e', ',', ' '] ++
          quote :: '$' :: (stepsText spelling.steps ++ [quote])))
    simpa [pathText] using hbetween
  obtain ⟨style, steps⟩ := spelling
  cases style with
  | plain | hashed =>
    exact (Text.trimmed_of_all (by simp [Text.isBlank, Text.isBlankCode])).append hsteps
  | single | double => exact hpath _

theorem writes (h : spelling.Admissible) : Writes (.profile spelling.segments) spelling.text := by
  have hhead : ∃ c tail, spelling.text = c :: tail ∧ c ≠ '\x7b' := by
    obtain ⟨style, steps⟩ := spelling
    cases style <;> exact ⟨_, _, rfl, by decide⟩
  obtain ⟨c, tail, htext, hc⟩ := hhead
  exact ⟨fun hrest => .profile (reference h hrest), trimmed h, by simp [htext],
    by simpa [htext] using hc⟩

end Spelling

/-- All spellings of a reference stand for the part of the profile that its segments lead to, on
either side of a comparison. -/
theorem references_agree (segments : List String) {value : Json} {text : List Char}
    (hliteral : Literal value text []) (relation : Relation) {before after : List Char}
    (hbefore : before.all isSpace = true) (hafter : after.all isSpace = true) :
    ∃ part : Json → Json,
      (∀ profile found, Json.Leads profile segments found → part profile = found) ∧
      (∀ profile, (∀ found, ¬Json.Leads profile segments found) → part profile = .null) ∧
      ∀ spelling : Spelling, spelling.Admissible → spelling.segments = segments →
        (∃ condition,
          Condition.parse
            (String.ofList (comparisonText spelling.text before relation after text)) =
              .ok condition ∧
          ∀ profile, condition.evaluate profile =
            relationValue relation ((part profile).looselyEqual value)) ∧
        ∃ condition,
          Condition.parse
            (String.ofList (comparisonText text before relation after spelling.text)) =
              .ok condition ∧
          ∀ profile, condition.evaluate profile =
            relationValue relation (value.looselyEqual (part profile)) := by
  refine ⟨fun profile => profile.follow segments,
    fun _ _ => Json.Leads.follow_eq, fun _ => Json.follow_eq_null, ?_⟩
  rintro spelling hadmissible rfl
  have hreference := Spelling.writes hadmissible
  exact ⟨exists_parse_of_writes hreference hliteral.writes hbefore hafter relation,
    exists_parse_of_writes hliteral.writes hreference hbefore hafter relation⟩

/-- Brackets and points are mixed in one reference, and other quotes are used in the other. -/
theorem references_agree_country : ∃ left right : Condition,
    Condition.parse "#jsonPath(#profile, \"$['address'].country\") == 'FR'" = .ok left ∧
      Condition.parse "profile.address[\"country\"] == 'FR'" = .ok right ∧
      ∀ profile, left.evaluate profile = right.evaluate profile := by
  have hliteral : Literal (.str "FR") ['\'', 'F', 'R', '\''] [] :=
    .text (.inl ⟨by decide, by decide⟩)
  have hspace : [' '].all isSpace = true := rfl
  obtain ⟨part, -, -, hagree⟩ :=
    references_agree ["address", "country"] hliteral .equal hspace hspace
  have hmixed : (Spelling.mk .double [(.single, "address"), (.dot, "country")]).Admissible := by
    simp only [Spelling.Admissible, List.forall_mem_cons]
    exact ⟨⟨nofun, by decide, by decide⟩, ⟨nofun, by decide, by decide +kernel⟩, nofun⟩
  have hplain : (Spelling.mk .plain [(.dot, "address"), (.double, "country")]).Admissible := by
    simp only [Spelling.Admissible, List.forall_mem_cons]
    exact ⟨⟨trivial, by decide, by decide +kernel⟩, ⟨trivial, by decide, by decide⟩, nofun⟩
  obtain ⟨⟨left, hleft, hvalue⟩, -⟩ := hagree _ hmixed rfl
  obtain ⟨⟨right, hright, hvalue'⟩, -⟩ := hagree _ hplain rfl
  refine ⟨left, right, ?_, ?_, fun profile => by rw [hvalue, hvalue']⟩
  · rw [← hleft]
    exact congrArg Condition.parse (by decide +kernel)
  · rw [← hright]
    exact congrArg Condition.parse (by decide +kernel)

end Condition

end ApiCatalog
