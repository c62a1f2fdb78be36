import ApiCatalog.Proofs.Condition.Parse

/-! # Comparisons

The text of a comparison is put together from the texts of its operands. An operand is read up to
the white space or the sign behind it, and a condition starts and ends with its operands.
-/

namespace ApiCatalog.Condition.Grammar

open Condition.Parser (isSpace isIdentChar isDigit)

def Apart (rest : List Char) : Prop :=
  ∀ c, rest.head? = some c → isSpace c = true ∨ c = '=' ∨ c = '!'

variable {rest : List Char}

theorem Apart.isIdentChar_eq_false (h : Apart rest) {c : Char} (hc : rest.head? = some c) :
    isIdentChar c = false := by
  have hapart := h c hc
  simp only [isSpace, Bool.or_eq_true, beq_iff_eq] at hapart
  rcases hapart with (((rfl | rfl) | rfl) | rfl) | rfl | rfl <;> decide +kernel

/-- A text that is an operand wherever a comparison can go on behind it, and that is taken as it is
at either end of a condition. -/
structure Writes (o : Operand) (text : List Char) : Prop where
  reads : ∀ {rest : List Char}, Apart rest → ReadsOperand o (text ++ rest) rest
  trimmed : Text.Trimmed text
  ne_nil : text ≠ []
  head_ne : text.head? ≠ some '\x7b'

theorem Quoted.append {text : String} {cs : List Char} (h : Quoted text cs []) (rest : List Char) :
    Quoted text (cs ++ rest) rest := by
  rcases h with ⟨hmem, rfl⟩ | ⟨hmem, rfl⟩
  · exact .inl ⟨hmem, by simp⟩
  · exact .inr ⟨hmem, by simp⟩

theorem Quoted.trimmed {text : String} {cs : List Char} (h : Quoted text cs []) :
    Text.Trimmed cs := by
  rcases h with ⟨-, rfl⟩ | ⟨-, rfl⟩
  · exact Text.trimmed_between rfl rfl text.toList
  · exact Text.trimmed_between rfl rfl text.toList

theorem Letters.append {word cs : List Char} (h : Letters word cs []) (rest : List Char) :
    Letters word (cs ++ rest) rest := by
  obtain ⟨letters, hletters, rfl⟩ := h
  exact ⟨letters, hletters, by simp⟩

theorem Letters.trimmed {word cs : List Char} (h : Letters word cs [])
    (hword : ∀ w ∈ word, Text.isBlank w = false ∧ Text.isBlank w.toUpper = false) :
    Text.Trimmed cs := by
  obtain ⟨letters, rfl, rfl⟩ := h
  rw [List.append_nil]
  refine Text.trimmed_of_all fun c hc => ?_
  obtain ⟨hlower, hupper⟩ := hword c.toLower (List.mem_map_of_mem hc)
  rcases eq_or_eq_toUpper (c := c) rfl with he | he
  · rwa [he]
  · rwa [he]

theorem Keyword.append {word cs : List Char} (h : Keyword word cs []) (hrest : Apart rest) :
    Keyword word (cs ++ rest) rest :=
  ⟨h.1.append rest, fun _ hc => hrest.isIdentChar_eq_false hc⟩

theorem Numeral.mem {value : Json} {text : List Char} (h : Numeral value text) {c : Char}
    (hc : c ∈ text) : isDigit c = true ∨ c ∈ ['+', '-', '.', 'e', 'E'] := by
  have hdigits : ∀ {digits : List Char}, digits.all isDigit = true → c ∈ digits →
      isDigit c = true := fun hall hmem => List.all_eq_true.mp hall c hmem
  have hsigns : ∀ {sign : List Char}, IsSign sign → c ∈ sign →
      c ∈ ['+', '-', '.', 'e', 'E'] := by
    rintro sign (rfl | rfl | rfl) hmem <;> simp_all
  obtain ⟨hsign, hmantissa, hexponent⟩ := h
  rw [List.mem_append, List.mem_append] at hc
  rcases hc with hc | hc | hc
  · exact .inr (hsigns hsign hc)
  · cases hmantissa with
    | whole hall _ => exact .inl (hdigits hall hc)
    | point hwhole hfraction _ =>
      rw [List.mem_append, List.mem_cons] at hc
      rcases hc with hc | rfl | hc
      · exact .inl (hdigits hwhole hc)
      · exact .inr (by simp)
      · exact .inl (hdigits hfraction hc)
  · cases hexponent with
    | absent => cases hc
    | marked hmark hsign hall _ =>
      rw [List.mem_cons, List.mem_append] at hc
      rcases hc with rfl | hc | hc
      · rcases hmark with rfl | rfl <;> exact .inr (by simp)
      · exact .inr (hsigns hsign hc)
      · exact .inl (hdigits hall hc)

theorem isBlank_of_isDigit {c : Char} (h : isDigit c = true) : Text.isBlank c = false := by
  simp only [isDigit, Bool.and_eq_true, decide_eq_true_eq] at h
  have hlow : '0'.toNat ≤ c.toNat := h.1
  have hhigh : c.toNat ≤ '9'.toNat := h.2
  rw [show '0'.toNat = 48 from rfl] at hlow
  rw [show '9'.toNat = 57 from rfl] at hhigh
  rw [Bool.eq_false_iff]
  intro hblank
  simp only [Text.isBlank, Text.isBlankCode, Bool.or_eq_true, Bool.and_eq_true, decide_eq_true_eq,
    beq_iff_eq] at hblank
  omega

theorem Number.append {value : Json} {cs : List Char} (h : Number value cs [])
    (hrest : Apart rest) : Number value (cs ++ rest) rest := by
  cases h with
  | decimal h =>
    rw [List.append_nil]
    refine .decimal h ⟨⟨value, h⟩, fun text' rest' he hnumeral => ?_⟩
    obtain ⟨value', hnumeral⟩ := hnumeral
    rcases List.append_eq_append_iff.mp he with ⟨more, rfl, hmore⟩ | ⟨more, rfl, -⟩
    · cases more with
      | nil => simp
      | cons c more =>
        -- the number would have to go on with what stands apart from it
        have hapart := hrest c (by rw [hmore]; rfl)
        have hmem := hnumeral.mem (c := c) (by simp)
        simp only [isSpace, Bool.or_eq_true, beq_iff_eq] at hapart
        exfalso
        rcases hapart with (((rfl | rfl) | rfl) | rfl) | rfl | rfl <;> revert hmem <;> decide
    · simp
  | nan h => exact .nan (h.append rest)
  | inf h => exact .inf (h.append rest)

theorem Number.trimmed {value : Json} {cs : List Char} (h : Number value cs []) :
    Text.Trimmed cs := by
  cases h with
  | decimal h =>
    rw [List.append_nil]
    refine Text.trimmed_of_all fun c hc => ?_
    rcases h.mem hc with hdigit | hmem
    · exact isBlank_of_isDigit hdigit
    · simp only [List.mem_cons, List.not_mem_nil, or_false] at hmem
      rcases hmem with rfl | rfl | rfl | rfl | rfl <;> rfl
  | nan h | inf h => exact h.trimmed (by simp [Text.isBlank, Text.isBlankCode])

theorem Literal.append {value : Json} {text : List Char} (h : Literal value text [])
    (hrest : Apart rest) : Literal value (text ++ rest) rest := by
  cases h with
  | text h => exact .text (h.append rest)
  | true h => exact .true (h.append hrest)
  | false h => exact .false (h.append hrest)
  | null h => exact .null (h.append hrest)
  | number h => exact .number (h.append hrest)

theorem Literal.trimmed {value : Json} {text : List Char} (h : Literal value text []) :
    Text.Trimmed text := by
  cases h with
  | text h => exact h.trimmed
  | true h | false h | null h => exact h.1.trimmed (by simp [Text.isBlank, Text.isBlankCode])
  | number h => exact h.trimmed

theorem Literal.exists_cons {value : Json} {text : List Char} (h : Literal value text []) :
    ∃ c tail, text = c :: tail ∧ c ≠ '\x7b' := by
  cases h with
  | text h =>
    obtain ⟨_, _, rfl | rfl, rfl⟩ := h.exists_cons <;> exact ⟨_, _, rfl, by decide⟩
  | true h | false h | null h =>
    obtain ⟨_, rfl | rfl⟩ := h.exists_cons <;> exact ⟨_, _, rfl, by decide⟩
  | number h =>
    cases h with
    | decimal h =>
      obtain ⟨c, tail, rfl, hc⟩ := h.exists_cons
      refine ⟨c, _, rfl, ?_⟩
      rintro rfl
      revert hc
      decide
    | nan h | inf h =>
      obtain ⟨_, _, rfl | rfl, rfl, -⟩ := h.exists_cons <;> exact ⟨_, _, rfl, by decide⟩

theorem Literal.writes {value : Json} {text : List Char} (h : Literal value text []) :
    Writes (.literal value) text := by
  obtain ⟨c, tail, rfl, hc⟩ := h.exists_cons
  exact ⟨fun hrest => .literal (h.append hrest), h.trimmed, by simp, by simpa using hc⟩

def signText : Relation → List Char
  | .equal => ['=', '=']
  | .unequal => ['!', '=']

theorem relationSign_signText (relation : Relation) (rest : List Char) :
    RelationSign relation (signText relation ++ rest) rest := by
  cases relation with
  | equal => exact .equal rest
  | unequal => exact .unequal rest

def comparisonText (left before : List Char) (relation : Relation) (after right : List Char) :
    List Char :=
  left ++ (before ++ (signText relation ++ (after ++ right)))

section Comparison

variable {left right : Operand} {text text' before after : List Char}

theorem apart_signText (hbefore : before.all isSpace = true) (relation : Relation)
    (rest : List Char) : Apart (before ++ (signText relation ++ rest)) := by
  cases before with
  | nil =>
    intro c hc
    cases relation <;> cases hc
    · exact .inr (.inl rfl)
    · exact .inr (.inr rfl)
  | cons space before =>
    rintro c ⟨⟩
    exact .inl (List.all_eq_true.mp hbefore _ List.mem_cons_self)

theorem exists_parse_of_writes (hleft : Writes left text) (hright : Writes right text')
    (hbefore : before.all isSpace = true) (hafter : after.all isSpace = true)
    (relation : Relation) :
    ∃ condition, Condition.parse
        (String.ofList (comparisonText text before relation after text')) = .ok condition ∧
      ∀ profile, condition.evaluate profile = relationValue relation
        ((left.resolve profile).looselyEqual (right.resolve profile)) := by
  have hright' : ReadsOperand right text' [] := by
    have hreads : ReadsOperand right (text' ++ []) [] := hright.reads nofun
    rwa [List.append_nil] at hreads
  have hreads := Reads.compare (.refl _) (hleft.reads (apart_signText hbefore relation _))
    ⟨before, hbefore, rfl⟩ (relationSign_signText relation _) ⟨after, hafter, rfl⟩ hright'
  have htrimmed : Text.Trimmed (comparisonText text before relation after text') := by
    have haround := hleft.trimmed.around hleft.ne_nil hright.trimmed hright.ne_nil
      (before ++ (signText relation ++ after))
    simpa [comparisonText] using haround
  have hbody : Parser.body (String.ofList (comparisonText text before relation after text')) =
      comparisonText text before relation after text' := by
    refine isBody_iff.mp ⟨[], _, [], rfl, rfl, by simp, htrimmed, .inr ⟨rfl, fun inner he => ?_⟩⟩
    obtain ⟨c, tail, rfl⟩ := List.exists_cons_of_ne_nil hleft.ne_nil
    exact hleft.head_ne (congrArg some (List.cons.inj he).1)
  obtain ⟨f, hf, hvalue⟩ := formula_eq_ok_iff.mpr ⟨[], .expr (.unary hreads), .refl _⟩
  exact ⟨⟨_, f⟩, by rw [Condition.parse, hbody, comparisonText, hf]; rfl,
    fun profile => congrFun hvalue profile⟩

end Comparison

end ApiCatalog.Condition.Grammar
