import ApiCatalog.Condition.Parser
import ApiCatalog.Proofs.Text.Blank

/-! # The grammar of conditions

Which texts are conditions, and what they mean. A relation of a form ties a text that starts with
the form to what is left behind it, so that a rule can ask what follows. No rule says in which order
forms are to be tried.
-/

namespace ApiCatalog.Condition.Grammar

open Condition.Parser (isSpace isIdentChar isDigit numberValue)

def Spaced (cs rest : List Char) : Prop :=
  ∃ space, space.all isSpace = true ∧ cs = space ++ rest

/-- A text of a kind that no longer one replaces. -/
def Longest (kind : List Char → Prop) (text rest : List Char) : Prop :=
  kind text ∧ ∀ text' rest', text ++ rest = text' ++ rest' → kind text' →
    text'.length ≤ text.length

def Letters (word cs rest : List Char) : Prop :=
  ∃ letters, letters.map Char.toLower = word ∧ cs = letters ++ rest

def Keyword (word cs rest : List Char) : Prop :=
  Letters word cs rest ∧ ∀ c, rest.head? = some c → isIdentChar c = false

def Identifier (name : String) (cs rest : List Char) : Prop :=
  cs = name.toList ++ rest ∧
    Longest (fun text => text ≠ [] ∧ text.all isIdentChar = true) name.toList rest

def QuotedBy (quote : Char) (text : String) (cs rest : List Char) : Prop :=
  quote ∉ text.toList ∧ cs = quote :: (text.toList ++ quote :: rest)

def Quoted (text : String) (cs rest : List Char) : Prop :=
  QuotedBy '\'' text cs rest ∨ QuotedBy '"' text cs rest

def IsSign (sign : List Char) : Prop := sign = [] ∨ sign = ['+'] ∨ sign = ['-']

/-- The digits of a number, with a point behind them, between them or before them, or without. -/
inductive Mantissa : List Char → List Char → List Char → Prop
  | whole {whole : List Char} : whole.all isDigit = true → whole ≠ [] → Mantissa whole [] whole
  | point {whole fraction : List Char} : whole.all isDigit = true → fraction.all isDigit = true →
      whole ≠ [] ∨ fraction ≠ [] → Mantissa whole fraction (whole ++ '.' :: fraction)

inductive Exponent : Int → List Char → Prop
  | absent : Exponent 0 []
  | marked {mark : Char} {sign digits : List Char} {n : Nat} : mark = 'e' ∨ mark = 'E' →
      IsSign sign → digits.all isDigit = true → digitsValue? 10 digits = some n →
      Exponent (if sign = ['-'] then -n else n) (mark :: (sign ++ digits))

inductive Numeral : Json → List Char → Prop
  | mk {sign whole fraction mantissa text : List Char} {exponent : Int} : IsSign sign →
      Mantissa whole fraction mantissa → Exponent exponent text →
      Numeral (numberValue (sign = ['-']) (whole ++ fraction) (exponent - fraction.length))
        (sign ++ (mantissa ++ text))

/-- A decimal number, or a word for what is not a number or not finite, both of which are null. -/
inductive Number : Json → List Char → List Char → Prop
  | decimal {value : Json} {text rest : List Char} : Numeral value text →
      Longest (fun text => ∃ value, Numeral value text) text rest → Number value (text ++ rest) rest
  | nan {cs rest : List Char} : Letters ['n', 'a', 'n'] cs rest → Number .null cs rest
  | inf {cs rest : List Char} : Letters ['i', 'n', 'f'] cs rest → Number .null cs rest

inductive Steps (Step : String → List Char → List Char → Prop) :
    List String → List Char → List Char → Prop
  | nil (rest : List Char) : Steps Step [] rest rest
  | cons {name : String} {names : List String} {cs mid rest : List Char} : Step name cs mid →
      Steps Step names mid rest → Steps Step (name :: names) cs rest

/-- A step `.a` or `['a']` of a path in quotes. -/
inductive PathStep : String → List Char → List Char → Prop
  | dot {name : String} {cs rest : List Char} : Identifier name cs rest →
      PathStep name ('.' :: cs) rest
  | bracket {name : String} {cs rest : List Char} : QuotedBy '\'' name cs (']' :: rest) →
      PathStep name ('[' :: cs) rest

/-- A text such as `$.a['b']`, blank characters at its ends aside. -/
def PathText (path : List String) (text : String) : Prop :=
  ∃ before steps after, before.all Text.isBlank = true ∧ after.all Text.isBlank = true ∧
    text.toList = before ++ ('$' :: steps ++ after) ∧ Steps PathStep path steps []

/-- A step `.a`, `['a']` or `["a"]` behind the word for the profile. -/
inductive ProfileStep : String → List Char → List Char → Prop
  | dot {name : String} {cs rest : List Char} : Identifier name cs rest →
      ProfileStep name ('.' :: cs) rest
  | bracket {name : String} {cs cs₁ cs₂ rest : List Char} : Spaced cs cs₁ → Quoted name cs₁ cs₂ →
      Spaced cs₂ (']' :: rest) → ProfileStep name ('[' :: cs) rest

inductive Reference : List String → List Char → List Char → Prop
  /-- As in `#jsonPath(#profile, '$.a')`. -/
  | jsonPath {path : List String} {text : String} {cs cs₁ cs₂ cs₃ cs₄ cs₅ rest : List Char} :
      Spaced cs ('(' :: cs₁) →
      Spaced cs₁ (['#', 'p', 'r', 'o', 'f', 'i', 'l', 'e'] ++ cs₂) →
      Spaced cs₂ (',' :: cs₃) →
      Spaced cs₃ cs₄ → Quoted text cs₄ cs₅ → Spaced cs₅ (')' :: rest) →
      PathText path text →
      Reference path (['#', 'j', 's', 'o', 'n', 'P', 'a', 't', 'h'] ++ cs) rest
  /-- As in `profile.a` and `#profile['a']`. -/
  | profile {path : List String} {hash cs cs₁ rest : List Char} : hash = [] ∨ hash = ['#'] →
      Keyword ['p', 'r', 'o', 'f', 'i', 'l', 'e'] cs cs₁ → Steps ProfileStep path cs₁ rest →
      Reference path (hash ++ cs) rest

inductive Literal : Json → List Char → List Char → Prop
  | text {text : String} {cs rest : List Char} : Quoted text cs rest → Literal (.str text) cs rest
  | true {cs rest : List Char} : Keyword ['t', 'r', 'u', 'e'] cs rest →
      Literal (.bool .true) cs rest
  | false {cs rest : List Char} : Keyword ['f', 'a', 'l', 's', 'e'] cs rest →
      Literal (.bool .false) cs rest
  | null {cs rest : List Char} : Keyword ['n', 'u', 'l', 'l'] cs rest → Literal .null cs rest
  | number {value : Json} {cs rest : List Char} : Number value cs rest → Literal value cs rest

inductive ReadsOperand : Operand → List Char → List Char → Prop
  | profile {path : List String} {cs rest : List Char} : Reference path cs rest →
      ReadsOperand (.profile path) cs rest
  | literal {value : Json} {cs rest : List Char} : Literal value cs rest →
      ReadsOperand (.literal value) cs rest

def OrSign (cs rest : List Char) : Prop := cs = '|' :: '|' :: rest ∨ Keyword ['o', 'r'] cs rest

def AndSign (cs rest : List Char) : Prop :=
  cs = '&' :: '&' :: rest ∨ Keyword ['a', 'n', 'd'] cs rest

def NotSign (cs rest : List Char) : Prop :=
  cs = '!' :: rest ∧ rest.head? ≠ some '=' ∨ Keyword ['n', 'o', 't'] cs rest

inductive RelationSign : Relation → List Char → List Char → Prop
  | equal (rest : List Char) : RelationSign .equal ('=' :: '=' :: rest) rest
  | unequal (rest : List Char) : RelationSign .unequal ('!' :: '=' :: rest) rest

/-- The strength with which the parts of a formula hold together. -/
inductive Level where
  | expr
  | and
  | unary

def relationValue : Relation → Bool → Bool
  | .equal, equal => equal
  | .unequal, equal => !equal

/-- A text that starts with a formula, its value on a profile, and what follows. -/
inductive Reads : Level → (Json → Bool) → List Char → List Char → Prop
  | or {v w : Json → Bool} {cs cs₁ cs₂ cs₃ rest : List Char} : Reads .expr v cs cs₁ →
      Spaced cs₁ cs₂ → OrSign cs₂ cs₃ → Reads .and w cs₃ rest →
      Reads .expr (fun profile => v profile || w profile) cs rest
  | expr {v : Json → Bool} {cs rest : List Char} : Reads .and v cs rest → Reads .expr v cs rest
  | and {v w : Json → Bool} {cs cs₁ cs₂ cs₃ rest : List Char} : Reads .and v cs cs₁ →
      Spaced cs₁ cs₂ → AndSign cs₂ cs₃ → Reads .unary w cs₃ rest →
      Reads .and (fun profile => v profile && w profile) cs rest
  | unary {v : Json → Bool} {cs rest : List Char} : Reads .unary v cs rest → Reads .and v cs rest
  | not {v : Json → Bool} {cs cs₁ cs₂ rest : List Char} : Spaced cs cs₁ → NotSign cs₁ cs₂ →
      Reads .unary v cs₂ rest → Reads .unary (fun profile => !v profile) cs rest
  | group {v : Json → Bool} {cs cs₁ cs₂ rest : List Char} : Spaced cs ('(' :: cs₁) →
      Reads .expr v cs₁ cs₂ → Spaced cs₂ (')' :: rest) → Reads .unary v cs rest
  | compare {left right : Operand} {relation : Relation}
      {cs cs₁ cs₂ cs₃ cs₄ cs₅ rest : List Char} : Spaced cs cs₁ → ReadsOperand left cs₁ cs₂ →
      Spaced cs₂ cs₃ → RelationSign relation cs₃ cs₄ → Spaced cs₄ cs₅ →
      ReadsOperand right cs₅ rest →
      Reads .unary
        (fun profile => relationValue relation
          ((left.resolve profile).looselyEqual (right.resolve profile))) cs rest
  | holds {operand : Operand} {cs cs₁ rest : List Char} : Spaced cs cs₁ →
      ReadsOperand operand cs₁ rest →
      Reads .unary (fun profile => (operand.resolve profile).same (.bool true)) cs rest

/-- A text that is a formula with the given values, white space around it aside. -/
def Derives (text : List Char) (value : Json → Bool) : Prop :=
  ∃ rest, Reads .expr value text rest ∧ Spaced rest []

/-- The text of a condition is what stands in the source between blank characters, and between
braces if there are both. -/
def IsBody (source : String) (text : List Char) : Prop :=
  ∃ before core after, before.all Text.isBlank = true ∧ after.all Text.isBlank = true ∧
    source.toList = before ++ (core ++ after) ∧ Text.Trimmed core ∧
    (core = '\x7b' :: (text ++ ['\x7d']) ∨
      core = text ∧ ∀ inner, text ≠ '\x7b' :: (inner ++ ['\x7d']))

end ApiCatalog.Condition.Grammar
