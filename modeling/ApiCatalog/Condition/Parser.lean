import ApiCatalog.Condition.Basic
import ApiCatalog.Text.Alphanumeric
import ApiCatalog.Text.Blank

/-! # Reading conditions

The parser for conditions. A refusal lets the reader try another form at the same place, while a
number with an exponent mark and no exponent breaks off the whole reading.
-/

namespace ApiCatalog

inductive ConditionFault where
  | endOfText
  | unexpected (rest : List Char)
  deriving DecidableEq, Repr

def ConditionFault.message : ConditionFault → String
  | endOfText => "unexpected end of expression"
  | unexpected rest => s!"unexpected input at '{String.ofList rest}'"

/-- The fault of a text that is not read any further than up to `rest`. -/
def ConditionFault.ofRest : List Char → ConditionFault
  | [] => endOfText
  | rest => unexpected rest

namespace Condition.Parser

/-- What comes of reading a form: its value and the rest of the text, a refusal, or a break at a
place that no other form can mend. -/
inductive Outcome (α : Type) where
  | done (value : α) (rest : List Char)
  | refused
  | broken (place : List Char)
  deriving Repr

namespace Outcome

def map {α β : Type} (f : α → β) : Outcome α → Outcome β
  | done value rest => done (f value) rest
  | refused => refused
  | broken place => broken place

def andThen {α β : Type} (o : Outcome α) (next : α → List Char → Outcome β) : Outcome β :=
  match o with
  | done value rest => next value rest
  | refused => refused
  | broken place => broken place

def orElse {α : Type} (o : Outcome α) (other : Outcome α) : Outcome α :=
  match o with
  | refused => other
  | o => o

def ofOption {α : Type} : Option (α × List Char) → Outcome α
  | some (value, rest) => done value rest
  | none => refused

end Outcome

def isSpace (c : Char) : Bool := c == ' ' || c == '\t' || c == '\r' || c == '\n'

def dropSpace (cs : List Char) : List Char := cs.dropWhile isSpace

def isIdentChar (c : Char) : Bool := Text.isAlphanumeric c || c == '_' || c == '-'

def isDigit (c : Char) : Bool := '0' ≤ c && c ≤ '9'

/-- The rest of a text after exactly the given characters. -/
def after? : List Char → List Char → Option (List Char)
  | [], cs => some cs
  | w :: word, c :: cs => if c = w then after? word cs else none
  | _ :: _, [] => none

/-- The rest of a text after the given letters in upper or lower case. -/
def afterLetters? : List Char → List Char → Option (List Char)
  | [], cs => some cs
  | w :: word, c :: cs => if c.toLower = w then afterLetters? word cs else none
  | _ :: _, [] => none

def startsIdent : List Char → Bool
  | c :: _ => isIdentChar c
  | [] => false

/-- The rest of a text after a keyword, which ends where an identifier would. -/
def keyword? (word : List Char) (cs : List Char) : Option (List Char) :=
  (afterLetters? word cs).filter fun rest => !startsIdent rest

def identifier? (cs : List Char) : Option (String × List Char) :=
  let (name, rest) := cs.span isIdentChar
  if name.isEmpty then none else some (String.ofList name, rest)

/-- The text up to the next quote, and what follows the quote. -/
def upTo? (quote : Char) (cs : List Char) : Option (String × List Char) :=
  let (text, rest) := cs.span (· != quote)
  match rest with
  | _ :: rest' => some (String.ofList text, rest')
  | [] => none

/-- A text in single or in double quotes. -/
def quoted? : List Char → Option (String × List Char)
  | '\'' :: cs => upTo? '\'' cs
  | '"' :: cs => upTo? '"' cs
  | _ => none

/-- Repeat a form for as long as it is there; `fuel` bounds the repetitions. -/
def many (form : List Char → Option (String × List Char)) :
    Nat → List Char → List String × List Char
  | 0, cs => ([], cs)
  | fuel + 1, cs =>
    match form cs with
    | some (value, rest) =>
      let (values, rest') := many form fuel rest
      (value :: values, rest')
    | none => ([], cs)

/-- A step of a path after the root sign: `.a` or `['a']`. -/
def pathStep? : List Char → Option (String × List Char)
  | '.' :: cs => identifier? cs
  | '[' :: '\'' :: cs => do
    let (text, rest) ← upTo? '\'' cs
    match rest with
    | ']' :: rest' => some (text, rest')
    | _ => none
  | _ => none

/-- The segments of a path such as `$.a['b']`, which may stand between white space. -/
def jsonPath? (path : String) : Option (List String) :=
  match Text.trimChars path.toList with
  | '$' :: cs =>
    match many pathStep? cs.length cs with
    | (segments, []) => some segments
    | _ => none
  | _ => none

def after1? (c : Char) : List Char → Option (List Char)
  | d :: rest => if d = c then some rest else none
  | [] => none

/-- A profile reference of the form `#jsonPath(#profile, '$.a.b')`. -/
def pathReference? (cs : List Char) : Option (List String × List Char) := do
  let cs ← after? ['#', 'j', 's', 'o', 'n', 'P', 'a', 't', 'h'] cs
  let cs ← after1? '(' (dropSpace cs)
  let cs ← after? ['#', 'p', 'r', 'o', 'f', 'i', 'l', 'e'] (dropSpace cs)
  let cs ← after1? ',' (dropSpace cs)
  let (path, cs) ← quoted? (dropSpace cs)
  let cs ← after1? ')' (dropSpace cs)
  let segments ← jsonPath? path
  return (segments, cs)

/-- A step after the profile: `.a`, `['a']` or `["a"]`. -/
def profileStep? : List Char → Option (String × List Char)
  | '.' :: cs => identifier? cs
  | '[' :: cs => do
    let (text, rest) ← quoted? (dropSpace cs)
    let rest ← after1? ']' (dropSpace rest)
    return (text, rest)
  | _ => none

def dropHash : List Char → List Char
  | '#' :: cs => cs
  | cs => cs

/-- A profile reference of the form `profile.a['b']`. -/
def profileReference? (cs : List Char) : Option (List String × List Char) := do
  let rest ← keyword? ['p', 'r', 'o', 'f', 'i', 'l', 'e'] (dropHash cs)
  return many profileStep? rest.length rest

def dropSign : List Char → List Char
  | '+' :: cs => cs
  | '-' :: cs => cs
  | cs => cs

/-- The digits of a number before and after its point, of which there is at least one. -/
def mantissa? (cs : List Char) : Option ((List Char × List Char) × List Char) :=
  let (whole, rest) := cs.span isDigit
  match rest with
  | '.' :: more =>
    let (fraction, rest') := more.span isDigit
    if whole.isEmpty && fraction.isEmpty then none else some ((whole, fraction), rest')
  | _ => if whole.isEmpty then none else some ((whole, []), rest)

/-- The nearest double to a decimal number; what is beyond all of them is null. -/
def numberValue (negative : Bool) (digits : List Char) (exponent : Int) : Json :=
  match (digitsValue? 10 digits).bind (Double.ofDecimal? negative · exponent) with
  | some x => .num (.float x)
  | none => .null

/-- A decimal number, optionally with a sign, a fraction and an exponent. -/
def decimal (cs : List Char) : Outcome Json :=
  let negative := cs.head? == some '-'
  match mantissa? (dropSign cs) with
  | none => .refused
  | some ((whole, fraction), rest) =>
    let value (exponent : Int) :=
      numberValue negative (whole ++ fraction) (exponent - fraction.length)
    match rest with
    | [] => .done (value 0) []
    | mark :: more =>
      if mark == 'e' || mark == 'E' then
        let (digits, rest') := (dropSign more).span isDigit
        match digitsValue? 10 digits with
        | none => .broken cs
        | some n => .done (value (if more.head? == some '-' then -(n : Int) else n)) rest'
      else .done (value 0) rest

/-- The words for what is no number, and for infinity; both stand for null. -/
def nonNumber? (cs : List Char) : Option (Json × List Char) :=
  (afterLetters? ['n', 'a', 'n'] cs <|> afterLetters? ['i', 'n', 'f'] cs).map (Json.null, ·)

def number (cs : List Char) : Outcome Json := (decimal cs).orElse (.ofOption (nonNumber? cs))

/-- A literal that is written as a word. -/
def word? (cs : List Char) : Option (Json × List Char) :=
  (keyword? ['t', 'r', 'u', 'e'] cs).map (.bool true, ·) <|>
    (keyword? ['f', 'a', 'l', 's', 'e'] cs).map (.bool false, ·) <|>
    (keyword? ['n', 'u', 'l', 'l'] cs).map (.null, ·)

/-- A text or word literal, or a reference to the profile. -/
def simpleOperand? (cs : List Char) : Option (Operand × List Char) :=
  (pathReference? cs).map (fun (path, rest) => (.profile path, rest)) <|>
    (profileReference? cs).map (fun (path, rest) => (.profile path, rest)) <|>
    (quoted? cs).map (fun (text, rest) => (.literal (.str text), rest)) <|>
    (word? cs).map (fun (value, rest) => (.literal value, rest))

def operand (cs : List Char) : Outcome Operand :=
  (Outcome.ofOption (simpleOperand? cs)).orElse ((number cs).map .literal)

def relation? : List Char → Option (Relation × List Char)
  | '=' :: '=' :: cs => some (.equal, cs)
  | '!' :: '=' :: cs => some (.unequal, cs)
  | _ => none

/-- The relation and the right-hand side after an operand; where they are refused, the operand
stands by itself. -/
def afterOperand (left : Operand) (cs : List Char) : Outcome Formula :=
  match relation? (dropSpace cs) with
  | none => .done (.holds left) cs
  | some (relation, rest) =>
    ((operand (dropSpace rest)).andThen fun right rest' =>
        .done (.compare left relation right) (dropSpace rest')).orElse
      (.done (.holds left) cs)

def comparison (cs : List Char) : Outcome Formula :=
  (operand (dropSpace cs)).andThen fun left rest => afterOperand left (dropSpace rest)

/-- The rest of a text after a negation sign, which is not the start of a relation. -/
def negation? : List Char → Option (List Char)
  | '!' :: '=' :: _ => none
  | '!' :: cs => some cs
  | _ => none

/-- A formula without a connective at its top, given the readers of what it holds. -/
def unaryWith (unary expr : List Char → Outcome Formula) (cs : List Char) : Outcome Formula :=
  let start := dropSpace cs
  let negated (rest? : Option (List Char)) : Outcome Formula :=
    match rest? with
    | some rest => (unary (dropSpace rest)).map .not
    | none => .refused
  let grouped : Outcome Formula :=
    match start with
    | '(' :: rest =>
      (expr (dropSpace rest)).andThen fun formula rest' =>
        match dropSpace rest' with
        | ')' :: rest'' => .done formula (dropSpace rest'')
        | _ => .refused
    | _ => .refused
  (negated (negation? start)).orElse <|
    (negated (keyword? ['n', 'o', 't'] start)).orElse <|
      grouped.orElse (comparison cs)

/-- Join further items to what was read so far, for as long as a connective and an item follow;
`fuel` bounds their number. -/
def chain (connective? : List Char → Option (List Char)) (item : List Char → Outcome Formula)
    (join : Formula → Formula → Formula) : Nat → Formula → List Char → Outcome Formula
  | 0, left, cs => .done left cs
  | fuel + 1, left, cs =>
    match connective? (dropSpace cs) with
    | none => .done left cs
    | some rest =>
      match item (dropSpace rest) with
      | .done right rest' => chain connective? item join fuel (join left right) rest'
      | .refused => .done left cs
      | .broken place => .broken place

def conjunction? (cs : List Char) : Option (List Char) :=
  after? ['&', '&'] cs <|> keyword? ['a', 'n', 'd'] cs

def disjunction? (cs : List Char) : Option (List Char) :=
  after? ['|', '|'] cs <|> keyword? ['o', 'r'] cs

def andWith (unary : List Char → Outcome Formula) (cs : List Char) : Outcome Formula :=
  (unary cs).andThen fun first rest => chain conjunction? unary .and rest.length first rest

def orWith (unary : List Char → Outcome Formula) (cs : List Char) : Outcome Formula :=
  (andWith unary cs).andThen fun first rest =>
    chain disjunction? (andWith unary) .or rest.length first rest

/-- A formula without a connective at its top; `fuel` bounds the depth of negations and groups. -/
def unaryAt : Nat → List Char → Outcome Formula
  | 0, _ => .refused
  | fuel + 1, cs => unaryWith (unaryAt fuel) (orWith (unaryAt fuel)) cs

def unary (cs : List Char) : Outcome Formula := unaryAt (cs.length + 1) cs

def andExpr (cs : List Char) : Outcome Formula := andWith (unaryAt (cs.length + 1)) cs

def orExpr (cs : List Char) : Outcome Formula := orWith (unaryAt (cs.length + 1)) cs

/-- The text of a condition without the braces that may enclose it. -/
def unwrap (cs : List Char) : List Char :=
  match cs with
  | '\x7b' :: rest =>
    match rest.getLast? with
    | some '\x7d' => rest.dropLast
    | _ => cs
  | _ => cs

/-- The characters of a condition that its grammar is about. -/
def body (source : String) : List Char := unwrap (Text.trimChars source.toList)

def formula (cs : List Char) : Except ConditionFault Formula :=
  let start := dropSpace cs
  match orExpr start with
  | .done f rest =>
    match dropSpace rest with
    | [] => .ok f
    | rest' => .error (.unexpected rest')
  | .refused => .error (.ofRest start)
  | .broken place => .error (.ofRest place)

end Condition.Parser

def Condition.parse (source : String) : Except ConditionFault Condition :=
  (Parser.formula (Parser.body source)).map fun formula => ⟨source, formula⟩

end ApiCatalog
