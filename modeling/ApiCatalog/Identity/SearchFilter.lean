import ApiCatalog.Text.Blank

/-! # Search filters

The textual filters of LDAP searches: tests of attributes, joined by the logical connectives. Some
characters have a meaning of their own in a filter, and are escaped where they stand for
themselves.
-/

namespace ApiCatalog

inductive SearchFilter where
  | all (parts : List SearchFilter)
  | any (parts : List SearchFilter)
  | not (part : SearchFilter)
  /-- A test of an attribute by an operator, with its value as it is written. -/
  | test (name operator value : List Char)
  deriving Repr

namespace SearchFilter

/-- The written form of a character that stands for itself. -/
def escapeChar (c : Char) : List Char :=
  if c = '\\' then ['\\', '5', 'c']
  else if c = '*' then ['\\', '2', 'a']
  else if c = '(' then ['\\', '2', '8']
  else if c = ')' then ['\\', '2', '9']
  else if c = '\x00' then ['\\', '0', '0']
  else [c]

def escape (cs : List Char) : List Char := cs.flatMap escapeChar

def isHexDigit (c : Char) : Bool := c.isDigit || ('a' ≤ c && c ≤ 'f') || ('A' ≤ c && c ≤ 'F')

def isValueChar (c : Char) : Bool := c != '\x00' && c != '(' && c != ')' && c != '*'

/-- Whether each backslash of a written value is followed by the two digits of a byte. -/
def escapesAreWhole : List Char → Bool
  | [] => true
  | '\\' :: a :: b :: cs => isHexDigit a && isHexDigit b && escapesAreWhole cs
  | c :: cs => c != '\\' && escapesAreWhole cs

/-- Read a value up to the first character that it cannot hold. -/
def value? (cs : List Char) : Option (List Char × List Char) :=
  let (value, rest) := cs.span isValueChar
  if escapesAreWhole value then some (value, rest) else none

/-- Read values with asterisks between them; `fuel` bounds the number of asterisks. -/
def pattern? : Nat → List Char → Option (List Char × List Char)
  | 0, cs => value? cs
  | fuel + 1, cs => do
    let (value, rest) ← value? cs
    match rest with
    | '*' :: rest =>
      match pattern? fuel rest with
      | some (more, rest') => some (value ++ '*' :: more, rest')
      | none => some (value, '*' :: rest)
    | _ => some (value, rest)

def isNameChar (c : Char) : Bool := c.isAlphanum || c == '-'

def number? (cs : List Char) : Option (List Char × List Char) :=
  match cs.span Char.isDigit with
  | ([], _) => none
  | ('0' :: _ :: _, _) => none
  | (digits, rest) => some (digits, rest)

/-- Read numbers with points before them; `fuel` bounds how many. -/
def arcs : Nat → List Char → List Char × List Char
  | 0, cs => ([], cs)
  | fuel + 1, cs =>
    match cs with
    | '.' :: rest =>
      match number? rest with
      | some (digits, rest') =>
        let (more, rest'') := arcs fuel rest'
        ('.' :: digits ++ more, rest'')
      | none => ([], cs)
    | _ => ([], cs)

def identifier? (cs : List Char) : Option (List Char × List Char) := do
  let (first, rest) ← number? cs
  match arcs rest.length rest with
  | ([], _) => none
  | (more, rest') => some (first ++ more, rest')

def name? : List Char → Option (List Char × List Char)
  | [] => none
  | c :: cs =>
    if c.isAlpha then
      let (more, rest) := cs.span isNameChar
      some (c :: more, rest)
    else none

def attributeType? (cs : List Char) : Option (List Char × List Char) :=
  identifier? cs <|> name? cs

/-- Read options with semicolons before them; `fuel` bounds how many. -/
def options : Nat → List Char → List Char × List Char
  | 0, cs => ([], cs)
  | fuel + 1, cs =>
    match cs with
    | ';' :: rest =>
      match rest.span isNameChar with
      | ([], _) => ([], cs)
      | (option, rest') =>
        let (more, rest'') := options fuel rest'
        (';' :: option ++ more, rest'')
    | _ => ([], cs)

def attribute? (cs : List Char) : Option (List Char × List Char) := do
  let (type, rest) ← attributeType? cs
  let (more, rest') := options rest.length rest
  return (type ++ more, rest')

/-- Read the operator that names a matching rule: a mark for the names around an entry, and the
rule. -/
def ruleOperator? (cs : List Char) : Option (List Char × List Char) :=
  let (mark, rest) := match cs with
    | ':' :: 'd' :: 'n' :: rest => ([':', 'd', 'n'], rest)
    | _ => ([], cs)
  let (rule, rest) := match rest with
    | ':' :: rest' =>
      match attributeType? rest' with
      | some (rule, rest'') => (':' :: rule, rest'')
      | none => ([], rest)
    | _ => ([], rest)
  match rest with
  | ':' :: '=' :: rest' => some (mark ++ rule ++ [':', '='], rest')
  | _ => none

def attributeTest? (cs : List Char) : Option (SearchFilter × List Char) := do
  let (name, rest) ← attribute? cs
  match rest with
  | '=' :: rest =>
    let (value, rest') ← pattern? rest.length rest
    return (test name ['='] value, rest')
  | c :: '=' :: rest =>
    if c == '>' || c == '<' || c == '~' then
      let (value, rest') ← value? rest
      return (test name [c, '='] value, rest')
    else
      let (operator, rest) ← ruleOperator? (c :: '=' :: rest)
      let (value, rest') ← value? rest
      return (test name operator value, rest')
  | _ =>
    let (operator, rest) ← ruleOperator? rest
    let (value, rest') ← value? rest
    return (test name operator value, rest')

/-- Read a test by a matching rule that names no attribute. -/
def ruleTest? (cs : List Char) : Option (SearchFilter × List Char) := do
  let (operator, rest) ← ruleOperator? cs
  if operator == [':', '='] || operator == [':', 'd', 'n', ':', '='] then none
  let (value, rest') ← value? rest
  return (test [] operator value, rest')

def test? (cs : List Char) : Option (SearchFilter × List Char) := attributeTest? cs <|> ruleTest? cs

mutual

/-- Read a filter in parentheses; `fuel` bounds the number of filters. -/
def filterAt : Nat → List Char → Option (SearchFilter × List Char)
  | 0, _ => none
  | fuel + 1, '(' :: cs => do
    let (filter, rest) ← match cs with
      | '&' :: cs => some ((listAt fuel cs).map all id)
      | '|' :: cs => some ((listAt fuel cs).map any id)
      | '!' :: cs => (filterAt fuel cs).map fun (part, rest) => (not part, rest)
      | _ => test? cs
    match rest with
    | ')' :: rest' => some (filter, rest')
    | _ => none
  | _, _ => none

def listAt : Nat → List Char → List SearchFilter × List Char
  | 0, cs => ([], cs)
  | fuel + 1, cs =>
    match filterAt fuel cs with
    | some (filter, rest) =>
      let (filters, rest') := listAt fuel rest
      (filter :: filters, rest')
    | none => ([], cs)

end

def parse? (cs : List Char) : Option SearchFilter :=
  match filterAt (2 * cs.length + 2) cs with
  | some (filter, []) => some filter
  | _ => none

mutual

def text : SearchFilter → List Char
  | all parts => '(' :: '&' :: (texts parts ++ [')'])
  | any parts => '(' :: '|' :: (texts parts ++ [')'])
  | not part => '(' :: '!' :: (text part ++ [')'])
  | test name operator value => '(' :: (name ++ operator ++ value ++ [')'])

def texts : List SearchFilter → List Char
  | [] => []
  | part :: parts => text part ++ texts parts

end

/-- The pattern of texts in which the words of a query occur in their order. -/
def wordPattern (query : List Char) : List Char :=
  '*' :: (Text.wordsOf query).flatMap fun word => escape word ++ ['*']

/-- The filter for the users whose name holds the words of a query, or who are identified by the
query as a whole. -/
def forUsers (objectclass name query : List Char) : SearchFilter :=
  all
    [test "objectclass".toList ['='] (escape objectclass),
      any
        [test "cn".toList ['='] (wordPattern query),
          test name ['='] (escape (Text.trimChars query))]]

end SearchFilter

end ApiCatalog
