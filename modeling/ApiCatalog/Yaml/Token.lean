import ApiCatalog.Document.Scalar
import ApiCatalog.Text.Utf8
import ApiCatalog.Yaml.Content

/-! # YAML tokens

A YAML text as a list of tokens. Indentation becomes tokens for the start and the end of blocks,
and a text that turns out to be the key of a mapping gets a key token in front of it.
-/

namespace ApiCatalog.Yaml

inductive Token where
  | versionDirective (major minor : Nat)
  | tagDirective (handle : String) (expansion : List UInt8)
  | documentStart
  | documentEnd
  | blockSequenceStart
  | blockMappingStart
  | blockEnd
  | flowSequenceStart
  | flowSequenceEnd
  | flowMappingStart
  | flowMappingEnd
  | blockEntry
  | flowEntry
  | key
  | value
  | aliasOf (name : String)
  | anchor (name : String)
  | tag (handle : String) (suffix : List UInt8)
  | scalar (content : String) (style : ScalarStyle)
  deriving DecidableEq, Repr

/-- A place where a key may have started: the number of tokens before it, and whether a key has to
be there. -/
structure KeyMark where
  tokens : Nat
  required : Bool
  index : Nat
  line : Nat
  column : Nat

structure Lexer where
  cursor : Cursor
  tokens : Array Token := #[]
  /-- The column of the innermost block, and those of the blocks around it. -/
  indent : Int := -1
  indents : List Int := []
  flowLevel : Nat := 0
  /-- Whether a key may start here. -/
  keyAllowed : Bool := true
  /-- The last place where a key may have started, for the innermost flow level first. -/
  keys : List (Option KeyMark) := [none]

namespace Lexer

def inFlow (l : Lexer) : Bool := l.flowLevel != 0

def push (l : Lexer) (token : Token) : Lexer := { l with tokens := l.tokens.push token }

def insertAt (l : Lexer) (place : Nat) (token : Token) : Lexer :=
  { l with tokens :=
      (l.tokens.extract 0 place).push token ++ l.tokens.extract place l.tokens.size }

def advance (l : Lexer) (n : Nat) : Lexer := { l with cursor := l.cursor.skip n }

/-- Forget the place of a key at the innermost level; a required key must not be forgotten. -/
def dropKey (l : Lexer) : Option Lexer :=
  match l.keys with
  | some mark :: keys => if mark.required then none else some { l with keys := none :: keys }
  | _ => some l

def saveKey (l : Lexer) : Option Lexer :=
  if l.keyAllowed then do
    let k := l.cursor
    let mark : KeyMark :=
      ⟨l.tokens.size, !l.inFlow && l.indent == (k.column : Int), k.index, k.line, k.column⟩
    let l ← l.dropKey
    return { l with keys := some mark :: l.keys.drop 1 }
  else some l

/-- Forget the places of keys that are too far behind: on an earlier line, or more than 1024 bytes
back. -/
def expireKeys (l : Lexer) : Option Lexer := do
  let keys ← l.keys.mapM fun key =>
    match key with
    | some mark =>
      if mark.line < l.cursor.line || mark.index + 1024 < l.cursor.index then
        if mark.required then none else some none
      else some (some mark)
    | none => some none
  return { l with keys }

/-- Open a block at a column that is deeper than the innermost one. -/
def openBlock (l : Lexer) (column place : Nat) (token : Token) : Lexer :=
  if !l.inFlow && l.indent < column then
    { l.insertAt place token with indent := column, indents := l.indent :: l.indents }
  else l

def closeBlocks (column : Int) : List Int → Lexer → Lexer
  | [], l => l
  | outer :: indents, l =>
    if column < l.indent then
      closeBlocks column indents { l.push .blockEnd with indent := outer, indents }
    else l

def closeTo (l : Lexer) (column : Int) : Lexer :=
  if l.inFlow then l else closeBlocks column l.indents l

/-- Skip white space, comments and line breaks; `fuel` bounds their number. Where a key may start,
a tab is no white space. A line may start with a byte order mark. -/
def skipToToken : Nat → Lexer → Lexer
  | 0, l => l
  | fuel + 1, l =>
    let k := if l.cursor.column == 0 && l.cursor.head == some '\ufeff' then l.cursor.skip 1
      else l.cursor
    let tabs := l.inFlow || !l.keyAllowed
    let k := k.skipWhile fun c => c == ' ' || (tabs && c == '\t')
    let k := if k.head == some '#' then k.skipWhile fun c => !isBreak c else k
    if k.head.any isBreak then
      skipToToken fuel { l with cursor := k.skipBreak, keyAllowed := l.keyAllowed || !l.inFlow }
    else { l with cursor := k }

def isTagChar (verbatim : Bool) (c : Char) : Bool :=
  isNameChar c || [';', '/', '?', ':', '@', '&', '=', '+', '$', '.', '!', '~', '*', '\'', '(',
    ')', '%'].contains c || (verbatim && [',', '[', ']'].contains c)

/-- How many bytes follow the first one in a sequence, as far as its high bits tell. -/
def sequenceTail? (first : Nat) : Option Nat :=
  if first < 0x80 then some 0
  else if first < 0xc0 then none
  else if first < 0xe0 then some 1
  else if first < 0xf0 then some 2
  else if first < 0xf8 then some 3
  else none

/-- The bytes of a tag with percent escapes, where `due` more bytes of a sequence have to follow as
escapes. The sequences have the lengths of UTF-8 and need not be UTF-8. -/
def tagBytesFrom? : Nat → List Char → Option (List UInt8)
  | due, [] => if due = 0 then some [] else none
  | due, '%' :: a :: b :: rest => do
    let n ← digitsValue? 16 [a, b]
    let due ← if due = 0 then sequenceTail? n else if n / 64 = 2 then some (due - 1) else none
    return UInt8.ofNat n :: (← tagBytesFrom? due rest)
  | _, '%' :: _ => none
  | due, c :: rest =>
    if due = 0 then (tagBytesFrom? 0 rest).map (Text.encodeUtf8 (String.singleton c) ++ ·) else none

/-- The bytes of a tag, up to the first one that is zero. -/
def tagBytes? (cs : List Char) : Option (List UInt8) :=
  (tagBytesFrom? 0 cs).map (·.takeWhile (· != 0))

/-- The handle of a tag or directive: an exclamation mark, and a name closed by another one. -/
def handle? (k : Cursor) : Option (List Char × Cursor) :=
  match k.head with
  | some '!' =>
    let (name, k') := (k.skip 1).spanWhile isNameChar
    if k'.head == some '!' then some ('!' :: name ++ ['!'], k'.skip 1) else some ('!' :: name, k')
  | _ => none

def isHandle (cs : List Char) : Bool := 1 < cs.length && cs.getLast? == some '!'

def tag? (k : Cursor) : Option (Token × Cursor) :=
  if k.peek 1 == some '<' then do
    let (cs, k') := (k.skip 2).spanWhile (isTagChar true)
    if cs.isEmpty || k'.head != some '>' then none
    else return (.tag "" (← tagBytes? cs), k'.skip 1)
  else do
    let (head, k') ← handle? k
    let (cs, k'') := k'.spanWhile (isTagChar false)
    if isHandle head then
      if cs.isEmpty then none else return (.tag (String.ofList head) (← tagBytes? cs), k'')
    else
      let suffix ← tagBytes? (head.drop 1 ++ cs)
      return (if suffix.isEmpty then .tag "" (Text.encodeUtf8 "!") else .tag "!" suffix, k'')

def fetchTag (l : Lexer) : Option Lexer := do
  let l ← l.saveKey
  let (token, k) ← tag? l.cursor
  if (l.inFlow && k.head == some ',') || endsWord k.head then
    return { l with cursor := k, keyAllowed := false }.push token
  else none

def fetchAnchor (l : Lexer) (token : String → Token) : Option Lexer := do
  let l ← l.saveKey
  let (name, k) := (l.cursor.skip 1).spanWhile isNameChar
  let closed := endsWord k.head ||
    k.head.any fun c => ['?', ':', ',', ']', '\x7d', '%', '@', '\x60'].contains c
  if name.isEmpty || !closed then none
  else return { l with cursor := k, keyAllowed := false }.push (token (String.ofList name))

def fetchQuoted (l : Lexer) (quote : Char) : Option Lexer := do
  let l ← l.saveKey
  let (text, k) ← quotedFrom quote (l.cursor.rest.length + 1) [] (l.cursor.skip 1)
  return { l with cursor := k, keyAllowed := false }.push (.scalar (String.ofList text) .quoted)

def fetchPlain (l : Lexer) : Option Lexer := do
  let l ← l.saveKey
  let indent := (l.indent + 1).toNat
  let (text, atLineStart, k) ←
    plainFrom l.inFlow indent (l.cursor.rest.length + 1) [] {} l.cursor
  return { l with cursor := k, keyAllowed := atLineStart }.push
    (.scalar (String.ofList text) .plain)

def fetchBlockScalar (l : Lexer) (folded : Bool) : Option Lexer := do
  let l ← l.dropKey
  let (text, k) ← blockScalar? folded l.indent (l.cursor.skip 1)
  let style := if folded then ScalarStyle.quoted else .literal
  return { l with cursor := k, keyAllowed := true }.push (.scalar (String.ofList text) style)

def versionNumber? (k : Cursor) : Option (Nat × Cursor) := do
  let (digits, k') := k.spanWhile Char.isDigit
  if 9 < digits.length then none else return (← digitsValue? 10 digits, k')

def directive? (name : List Char) (k : Cursor) : Option (Token × Cursor) := do
  let k := k.skipWhile isSpaceOrTab
  if name == ['Y', 'A', 'M', 'L'] then
    let (major, k) ← versionNumber? k
    if k.head != some '.' then none
    else
      let (minor, k) ← versionNumber? (k.skip 1)
      return (.versionDirective major minor, k)
  else if name == ['T', 'A', 'G'] then
    let (handle, k) ← handle? k
    if !(handle == ['!'] || isHandle handle) || !(k.head.any isSpaceOrTab) then none
    else
      let (cs, k) := (k.skipWhile isSpaceOrTab).spanWhile (isTagChar true)
      if cs.isEmpty || !endsWord k.head then none
      else return (.tagDirective (String.ofList handle) (← tagBytes? cs), k)
  else none

def fetchDirective (l : Lexer) : Option Lexer := do
  let l ← (l.closeTo (-1)).dropKey
  let (name, k) := (l.cursor.skip 1).spanWhile isNameChar
  if name.isEmpty || !endsWord k.head then none
  else
    let (token, k) ← directive? name k
    let k := k.skipWhile isSpaceOrTab
    let k := if k.head == some '#' then k.skipWhile fun c => !isBreak c else k
    if !endsLine k.head then none
    else return { l with cursor := k.skipBreak, keyAllowed := false }.push token

def fetchDocumentMark (l : Lexer) (token : Token) : Option Lexer := do
  let l ← (l.closeTo (-1)).dropKey
  return ({ l with keyAllowed := false }.advance 3).push token

def fetchFlowStart (l : Lexer) (token : Token) : Option Lexer := do
  let l ← l.saveKey
  return ({ l with
    flowLevel := l.flowLevel + 1, keys := none :: l.keys, keyAllowed := true }.advance 1).push token

def fetchFlowEnd (l : Lexer) (token : Token) : Option Lexer := do
  let l ← l.dropKey
  let l := if l.inFlow then { l with flowLevel := l.flowLevel - 1, keys := l.keys.drop 1 } else l
  return ({ l with keyAllowed := false }.advance 1).push token

def fetchFlowEntry (l : Lexer) : Option Lexer := do
  let l ← l.dropKey
  return ({ l with keyAllowed := true }.advance 1).push .flowEntry

/-- Open a block for a mark that stands by itself; outside of flow collections the mark has to be
where a key may start. -/
def openForMark (l : Lexer) (block : Token) : Option Lexer :=
  if l.inFlow then some l
  else if l.keyAllowed then some (l.openBlock l.cursor.column l.tokens.size block)
  else none

def fetchBlockEntry (l : Lexer) : Option Lexer := do
  let l ← (← l.openForMark .blockSequenceStart).dropKey
  return ({ l with keyAllowed := true }.advance 1).push .blockEntry

def fetchKey (l : Lexer) : Option Lexer := do
  let l ← (← l.openForMark .blockMappingStart).dropKey
  return ({ l with keyAllowed := !l.inFlow }.advance 1).push .key

def fetchValue (l : Lexer) : Option Lexer :=
  match l.keys with
  | some mark :: keys =>
    let l := (l.insertAt mark.tokens .key).openBlock mark.column mark.tokens .blockMappingStart
    some (({ l with keys := none :: keys, keyAllowed := false }.advance 1).push .value)
  | _ => do
    let l ← l.openForMark .blockMappingStart
    return ({ l with keyAllowed := !l.inFlow }.advance 1).push .value

def startsPlain (inFlow : Bool) (c : Char) (next : Option Char) : Bool :=
  if c == '-' then !next.any isSpaceOrTab
  else if c == '?' || c == ':' then !inFlow && !endsWord next
  else !isSpaceOrTab c && !([',', '[', ']', '\x7b', '\x7d', '#', '&', '*', '!', '|', '>', '\'',
    '"', '%', '@', '\x60'].contains c)

def fetch (l : Lexer) (c : Char) : Option Lexer :=
  let k := l.cursor
  let next := k.peek 1
  if k.column == 0 && c == '%' then l.fetchDirective
  else if k.atMarks '-' then l.fetchDocumentMark .documentStart
  else if k.atMarks '.' then l.fetchDocumentMark .documentEnd
  else if c == '[' then l.fetchFlowStart .flowSequenceStart
  else if c == '\x7b' then l.fetchFlowStart .flowMappingStart
  else if c == ']' then l.fetchFlowEnd .flowSequenceEnd
  else if c == '\x7d' then l.fetchFlowEnd .flowMappingEnd
  else if c == ',' then l.fetchFlowEntry
  else if c == '-' && endsWord next then l.fetchBlockEntry
  else if c == '?' && (l.inFlow || endsWord next) then l.fetchKey
  else if c == ':' && (l.inFlow || endsWord next) then l.fetchValue
  else if c == '*' then l.fetchAnchor .aliasOf
  else if c == '&' then l.fetchAnchor .anchor
  else if c == '!' then l.fetchTag
  else if c == '|' && !l.inFlow then l.fetchBlockScalar false
  else if c == '>' && !l.inFlow then l.fetchBlockScalar true
  else if c == '\'' || c == '"' then l.fetchQuoted c
  else if startsPlain l.inFlow c next then l.fetchPlain
  else none

def run : Nat → Lexer → Option Lexer
  | 0, _ => none
  | fuel + 1, l => do
    let l ← (skipToToken (l.cursor.rest.length + 1) l).expireKeys
    let l := l.closeTo l.cursor.column
    match l.cursor.head with
    | none => (l.closeTo (-1)).dropKey
    | some c => run fuel (← l.fetch c)

end Lexer

def Token.ofText? (cs : List Char) : Option (List Token) :=
  if cs.all isPrintable then
    (Lexer.run (cs.length + 2) { cursor := { rest := cs } }).map (·.tokens.toList)
  else none

end ApiCatalog.Yaml
