import ApiCatalog.Document.Schema
import ApiCatalog.Yaml.Cursor

/-! # Contents of YAML scalars

The text of block, quoted and plain scalars, with their folding of lines. Each reader gives the
text and the place after it, or nothing where the text is not well formed.
-/

namespace ApiCatalog.Yaml

/-- White space collected between two words: that of one line, or a first line break and the
breaks after it. -/
structure Gap where
  spaces : List Char := []
  firstBreak : List Char := []
  moreBreaks : List Char := []
  broken : Bool := false

/-- A gap as it is kept in text: a single line break becomes a space. -/
def Gap.fold (gap : Gap) : List Char :=
  if gap.broken then
    if gap.firstBreak.head? == some '\n' then
      if gap.moreBreaks.isEmpty then [' '] else gap.moreBreaks
    else gap.firstBreak ++ gap.moreBreaks
  else gap.spaces

/-- Read white space into a gap. A tab before column `indent` of a new line is refused; `fuel`
bounds the number of characters. -/
def readGap (indent : Nat) : Nat → Gap → Cursor → Option (Gap × Cursor)
  | 0, gap, k => some (gap, k)
  | fuel + 1, gap, k =>
    match k.head with
    | none => some (gap, k)
    | some c =>
      if isSpaceOrTab c then
        if gap.broken && c == '\t' && k.column < indent then none
        else
          let spaces := if gap.broken then gap.spaces else gap.spaces ++ [c]
          readGap indent fuel { gap with spaces } (k.skip 1)
      else if isBreak c then
        let (text, k') := k.readBreak
        let gap' := if gap.broken then { gap with moreBreaks := gap.moreBreaks ++ text }
          else { gap with spaces := [], firstBreak := text, broken := true }
        readGap indent fuel gap' k'
      else some (gap, k)

def isFlowMark (c : Char) : Bool :=
  c == ',' || c == '[' || c == ']' || c == '\x7b' || c == '\x7d'

/-- The characters of a plain scalar up to white space or a mark that ends it. -/
def plainWord (inFlow : Bool) : Nat → List Char → Cursor → Option (List Char × Cursor)
  | 0, word, k => some (word, k)
  | fuel + 1, word, k =>
    match k.head with
    | none => some (word, k)
    | some c =>
      let next := k.peek 1
      if isSpaceOrTab c || isBreak c then some (word, k)
      else if c == ':' && inFlow && (next.any fun d => isFlowMark d || d == '?') then none
      else if c == ':' && endsWord next then some (word, k)
      else if inFlow && isFlowMark c then some (word, k)
      else plainWord inFlow fuel (word ++ [c]) (k.skip 1)

/-- The rest of a plain scalar, after `text` and the gap that follows it. The flag tells whether the
scalar ends at the start of a line. -/
def plainFrom (inFlow : Bool) (indent : Nat) :
    Nat → List Char → Gap → Cursor → Option (List Char × Bool × Cursor)
  | 0, text, gap, k => some (text, gap.broken, k)
  | fuel + 1, text, gap, k =>
    if k.atDocumentMark || k.head == some '#' then some (text, gap.broken, k)
    else do
      let (word, k') ← plainWord inFlow k.rest.length [] k
      let (text, gap) := if word.isEmpty then (text, gap) else (text ++ gap.fold ++ word, {})
      match k'.head with
      | some c =>
        if isSpaceOrTab c || isBreak c then
          let (gap', k'') ← readGap indent k'.rest.length gap k'
          if !inFlow && k''.column < indent then some (text, gap'.broken, k'')
          else plainFrom inFlow indent fuel text gap' k''
        else some (text, gap.broken, k')
      | none => some (text, gap.broken, k')

def escaped? (c : Char) : Option Char :=
  [('0', '\x00'), ('a', '\x07'), ('b', '\x08'), ('t', '\t'), ('\t', '\t'), ('n', '\n'),
    ('v', '\x0b'), ('f', '\x0c'), ('r', '\r'), ('e', '\x1b'), (' ', ' '), ('"', '"'), ('/', '/'),
    ('\\', '\\'), ('N', '\u0085'), ('_', '\u00a0'), ('L', '\u2028'), ('P', '\u2029')].lookup c

/-- The number of digits after the letter of a numeric escape. -/
def escapeLength? (c : Char) : Option Nat := [('x', 2), ('u', 4), ('U', 8)].lookup c

def numbered? (length : Nat) (k : Cursor) : Option (Char × Cursor) := do
  let digits := k.rest.take length
  if digits.length < length then none
  else
    let code ← digitsValue? 16 digits
    if (0xd800 ≤ code ∧ code ≤ 0xdfff) ∨ 0x10ffff < code then none
    else some (Char.ofNat code, k.skip length)

/-- The characters of a quoted scalar up to white space or the quote that ends it. The flag tells
whether they end with an escaped line break. -/
def quotedWord (quote : Char) : Nat → List Char → Cursor → Option (List Char × Bool × Cursor)
  | 0, word, k => some (word, false, k)
  | fuel + 1, word, k =>
    match k.rest with
    | [] => some (word, false, k)
    | c :: rest =>
      if isSpaceOrTab c || isBreak c then some (word, false, k)
      else if c == '\'' && quote == '\'' && rest.head? == some '\'' then
        quotedWord quote fuel (word ++ ['\'']) (k.skip 2)
      else if c == quote then some (word, false, k)
      else if c == '\\' && quote == '"' then
        match rest with
        | [] => none
        | d :: _ =>
          if isBreak d then some (word, true, (k.skip 1).skipBreak)
          else match escaped? d with
            | some e => quotedWord quote fuel (word ++ [e]) (k.skip 2)
            | none => do
              let length ← escapeLength? d
              let (e, k') ← numbered? length (k.skip 2)
              quotedWord quote fuel (word ++ [e]) k'
      else quotedWord quote fuel (word ++ [c]) (k.skip 1)

def quotedFrom (quote : Char) : Nat → List Char → Cursor → Option (List Char × Cursor)
  | 0, _, _ => none
  | fuel + 1, text, k =>
    if k.atDocumentMark then none
    else do
      let (word, escapedBreak, k') ← quotedWord quote k.rest.length [] k
      let text := text ++ word
      match k'.head with
      | none => none
      | some c =>
        if c == quote then some (text, k'.skip 1)
        else
          let (gap, k'') ← readGap 0 k'.rest.length { broken := escapedBreak } k'
          quotedFrom quote fuel (text ++ gap.fold) k''

inductive Chomping where
  | strip
  | clip
  | keep
  deriving DecidableEq

def chomping? (k : Cursor) : Option (Chomping × Cursor) :=
  match k.head with
  | some '+' => some (.keep, k.skip 1)
  | some '-' => some (.strip, k.skip 1)
  | _ => none

def indentation? (k : Cursor) : Option (Option Nat × Cursor) :=
  match k.head with
  | some c =>
    if c.isDigit then
      if c == '0' then none else some (some (c.toNat - '0'.toNat), k.skip 1)
    else some (none, k)
  | none => some (none, k)

/-- The signs after the mark of a block scalar: how its end is kept, and how far it is indented, in
either order. -/
def blockHeader? (k : Cursor) : Option (Chomping × Option Nat × Cursor) := do
  match chomping? k with
  | some (chomping, k) =>
    let (increment, k) ← indentation? k
    return (chomping, increment, k)
  | none =>
    let (increment, k) ← indentation? k
    match increment with
    | none => return (.clip, none, k)
    | some n =>
      match chomping? k with
      | some (chomping, k) => return (chomping, some n, k)
      | none => return (.clip, some n, k)

/-- Read the indentation of a line and the empty lines before it. Without a known indentation the
deepest one seen is found as well. -/
def blockBreaks (indent : Option Nat) :
    Nat → Nat → List Char → Cursor → Option (Nat × List Char × Cursor)
  | 0, deepest, breaks, k => some (deepest, breaks, k)
  | fuel + 1, deepest, breaks, k =>
    let spaces := (k.rest.takeWhile (· == ' ')).length
    let spaces := match indent with
      | some n => min spaces (n - k.column)
      | none => spaces
    let k := k.skip spaces
    let deepest := max deepest k.column
    let shallow := match indent with
      | some n => k.column < n
      | none => true
    match k.head with
    | some c =>
      if c == '\t' && shallow then none
      else if isBreak c then
        let (text, k') := k.readBreak
        blockBreaks indent fuel deepest (breaks ++ text) k'
      else some (deepest, breaks, k)
    | none => some (deepest, breaks, k)

/-- What was read of a block scalar: its text, the line break after its last line, the empty lines
after that, and whether the last line starts with white space. -/
structure BlockText where
  text : List Char := []
  lastBreak : List Char := []
  emptyLines : List Char := []
  indented : Bool := false

def blockLines (folded : Bool) (indent : Nat) :
    Nat → BlockText → Cursor → Option (BlockText × Cursor)
  | 0, b, k => some (b, k)
  | fuel + 1, b, k =>
    match k.head with
    | none => some (b, k)
    | some c =>
      if k.column != indent then some (b, k)
      else do
        let blank := isSpaceOrTab c
        let joint :=
          if folded && b.lastBreak.head? == some '\n' && !b.indented && !blank then
            if b.emptyLines.isEmpty then [' '] else []
          else b.lastBreak
        let (line, k) := k.spanWhile fun c => !isBreak c
        let (lastBreak, k) := k.readBreak
        let (_, emptyLines, k) ← blockBreaks (some indent) (k.rest.length + 1) 0 [] k
        blockLines folded indent fuel
          ⟨b.text ++ joint ++ b.emptyLines ++ line, lastBreak, emptyLines, blank⟩ k

/-- A block scalar after its mark, inside a block indented by `parent`. -/
def blockScalar? (folded : Bool) (parent : Int) (k : Cursor) : Option (List Char × Cursor) := do
  let (chomping, increment, k) ← blockHeader? k
  let k := k.skipWhile isSpaceOrTab
  let k := if k.head == some '#' then k.skipWhile fun c => !isBreak c else k
  if !endsLine k.head then none
  else
    let k := k.skipBreak
    let known := increment.map fun n => if 0 ≤ parent then parent.toNat + n else n
    let (deepest, emptyLines, k) ← blockBreaks known (k.rest.length + 1) 0 [] k
    let indent := known.getD (max (max deepest (parent + 1).toNat) 1)
    let (b, k) ← blockLines folded indent (k.rest.length + 1) { emptyLines } k
    let tail := match chomping with
      | .strip => []
      | .clip => b.lastBreak
      | .keep => b.lastBreak ++ b.emptyLines
    return (b.text ++ tail, k)

end ApiCatalog.Yaml
