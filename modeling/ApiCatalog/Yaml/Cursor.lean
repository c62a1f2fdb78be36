/-! # Places in a YAML text

A cursor is a place in a text with what follows it. Columns are counted in characters, and the
index in bytes. Line breaks are those of YAML 1.1.
-/

namespace ApiCatalog.Yaml

structure Cursor where
  rest : List Char
  index : Nat := 0
  line : Nat := 0
  column : Nat := 0

def isBreak (c : Char) : Bool :=
  c == '\n' || c == '\r' || c == '\u0085' || c == '\u2028' || c == '\u2029'

def isSpaceOrTab (c : Char) : Bool := c == ' ' || c == '\t'

def endsWord : Option Char → Bool
  | some c => isSpaceOrTab c || isBreak c
  | none => true

def endsLine : Option Char → Bool
  | some c => isBreak c
  | none => true

def isNameChar (c : Char) : Bool := c.isAlphanum || c == '_' || c == '-'

def isPrintable (c : Char) : Bool :=
  let n := c.toNat
  n == 0x9 || n == 0xa || n == 0xd || (0x20 ≤ n && n ≤ 0x7e) || n == 0x85 ||
    (0xa0 ≤ n && n ≤ 0xd7ff) || (0xe000 ≤ n && n ≤ 0xfffd) || 0x10000 ≤ n

def byteLength (cs : List Char) : Nat := cs.foldr (fun ch length => ch.utf8Size + length) 0

namespace Cursor

def peek (k : Cursor) (offset : Nat) : Option Char := k.rest[offset]?

def head (k : Cursor) : Option Char := k.rest.head?

def skip (k : Cursor) (n : Nat) : Cursor :=
  { k with
    rest := k.rest.drop n, index := k.index + byteLength (k.rest.take n), column := k.column + n }

/-- The place after the line break that starts here, and the break as it is kept in text; nothing
changes where there is no break. -/
def readBreak (k : Cursor) : List Char × Cursor :=
  let next (kept : Char) (n : Nat) : List Char × Cursor :=
    ([kept], ⟨k.rest.drop n, k.index + byteLength (k.rest.take n), k.line + 1, 0⟩)
  match k.rest with
  | '\r' :: '\n' :: _ => next '\n' 2
  | '\r' :: _ => next '\n' 1
  | '\n' :: _ => next '\n' 1
  | '\u0085' :: _ => next '\n' 1
  | '\u2028' :: _ => next '\u2028' 1
  | '\u2029' :: _ => next '\u2029' 1
  | _ => ([], k)

def skipBreak (k : Cursor) : Cursor := k.readBreak.2

def spanWhile (k : Cursor) (test : Char → Bool) : List Char × Cursor :=
  let taken := k.rest.takeWhile test
  (taken, k.skip taken.length)

def skipWhile (k : Cursor) (test : Char → Bool) : Cursor := (k.spanWhile test).2

/-- Whether a line starts here with three marks that stand by themselves. -/
def atMarks (k : Cursor) (mark : Char) : Bool :=
  k.column == 0 && k.peek 0 == some mark && k.peek 1 == some mark && k.peek 2 == some mark &&
    endsWord (k.peek 3)

def atDocumentMark (k : Cursor) : Bool := k.atMarks '-' || k.atMarks '.'

end Cursor

end ApiCatalog.Yaml
