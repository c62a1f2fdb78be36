/-! # UTF-8

Reading bytes as text. A refused text is told by the first place where it stops being UTF-8.
-/

namespace ApiCatalog.Text

/-- Where bytes stop being UTF-8: the start of the offending sequence, and how many bytes of it
are wrong, or `none` when the input ends inside a sequence that is valid so far. -/
structure Utf8Fault where
  start : Nat
  length : Option Nat
  deriving DecidableEq, Repr

namespace Utf8Fault

def message (fault : Utf8Fault) : String :=
  match fault.length with
  | none => s!"incomplete utf-8 byte sequence from index {fault.start}"
  | some n => s!"invalid utf-8 sequence of {n} bytes from index {fault.start}"

end Utf8Fault

namespace Utf8

/-- What a first byte announces: the bits it carries, and the range of each byte that follows. -/
structure Lead where
  bits : Nat
  tails : List (Nat × Nat)

def tail : Nat × Nat := (0x80, 0xbf)

def lead? (b : Nat) : Option Lead :=
  if b ≤ 0x7f then some ⟨b, []⟩
  else if 0xc2 ≤ b ∧ b ≤ 0xdf then some ⟨b - 0xc0, [tail]⟩
  else if b = 0xe0 then some ⟨0, [(0xa0, 0xbf), tail]⟩
  else if b = 0xed then some ⟨0xd, [(0x80, 0x9f), tail]⟩
  else if 0xe1 ≤ b ∧ b ≤ 0xef then some ⟨b - 0xe0, [tail, tail]⟩
  else if b = 0xf0 then some ⟨0, [(0x90, 0xbf), tail, tail]⟩
  else if 0xf1 ≤ b ∧ b ≤ 0xf3 then some ⟨b - 0xf0, [tail, tail, tail]⟩
  else if b = 0xf4 then some ⟨4, [(0x80, 0x8f), tail, tail]⟩
  else none

/-- Read the bytes after a first byte. `seen` counts the bytes of the sequence read so far; a
refusal gives the number of wrong bytes, as `Utf8Fault` does. -/
def readTails (bits seen : Nat) :
    List (Nat × Nat) → List UInt8 → Except (Option Nat) (Nat × List UInt8)
  | [], rest => .ok (bits, rest)
  | _ :: _, [] => .error none
  | (low, high) :: ranges, b :: rest =>
    if low ≤ b.toNat ∧ b.toNat ≤ high then
      readTails (bits * 64 + (b.toNat - 0x80)) (seen + 1) ranges rest
    else .error (some seen)

/-- The characters of a text, read from byte `start` on; `fuel` bounds their number. -/
def decodeFrom : Nat → Nat → List UInt8 → Except Utf8Fault (List Char)
  | 0, _, _ => .ok []
  | _ + 1, _, [] => .ok []
  | fuel + 1, start, b :: rest =>
    match lead? b.toNat with
    | none => .error ⟨start, some 1⟩
    | some head =>
      match readTails head.bits 1 head.tails rest with
      | .error length => .error ⟨start, length⟩
      | .ok (code, rest') =>
        (decodeFrom fuel (start + 1 + head.tails.length) rest').map (Char.ofNat code :: ·)

end Utf8

def decodeUtf8 (bytes : List UInt8) : Except Utf8Fault (List Char) :=
  Utf8.decodeFrom bytes.length 0 bytes

/-- The characters that bytes stand for, a replacement character standing for every sequence that is
not UTF-8; `fuel` bounds the number of such sequences. -/
def decodeUtf8Lossy : Nat → List UInt8 → List Char
  | 0, _ => []
  | fuel + 1, bytes =>
    match decodeUtf8 bytes with
    | .ok cs => cs
    | .error fault =>
      let before := match decodeUtf8 (bytes.take fault.start) with
        | .ok cs => cs
        | .error _ => []
      let after := match fault.length with
        | some n => decodeUtf8Lossy fuel (bytes.drop (fault.start + n))
        | none => []
      before ++ '\ufffd' :: after

def encodeUtf8 (s : String) : List UInt8 := s.toByteArray.toList

end ApiCatalog.Text
