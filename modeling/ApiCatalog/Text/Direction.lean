import ApiCatalog.Text.Mark

/-! # Directions of characters

Which way a character makes the text around it read.
-/

namespace ApiCatalog.Text

/-- What a character does to the direction of a text. -/
inductive Direction where
  | left
  | right
  | arabicNumber
  | europeanNumber
  | mark
  | neutral
  deriving DecidableEq, Repr

namespace Direction

/-- The directions of the characters beyond ASCII that a domain may hold and that are no nonspacing
marks. The ranges run over characters that no domain may hold; letters that read from left to right
are in none of them. -/
def ranges : List (Nat × Nat × Direction) :=
  [
    (0xa1, 0xd7, .neutral), (0xf7, 0xf7, .neutral), (0x2b9, 0x2ba, .neutral),
    (0x2c2, 0x2cf, .neutral), (0x2d2, 0x2ed, .neutral), (0x2ef, 0x2ff, .neutral),
    (0x375, 0x375, .neutral), (0x3f6, 0x3f6, .neutral), (0x58a, 0x58f, .neutral),
    (0x5be, 0x5f4, .right), (0x606, 0x607, .neutral), (0x608, 0x608, .right),
    (0x609, 0x60a, .neutral), (0x60b, 0x60b, .right), (0x60c, 0x60c, .neutral),
    (0x60d, 0x60d, .right), (0x60e, 0x60f, .neutral), (0x61b, 0x64a, .right),
    (0x660, 0x669, .arabicNumber), (0x66a, 0x66a, .neutral), (0x66b, 0x66c, .arabicNumber),
    (0x66d, 0x6d5, .right), (0x6de, 0x6de, .neutral), (0x6e5, 0x6e6, .right),
    (0x6e9, 0x6e9, .neutral), (0x6ee, 0x6ef, .right), (0x6f0, 0x6f9, .europeanNumber),
    (0x6fa, 0x7f5, .right), (0x7f6, 0x7f9, .neutral), (0x7fa, 0x8c9, .right),
    (0x9f2, 0x9f3, .neutral), (0x9fb, 0x9fb, .neutral), (0xaf1, 0xaf1, .neutral),
    (0xbf3, 0xbfa, .neutral), (0xc78, 0xc7e, .neutral), (0xe3f, 0xe3f, .neutral),
    (0xf3a, 0xf3d, .neutral), (0x1390, 0x1399, .neutral), (0x1400, 0x1400, .neutral),
    (0x169b, 0x169c, .neutral), (0x17db, 0x17db, .neutral), (0x17f0, 0x180a, .neutral),
    (0x1940, 0x1945, .neutral), (0x19de, 0x19ff, .neutral), (0x200c, 0x214d, .neutral),
    (0x218a, 0x2335, .neutral), (0x237b, 0x2394, .neutral), (0x2396, 0x26ab, .neutral),
    (0x26ad, 0x27ff, .neutral), (0x2900, 0x2bff, .neutral), (0x2ce5, 0x2cea, .neutral),
    (0x2cf9, 0x2cff, .neutral), (0x2e00, 0x3004, .neutral), (0x3008, 0x3020, .neutral),
    (0x3030, 0x3030, .neutral), (0x3037, 0x3037, .neutral), (0x303d, 0x303f, .neutral),
    (0x30a0, 0x30a0, .neutral), (0x30fb, 0x30fb, .neutral), (0x31c0, 0x31e5, .neutral),
    (0x4dc0, 0x4dff, .neutral), (0xa490, 0xa4c6, .neutral), (0xa60d, 0xa60f, .neutral),
    (0xa673, 0xa67f, .neutral), (0xa700, 0xa721, .neutral), (0xa788, 0xa788, .neutral),
    (0xa828, 0xa82b, .neutral), (0xa838, 0xa839, .neutral), (0xa874, 0xa877, .neutral),
    (0xab6a, 0xab6b, .neutral), (0xfbb2, 0xfbc2, .right), (0xfbc3, 0xfe46, .neutral),
    (0xfe73, 0xfe73, .right), (0x10101, 0x10101, .neutral), (0x10140, 0x1018c, .neutral),
    (0x10190, 0x101a0, .neutral), (0x102e1, 0x102fb, .europeanNumber), (0x10800, 0x1091b, .right),
    (0x1091f, 0x1091f, .neutral), (0x10920, 0x10b35, .right), (0x10b39, 0x10b3f, .neutral),
    (0x10b40, 0x10d23, .right), (0x10d30, 0x10d49, .arabicNumber), (0x10d4a, 0x10d4f, .right),
    (0x10d6e, 0x10d6e, .neutral), (0x10d6f, 0x10d8f, .right), (0x10e60, 0x10e7e, .arabicNumber),
    (0x10e80, 0x10ec7, .right), (0x10ed0, 0x10ed8, .neutral), (0x10f00, 0x10ff6, .right),
    (0x11052, 0x11065, .neutral), (0x11660, 0x1166c, .neutral), (0x11fd5, 0x11ff1, .neutral),
    (0x16fe2, 0x16fe2, .neutral), (0x1cc00, 0x1cef0, .neutral), (0x1d1e9, 0x1d245, .neutral),
    (0x1d300, 0x1d356, .neutral), (0x1e2ff, 0x1e2ff, .neutral), (0x1e800, 0x1ed3d, .right),
    (0x1eef0, 0x1f12f, .neutral), (0x1f16d, 0x1f16f, .neutral), (0x1f1ad, 0x1f1ad, .neutral),
    (0x1f260, 0x1fbfa, .neutral)
  ]

/-- The nonspacing marks that read from left to right like letters. -/
def leftMarks : List Nat := [0xcbf, 0xcc6, 0x11a07, 0x11a08, 0x11c3f]

def of (c : Char) : Direction :=
  if c.isAlpha then .left
  else if c.isDigit then .europeanNumber
  else if c.toNat < 0x80 then .neutral
  else if Mark.isNonspacing c then
    if leftMarks.contains c.toNat then .left else .mark
  else (statedIn? ranges c).getD .left

end Direction

end ApiCatalog.Text
