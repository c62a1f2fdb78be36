import ApiCatalog.Text.Case
import ApiCatalog.Text.Ranges
import ApiCatalog.Url.Domain.Mapping.Table

/-! # Characters of domains

Which characters a domain may hold, and which ones stand for them in writing.
-/

namespace ApiCatalog.Url.Domain

/-- The ASCII characters that no domain may hold. -/
def isForbidden (c : Char) : Bool :=
  c.toNat ≤ 0x20 || c.toNat == 0x7f ||
    ['#', '/', ':', '<', '>', '?', '@', '[', '\\', ']', '^', '|', '%'].contains c

def expansions : List (Nat × List Nat) := mappingExpansions ++ presentationExpansions

/-- What a character is read as: one in lower case, in a plain form, or nothing. -/
def image (c : Char) : List Char :=
  if c.toNat < 0x80 then [c.toLower]
  else if Text.inRanges ignoredRanges c then []
  else
    match Text.rowImage? mappingRows c with
    | some d => [d]
    | none =>
      match Text.Case.mapped? mappingRuns expansions c with
      | some cs => cs
      | none => if Text.inRanges unfoldedRanges c then [c] else Text.Case.lower c

def isValid (c : Char) : Bool :=
  if c.toNat < 0x80 then !isForbidden c
  else image c == [c] && !Text.inRanges disallowedRanges c

end ApiCatalog.Url.Domain
