import ApiCatalog.Document.Schema
import ApiCatalog.Text.Utf8

/-! # Percent encoding

Bytes in the parts of a URL are written as a percent sign and two digits. The pairs of a query also
write a space as a plus sign.
-/

namespace ApiCatalog.Url

/-- The bytes of a text in which percent signs stand before the digits of bytes. A percent sign
without two digits stands for itself. -/
def percentDecode : List Char → List UInt8
  | [] => []
  | '%' :: a :: b :: cs =>
    match digitsValue? 16 [a, b] with
    | some n => UInt8.ofNat n :: percentDecode cs
    | none => Text.encodeUtf8 "%" ++ percentDecode (a :: b :: cs)
  | c :: cs => Text.encodeUtf8 (String.singleton c) ++ percentDecode cs

/-- A part of a path, if its bytes are UTF-8. -/
def pathPart? (cs : List Char) : Option String :=
  match Text.decodeUtf8 (percentDecode cs) with
  | .ok cs => some (String.ofList cs)
  | .error _ => none

def queryPart (cs : List Char) : String :=
  let bytes := percentDecode (cs.map fun c => if c == '+' then ' ' else c)
  String.ofList (Text.decodeUtf8Lossy (bytes.length + 1) bytes)

def queryPairs (cs : List Char) : List (String × String) :=
  ((cs.splitOn '&').filter fun pair => !pair.isEmpty).map fun pair =>
    let (name, rest) := pair.span (· != '=')
    (queryPart name, queryPart (rest.drop 1))

end ApiCatalog.Url
