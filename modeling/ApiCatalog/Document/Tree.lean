import ApiCatalog.Document.Scalar

/-! # Document trees

The common form of a document in any of the formats: scalars, lists and mappings, before it is
known which record it describes.
-/

namespace ApiCatalog

inductive Tree where
  | scalar (s : Scalar)
  /-- A list; a positional one may also stand for a record, as the values of its fields in
  order. -/
  | list (positional : Bool) (items : List Tree)
  /-- A mapping in the order of the document, in which a key may occur more than once. -/
  | map (entries : List (Tree × Tree))
  /-- A node with a tag of the document's own. -/
  | tagged (name : String) (content : Tree)
  deriving Repr

namespace Tree

def untagged : Tree → Tree
  | tagged _ content => untagged content
  | t => t

def string? (t : Tree) : Option String :=
  match t.untagged with
  | scalar s => s.string?
  | _ => none

mutual

/-- The tree as a free JSON value, nested no deeper than `room`. -/
def json? (room : Nat) : Tree → Option Json
  | scalar s => s.json?
  | list _ items =>
    match room with
    | 0 => none
    | room + 1 => (jsonItems? room items).map .arr
  | map entries =>
    match room with
    | 0 => none
    | room + 1 => (jsonFields? room entries).map Json.ofFields
  | tagged _ _ => none

def jsonItems? (room : Nat) : List Tree → Option (List Json)
  | [] => some []
  | item :: items => do
    let value ← json? room item
    let values ← jsonItems? room items
    return value :: values

def jsonFields? (room : Nat) : List (Tree × Tree) → Option (List (String × Json))
  | [] => some []
  | (key, value) :: entries => do
    let name ← key.string?
    let value ← json? room value
    let fields ← jsonFields? room entries
    return (name, value) :: fields

end

/-- A JSON scalar as a scalar of a format that types its scalars. -/
def ofScalarJson : Json → Tree
  | .null => scalar .null
  | .bool b => scalar (.bool b)
  | .num n => scalar (.num n)
  | .str s => scalar (.str s)
  | _ => scalar .unreadable

mutual

/-- The tree with the type of every scalar fixed as `json?` reads it, nested no deeper than `room`.
A number that is not finite stays a number and denotes nothing. -/
def typed? (room : Nat) : Tree → Option Tree
  | scalar s => if s.isNotFinite then some (scalar .unreadable) else s.json?.map ofScalarJson
  | list _ items =>
    match room with
    | 0 => none
    | room + 1 => (typedItems? room items).map (list true)
  | map entries =>
    match room with
    | 0 => none
    | room + 1 => (typedEntries? room entries).map map
  | tagged _ _ => none

def typedItems? (room : Nat) : List Tree → Option (List Tree)
  | [] => some []
  | item :: items => do
    let t ← typed? room item
    let ts ← typedItems? room items
    return t :: ts

def typedEntries? (room : Nat) : List (Tree × Tree) → Option (List (Tree × Tree))
  | [] => some []
  | (key, value) :: entries => do
    let key ← typed? room key
    let value ← typed? room value
    let rest ← typedEntries? room entries
    return (key, value) :: rest

end

mutual

def ofJson : Json → Tree
  | .null => scalar .null
  | .bool b => scalar (.bool b)
  | .num n => scalar (.num n)
  | .str s => scalar (.str s)
  | .arr items => list true (ofItems items)
  | .obj fields => map (ofFields fields)

def ofItems : List Json → List Tree
  | [] => []
  | item :: items => ofJson item :: ofItems items

def ofFields : List (String × Json) → List (Tree × Tree)
  | [] => []
  | (key, value) :: fields => (scalar (.str key), ofJson value) :: ofFields fields

end

end Tree

end ApiCatalog
