import ApiCatalog.Url.Encoded

/-! # Routes

What the paths of the server lead to.
-/

namespace ApiCatalog

/-- A target of requests, with the part of the path that names it, as it is written. -/
inductive Route where
  | health
  | newApi
  | api (id : List Char)
  | apiImport (id : List Char)
  | apiExport (id : List Char)
  | connect (source : List Char)
  deriving DecidableEq, Repr

namespace Route

def ofPath? (path : List Char) : Option Route :=
  match path.splitOn '/' with
  | [[], first, second] =>
    if first = "apis".toList then
      if second = "import".toList then some newApi
      else if second = [] then none
      else some (api second)
    else none
  | [[], first] => if first = "health".toList then some health else none
  | [[], first, name, last] =>
    if first = "apis".toList then
      if last = "import".toList then some (apiImport name)
      else if last = "export".toList then some (apiExport name)
      else none
    else if first = "auth".toList ∧ last = "connect".toList then some (connect name)
    else none
  | _ => none

/-- Whether a route is asked for by a method. What can be got can be asked for without its
content. -/
def admits (method : String) : Route → Bool
  | health => method == "GET" || method == "HEAD"
  | newApi => method == "POST"
  | api _ => method == "GET" || method == "HEAD"
  | apiImport _ => method == "PUT"
  | apiExport _ => method == "GET" || method == "HEAD"
  | connect _ => method == "POST"

end Route

end ApiCatalog
