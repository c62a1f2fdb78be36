/-! # Sorted fields and names

Finite maps and sets with text keys, as lists in increasing order of the keys. Texts are ordered
by their code points.
-/

namespace ApiCatalog

namespace Fields

/-- Put a field into fields sorted by key, in place of one of the same key. -/
def insert {α : Type} (key : String) (value : α) : List (String × α) → List (String × α)
  | [] => [(key, value)]
  | (k, v) :: rest =>
    if key < k then (key, value) :: (k, v) :: rest
    else if key = k then (key, value) :: rest
    else (k, v) :: insert key value rest

/-- The fields sorted by key; of several fields with one key the last counts. -/
def ofList {α : Type} (entries : List (String × α)) : List (String × α) :=
  entries.foldl (fun fields (key, value) => insert key value fields) []

end Fields

namespace Names

/-- Put a name into a sorted list of names that holds no name twice. -/
def insert (name : String) : List String → List String
  | [] => [name]
  | n :: rest =>
    if name < n then name :: n :: rest
    else if name = n then n :: rest
    else n :: insert name rest

def insertAll (names set : List String) : List String :=
  names.foldl (fun set name => insert name set) set

def ofList (names : List String) : List String := insertAll names []

end Names

/-- The distinct members of a list, in the order of their first occurrence. -/
def distinct {α : Type} [DecidableEq α] (xs : List α) : List α :=
  xs.foldl (fun seen x => if x ∈ seen then seen else seen ++ [x]) []

/-- The elements whose key is not among the keys seen, each key counting as seen from its first
occurrence on. -/
def firstsFrom {α κ : Type} [DecidableEq κ] (key : α → κ) (seen : List κ) : List α → List α
  | [] => []
  | x :: xs =>
    if key x ∈ seen then firstsFrom key seen xs
    else x :: firstsFrom key (key x :: seen) xs

def firsts {α κ : Type} [DecidableEq κ] (key : α → κ) (xs : List α) : List α :=
  firstsFrom key [] xs

end ApiCatalog
