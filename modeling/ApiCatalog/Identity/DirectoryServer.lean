import ApiCatalog.Duration

/-! # Directory servers

An LDAP server as its clients see it: whether it can be reached, whether it lets a caller in, and
what it answers to a query. The answers are the server's own; nothing is assumed of them here.
-/

namespace ApiCatalog

structure DirectoryEntry where
  dn : String
  attributes : List (String × List String) := []
  deriving DecidableEq, Repr

/-- How far from its base a search goes. -/
inductive SearchScope where
  | base
  | subtree
  deriving DecidableEq, Repr

structure DirectoryQuery where
  base : String
  scope : SearchScope
  filter : String
  /-- The attributes that the entries are wanted with. -/
  attributes : List String
  /-- The most entries to answer with, and the most seconds to take; zero sets no limit. -/
  sizeLimit : Nat := 0
  timeLimit : Nat := 0
  deriving DecidableEq, Repr

structure DirectoryAnswer where
  code : Nat
  entries : List DirectoryEntry := []
  deriving DecidableEq, Repr

namespace DirectoryAnswer

def success : Nat := 0

def noSuchObject : Nat := 32

/-- The entries of an answer that reports success. Any other code says that the search failed, a
limit was exceeded or there is no entry. -/
def found (answer : DirectoryAnswer) : List DirectoryEntry :=
  if answer.code == success then answer.entries else []

end DirectoryAnswer

structure DirectoryServer where
  /-- Whether a connection comes about in time. -/
  connects : Duration → Bool
  /-- The code for a caller who gives a name and a password, if there is a reply. -/
  bind? : String → String → Option Nat
  /-- The answer to the query of a caller who has given them or not, if there is one. -/
  answer? : Option (String × String) → DirectoryQuery → Option DirectoryAnswer

namespace DirectoryServer

/-- Whether the server lets a caller in. Who gives no name need not ask. -/
def admits (server : DirectoryServer) (caller : Option (String × String)) : Bool :=
  caller.all fun (name, password) => server.bind? name password == some DirectoryAnswer.success

/-- The entries that a caller gets for a query. -/
def ask (server : DirectoryServer) (caller : Option (String × String)) (query : DirectoryQuery) :
    List DirectoryEntry :=
  ((server.answer? caller query).map DirectoryAnswer.found).getD []

end DirectoryServer

/-- The servers that can be reached, by their URLs. -/
abbrev Directory.Network := List (String × DirectoryServer)

/-- A server for trials, which answers from a list of entries. It knows them by name but not which
of them a filter is about: a search below any entry finds all of them. -/
structure Directory where
  entries : List DirectoryEntry := []
  bindCode : Nat := DirectoryAnswer.success
  searchCode : Nat := DirectoryAnswer.success
  /-- The code of every lookup, unless it says whether there is such an entry. -/
  lookupCode : Option Nat := none
  deriving DecidableEq, Repr

namespace Directory

/-- The answer to a lookup by name. -/
def lookUp (directory : Directory) (dn : String) : DirectoryAnswer :=
  match directory.entries.find? (·.dn == dn) with
  | some entry => ⟨directory.lookupCode.getD DirectoryAnswer.success, [entry]⟩
  | none => ⟨directory.lookupCode.getD DirectoryAnswer.noSuchObject, []⟩

def server (directory : Directory) : DirectoryServer where
  connects _ := true
  bind? _ _ := some directory.bindCode
  answer? _ query :=
    match query.scope with
    | .base => some (directory.lookUp query.base)
    | .subtree => some ⟨directory.searchCode, directory.entries⟩

instance : Coe Directory DirectoryServer := ⟨server⟩

end Directory

end ApiCatalog
