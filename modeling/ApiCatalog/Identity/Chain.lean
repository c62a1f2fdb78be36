import ApiCatalog.Identity.Directory
import ApiCatalog.Identity.Roster

/-! # Identity chains

The identity providers in the order in which they are asked, and how the chain resolves a reference
to a member.
-/

namespace ApiCatalog

inductive Resolver where
  /-- The accounts of the configuration. -/
  | accounts (roster : Roster)
  | directory (config : DirectoryConfig)
  /-- The users that have logged in from outside. -/
  | logins (roster : Roster)
  deriving Repr

namespace Resolver

def ofConfig : ProviderConfig → Resolver
  | .accounts config => accounts config.roster
  | .directory config => directory config
  | .logins config => logins ⟨config.source, []⟩

def kind : Resolver → String
  | accounts _ => "memory"
  | directory _ => "ldap"
  | logins _ => "oauth2"

def source : Resolver → String
  | accounts roster => roster.source
  | directory config => config.source
  | logins roster => roster.source

/-- Whether the users of a source are the resolver's, the case of ASCII letters aside. -/
def handles (resolver : Resolver) (source : String) : Bool :=
  Text.sameIgnoringAsciiCase source resolver.source

def search (network : Directory.Network) (query : String) : Resolver → List User
  | accounts roster => roster.search query
  | directory config => config.search network query
  | logins roster => roster.search query

/-- The user of a reference. Only accounts are looked up without regard to white space around the
reference. -/
def retrieve? (network : Directory.Network) (reference : String) : Resolver → Option User
  | accounts roster => roster.find? (Text.trim reference)
  | directory config => config.retrieve? network reference
  | logins roster => roster.find? reference

end Resolver

/-- The identity providers, with the directories that they reach. -/
structure Identities where
  resolvers : List Resolver := []
  network : Directory.Network := []

namespace Identities

def ofConfig (providers : List ProviderConfig) (network : Directory.Network) : Identities :=
  ⟨providers.map Resolver.ofConfig, network⟩

/-- All users whom a query finds, provider by provider. -/
def search (identities : Identities) (query : String) : List User :=
  identities.resolvers.flatMap (·.search identities.network query)

/-- The user of a reference, from the first provider that handles the source. -/
def retrieve? (identities : Identities) (source reference : String) : Option User :=
  (identities.resolvers.find? (·.handles source)).bind
    (·.retrieve? identities.network reference)

/-- Of the users found, the first one with exactly the given id or name, or else the first one. -/
def pick? (reference : String) (found : List User) : Option User :=
  (found.find? (·.isExactly reference)).or found.head?

/-- The user whom the reference of a member stands for. A source confines the search to its
providers, after the first of them has been asked for exactly this user. -/
def resolve? (identities : Identities) (reference : String) : Option String → Option User
  | none => pick? reference (identities.search reference)
  | some source =>
    (identities.retrieve? source reference).or <|
      pick? reference <|
        (identities.resolvers.filter (·.handles source)).flatMap
          (·.search identities.network reference)

def registry? (identities : Identities) (source : String) : Option Roster :=
  identities.resolvers.findSome? fun
    | .logins roster =>
      if Text.sameIgnoringAsciiCase source roster.source then some roster else none
    | _ => none

/-- Replace the first registry of a source. -/
def updateRegistry (source : String) (f : Roster → Roster) : List Resolver → List Resolver
  | [] => []
  | .logins roster :: resolvers =>
    if Text.sameIgnoringAsciiCase source roster.source then .logins (f roster) :: resolvers
    else .logins roster :: updateRegistry source f resolvers
  | resolver :: resolvers => resolver :: updateRegistry source f resolvers

def register (identities : Identities) (source : String) (user : User) : Identities :=
  { identities with
    resolvers := updateRegistry source (·.register user) identities.resolvers }

end Identities

end ApiCatalog
