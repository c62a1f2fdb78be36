import ApiCatalog.Config.Basic
import ApiCatalog.Identity.User

/-! # Rosters

The users that one source lists by id: those of the configuration, or those that have logged in.
-/

namespace ApiCatalog

structure Roster where
  source : String
  /-- The users by id, sorted. -/
  users : List (String × User) := []
  deriving DecidableEq, Repr

namespace Roster

def find? (roster : Roster) (id : String) : Option User := roster.users.lookup id

/-- The user as the roster lists it, under its source. -/
def adopt (roster : Roster) (user : User) : User := { user with source := roster.source }

/-- List a user, in place of another one with its id. -/
def register (roster : Roster) (user : User) : Roster :=
  { roster with users := Fields.insert user.id (roster.adopt user) roster.users }

/-- The users that a query finds, sorted by id. A blank query finds none. -/
def search (roster : Roster) (query : String) : List User :=
  let needle := Text.needle query
  if needle.isEmpty then [] else (roster.users.map (·.2)).filter (·.isFoundBy needle)

end Roster

def AccountConfig.user (account : AccountConfig) (source : String) : User :=
  let username := Text.trim account.username
  { id := username
    reference := username
    source
    email := account.email
    firstname := account.firstname
    lastname := account.lastname
    displayName := (fullName? account.firstname account.lastname).getD username }

/-- The users of a configured list, those without a name left out. -/
def AccountListConfig.roster (config : AccountListConfig) : Roster :=
  let named := config.users.filter fun account => !Text.isBlankText account.username
  named.foldl (fun roster account => roster.register (account.user config.source))
    ⟨config.source, []⟩

end ApiCatalog
