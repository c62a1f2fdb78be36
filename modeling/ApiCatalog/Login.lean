import ApiCatalog.Config.Basic
import ApiCatalog.Json.Printer
import ApiCatalog.Json.Reader
import ApiCatalog.Mapping.Application
import ApiCatalog.Server.Status

/-! # External logins

A user who logs in at an OAuth2 provider brings a profile, which the provider's userinfo endpoint
hands out. The profile tells who the user is, and the mapping of the provider what the user may do.
-/

namespace ApiCatalog

/-- What comes back when the userinfo endpoint is asked for a profile. -/
inductive UserinfoReply where
  | unreachable
  | answered (status : Nat) (body : String)
  deriving DecidableEq, Repr

namespace UserinfoReply

/-- The profile in a reply. An answer without content has none. -/
def profile : UserinfoReply → Except Error Json
  | unreachable => .error (.httpClient Error.parserAccount)
  | answered status body =>
    if !Status.isSuccess status then
      .error (.authentication s!"userinfo endpoint answered {Status.text status}")
    else
      match if status == Status.noContent then none else Json.parse? body with
      | some profile => .ok profile
      | none => .error (.httpClient Error.parserAccount)

end UserinfoReply

namespace ClaimNames

/-- A claim of a profile: a text that is not blank, or a number. -/
def claim? (profile : Json) (name : String) : Option String :=
  match profile.field? name with
  | some (.str s) => if Text.isBlankText s then none else some s
  | some (.num n) => some n.text
  | _ => none

def needed (profile : Json) (name : String) : Except Error String :=
  match claim? profile name with
  | some value => .ok value
  | none => .error (.authentication s!"profile has no '{name}' claim")

def user (names : ClaimNames) (source : String) (profile : Json) : Except Error User := do
  let id ← needed profile names.id
  let email ← needed profile names.email
  let firstname := claim? profile names.firstname
  let lastname := claim? profile names.lastname
  return {
    id
    reference := id
    source
    email := some email
    firstname
    lastname
    displayName := (fullName? firstname lastname).getD email
    picture := claim? profile names.picture }

end ClaimNames

structure Authenticator where
  source : String
  claims : ClaimNames
  mapping : Mapping

structure Login where
  user : User
  outcome : MappingOutcome
  deriving DecidableEq, Repr

namespace Authenticator

def ofConfig (config : LoginConfig) : Except Error Authenticator := do
  return ⟨config.source, config.claims, ← Mapping.compile config.groups config.roles⟩

def ofProviders : List ProviderConfig → Except Error (List Authenticator)
  | [] => .ok []
  | .logins config :: providers => do
    let authenticator ← ofConfig config
    return authenticator :: (← ofProviders providers)
  | _ :: providers => ofProviders providers

/-- List a user in the registry of the authenticator, which the user is then known by. -/
def register (authenticator : Authenticator) (user : User) : CatalogM User := do
  let catalog ← get
  match catalog.identities.registry? authenticator.source with
  | none => return user
  | some registry =>
    set { catalog with identities := catalog.identities.register authenticator.source user }
    return registry.adopt user

def complete (authenticator : Authenticator) (profile : Json) : CatalogM Login := do
  let user ← CatalogM.ofResult (authenticator.claims.user authenticator.source profile)
  let user ← authenticator.register user
  return ⟨user, ← authenticator.mapping.apply user.member profile⟩

def connect (authenticator : Authenticator) (reply : UserinfoReply) : CatalogM Login :=
  CatalogM.counting .logins do
    let profile ← CatalogM.ofResult reply.profile
    authenticator.complete profile

end Authenticator

namespace Login

def toJson (login : Login) : Json :=
  .ofFields
    [("user", login.user.toJson), ("groups", .ofStrings (login.outcome.groups.map (·.name))),
      ("roles", .arr (login.outcome.roles.map RoleName.toJson)),
      ("memberships_applied", .int login.outcome.membershipsApplied)]

end Login

end ApiCatalog
