import ApiCatalog.Duration
import ApiCatalog.Mapping.Rules
import ApiCatalog.Text.Case

/-! # Configuration

The settings of the management server, each with its default.
-/

namespace ApiCatalog

structure ServerConfig where
  bindAddress : String := "0.0.0.0"
  port : Nat := 8083
  requestTimeout : Duration := .ofSeconds 30
  deriving DecidableEq, Repr

structure LoggingConfig where
  level : String := "info"
  format : String := "json"
  deriving DecidableEq, Repr

inductive LogFormat where
  | json
  | text
  deriving DecidableEq, Repr

namespace LogFormat

def name : LogFormat → String
  | json => "json"
  | text => "text"

/-- The format that a setting names, in any case. What names no format stands for JSON. -/
def ofSetting (setting : String) : LogFormat :=
  if Text.toLower setting == "text" then text else json

end LogFormat

structure ExportConfig where
  /-- The version for APIs that have none noted. -/
  defaultVersion : String := "default"
  deriving DecidableEq, Repr

structure AccountConfig where
  username : String := ""
  firstname : Option String := none
  lastname : Option String := none
  email : Option String := none
  deriving DecidableEq, Repr

structure AccountListConfig where
  source : String := "memory"
  users : List AccountConfig := []
  deriving DecidableEq, Repr

/-- A provider that asks an LDAP directory. -/
structure DirectoryConfig where
  source : String := "ldap"
  url : String := "ldap://localhost:389"
  bindDn : Option String := none
  bindPassword : Option String := none
  contextSourceBase : String := ""
  userSearchBase : Option String := none
  /-- A filter such as `uid={0}`, whose attribute identifies the users. -/
  userSearchFilter : String := "uid=\x7b0\x7d"
  userSearchObjectclass : String := "person"
  connectTimeout : Duration := .ofSeconds 5
  deriving DecidableEq, Repr

/-- The names of the claims in a profile that hold the fields of a user. -/
structure ClaimNames where
  id : String := "sub"
  email : String := "email"
  firstname : String := "given_name"
  lastname : String := "family_name"
  picture : String := "picture"
  deriving DecidableEq, Repr

/-- A provider of OAuth2 logins. -/
structure LoginConfig where
  source : String := "oauth2"
  userinfoEndpoint : String := ""
  timeout : Duration := .ofSeconds 10
  claims : ClaimNames := {}
  groups : List MappingRule := []
  roles : List MappingRule := []
  deriving DecidableEq, Repr

inductive ProviderConfig where
  | accounts (config : AccountListConfig)
  | directory (config : DirectoryConfig)
  | logins (config : LoginConfig)
  deriving DecidableEq, Repr

structure Config where
  server : ServerConfig := {}
  logging : LoggingConfig := {}
  exports : ExportConfig := {}
  /-- The identity providers, in the order in which they are asked. -/
  providers : List ProviderConfig := [.accounts {}]
  deriving DecidableEq, Repr

end ApiCatalog
