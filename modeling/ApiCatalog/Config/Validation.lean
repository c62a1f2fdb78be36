import ApiCatalog.Config.Basic
import ApiCatalog.Export.Version
import ApiCatalog.Url.Absolute

/-! # Validating configurations

A configuration is checked as a whole, and every problem is reported, in the order of the settings.
-/

namespace ApiCatalog

/-- What is wrong with a configuration. Providers are counted from zero. -/
inductive ConfigProblem where
  | zeroPort
  | emptyBindAddress
  | zeroTimeout
  | unknownLogLevel (level : String)
  | unknownLogFormat (format : String)
  | blankUsername (provider : Nat)
  | emptyDirectoryUrl (provider : Nat)
  | invalidDirectoryUrl (provider : Nat) (url : String) (fault : UrlFault)
  | emptySearchBase (provider : Nat)
  | invalidSearchFilter (provider : Nat)
  | invalidEndpoint (provider : Nat) (url : String) (fault : UrlFault)
  /-- A part of the configuration that cannot be compiled. -/
  | refused (error : Error)
  deriving DecidableEq, Repr

namespace ConfigProblem

def message : ConfigProblem → String
  | zeroPort => "server port must be greater than 0"
  | emptyBindAddress => "bind_address cannot be empty"
  | zeroTimeout => "request_timeout must be greater than 0"
  | unknownLogLevel level => s!"Invalid log level: {level}"
  | unknownLogFormat format => s!"Invalid log format: {format}"
  | blankUsername provider => s!"Identity provider {provider} has a user with an empty username"
  | emptyDirectoryUrl provider => s!"LDAP provider {provider} url cannot be empty"
  | invalidDirectoryUrl provider url fault =>
    s!"LDAP provider {provider} has invalid url '{url}': {fault.message}"
  | emptySearchBase provider => s!"LDAP provider {provider} context_source_base cannot be empty"
  | invalidSearchFilter provider =>
    s!"LDAP provider {provider} user_search_filter must look like 'attribute=\x7b0\x7d'"
  | invalidEndpoint provider url fault =>
    s!"OAuth2 provider {provider} has invalid userinfo_endpoint '{url}': {fault.message}"
  | refused error => error.message

def when (condition : Bool) (problem : ConfigProblem) : List ConfigProblem :=
  if condition then [problem] else []

def ofResult {α : Type} : Except Error α → List ConfigProblem
  | .ok _ => []
  | .error e => [refused e]

end ConfigProblem

open ConfigProblem (when ofResult)

namespace ServerConfig

def problems (config : ServerConfig) : List ConfigProblem :=
  when (config.port == 0) .zeroPort ++ when config.bindAddress.isEmpty .emptyBindAddress ++
    when config.requestTimeout.isZero .zeroTimeout

end ServerConfig

namespace LoggingConfig

def levels : List String := ["trace", "debug", "info", "warn", "error"]

def formats : List String := [LogFormat.json.name, LogFormat.text.name]

def problems (config : LoggingConfig) : List ConfigProblem :=
  when (!levels.contains (Text.toLower config.level)) (.unknownLogLevel config.level) ++
    when (!formats.contains (Text.toLower config.format)) (.unknownLogFormat config.format)

end LoggingConfig

namespace ExportConfig

def problems (config : ExportConfig) : List ConfigProblem :=
  ofResult (ExportVersion.parse config.defaultVersion)

end ExportConfig

namespace AccountListConfig

def problems (index : Nat) (config : AccountListConfig) : List ConfigProblem :=
  config.users.flatMap fun user => when (Text.isBlankText user.username) (.blankUsername index)

end AccountListConfig

namespace DirectoryConfig

def urlProblems (index : Nat) (url : String) : List ConfigProblem :=
  if url.isEmpty then [.emptyDirectoryUrl index]
  else
    match Url.fault? url with
    | some fault => [.invalidDirectoryUrl index url fault]
    | none => []

def problems (index : Nat) (config : DirectoryConfig) : List ConfigProblem :=
  urlProblems index config.url ++
    when config.contextSourceBase.isEmpty (.emptySearchBase index) ++
    when (!config.userSearchFilter.toList.contains '=') (.invalidSearchFilter index)

end DirectoryConfig

namespace LoginConfig

def endpointProblems (index : Nat) (url : String) : List ConfigProblem :=
  match Url.fault? url with
  | some fault => [.invalidEndpoint index url fault]
  | none => []

def problems (index : Nat) (config : LoginConfig) : List ConfigProblem :=
  endpointProblems index config.userinfoEndpoint ++
    ((config.groups ++ config.roles).flatMap fun rule =>
      ofResult (Condition.compile rule.condition)) ++
    (config.roles.flatMap fun rule => rule.values.flatMap fun value =>
      ofResult (RoleName.parseGrant value))

end LoginConfig

namespace ProviderConfig

def problems (index : Nat) : ProviderConfig → List ConfigProblem
  | accounts config => config.problems index
  | directory config => config.problems index
  | logins config => config.problems index

end ProviderConfig

namespace Config

def problems (config : Config) : List ConfigProblem :=
  config.server.problems ++ config.logging.problems ++ config.exports.problems ++
    config.providers.zipIdx.flatMap fun (provider, index) => provider.problems index

def validate (config : Config) : Except Error Unit :=
  match config.problems with
  | [] => .ok ()
  | problems =>
    .error (.configuration <| "Configuration validation failed:\n" ++
      "\n".intercalate (problems.map ConfigProblem.message))

end Config

end ApiCatalog
