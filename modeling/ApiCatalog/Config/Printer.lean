import ApiCatalog.Config.Basic

/-! # Printing configurations

The JSON form of a configuration, which reads back as the configuration.
-/

namespace ApiCatalog

def Duration.toJson (d : Duration) : Json := .str d.text

def ServerConfig.toJson (config : ServerConfig) : Json :=
  .ofFields
    [("bind_address", .str config.bindAddress), ("port", .int config.port),
      ("request_timeout", config.requestTimeout.toJson)]

def LoggingConfig.toJson (config : LoggingConfig) : Json :=
  .ofFields [("level", .str config.level), ("format", .str config.format)]

def ExportConfig.toJson (config : ExportConfig) : Json :=
  .ofFields [("default_version", .str config.defaultVersion)]

def AccountConfig.toJson (config : AccountConfig) : Json :=
  .ofFields
    [("username", .str config.username), ("firstname", .ofString? config.firstname),
      ("lastname", .ofString? config.lastname), ("email", .ofString? config.email)]

def MappingRule.toJson (rule : MappingRule) : Json :=
  .ofFields [("condition", .str rule.condition), ("values", .ofStrings rule.values)]

def ClaimNames.toJson (claims : ClaimNames) : Json :=
  .ofFields
    [("id", .str claims.id), ("email", .str claims.email), ("firstname", .str claims.firstname),
      ("lastname", .str claims.lastname), ("picture", .str claims.picture)]

def AccountListConfig.fields (config : AccountListConfig) : List (String × Json) :=
  [("source", .str config.source), ("users", .arr (config.users.map AccountConfig.toJson))]

def DirectoryConfig.fields (config : DirectoryConfig) : List (String × Json) :=
  [("source", .str config.source), ("url", .str config.url),
    ("bind_dn", .ofString? config.bindDn), ("bind_password", .ofString? config.bindPassword),
    ("context_source_base", .str config.contextSourceBase),
    ("user_search_base", .ofString? config.userSearchBase),
    ("user_search_filter", .str config.userSearchFilter),
    ("user_search_objectclass", .str config.userSearchObjectclass),
    ("connect_timeout", config.connectTimeout.toJson)]

def LoginConfig.fields (config : LoginConfig) : List (String × Json) :=
  [("source", .str config.source), ("userinfo_endpoint", .str config.userinfoEndpoint),
    ("timeout", config.timeout.toJson), ("user_mapping", config.claims.toJson),
    ("groups", .arr (config.groups.map MappingRule.toJson)),
    ("roles", .arr (config.roles.map MappingRule.toJson))]

/-- A provider, with a field that tells its kind. -/
def ProviderConfig.toJson : ProviderConfig → Json
  | accounts config => .ofFields (("type", .str "memory") :: config.fields)
  | directory config => .ofFields (("type", .str "ldap") :: config.fields)
  | logins config => .ofFields (("type", .str "oauth2") :: config.fields)

def Config.toJson (config : Config) : Json :=
  .ofFields
    [("server", config.server.toJson), ("logging", config.logging.toJson),
      ("export", config.exports.toJson),
      ("identity", .ofFields [("providers", .arr (config.providers.map ProviderConfig.toJson))])]

end ApiCatalog
