import ApiCatalog.Config.Basic
import ApiCatalog.Document.Extent
import ApiCatalog.Json.Reader
import ApiCatalog.Text.Utf8
import ApiCatalog.Yaml.Reader

/-! # Reading configurations

A configuration is a document in YAML or in JSON. Every field that is left out takes its default.
-/

namespace ApiCatalog

def Tree.duration? (t : Tree) : Option Duration :=
  t.string?.bind fun text => (Duration.parse text).toOption

def Tree.optionalString? (t : Tree) : Option (Option String) :=
  t.isPresent?.bind fun present => if present then t.string?.map some else some none

namespace ServerConfig

def fields : List FieldSpec := ["bind_address", "port", "request_timeout"].map .defaulted

def ofTree? (t : Tree) : Option ServerConfig := do
  let record ← t.record? fields
  let default : ServerConfig := {}
  return {
    bindAddress := ← record.withDefault? "bind_address" Tree.string? default.bindAddress
    port := ← record.withDefault? "port" Tree.nat16? default.port
    requestTimeout :=
      ← record.withDefault? "request_timeout" Tree.duration? default.requestTimeout }

end ServerConfig

namespace LoggingConfig

def fields : List FieldSpec := ["level", "format"].map .defaulted

def ofTree? (t : Tree) : Option LoggingConfig := do
  let record ← t.record? fields
  let default : LoggingConfig := {}
  return {
    level := ← record.withDefault? "level" Tree.string? default.level
    format := ← record.withDefault? "format" Tree.string? default.format }

end LoggingConfig

namespace ExportConfig

def fields : List FieldSpec := [.defaulted "default_version"]

def ofTree? (t : Tree) : Option ExportConfig := do
  let record ← t.record? fields
  let default : ExportConfig := {}
  return {
    defaultVersion := ← record.withDefault? "default_version" Tree.string? default.defaultVersion }

end ExportConfig

namespace AccountConfig

def ofTree? (t : Tree) : Option AccountConfig := do
  let record ← t.record? (["username", "firstname", "lastname", "email"].map .defaulted)
  return {
    username := ← record.withDefault? "username" Tree.string? ""
    firstname := ← record.withDefault? "firstname" Tree.optionalString? none
    lastname := ← record.withDefault? "lastname" Tree.optionalString? none
    email := ← record.withDefault? "email" Tree.optionalString? none }

end AccountConfig

namespace AccountListConfig

def ofTree? (t : Tree) : Option AccountListConfig := do
  let record ← t.record? (["source", "users"].map .defaulted)
  let default : AccountListConfig := {}
  return {
    source := ← record.withDefault? "source" Tree.string? default.source
    users := ← record.withDefault? "users" (Tree.listOf? AccountConfig.ofTree?) [] }

end AccountListConfig

namespace DirectoryConfig

def ofTree? (t : Tree) : Option DirectoryConfig := do
  let record ← t.record? (["source", "url", "bind_dn", "bind_password", "context_source_base",
    "user_search_base", "user_search_filter", "user_search_objectclass",
    "connect_timeout"].map .defaulted)
  let default : DirectoryConfig := {}
  return {
    source := ← record.withDefault? "source" Tree.string? default.source
    url := ← record.withDefault? "url" Tree.string? default.url
    bindDn := ← record.withDefault? "bind_dn" Tree.optionalString? none
    bindPassword := ← record.withDefault? "bind_password" Tree.optionalString? none
    contextSourceBase :=
      ← record.withDefault? "context_source_base" Tree.string? default.contextSourceBase
    userSearchBase := ← record.withDefault? "user_search_base" Tree.optionalString? none
    userSearchFilter :=
      ← record.withDefault? "user_search_filter" Tree.string? default.userSearchFilter
    userSearchObjectclass :=
      ← record.withDefault? "user_search_objectclass" Tree.string? default.userSearchObjectclass
    connectTimeout :=
      ← record.withDefault? "connect_timeout" Tree.duration? default.connectTimeout }

end DirectoryConfig

namespace ClaimNames

def ofTree? (t : Tree) : Option ClaimNames := do
  let record ← t.record? (["id", "email", "firstname", "lastname", "picture"].map .defaulted)
  let default : ClaimNames := {}
  return {
    id := ← record.withDefault? "id" Tree.string? default.id
    email := ← record.withDefault? "email" Tree.string? default.email
    firstname := ← record.withDefault? "firstname" Tree.string? default.firstname
    lastname := ← record.withDefault? "lastname" Tree.string? default.lastname
    picture := ← record.withDefault? "picture" Tree.string? default.picture }

end ClaimNames

namespace MappingRule

def ofTree? (t : Tree) : Option MappingRule := do
  let record ← t.record? [.needed "condition", .defaulted "values"]
  return {
    condition := ← record.needed? "condition" Tree.string?
    values := ← record.withDefault? "values" Tree.strings? [] }

end MappingRule

namespace LoginConfig

def ofTree? (t : Tree) : Option LoginConfig := do
  let record ← t.record? (["source", "userinfo_endpoint", "timeout", "user_mapping", "groups",
    "roles"].map .defaulted)
  let default : LoginConfig := {}
  return {
    source := ← record.withDefault? "source" Tree.string? default.source
    userinfoEndpoint :=
      ← record.withDefault? "userinfo_endpoint" Tree.string? default.userinfoEndpoint
    timeout := ← record.withDefault? "timeout" Tree.duration? default.timeout
    claims := ← record.withDefault? "user_mapping" ClaimNames.ofTree? default.claims
    groups := ← record.withDefault? "groups" (Tree.listOf? MappingRule.ofTree?) []
    roles := ← record.withDefault? "roles" (Tree.listOf? MappingRule.ofTree?) [] }

end LoginConfig

namespace ProviderConfig

/-- The field that tells the kind of a provider. -/
def kindKey : String := "type"

/-- A provider of a named kind. -/
def ofKind? (kind : String) (t : Tree) : Option ProviderConfig :=
  if kind == "memory" then (AccountListConfig.ofTree? t).map .accounts
  else if kind == "ldap" then (DirectoryConfig.ofTree? t).map .directory
  else if kind == "oauth2" then (LoginConfig.ofTree? t).map .logins
  else none

def isKindKey : Tree → Bool
  | .scalar (.str key) => key == kindKey
  | _ => false

/-- A provider from the entries of a mapping, which hold its kind once. All other scalars have types
of their own. -/
def ofEntries? (room : Nat) (entries : List (Tree × Tree)) : Option ProviderConfig := do
  let entries ← entries.mapM fun (key, value) => return (← key.typed? room, value)
  let (kinds, others) := entries.partition (isKindKey ·.1)
  let fields ← others.mapM fun (key, value) => return (key, ← value.typed? room)
  match kinds with
  | [(_, kind)] => ofKind? (← kind.string?) (.map fields)
  | _ => none

/-- A provider from a tree that is nested no deeper than `room`: a mapping, or a list that starts
with its kind. -/
def ofTree? (room : Nat) (t : Tree) : Option ProviderConfig :=
  match room, t with
  | room + 1, .map entries => ofEntries? room entries
  | room + 1, .list _ (kind :: items) => do
    ofKind? (← kind.string?) (.list true (← items.mapM (Tree.typed? room)))
  | _, _ => none

end ProviderConfig

namespace Config

def identityFields : List FieldSpec := [.defaulted "providers"]

def fields : List FieldSpec := ["server", "logging", "export", "identity"].map .defaulted

/-- What is looked at in a document; the providers are looked at as a whole. -/
def extent : Extent :=
  .record fields
    [("server", .record ServerConfig.fields []), ("logging", .record LoggingConfig.fields []),
      ("export", .record ExportConfig.fields []), ("identity", .record identityFields [])]

/-- The providers in the part of a configuration that is about identities, which is nested no
deeper than `room`. -/
def providersOfTree? (room : Nat) (t : Tree) : Option (List ProviderConfig) := do
  let record ← t.record? identityFields
  let default : Config := {}
  record.withDefault? "providers" (Tree.listOf? (ProviderConfig.ofTree? (room - 2)))
    default.providers

/-- A configuration from a document that is nested no deeper than `limit`. -/
def ofTree? (limit : Nat) (t : Tree) : Option Config := do
  let record ← t.record? fields
  let default : Config := {}
  return {
    server := ← record.withDefault? "server" ServerConfig.ofTree? default.server
    logging := ← record.withDefault? "logging" LoggingConfig.ofTree? default.logging
    exports := ← record.withDefault? "export" ExportConfig.ofTree? default.exports
    providers := ← record.withDefault? "identity" (providersOfTree? (limit - 1))
      default.providers }

end Config

inductive ConfigFormat where
  | yaml
  | json
  deriving DecidableEq, Repr

namespace ConfigFormat

def tree? : ConfigFormat → List Char → Option Tree
  | yaml => Yaml.tree? Config.extent
  | json => Json.tree?

def depthLimit : ConfigFormat → Nat
  | yaml => Yaml.depthLimit
  | json => Json.depthLimit

def title : ConfigFormat → String
  | yaml => "config"
  | json => "JSON config"

end ConfigFormat

namespace Config

def ofText (format : ConfigFormat) (cs : List Char) : Except Error Config :=
  match (format.tree? cs).bind (ofTree? format.depthLimit) with
  | some config => .ok config
  | none => .error (.configuration s!"Failed to parse {format.title}: {Error.parserAccount}")

/-- The configuration in a file of which the content is given, if the file is there. -/
def ofFile (format : ConfigFormat) : Option (List UInt8) → Except Error Config
  | none =>
    .error (.configuration "Failed to read config file: No such file or directory (os error 2)")
  | some bytes =>
    match Text.decodeUtf8 bytes with
    | .ok cs => ofText format cs
    | .error _ =>
      .error (.configuration "Failed to read config file: stream did not contain valid UTF-8")

end Config

end ApiCatalog
