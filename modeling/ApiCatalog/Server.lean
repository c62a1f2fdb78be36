import ApiCatalog.Export
import ApiCatalog.Import
import ApiCatalog.Server.Message
import ApiCatalog.Server.Route

/-! # The server

How requests are answered: APIs are imported, shown and exported, and logins are completed.
-/

namespace ApiCatalog

structure Server where
  /-- The providers of logins by their sources in lower case, each source once. -/
  authenticators : List (String × Authenticator) := []
  /-- The export version for APIs that have none noted. -/
  defaultVersion : ExportVersion := .default

namespace Server

/-- The providers by their sources. Of several for one source the last counts. -/
def withAuthenticators (server : Server) (authenticators : List Authenticator) : Server :=
  { server with
    authenticators := Fields.ofList (authenticators.map fun a => (Text.toLower a.source, a)) }

def unreadablePath (name : String) : Response :=
  ⟨Status.badRequest, .text ("Invalid URL: Invalid UTF-8 in " ++ "`" ++ name ++ "`")⟩

def repeatedParameter (name : String) : Response :=
  ⟨Status.badRequest,
    .text ("Failed to deserialize query string: duplicate field " ++ "`" ++ name ++ "`")⟩

/-- Go on with a part of the path, which is called by a name where it cannot be read. -/
def withPart (name : String) (part : List Char) (next : String → Catalog → Response × Catalog) :
    Catalog → Response × Catalog :=
  match Url.pathPart? part with
  | some text => next text
  | none => fun catalog => (unreadablePath name, catalog)

def answer (status : Nat) (task : CatalogM Json) (catalog : Catalog) : Response × Catalog :=
  let (result, catalog) := task.runOn catalog
  (.ofResult status result, catalog)

def findApi (id : String) : CatalogM Api := do
  match ← CatalogM.fromStore (·.api? id) with
  | some api => return api
  | none => throw (.apiNotFound id)

structure ExportParameters where
  version : Option String := none
  exclude : Option String := none

namespace ExportParameters

def repeated? : List String → List (String × String) → Option String
  | _, [] => none
  | seen, (name, _) :: pairs =>
    if name != "version" && name != "exclude" then repeated? seen pairs
    else if seen.contains name then some name
    else repeated? (name :: seen) pairs

def ofQuery (query : List Char) : Except String ExportParameters :=
  let pairs := Url.queryPairs query
  match repeated? [] pairs with
  | some name => .error name
  | none => .ok ⟨pairs.lookup "version", pairs.lookup "exclude"⟩

end ExportParameters

def exportApi (server : Server) (id : String) (parameters : ExportParameters) : CatalogM Json := do
  let api ← findApi id
  let excluded := (parameters.exclude.map ExportSection.parseList).getD []
  match parameters.version with
  | some version =>
    let version ← CatalogM.ofResult (ExportVersion.parse version)
    exportAs ExportVersion.registered version excluded api
  | none => exportPreferring ExportVersion.registered server.defaultVersion excluded api

def connect (server : Server) (source : String) (request : Request) : CatalogM Json := do
  match server.authenticators.lookup (Text.toLower source) with
  | none => throw (.authentication s!"unknown identity provider '{source}'")
  | some authenticator =>
    if !request.hasToken then throw (.authentication "missing bearer token")
    return (← authenticator.connect request.userinfo).toJson

def health (server : Server) : Json :=
  .ofFields
    [("status", .str "UP"), ("external_providers", .int server.authenticators.length)]

def answerRoute (server : Server) (request : Request) :
    Route → Catalog → Response × Catalog
  | .health => fun catalog => (.ofJson Status.ok server.health, catalog)
  | .newApi =>
    answer Status.created do
      return (← importDefinition none request.body request.actingUser?).toJson
  | .api id =>
    withPart "api_id" id fun id => answer Status.ok do return (← findApi id).toJson
  | .apiImport id =>
    withPart "api_id" id fun id => answer Status.ok do
      return (← importDefinition (some id) request.body request.actingUser?).toJson
  | .apiExport id =>
    withPart "api_id" id fun id catalog =>
      match ExportParameters.ofQuery request.query with
      | .ok parameters => answer Status.ok (server.exportApi id parameters) catalog
      | .error name => (repeatedParameter name, catalog)
  | .connect source =>
    withPart "source" source fun source => answer Status.ok (server.connect source request)

def respond (server : Server) (request : Request) (catalog : Catalog) : Response × Catalog :=
  match Route.ofPath? request.path with
  | none => (⟨Status.notFound, .empty⟩, catalog)
  | some route =>
    if !route.admits request.method then (⟨Status.methodNotAllowed, .empty⟩, catalog)
    else
      let (response, catalog) := server.answerRoute request route catalog
      (if request.method == "HEAD" then response.withoutBody else response, catalog)

end Server

end ApiCatalog
