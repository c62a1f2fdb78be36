import ApiCatalog.Role

/-! # Errors

What can go wrong in the catalog, with the text and the HTTP status of each error.
-/

namespace ApiCatalog

inductive Error where
  /-- A definition cannot be read, or lacks a required field. -/
  | malformedDefinition (reason : String)
  /-- A member is unknown to every identity provider. -/
  | unresolvableMember (reference : String)
  /-- A condition of a mapping rule cannot be compiled. -/
  | invalidExpression (expression reason : String)
  | noSerializer (version : String)
  | apiNotFound (id : String)
  | groupNotFound (name : String)
  | roleNotFound (scope name : String)
  | authentication (reason : String)
  | repository (operation message : String)
  | configuration (message : String)
  | io (message : String)
  | json (message : String)
  | yaml (message : String)
  | httpClient (message : String)
  | internal (message : String)
  deriving DecidableEq, Repr

namespace Error

def message : Error → String
  | malformedDefinition reason => s!"Malformed API definition: {reason}"
  | unresolvableMember reference =>
    s!"Member '{reference}' cannot be resolved by any identity provider"
  | invalidExpression expression reason => s!"Invalid mapping expression '{expression}': {reason}"
  | noSerializer version => s!"No serializer can handle export version '{version}'"
  | apiNotFound id => s!"API not found: {id}"
  | groupNotFound name => s!"Group not found: {name}"
  | roleNotFound scope name => s!"Role not found: {scope}:{name}"
  | authentication reason => s!"Authentication failed: {reason}"
  | repository operation message => s!"Repository error ({operation}): {message}"
  | configuration message => s!"Configuration error: {message}"
  | io message => s!"I/O error: {message}"
  | json message => s!"JSON error: {message}"
  | yaml message => s!"YAML error: {message}"
  | httpClient message => s!"HTTP client error: {message}"
  | internal message => s!"Internal server error: {message}"

/-- The word for the kind of error in answers and counters. -/
def kind : Error → String
  | malformedDefinition _ => "malformed_definition"
  | unresolvableMember _ => "unresolvable_member"
  | invalidExpression _ _ => "invalid_mapping_expression"
  | noSerializer _ => "no_serializer_for_version"
  | apiNotFound _ => "api_not_found"
  | groupNotFound _ => "group_not_found"
  | roleNotFound _ _ => "role_not_found"
  | authentication _ => "authentication_error"
  | repository _ _ => "repository_error"
  | configuration _ => "configuration_error"
  | io _ => "io_error"
  | json _ => "json_error"
  | yaml _ => "yaml_error"
  | httpClient _ => "http_client_error"
  | internal _ => "internal_error"

def status : Error → Nat
  | malformedDefinition _ => 400
  | json _ => 400
  | apiNotFound _ => 404
  | authentication _ => 401
  | httpClient _ => 502
  | _ => 500

/-- Whether the caller's input caused the error. -/
def isClientError (e : Error) : Bool := 400 ≤ e.status && e.status < 500

/-- What stands in a message for the account that a parser gives of a text it refuses. -/
def parserAccount : String := "<parser>"

def missingRole (role : RoleName) : Error := .roleNotFound role.scope.name role.name

end Error

end ApiCatalog
