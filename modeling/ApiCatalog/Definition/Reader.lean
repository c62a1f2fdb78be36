import ApiCatalog.Definition.Draft
import ApiCatalog.Document.Extent
import ApiCatalog.Json.Reader
import ApiCatalog.Yaml.Reader

/-! # Reading definitions

A definition is written in JSON, when its text starts with a brace, or else in YAML.
-/

namespace ApiCatalog

namespace MemberDraft

def fields : List FieldSpec :=
  [⟨["reference", "sourceId", "username"], false⟩, .needed "source", .needed "role"]

def ofTree? (t : Tree) : Option MemberDraft := do
  let record ← t.record? fields
  return {
    reference := ← record.optional? "reference" Tree.string?
    source := ← record.optional? "source" Tree.string?
    role := ← record.optional? "role" Tree.string? }

end MemberDraft

namespace PageDraft

def fields : List FieldSpec :=
  [.needed "name", .needed "type", .needed "content", .defaulted "order", .defaulted "published",
    .defaulted "homepage", .defaulted "configuration", .needed "source"]

/-- A page whose free values are nested no deeper than `room`. -/
def ofTree? (room : Nat) (t : Tree) : Option PageDraft := do
  let record ← t.record? fields
  let body : PageBody := {
    content := ← record.optional? "content" Tree.string?
    order := ← record.nullable? "order" Tree.int32? 0
    published := ← record.nullable? "published" Tree.bool? false
    homepage := ← record.nullable? "homepage" Tree.bool? false
    configuration := ← record.nullable? "configuration" (Tree.fieldsOf? Tree.string?) []
    source := ← record.optional? "source" (Tree.json? room) }
  return {
    name := ← record.optional? "name" Tree.string?
    type := ← record.optional? "type" Tree.wire?
    body }

end PageDraft

namespace PlanDraft

def fields : List FieldSpec :=
  [.needed "name", .needed "description", .needed "security", .needed "securityDefinition",
    .needed "validation", .needed "status", .defaulted "order", .defaulted "characteristics",
    .defaulted "paths", .defaulted "tags", .defaulted "excluded_groups", .needed "selection_rule",
    .defaulted "comment_required"]

/-- A plan whose free values are nested no deeper than `room`, with the mapping that holds
them. -/
def ofTree? (room : Nat) (t : Tree) : Option PlanDraft := do
  let record ← t.record? fields
  let terms : PlanTerms := {
    description := ← record.optional? "description" Tree.string?
    securityDefinition := ← record.optional? "securityDefinition" Tree.string?
    order := ← record.nullable? "order" Tree.int32? 0
    characteristics := ← record.nullable? "characteristics" Tree.strings? []
    paths := ← record.nullable? "paths" (Tree.fieldsOf? (Tree.json? (room - 1))) []
    tags := ← record.nullable? "tags" Tree.names? []
    excludedGroups := ← record.nullable? "excluded_groups" Tree.strings? []
    selectionRule := ← record.optional? "selection_rule" Tree.string?
    commentRequired := ← record.nullable? "comment_required" Tree.bool? false }
  return {
    name := ← record.optional? "name" Tree.string?
    security := ← record.optional? "security" Tree.wire?
    status := ← record.optional? "status" Tree.wire?
    validation := ← record.optional? "validation" Tree.wire?
    terms }

end PlanDraft

namespace DefinitionDraft

def fields : List FieldSpec :=
  [.needed "name", .needed "version", .needed "description", .needed "visibility",
    .defaulted "tags", .needed "picture", .needed "proxy", .defaulted "paths", .needed "services",
    .defaulted "resources", .needed "properties", .defaulted "views", .defaulted "labels",
    .defaulted "path_mappings", .needed "response_templates", .defaulted "members",
    .defaulted "pages", .defaulted "plans", .defaulted "groups"]

def extent : Extent :=
  .record fields
    [("members", .listOf (.record MemberDraft.fields [])),
      ("pages", .listOf (.record PageDraft.fields [])),
      ("plans", .listOf (.record PlanDraft.fields []))]

/-- A draft from a document that is nested no deeper than `limit`. -/
def ofTree? (limit : Nat) (t : Tree) : Option DefinitionDraft := do
  let record ← t.record? fields
  let free := Tree.json? (limit - 1)
  let inner := Tree.json? (limit - 2)
  let details : ApiDetails := {
    name := ""
    version := ""
    description := ← record.optional? "description" Tree.string?
    tags := ← record.nullable? "tags" Tree.names? []
    picture := ← record.optional? "picture" Tree.string?
    proxy := ← record.optional? "proxy" free
    paths := ← record.nullable? "paths" (Tree.fieldsOf? inner) []
    services := ← record.optional? "services" free
    resources := ← record.nullable? "resources" (Tree.listOf? inner) []
    properties := ← record.optional? "properties" free
    views := ← record.nullable? "views" Tree.names? []
    labels := ← record.nullable? "labels" Tree.strings? []
    pathMappings := ← record.nullable? "path_mappings" Tree.names? []
    responseTemplates := ← record.optional? "response_templates" free }
  let members ← record.nullable? "members" (Tree.listOf? MemberDraft.ofTree?) []
  let pages ← record.nullable? "pages" (Tree.listOf? (PageDraft.ofTree? (limit - 3))) []
  let plans ← record.nullable? "plans" (Tree.listOf? (PlanDraft.ofTree? (limit - 3))) []
  let groups ← record.nullable? "groups" Tree.strings? []
  return {
    name := ← record.optional? "name" Tree.string?
    version := ← record.optional? "version" Tree.string?
    visibility := ← record.optional? "visibility" Tree.wire?
    details, members, pages, plans, groups }

end DefinitionDraft

namespace Definition

def draft? (cs : List Char) : Option DefinitionDraft :=
  match cs with
  | '\x7b' :: _ => (Json.tree? cs).bind (DefinitionDraft.ofTree? Json.depthLimit)
  | _ => (Yaml.tree? DefinitionDraft.extent cs).bind (DefinitionDraft.ofTree? Yaml.depthLimit)

def ofText (cs : List Char) : Except DefinitionFault Definition :=
  match Text.dropBlank cs with
  | [] => .error .empty
  | text =>
    match draft? text with
    | some draft => draft.complete
    | none => .error .unreadable

def parse (bytes : List UInt8) : Except DefinitionFault Definition :=
  match Text.decodeUtf8 bytes with
  | .ok cs => ofText cs
  | .error fault => .error (.notUtf8 fault)

/-- The definition that a JSON value describes. A value, unlike a text, may be nested as deep as it
likes. -/
def ofJson (value : Json) : Except DefinitionFault Definition :=
  match DefinitionDraft.ofTree? value.depth (Tree.ofJson value) with
  | some draft => draft.complete
  | none => .error .unreadable

end Definition

end ApiCatalog
