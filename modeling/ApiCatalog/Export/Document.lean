import ApiCatalog.Export.Version
import ApiCatalog.Store.Basic

/-! # Exported documents

An API as a document from which it can be imported again. Empty values are left out, and lists are
sorted, so that one state has one document.
-/

namespace ApiCatalog

namespace Json

/-- Null, an empty list or an empty object. -/
def isVoid : Json → Bool
  | null => true
  | arr items => items.isEmpty
  | obj fields => fields.isEmpty
  | _ => false

/-- The object with the fields that are not empty. -/
def ofPresent (fields : List (String × Json)) : Json :=
  .ofFields (fields.filter fun field => !field.2.isVoid)

end Json

namespace ExportVersion

/-- The fields of an API that a version does not know. -/
def unknownApiFields : ExportVersion → List String
  | default => []
  | v1_15 => ["path_mappings", "response_templates"]

/-- The fields of a plan that a version does not know. -/
def unknownPlanFields : ExportVersion → List String
  | default => []
  | v1_15 => ["tags", "excluded_groups", "selection_rule", "comment_required"]

end ExportVersion

def dropFields (names : List String) (fields : List (String × Json)) : List (String × Json) :=
  fields.filter fun field => !names.contains field.1

namespace ScopedMember

def exportFields (m : ScopedMember) : List (String × Json) :=
  [("source", .ofString? m.user.source), ("reference", .str m.label), ("role", .str m.role),
    ("type", Wire.toJson m.type)]

/-- The order of members in a document: by reference, then by role. -/
def exportOrder (m m' : ScopedMember) : Bool :=
  m.label < m'.label || (m.label == m'.label && m.role ≤ m'.role)

end ScopedMember

namespace Page

def exportFields (page : Page) : List (String × Json) :=
  [("name", .str page.name), ("type", Wire.toJson page.type),
    ("content", .ofString? page.body.content), ("order", .int page.body.order),
    ("published", .bool page.body.published), ("homepage", .bool page.body.homepage),
    ("configuration", .obj (page.body.configuration.map fun (k, v) => (k, .str v))),
    ("source", .orNull page.body.source)]

/-- The order of pages in a document: by their place, then by name. -/
def exportOrder (page page' : Page) : Bool :=
  page.body.order < page'.body.order ||
    (page.body.order == page'.body.order && page.name ≤ page'.name)

end Page

namespace Plan

def exportFields (plan : Plan) : List (String × Json) :=
  [("name", .str plan.name), ("description", .ofString? plan.terms.description),
    ("security", Wire.toJson plan.security),
    ("securityDefinition", .ofString? plan.terms.securityDefinition),
    ("validation", Wire.toJson plan.terms.validation), ("status", Wire.toJson plan.status),
    ("order", .int plan.terms.order), ("characteristics", .ofStrings plan.terms.characteristics),
    ("paths", .obj plan.terms.paths), ("tags", .ofStrings plan.terms.tags),
    ("excluded_groups", .ofStrings plan.terms.excludedGroups),
    ("selection_rule", .ofString? plan.terms.selectionRule),
    ("comment_required", .bool plan.terms.commentRequired)]

/-- The order of plans in a document: by their place, then by name. -/
def exportOrder (plan plan' : Plan) : Bool :=
  plan.terms.order < plan'.terms.order ||
    (plan.terms.order == plan'.terms.order && plan.name ≤ plan'.name)

end Plan

namespace ExportSection

def content (store : Store) (version : ExportVersion) (api : Api) : ExportSection → Json
  | groups => .ofStrings (Names.ofList ((store.groupsWithIds api.groups).map (·.name)))
  | members =>
    .arr <| ((store.members (.api api.id) .api).mergeSort ScopedMember.exportOrder).map fun m =>
      .ofPresent m.exportFields
  | pages =>
    .arr <| ((store.fetchedPages api.id).mergeSort Page.exportOrder).map fun page =>
      .ofPresent page.exportFields
  | plans =>
    .arr <| (((store.plansOf api.id).filter (·.isOpen)).mergeSort Plan.exportOrder).map fun plan =>
      .ofPresent (dropFields version.unknownPlanFields plan.exportFields)

end ExportSection

/-- The document of an API in a version, without the excluded sections. Plans that are closed are
not part of it. -/
def exportDocument (store : Store) (version : ExportVersion) (excluded : List ExportSection)
    (api : Api) : Json :=
  let sections := ExportSection.all.filter fun part => !excluded.contains part
  .ofPresent <|
    dropFields version.unknownApiFields api.details.fields ++
      sections.map fun part => (part.name, part.content store version api)

end ApiCatalog
