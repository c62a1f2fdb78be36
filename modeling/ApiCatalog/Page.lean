import ApiCatalog.Wire

/-! # Documentation pages -/

namespace ApiCatalog

inductive PageType where
  | markdown
  | swagger
  | raml
  | folder
  deriving DecidableEq, Repr

instance : Wire PageType where
  values := [.markdown, .swagger, .raml, .folder]
  name
    | .markdown => "MARKDOWN"
    | .swagger => "SWAGGER"
    | .raml => "RAML"
    | .folder => "FOLDER"

/-- What an update of a page replaces. -/
structure PageBody where
  content : Option String := none
  order : Int := 0
  published : Bool := false
  homepage : Bool := false
  configuration : List (String × String) := []
  source : Option Json := none
  deriving Repr

structure PageEntry where
  name : String
  type : PageType := .markdown
  body : PageBody := {}
  deriving Repr

structure Page where
  id : String
  apiId : String
  name : String
  type : PageType
  body : PageBody
  lastContributor : Option String
  deriving Repr

namespace Page

def toListItem (page : Page) : Json :=
  .ofFields
    [("id", .str page.id), ("name", .str page.name), ("page_type", Wire.toJson page.type),
      ("order", .int page.body.order), ("published", .bool page.body.published)]

def toJson (page : Page) : Json :=
  .ofFields
    [("id", .str page.id), ("api_id", .str page.apiId), ("name", .str page.name),
      ("page_type", Wire.toJson page.type), ("content", .ofString? page.body.content),
      ("order", .int page.body.order), ("published", .bool page.body.published),
      ("homepage", .bool page.body.homepage),
      ("configuration", .obj (page.body.configuration.map fun (k, v) => (k, .str v))),
      ("source", .orNull page.body.source),
      ("last_contributor", .ofString? page.lastContributor)]

end Page

end ApiCatalog
