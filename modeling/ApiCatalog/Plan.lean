import ApiCatalog.Wire

/-! # Plans

A plan opens an API to subscribers. Within an API the plans that are not closed are told apart by
their name and their security type.
-/

namespace ApiCatalog

inductive PlanStatus where
  | staging
  | published
  | deprecated
  | closed
  deriving DecidableEq, Repr

instance : Wire PlanStatus where
  values := [.staging, .published, .deprecated, .closed]
  name
    | .staging => "STAGING"
    | .published => "PUBLISHED"
    | .deprecated => "DEPRECATED"
    | .closed => "CLOSED"

inductive PlanSecurity where
  | keyLess
  | apiKey
  | oauth2
  | jwt
  deriving DecidableEq, Repr

instance : Wire PlanSecurity where
  values := [.keyLess, .apiKey, .oauth2, .jwt]
  name
    | .keyLess => "KEY_LESS"
    | .apiKey => "API_KEY"
    | .oauth2 => "OAUTH2"
    | .jwt => "JWT"

inductive PlanValidation where
  | auto
  | manual
  deriving DecidableEq, Repr

instance : Wire PlanValidation where
  values := [.auto, .manual]
  name
    | .auto => "AUTO"
    | .manual => "MANUAL"

/-- What tells open plans of one API apart. -/
structure PlanKey where
  name : String
  security : PlanSecurity
  deriving DecidableEq, Repr

/-- What an update of a plan replaces. -/
structure PlanTerms where
  description : Option String := none
  securityDefinition : Option String := none
  validation : PlanValidation := .auto
  order : Int := 0
  characteristics : List String := []
  paths : List (String × Json) := []
  tags : List String := []
  excludedGroups : List String := []
  selectionRule : Option String := none
  commentRequired : Bool := false
  deriving Repr

structure PlanEntry where
  name : String
  security : PlanSecurity := .keyLess
  status : PlanStatus := .staging
  terms : PlanTerms := {}
  deriving Repr

def PlanEntry.key (entry : PlanEntry) : PlanKey := ⟨entry.name, entry.security⟩

structure Plan where
  id : String
  apiId : String
  name : String
  security : PlanSecurity
  status : PlanStatus
  terms : PlanTerms
  deriving Repr

namespace Plan

def key (plan : Plan) : PlanKey := ⟨plan.name, plan.security⟩

def isOpen (plan : Plan) : Bool := plan.status != .closed

def toJson (plan : Plan) : Json :=
  .ofFields
    [("id", .str plan.id), ("api_id", .str plan.apiId), ("name", .str plan.name),
      ("description", .ofString? plan.terms.description),
      ("security", Wire.toJson plan.security),
      ("security_definition", .ofString? plan.terms.securityDefinition),
      ("validation", Wire.toJson plan.terms.validation), ("status", Wire.toJson plan.status),
      ("order", .int plan.terms.order),
      ("characteristics", .ofStrings plan.terms.characteristics),
      ("paths", .obj plan.terms.paths), ("tags", .ofStrings plan.terms.tags),
      ("excluded_groups", .ofStrings plan.terms.excludedGroups),
      ("selection_rule", .ofString? plan.terms.selectionRule),
      ("comment_required", .bool plan.terms.commentRequired)]

end Plan

end ApiCatalog
