import ApiCatalog.Condition.Parser
import ApiCatalog.Mapping.Grant

/-! # Mapping rules

A rule grants its values to every user whose profile fulfils its condition. Some rules grant groups
by name, others grant roles.
-/

namespace ApiCatalog

structure MappingRule where
  condition : String
  values : List String := []
  deriving DecidableEq, Repr

structure Grant (α : Type) where
  condition : Condition
  values : List α

namespace Grant

/-- What rules grant to a profile, without repetitions, in the order of the rules. -/
def matching {α : Type} [DecidableEq α] (grants : List (Grant α)) (profile : Json) : List α :=
  distinct ((grants.filter (·.condition.evaluate profile)).flatMap (·.values))

end Grant

def Condition.compile (source : String) : Except Error Condition :=
  match Condition.parse source with
  | .ok condition => .ok condition
  | .error fault => .error (.invalidExpression source fault.message)

namespace MappingRule

def compileGroups (rule : MappingRule) : Except Error (Grant String) := do
  return ⟨← Condition.compile rule.condition, rule.values⟩

def compileRoles (rule : MappingRule) : Except Error (Grant RoleName) := do
  let condition ← Condition.compile rule.condition
  return ⟨condition, ← rule.values.mapM RoleName.parseGrant⟩

end MappingRule

structure Mapping where
  groups : List (Grant String)
  roles : List (Grant RoleName)

namespace Mapping

def compile (groups roles : List MappingRule) : Except Error Mapping := do
  return ⟨← groups.mapM MappingRule.compileGroups, ← roles.mapM MappingRule.compileRoles⟩

def groupsFor (mapping : Mapping) (profile : Json) : List String :=
  Grant.matching mapping.groups profile

def rolesFor (mapping : Mapping) (profile : Json) : List RoleName :=
  Grant.matching mapping.roles profile

end Mapping

end ApiCatalog
