import ApiCatalog.Catalog
import ApiCatalog.Definition.Basic

/-! # Importing plans

The plans of an API that are not closed are told apart by name and security. Such a plan is updated
where the definition has its key, any other plan of the definition is created. Of several entries
with one key the first counts.
-/

namespace ApiCatalog

inductive PlanStep where
  | update (id : String) (entry : PlanEntry)
  | create (entry : PlanEntry)
  deriving Repr

namespace PlanStep

def plan (plans : List Plan) (entry : PlanEntry) : PlanStep :=
  match plans.find? fun plan => plan.isOpen && plan.key == entry.key with
  | some plan => update plan.id entry
  | none => create entry

def run (apiId : String) : PlanStep → CatalogM Unit
  | update id entry => do
    let _ ← CatalogM.onStore (Store.updatePlan id entry.name entry.terms)
    CatalogM.count (.changes .plan .update) 1
  | create entry => do
    let _ ← CatalogM.onStore (Store.createPlan apiId entry)
    CatalogM.count (.changes .plan .create) 1

end PlanStep

def planSteps (store : Store) (apiId : String) (entries : List PlanEntry) : List PlanStep :=
  (firsts (·.key) entries).map (PlanStep.plan (store.plansOf apiId))

def importPlans (apiId : String) (entries : List PlanEntry) : CatalogM Unit := do
  let steps ← CatalogM.fromStore (planSteps · apiId entries)
  steps.forM (·.run apiId)

end ApiCatalog
