import ApiCatalog.Identity.Chain
import ApiCatalog.Metrics
import ApiCatalog.Store.Writes

/-! # The catalog

The state of the server: what is stored, what has been counted, and who is known. A task changes
the state, and may fail on the way; what it has changed until then stays changed.
-/

namespace ApiCatalog

structure Catalog where
  store : Store := .fresh
  metrics : Metrics := {}
  identities : Identities := {}

abbrev CatalogM := ExceptT Error (StateM Catalog)

namespace CatalogM

def onStore {α : Type} (operation : StoreM α) : CatalogM α := fun catalog =>
  let (result, store) := operation catalog.store
  (result, { catalog with store })

def fromStore {α : Type} (view : Store → α) : CatalogM α := do return view (← get).store

def count (metric : Metric) (n : Nat) : CatalogM Unit :=
  modify fun catalog => { catalog with metrics := catalog.metrics.add metric n }

def ofResult {α : Type} : Except Error α → CatalogM α
  | .ok x => pure x
  | .error e => throw e

def counting {α : Type} (metric : String → Metric) (task : CatalogM α) : CatalogM α :=
  fun catalog =>
    let (result, catalog) := task catalog
    (result, { catalog with metrics := catalog.metrics.add (metric (Metric.outcome result)) 1 })

def runOn {α : Type} (task : CatalogM α) (catalog : Catalog) : Except Error α × Catalog :=
  task catalog

end CatalogM

end ApiCatalog
