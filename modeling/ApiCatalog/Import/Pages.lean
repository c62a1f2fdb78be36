import ApiCatalog.Catalog
import ApiCatalog.Definition.Basic

/-! # Importing pages

The pages of an API are told apart by their names. A page that is there is updated, any other page
of the definition is created. Of several entries with one name the first counts.
-/

namespace ApiCatalog

inductive PageStep where
  | update (id : String) (entry : PageEntry)
  | create (entry : PageEntry)
  deriving Repr

namespace PageStep

def plan (pages : List Page) (entry : PageEntry) : PageStep :=
  match pages.find? (·.name == entry.name) with
  | some page => update page.id entry
  | none => create entry

def run (apiId : String) (contributor : Option String) : PageStep → CatalogM Unit
  | update id entry => do
    let _ ← CatalogM.onStore (Store.updatePage id entry.name entry.body contributor)
    CatalogM.count (.changes .page .update) 1
  | create entry => do
    let _ ← CatalogM.onStore (Store.createPage apiId entry contributor)
    CatalogM.count (.changes .page .create) 1

end PageStep

def pageSteps (store : Store) (apiId : String) (entries : List PageEntry) : List PageStep :=
  (firsts (·.name) entries).map (PageStep.plan (store.pagesOf apiId))

def importPages (apiId : String) (contributor : Option String) (entries : List PageEntry) :
    CatalogM Unit := do
  let steps ← CatalogM.fromStore (pageSteps · apiId entries)
  steps.forM (·.run apiId contributor)

end ApiCatalog
