import ApiCatalog.Error
import ApiCatalog.Store.Basic

/-! # Writing to the store

The operations that change a store. An operation that fails reports why and leaves the store as it
was.
-/

namespace ApiCatalog

/-- An operation on a store, which may fail. -/
abbrev StoreM := ExceptT Error (StateM Store)

/-- Replace the first element of a list that fulfils a condition. -/
def replaceFirst {α : Type} (p : α → Bool) (f : α → α) : List α → List α
  | [] => []
  | x :: xs => if p x then f x :: xs else x :: replaceFirst p f xs

namespace Membership

def empty (reference : Reference) (userId : String) : Membership :=
  ⟨reference, { id := userId }, {}⟩

/-- Give a role to a member, of whom more may be known now. -/
def grant (m : Membership) (user : Member) (role : RoleName) : Membership :=
  { m.identify user with roles := m.roles.give role }

end Membership

namespace Store

/-- Put a membership in place of the one of the same user on the same reference. -/
def putMembership (m : Membership) : List Membership → List Membership
  | [] => [m]
  | n :: ms =>
    if n.reference = m.reference ∧ n.user.id = m.user.id then m :: ms else n :: putMembership m ms

def countWrite (f : WriteCounts → WriteCounts) (store : Store) : Store :=
  { store with writes := f store.writes }

def createApi (api : Api) : StoreM Api := do
  let store ← get
  if (store.api? api.id).isSome then
    throw (.repository "create_api" s!"API {api.id} already exists")
  set ({ store with apis := store.apis ++ [api] }.countWrite fun n =>
    { n with apiCreates := n.apiCreates + 1 })
  return api

/-- Replace the record of an API, which keeps its time of creation. -/
def updateApi (api : Api) : StoreM Api := do
  let store ← get
  match store.api? api.id with
  | none => throw (.apiNotFound api.id)
  | some stored =>
    let api := { api with createdAt := stored.createdAt }
    set ({ store with apis := replaceFirst (·.id == api.id) (fun _ => api) store.apis }.countWrite
      fun n => { n with apiUpdates := n.apiUpdates + 1 })
    return api

/-- Give a role to a user on a reference, in place of another one in the scope of the role. -/
def giveRole (reference : Reference) (user : Member) (role : RoleName) : StoreM ScopedMember := do
  let store ← get
  if !store.hasRole role then throw (.missingRole role)
  let m := ((store.membership? reference user.id).getD (.empty reference user.id)).grant user role
  let written := { store with memberships := putMembership m store.memberships }
  set written
  match ScopedMember.ofMembership? role.scope m with
  | none => throw (.internal "membership lost the role it was just given")
  | some member =>
    set (written.countWrite fun n => { n with memberUpserts := n.memberUpserts + 1 })
    return member

def createPage (apiId : String) (entry : PageEntry) (contributor : Option String) :
    StoreM Page := do
  let store ← get
  let page : Page := ⟨store.freshPageId, apiId, entry.name, entry.type, entry.body, contributor⟩
  set ({ store with pages := store.pages ++ [page] }.countWrite fun n =>
    { n with pageCreates := n.pageCreates + 1 })
  return page

/-- Replace all of a page but its type and the API it belongs to. -/
def updatePage (id name : String) (body : PageBody) (contributor : Option String) :
    StoreM Page := do
  let store ← get
  match store.page? id with
  | none => throw (.repository "update_page" s!"page {id} not found")
  | some page =>
    let page := { page with name, body, lastContributor := contributor }
    set ({ store with pages := replaceFirst (·.id == id) (fun _ => page) store.pages }.countWrite
      fun n => { n with pageUpdates := n.pageUpdates + 1 })
    return page

def createPlan (apiId : String) (entry : PlanEntry) : StoreM Plan := do
  let store ← get
  let plan : Plan :=
    ⟨store.freshPlanId, apiId, entry.name, entry.security, entry.status, entry.terms⟩
  set ({ store with plans := store.plans ++ [plan] }.countWrite fun n =>
    { n with planCreates := n.planCreates + 1 })
  return plan

def updatePlan (id name : String) (terms : PlanTerms) : StoreM Plan := do
  let store ← get
  match store.plan? id with
  | none => throw (.repository "update_plan" s!"plan {id} not found")
  | some plan =>
    let plan := { plan with name, terms }
    set ({ store with plans := replaceFirst (·.id == id) (fun _ => plan) store.plans }.countWrite
      fun n => { n with planUpdates := n.planUpdates + 1 })
    return plan

def createGroup (name : String) : StoreM Group := do
  let store ← get
  let group : Group := ⟨store.freshGroupId, name⟩
  set ({ store with groups := store.groups ++ [group] }.countWrite fun n =>
    { n with groupCreates := n.groupCreates + 1 })
  return group

/-- Put a group into the store in place of one with its id. This counts as no write. -/
def insertGroup (group : Group) (store : Store) : Store :=
  { store with groups := store.groups.filter (·.id != group.id) ++ [group] }

def addRole (role : Role) (store : Store) : Store :=
  { store with roles := store.roles.filter (·.roleName != role.roleName) ++ [role] }

end Store

end ApiCatalog
