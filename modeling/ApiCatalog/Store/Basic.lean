import ApiCatalog.Api
import ApiCatalog.Group
import ApiCatalog.Membership
import ApiCatalog.Page
import ApiCatalog.Plan
import ApiCatalog.Store.Fresh

/-! # The store

Everything that the catalog keeps: APIs, memberships, pages, plans, groups and roles. Records are
listed in the order in which they were created. The store also counts what is written to it.
-/

namespace ApiCatalog

structure WriteCounts where
  apiCreates : Nat := 0
  apiUpdates : Nat := 0
  memberUpserts : Nat := 0
  pageCreates : Nat := 0
  pageUpdates : Nat := 0
  planCreates : Nat := 0
  planUpdates : Nat := 0
  groupCreates : Nat := 0
  deriving DecidableEq, Repr

namespace WriteCounts

def since (counts earlier : WriteCounts) : WriteCounts where
  apiCreates := counts.apiCreates - earlier.apiCreates
  apiUpdates := counts.apiUpdates - earlier.apiUpdates
  memberUpserts := counts.memberUpserts - earlier.memberUpserts
  pageCreates := counts.pageCreates - earlier.pageCreates
  pageUpdates := counts.pageUpdates - earlier.pageUpdates
  planCreates := counts.planCreates - earlier.planCreates
  planUpdates := counts.planUpdates - earlier.planUpdates
  groupCreates := counts.groupCreates - earlier.groupCreates

def toList (counts : WriteCounts) : List (String × Nat) :=
  [("api_creates", counts.apiCreates), ("api_updates", counts.apiUpdates),
    ("member_upserts", counts.memberUpserts), ("page_creates", counts.pageCreates),
    ("page_updates", counts.pageUpdates), ("plan_creates", counts.planCreates),
    ("plan_updates", counts.planUpdates), ("group_creates", counts.groupCreates)]

def total (counts : WriteCounts) : Nat :=
  counts.apiCreates + counts.apiUpdates + counts.memberUpserts + counts.pageCreates +
    counts.pageUpdates + counts.planCreates + counts.planUpdates + counts.groupCreates

end WriteCounts

structure Store where
  apis : List Api := []
  memberships : List Membership := []
  pages : List Page := []
  plans : List Plan := []
  groups : List Group := []
  roles : List Role := []
  writes : WriteCounts := {}
  deriving Repr

namespace Store

def builtInRoles (scope : RoleScope) (names : List String) (default : String) : List Role :=
  names.map fun name => { scope, name, isDefault := name == default, isSystem := true }

/-- The roles that every store starts with. -/
def seededRoles : List Role :=
  builtInRoles .api [Role.primaryOwner, "OWNER", "USER"] "USER" ++
    builtInRoles .application [Role.primaryOwner, "OWNER", "USER"] "USER" ++
    builtInRoles .management ["ADMIN", "USER"] "USER" ++
    builtInRoles .portal ["ADMIN", "USER"] "USER"

def fresh : Store := { roles := seededRoles }

def api? (store : Store) (id : String) : Option Api := store.apis.find? (·.id == id)

def page? (store : Store) (id : String) : Option Page := store.pages.find? (·.id == id)

def plan? (store : Store) (id : String) : Option Plan := store.plans.find? (·.id == id)

/-- The first group with a name. -/
def groupNamed? (store : Store) (name : String) : Option Group :=
  store.groups.find? (·.name == name)

def groupsWithIds (store : Store) (ids : List String) : List Group :=
  store.groups.filter fun group => ids.contains group.id

def role? (store : Store) (role : RoleName) : Option Role :=
  store.roles.find? (·.roleName == role)

def hasRole (store : Store) (role : RoleName) : Bool := (store.role? role).isSome

/-- The default roles of scopes, scope by scope. -/
def defaultRoles (store : Store) (scopes : List RoleScope) : List Role :=
  scopes.flatMap fun scope => store.roles.filter fun role => role.scope == scope && role.isDefault

def pagesOf (store : Store) (apiId : String) : List Page :=
  store.pages.filter (·.apiId == apiId)

/-- The pages of an API as they are found one by one by their ids. -/
def fetchedPages (store : Store) (apiId : String) : List Page :=
  (store.pagesOf apiId).filterMap fun listed => store.page? listed.id

def plansOf (store : Store) (apiId : String) : List Plan :=
  store.plans.filter (·.apiId == apiId)

def membership? (store : Store) (reference : Reference) (userId : String) : Option Membership :=
  store.memberships.find? fun m => m.reference == reference && m.user.id == userId

/-- The memberships on a reference, sorted by the ids of the users. -/
def membershipsOf (store : Store) (reference : Reference) : List Membership :=
  (store.memberships.filter (·.reference == reference)).mergeSort fun m m' => m.user.id ≤ m'.user.id

/-- The members of a reference that hold a role in a scope. -/
def members (store : Store) (reference : Reference) (scope : RoleScope) : List ScopedMember :=
  (store.membershipsOf reference).filterMap (ScopedMember.ofMembership? scope)

def membershipsWith (store : Store) (reference : Reference) (role : RoleName) : List Membership :=
  (store.membershipsOf reference).filter fun m => m.role? role.scope == some role.name

def roleOf? (store : Store) (reference : Reference) (scope : RoleScope) (userId : String) :
    Option String :=
  (store.membership? reference userId).bind (·.role? scope)

def apiIds (store : Store) : List String :=
  store.apis.map (·.id) ++
    (store.memberships.filter (·.reference.type == .api)).map (·.reference.id) ++
    store.pages.map (·.apiId) ++ store.plans.map (·.apiId)

def groupIds (store : Store) : List String :=
  store.groups.map (·.id) ++
    (store.memberships.filter (·.reference.type == .group)).map (·.reference.id) ++
    store.apis.flatMap (·.groups)

def freshApiId (store : Store) : String := freshId "api~" store.apiIds

def freshGroupId (store : Store) : String := freshId "group~" store.groupIds

def freshPageId (store : Store) : String := freshId "page~" (store.pages.map (·.id))

def freshPlanId (store : Store) : String := freshId "plan~" (store.plans.map (·.id))

end Store

end ApiCatalog
