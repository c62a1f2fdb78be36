import ApiCatalog.Proofs.Mapping
import ApiCatalog.Proofs.Mapping.Assignments

/-! # What applying a mapping does

A mapping is refused for a group or a role that it asks for and that there is not. Otherwise it
gives the user roles in the groups and in the environment, and applying it again changes no
membership. Of several roles in one scope the user holds the last one, although all of them are
reported.
-/

namespace ApiCatalog

namespace Mapping

variable {mapping : Mapping} {user : Member} {profile : Json} {store : Store} {c : Catalog}
  {e : Error}

def lacksGroup (store : Store) (name : String) : Bool := (store.groupNamed? name).isNone

theorem lacksGroup_iff {name : String} :
    lacksGroup store name = true ↔ ∀ group ∈ store.groups, group.name ≠ name := by
  simp [lacksGroup, Store.groupNamed?]

theorem findGroups_eq_error_iff {names : List String} :
    findGroups store names = .error e ↔
      ∃ name, names.find? (lacksGroup store) = some name ∧ e = .groupNotFound name := by
  induction names with
  | nil => simp [findGroups]
  | cons name names ih =>
    rw [findGroups, List.find?_cons, lacksGroup]
    cases store.groupNamed? name with
    | none => simp [eq_comm]
    | some group =>
      cases hrest : findGroups store names with
      | error e' => simpa [Except.map, hrest] using ih
      | ok rest => simpa [Except.map, hrest] using ih

theorem checkRoles_eq_error_iff {roles : List RoleName} :
    checkRoles store roles = .error e ↔
      ∃ role, roles.find? (!store.hasRole ·) = some role ∧ e = .missingRole role := by
  induction roles with
  | nil => simp [checkRoles]
  | cons role roles ih =>
    rw [checkRoles, List.find?_cons]
    cases store.hasRole role <;> simp [ih, eq_comm]

/-- The names of groups that the rules ask for whose conditions hold, in the order of the rules. -/
def namesAsked (mapping : Mapping) (profile : Json) : List String :=
  (mapping.groups.filter (·.condition.evaluate profile)).flatMap (·.values)

def rolesAsked (mapping : Mapping) (profile : Json) : List RoleName :=
  (mapping.roles.filter (·.condition.evaluate profile)).flatMap (·.values)

/-- The errors by which the application of a mapping is refused. -/
inductive Refusal (mapping : Mapping) (store : Store) (profile : Json) : Error → Prop where
  | unknownGroup {name : String} :
    (mapping.namesAsked profile).find? (lacksGroup store) = some name →
      Refusal mapping store profile (.groupNotFound name)
  | unknownRole {role : RoleName} :
    (mapping.namesAsked profile).find? (lacksGroup store) = none →
      (mapping.rolesAsked profile).find? (!store.hasRole ·) = some role →
        Refusal mapping store profile (.roleNotFound role.scope.name role.name)

theorem exists_findGroups_iff {names : List String} :
    (∃ groups, findGroups store names = .ok groups) ↔ names.find? (lacksGroup store) = none := by
  cases hfound : findGroups store names with
  | ok groups =>
    refine iff_of_true ⟨groups, rfl⟩ ?_
    by_contra hc
    obtain ⟨name, hname⟩ := Option.ne_none_iff_exists'.mp hc
    exact nomatch hfound.symm.trans (findGroups_eq_error_iff.mpr ⟨name, hname, rfl⟩)
  | error e =>
    obtain ⟨name, hname, -⟩ := findGroups_eq_error_iff.mp hfound
    simp [hname]

theorem refusal_iff :
    Refusal mapping store profile e ↔
      findGroups store (mapping.groupsFor profile) = .error e ∨
        (∃ groups, findGroups store (mapping.groupsFor profile) = .ok groups) ∧
          checkRoles store (mapping.rolesFor profile) = .error e := by
  rw [findGroups_eq_error_iff, exists_findGroups_iff, checkRoles_eq_error_iff, groupsFor, rolesFor,
    Grant.matching, Grant.matching, find?_distinct, find?_distinct]
  constructor
  · rintro (hname | ⟨hnone, hrole⟩)
    · exact Or.inl ⟨_, hname, rfl⟩
    · exact Or.inr ⟨hnone, _, hrole, rfl⟩
  · rintro (⟨name, hname, rfl⟩ | ⟨hnone, role, hrole, rfl⟩)
    · exact .unknownGroup hname
    · exact .unknownRole hnone hrole

theorem Refusal.runOn_eq (h : Refusal mapping c.store profile e) (user : Member) :
    (mapping.apply user profile).runOn c = (.error e, c) := by
  rcases refusal_iff.mp h with hgroups | ⟨⟨groups, hgroups⟩, hroles⟩
  · exact runOn_apply_of_missing_group hgroups user
  · exact runOn_apply_of_missing_role hgroups hroles user

theorem refusal_or_found (mapping : Mapping) (store : Store) (profile : Json) :
    (∃ e, Refusal mapping store profile e) ∨
      ∃ groups, findGroups store (mapping.groupsFor profile) = .ok groups ∧
        checkRoles store (mapping.rolesFor profile) = .ok () := by
  cases hgroups : findGroups store (mapping.groupsFor profile) with
  | error e => exact Or.inl ⟨e, refusal_iff.mpr (Or.inl hgroups)⟩
  | ok groups =>
    cases hroles : checkRoles store (mapping.rolesFor profile) with
    | error e => exact Or.inl ⟨e, refusal_iff.mpr (Or.inr ⟨⟨groups, hgroups⟩, hroles⟩)⟩
    | ok _ => exact Or.inr ⟨groups, rfl, rfl⟩

theorem exists_refusal_iff :
    (∃ e, Refusal mapping store profile e) ↔
      (∃ name ∈ mapping.namesAsked profile, ∀ group ∈ store.groups, group.name ≠ name) ∨
        ∃ role ∈ mapping.rolesAsked profile, store.hasRole role = false := by
  simp only [← lacksGroup_iff]
  constructor
  · rintro ⟨_, hname | ⟨-, hrole⟩⟩
    · exact Or.inl ⟨_, List.mem_of_find?_eq_some hname, List.find?_some hname⟩
    · exact Or.inr ⟨_, List.mem_of_find?_eq_some hrole, by simpa using List.find?_some hrole⟩
  · intro h
    cases hname : (mapping.namesAsked profile).find? (lacksGroup store) with
    | some name => exact ⟨_, .unknownGroup hname⟩
    | none =>
      obtain ⟨role, hrole, hlacks⟩ := h.resolve_left fun ⟨name, hmem, hnone⟩ =>
        List.find?_eq_none.mp hname name hmem hnone
      obtain ⟨first, hfirst⟩ : ∃ first,
          (mapping.rolesAsked profile).find? (!store.hasRole ·) = some first :=
        Option.isSome_iff_exists.mp (List.find?_isSome.mpr ⟨role, hrole, by simp [hlacks]⟩)
      exact ⟨_, .unknownRole hname hfirst⟩

/-- The references and scopes in which a mapping that has found groups gives roles. -/
inductive Reaches (groups : List Group) : Reference → RoleScope → Prop where
  | apiInGroup {group : Group} : group ∈ groups → Reaches groups (.group group.id) .api
  | applicationInGroup {group : Group} :
    group ∈ groups → Reaches groups (.group group.id) .application
  | management : Reaches groups ⟨.management, "DEFAULT"⟩ .management
  | portal : Reaches groups ⟨.portal, "DEFAULT"⟩ .portal

theorem reaches_of_mem_assignments {groups : List Group} {a : Assignment}
    (h : a ∈ mapping.assignments store groups profile) :
    Reaches groups a.reference a.role.scope := by
  rcases List.mem_append.mp h with h | h
  · obtain ⟨group, hgroup, h⟩ := List.mem_flatMap.mp h
    obtain ⟨role, hrole, rfl⟩ := List.mem_map.mp h
    obtain ⟨scope, hscope, hrole⟩ := List.mem_flatMap.mp hrole
    have he : role.scope = scope :=
      beq_iff_eq.mp (Bool.and_eq_true_iff.mp (List.mem_filter.mp hrole).2).1
    have hscope : role.scope = .api ∨ role.scope = .application := by simpa [he] using hscope
    rcases role with ⟨_, name⟩
    rcases hscope with rfl | rfl
    · exact .apiInGroup hgroup
    · exact .applicationInGroup hgroup
  · obtain ⟨⟨scope, name⟩, -, h⟩ := List.mem_filterMap.mp h
    obtain ⟨reference, href, rfl⟩ := Option.map_eq_some_iff.mp h
    cases scope <;> cases href
    · exact .management
    · exact .portal

/-- The catalog after a mapping has been applied differs in memberships and counters. -/
theorem applied_eq (mapping : Mapping) (user : Member) (profile : Json) (groups : List Group)
    (c : Catalog) :
    ∃ writes metrics, mapping.applied user profile groups c =
      { c with
        store := { c.store with
          memberships :=
            (mapping.assignments c.store groups profile).foldl (Assignment.give user)
              c.store.memberships
          writes }
        metrics } := by
  obtain ⟨writes, hstore⟩ :=
    Assignment.foldl_after_eq user (mapping.assignments c.store groups profile) c.store
  rw [applied, hstore]
  exact ⟨_, _, rfl⟩

theorem findGroups_congr {store' : Store} (h : store'.groups = store.groups) (names : List String) :
    findGroups store' names = findGroups store names := by
  induction names with
  | nil => rfl
  | cons name names ih => rw [findGroups, findGroups, Store.groupNamed?, Store.groupNamed?, h, ih]

theorem checkRoles_congr {store' : Store} (h : store'.roles = store.roles) (roles : List RoleName) :
    checkRoles store' roles = checkRoles store roles := by
  induction roles with
  | nil => rfl
  | cons role roles ih =>
    rw [checkRoles, checkRoles, Store.hasRole, Store.hasRole, Store.role?, Store.role?, h, ih]

theorem assignments_congr {store' : Store} (h : store'.roles = store.roles) (mapping : Mapping)
    (groups : List Group) (profile : Json) :
    mapping.assignments store' groups profile = mapping.assignments store groups profile := by
  rw [assignments, assignments, Assignment.inGroups, Assignment.inGroups, Store.defaultRoles,
    Store.defaultRoles, h]

/-- The outcome of an application, once more, whatever memberships there are. -/
theorem runOn_apply_again {groups : List Group}
    (hgroups : findGroups c.store (mapping.groupsFor profile) = .ok groups)
    (hroles : checkRoles c.store (mapping.rolesFor profile) = .ok ()) (user : Member) :
    let outcome : MappingOutcome :=
      ⟨groups, mapping.rolesFor profile, (mapping.assignments c.store groups profile).length⟩
    let after := mapping.applied user profile groups c
    ((mapping.apply user profile).runOn after).1 = .ok outcome ∧
      ((mapping.apply user profile).runOn after).2.store.memberships = after.store.memberships := by
  intro outcome after
  obtain ⟨writes, metrics, hafter⟩ := applied_eq mapping user profile groups c
  have hgroups' : findGroups after.store (mapping.groupsFor profile) = .ok groups := by
    rw [← hgroups]
    exact findGroups_congr (congrArg (·.store.groups) hafter) _
  have hsame : after.store.roles = c.store.roles := congrArg (·.store.roles) hafter
  have hroles' : checkRoles after.store (mapping.rolesFor profile) = .ok () := by
    rw [← hroles]
    exact checkRoles_congr hsame _
  have hassigned := assignments_congr hsame mapping groups profile
  rw [runOn_apply_of_found hgroups' hroles' user]
  refine ⟨by rw [hassigned], ?_⟩
  have hmemberships : after.store.memberships =
      (mapping.assignments c.store groups profile).foldl (Assignment.give user)
        c.store.memberships := congrArg (·.store.memberships) hafter
  obtain ⟨writes', metrics', hagain⟩ := applied_eq mapping user profile groups after
  rw [hagain]
  simp only [hassigned, hmemberships, Assignment.foldl_give_foldl_give]

end Mapping

/-- The application of a mapping is refused exactly if a group is missing that a rule asks for whose
condition holds, or else a role. The first one that is missing is reported, and nothing changes.
Otherwise only memberships and counters change, the former for the user and in the places that the
mapping reaches. No membership is taken away, and a second application has the same outcome and
changes no membership. -/
theorem apply_outcome (mapping : Mapping) (user : Member) (profile : Json) (c : Catalog) :
    let result := (mapping.apply user profile).runOn c
    let again := (mapping.apply user profile).runOn result.2
    ((∃ e, result.1 = .error e) ↔
      (∃ name ∈ mapping.namesAsked profile, ∀ group ∈ c.store.groups, group.name ≠ name) ∨
        ∃ role ∈ mapping.rolesAsked profile, c.store.hasRole role = false) ∧
    (∀ e, result.1 = .error e ↔ mapping.Refusal c.store profile e) ∧
    (∀ e, result.1 = .error e → result.2 = c) ∧
    ∀ outcome, result.1 = .ok outcome →
      outcome.groups ⊆ c.store.groups ∧
      outcome.groups.map (·.name) = distinct (mapping.namesAsked profile) ∧
      (∃ memberships writes metrics,
        result.2 = { c with store := { c.store with memberships, writes }, metrics } ∧
        Grows (Membership.GivenTo user (Mapping.Reaches outcome.groups))
          (Membership.NewTo user (Mapping.Reaches outcome.groups)) c.store.memberships
          memberships) ∧
      again.1 = .ok outcome ∧ again.2.store.memberships = result.2.store.memberships := by
  intro result again
  have hrefused : ∀ {e}, mapping.Refusal c.store profile e → result = (.error e, c) := fun h =>
    h.runOn_eq user
  rw [← Mapping.exists_refusal_iff]
  rcases Mapping.refusal_or_found mapping c.store profile with
    ⟨e, he⟩ | ⟨groups, hgroups, hroles⟩
  · have hiff : ∀ e', result.1 = .error e' ↔ mapping.Refusal c.store profile e' := fun e' =>
      ⟨fun he' => by rw [hrefused he] at he'; cases he'; exact he, fun he' => by rw [hrefused he']⟩
    refine ⟨exists_congr hiff, hiff, fun _ _ => by rw [hrefused he], fun outcome houtcome => ?_⟩
    rw [hrefused he] at houtcome
    cases houtcome
  · have hresult : result = _ := Mapping.runOn_apply_of_found hgroups hroles user
    have hok : ∀ e, result.1 ≠ .error e := fun e he => by rw [hresult] at he; cases he
    have hiff : ∀ e, result.1 = .error e ↔ mapping.Refusal c.store profile e := fun e =>
      iff_of_false (hok e) fun he => hok e (by rw [hrefused he])
    refine ⟨exists_congr hiff, hiff, fun e he => absurd he (hok e), fun outcome houtcome => ?_⟩
    obtain ⟨hagain, hsame⟩ := Mapping.runOn_apply_again hgroups hroles user
    obtain ⟨writes, metrics, happlied⟩ := Mapping.applied_eq mapping user profile groups c
    have hafter : result.2 = mapping.applied user profile groups c := by rw [hresult]
    rw [hresult] at houtcome
    cases houtcome
    rw [← hafter] at hagain hsame
    refine ⟨Mapping.mem_of_findGroups hgroups, Mapping.map_name_of_findGroups hgroups,
      ⟨_, writes, metrics, hafter.trans happlied, ?_⟩, hagain, hsame⟩
    exact Assignment.grows_foldl_give _ _ fun a ha => Mapping.reaches_of_mem_assignments ha

/-- Whether a user holds all that an application gives: the roles that it reports on the references
that carry them, and the default roles in every group. -/
def MappingOutcome.Held (outcome : MappingOutcome) (user : Member) (defaults : List RoleName)
    (store : Store) : Prop :=
  (∀ role ∈ outcome.roles, ∃ reference, Reference.environment? role.scope = some reference ∧
      store.roleOf? reference role.scope user.id = some role.name) ∧
    ∀ group ∈ outcome.groups, ∀ role ∈ defaults,
      store.roleOf? (.group group.id) role.scope user.id = some role.name

namespace Mapping

variable {mapping : Mapping} {user : Member} {profile : Json} {groups : List Group} {c : Catalog}
  {scope : RoleScope}

theorem roleOf?_applied_environment {reference : Reference}
    (h : Reference.environment? scope = some reference) :
    (mapping.applied user profile groups c).store.roleOf? reference scope user.id =
      (lastRole? scope (mapping.rolesFor profile)).or
        (c.store.roleOf? reference scope user.id) := by
  rw [applied, Assignment.roleOf?_foldl_after, assignments, Assignment.rolesOn_append,
    Assignment.rolesOn_inGroups_environment h, List.nil_append,
    Assignment.lastRole?_rolesOn_inEnvironment h]

theorem roleOf?_applied_group {group : Group} (h : group ∈ groups) :
    (mapping.applied user profile groups c).store.roleOf? (.group group.id) scope user.id =
      (lastRole? scope ((c.store.defaultRoles [.api, .application]).map Role.roleName)).or
        (c.store.roleOf? (.group group.id) scope user.id) := by
  rw [applied, Assignment.roleOf?_foldl_after, assignments, Assignment.rolesOn_append,
    Assignment.rolesOn_inEnvironment_group, List.append_nil,
    Assignment.lastRole?_rolesOn_inGroups (List.mem_map_of_mem h)]

end Mapping

/-- After the application of a compiled mapping the user holds, in the scope of every role that is
reported, the role of that scope that is reported last; and in every group the last default role of
each scope. So all that is reported is held exactly if no two roles are reported for one scope, and
no two default roles of one scope are given in a group. -/
theorem apply_holds_last {groupRules roleRules : List MappingRule} {mapping : Mapping}
    (hcompile : Mapping.compile groupRules roleRules = .ok mapping) {user : Member} {profile : Json}
    {c c' : Catalog} {outcome : MappingOutcome}
    (hrun : (mapping.apply user profile).runOn c = (.ok outcome, c')) :
    let defaults := (c.store.defaultRoles [.api, .application]).map Role.roleName
    (∀ role ∈ outcome.roles, ∃ reference, Reference.environment? role.scope = some reference ∧
      c'.store.roleOf? reference role.scope user.id = lastRole? role.scope outcome.roles) ∧
    (∀ group ∈ outcome.groups, ∀ role ∈ defaults,
      c'.store.roleOf? (.group group.id) role.scope user.id = lastRole? role.scope defaults) ∧
    (outcome.Held user defaults c'.store ↔
      OnePerScope outcome.roles ∧ (outcome.groups = [] ∨ OnePerScope defaults)) := by
  intro defaults
  have hlast : ∀ {roles : List RoleName} {role : RoleName}, role ∈ roles → ∀ old : Option String,
      (lastRole? role.scope roles).or old = lastRole? role.scope roles := fun hrole old => by
    obtain ⟨name, hname⟩ := exists_lastRole? hrole
    rw [hname]
    rfl
  rcases mapping.runOn_apply user profile c with ⟨e, he⟩ | ⟨groups, -, happly⟩
  · rw [he] at hrun
    cases hrun
  rw [happly] at hrun
  cases hrun
  have henvironment : ∀ role ∈ mapping.rolesFor profile, ∃ reference,
      Reference.environment? role.scope = some reference ∧
        (mapping.applied user profile groups c).store.roleOf? reference role.scope user.id =
          lastRole? role.scope (mapping.rolesFor profile) := by
    intro role hrole
    obtain ⟨grant, hgrant, hvalue⟩ := Mapping.exists_of_mem_rolesFor hrole
    obtain ⟨type, htype⟩ :=
      Option.isSome_iff_exists.mp (Mapping.isSome_of_compile hcompile hgrant hvalue)
    have hreference : Reference.environment? role.scope = some ⟨type, "DEFAULT"⟩ := by
      rw [Reference.environment?, htype]
      rfl
    exact ⟨_, hreference, (Mapping.roleOf?_applied_environment hreference).trans (hlast hrole _)⟩
  have hgroups : ∀ group ∈ groups, ∀ role ∈ defaults,
      (mapping.applied user profile groups c).store.roleOf? (.group group.id) role.scope user.id =
        lastRole? role.scope defaults := fun group hgroup role hrole =>
    (Mapping.roleOf?_applied_group hgroup).trans (hlast hrole _)
  refine ⟨henvironment, hgroups, ?_⟩
  rw [MappingOutcome.Held, ← forall_lastRole?_iff, ← forall_lastRole?_iff]
  refine and_congr (forall₂_congr fun role hrole => ?_) ?_
  · obtain ⟨reference, hreference, hheld⟩ := henvironment role hrole
    simp [hreference, hheld]
  · cases groups with
    | nil => exact iff_of_true (fun _ h => absurd h List.not_mem_nil) (Or.inl rfl)
    | cons group groups =>
      refine ⟨fun h => Or.inr fun role hrole => ?_, fun h group' hgroup' role hrole => ?_⟩
      · exact (hgroups group List.mem_cons_self role hrole).symm.trans
          (h group List.mem_cons_self role hrole)
      · exact (hgroups group' hgroup' role hrole).trans
          (h.resolve_left (List.cons_ne_nil _ _) role hrole)

/-- Of the two roles that are reported the user holds the second one only. -/
theorem apply_holds_last_admin :
    let rules : List MappingRule := [⟨"true", ["MANAGEMENT:ADMIN"]⟩, ⟨"true", ["MANAGEMENT:USER"]⟩]
    let c : Catalog := { store := Store.fresh }
    ∃ mapping outcome c', Mapping.compile [] rules = .ok mapping ∧
      (mapping.apply { id := "jane" } .null).runOn c = (.ok outcome, c') ∧
      outcome.roles = [⟨.management, "ADMIN"⟩, ⟨.management, "USER"⟩] ∧
      c'.store.roleOf? ⟨.management, "DEFAULT"⟩ .management "jane" = some "USER" ∧
      ¬outcome.Held { id := "jane" } ((c.store.defaultRoles [.api, .application]).map Role.roleName)
        c'.store := by
  intro rules c
  have hreported : (Mapping.compile [] rules >>= fun mapping =>
      ((mapping.apply { id := "jane" } .null).runOn c).1.map (·.roles)) =
        .ok [⟨.management, "ADMIN"⟩, ⟨.management, "USER"⟩] := by
    decide +kernel
  obtain ⟨mapping, hcompile, happlied⟩ := bind_eq_ok_iff.mp hreported
  obtain ⟨result, c', hrun⟩ : ∃ result c',
      (mapping.apply { id := "jane" } .null).runOn c = (result, c') := ⟨_, _, rfl⟩
  rw [hrun] at happlied
  cases result with
  | error e => cases happlied
  | ok outcome =>
    have hroles : outcome.roles = [⟨.management, "ADMIN"⟩, ⟨.management, "USER"⟩] :=
      Except.ok.inj happlied
    obtain ⟨henvironment, -, hheld⟩ := apply_holds_last hcompile hrun
    obtain ⟨reference, hreference, hlast⟩ := henvironment _ (hroles ▸ List.mem_cons_self)
    cases hreference
    rw [hroles] at hlast
    refine ⟨mapping, outcome, c', hcompile, hrun, hroles, hlast, fun h => ?_⟩
    have hone := (hheld.mp h).1
    rw [hroles] at hone
    exact absurd (hone ⟨.management, "ADMIN"⟩ (by decide) ⟨.management, "USER"⟩ (by decide) rfl)
      (by decide)

end ApiCatalog
