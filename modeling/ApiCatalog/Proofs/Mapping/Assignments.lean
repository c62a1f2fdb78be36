import ApiCatalog.Proofs.Confinement
import ApiCatalog.Proofs.Login

/-! # What giving roles leaves

A user is given roles one after the other. Of several roles in one scope of one reference the last
one is held. Memberships of others and on other references stay as they are, and giving the same
roles once more changes no membership.
-/

namespace ApiCatalog

def lastRole? (scope : RoleScope) (roles : List RoleName) : Option String :=
  ((roles.filter (·.scope == scope)).getLast?).map (·.name)

section LastRole

variable {scope : RoleScope} {roles roles' : List RoleName} {role : RoleName} {name : String}

theorem lastRole?_append :
    lastRole? scope (roles ++ roles') = (lastRole? scope roles').or (lastRole? scope roles) := by
  rw [lastRole?, List.filter_append, List.getLast?_append, lastRole?, lastRole?]
  cases (roles'.filter (·.scope == scope)).getLast? <;> rfl

theorem lastRole?_singleton :
    lastRole? scope [role] = if scope = role.scope then some role.name else none := by
  by_cases h : scope = role.scope
  · simp [lastRole?, h]
  · simp [lastRole?, h, Ne.symm h]

theorem mem_of_lastRole? (h : lastRole? scope roles = some name) : ⟨scope, name⟩ ∈ roles := by
  obtain ⟨role, hrole, rfl⟩ := Option.map_eq_some_iff.mp h
  obtain ⟨hmem, hscope⟩ := List.mem_filter.mp (List.mem_of_getLast? hrole)
  rw [← beq_iff_eq.mp hscope]
  exact hmem

theorem exists_lastRole? (h : role ∈ roles) : ∃ name, lastRole? role.scope roles = some name := by
  have hmem : role ∈ roles.filter (·.scope == role.scope) :=
    List.mem_filter.mpr ⟨h, beq_self_eq_true _⟩
  cases hlast : (roles.filter (·.scope == role.scope)).getLast? with
  | none => exact absurd hmem (List.getLast?_eq_none_iff.mp hlast ▸ List.not_mem_nil)
  | some last => exact ⟨last.name, by rw [lastRole?, hlast]; rfl⟩

def OnePerScope (roles : List RoleName) : Prop :=
  ∀ role ∈ roles, ∀ role' ∈ roles, role.scope = role'.scope → role = role'

theorem forall_lastRole?_iff :
    (∀ role ∈ roles, lastRole? role.scope roles = some role.name) ↔ OnePerScope roles := by
  constructor
  · intro h role hrole role' hrole' hscope
    have hname := h role hrole
    rw [hscope, h role' hrole'] at hname
    rcases role with ⟨scope, name⟩
    rcases role' with ⟨scope', name'⟩
    cases hscope
    cases hname
    rfl
  · intro h role hrole
    obtain ⟨name, hname⟩ := exists_lastRole? hrole
    rw [hname, h role hrole _ (mem_of_lastRole? hname) rfl]

end LastRole

namespace HeldRoles

variable {held held' : HeldRoles}

theorem ext_get? (h : ∀ scope, held.get? scope = held'.get? scope) : held = held' := by
  rcases held with ⟨management, portal, api, application⟩
  rcases held' with ⟨management', portal', api', application'⟩
  obtain rfl : management = management' := h .management
  obtain rfl : portal = portal' := h .portal
  obtain rfl : api = api' := h .api
  obtain rfl : application = application' := h .application
  rfl

theorem get?_foldl_give (held : HeldRoles) (roles : List RoleName) (scope : RoleScope) :
    (roles.foldl give held).get? scope = (lastRole? scope roles).or (held.get? scope) := by
  induction roles using List.reverseRecOn with
  | nil => rfl
  | append_singleton roles role ih =>
    rw [List.foldl_append, List.foldl_cons, List.foldl_nil, get?_give, ih, lastRole?_append,
      lastRole?_singleton]
    split <;> rfl

theorem foldl_give_foldl_give (held : HeldRoles) (roles : List RoleName) :
    roles.foldl give (roles.foldl give held) = roles.foldl give held := by
  refine ext_get? fun scope => ?_
  simp only [get?_foldl_give]
  cases lastRole? scope roles <;> rfl

end HeldRoles

attribute [ext] Membership

namespace Membership

variable {m m' : Membership} {user : Member} {role : RoleName} {roles : List RoleName}

def grantAll (m : Membership) (user : Member) (roles : List RoleName) : Membership :=
  roles.foldl (·.grant user) m

@[simp] theorem grantAll_cons :
    m.grantAll user (role :: roles) = (m.grant user role).grantAll user roles := rfl

theorem user_identify_congr (h : m.user = m'.user) :
    (m.identify user).user = (m'.identify user).user := by
  rw [identify, identify, h]

theorem user_identify_identify :
    ((m.identify user).identify user).user = (m.identify user).user := by
  rcases user with ⟨id, reference, source⟩
  cases reference <;> cases source <;> rfl

theorem key_grantAll : (m.grantAll user roles).key = m.key := by
  induction roles generalizing m with
  | nil => rfl
  | cons role roles ih => rw [grantAll_cons, ih, key_grant]

theorem user_grantAll_cons : (m.grantAll user (role :: roles)).user = (m.identify user).user := by
  rw [grantAll_cons]
  induction roles generalizing m role with
  | nil => rfl
  | cons role' roles ih =>
    rw [grantAll_cons, ih]
    exact user_identify_identify

theorem roles_grantAll : (m.grantAll user roles).roles = roles.foldl HeldRoles.give m.roles := by
  induction roles generalizing m with
  | nil => rfl
  | cons role roles ih => rw [grantAll_cons, ih, List.foldl_cons]; rfl

theorem role?_grantAll (scope : RoleScope) :
    (m.grantAll user roles).role? scope = (lastRole? scope roles).or (m.role? scope) := by
  rw [role?, roles_grantAll, HeldRoles.get?_foldl_give, role?]

theorem grantAll_grantAll :
    (m.grantAll user roles).grantAll user roles = m.grantAll user roles := by
  ext1
  · have hkey : ((m.grantAll user roles).grantAll user roles).key = (m.grantAll user roles).key :=
      key_grantAll
    exact (Prod.mk.inj hkey).1
  · cases roles with
    | nil => rfl
    | cons role roles =>
      calc ((m.grantAll user (role :: roles)).grantAll user (role :: roles)).user
        _ = ((m.grantAll user (role :: roles)).identify user).user := user_grantAll_cons
        _ = ((m.identify user).identify user).user := user_identify_congr user_grantAll_cons
        _ = (m.identify user).user := user_identify_identify
        _ = (m.grantAll user (role :: roles)).user := user_grantAll_cons.symm
  · rw [roles_grantAll, roles_grantAll, HeldRoles.foldl_give_foldl_give]

/-- What giving a user roles makes of a membership. `Given` tells in which scopes of which
references there are roles to give. -/
structure GivenTo (user : Member) (Given : Reference → RoleScope → Prop) (m m' : Membership) :
    Prop where
  key : m'.key = m.key
  other : (m.user.id = user.id → ∀ scope, ¬Given m.reference scope) → m' = m
  roles : ∀ scope, ¬Given m.reference scope → m'.role? scope = m.role? scope
  user : m'.user = m.user ∨ m'.user = (m.identify user).user

def NewTo (user : Member) (Given : Reference → RoleScope → Prop) (m : Membership) : Prop :=
  (∃ scope, Given m.reference scope) ∧ (empty m.reference user.id).GivenTo user Given m

theorem NewTo.of_givenTo {Given : Reference → RoleScope → Prop} {reference : Reference}
    {scope : RoleScope} (hgiven : Given reference scope)
    (h : (empty reference user.id).GivenTo user Given m) : m.NewTo user Given := by
  obtain rfl : m.reference = reference := congrArg Prod.fst h.key
  exact ⟨⟨scope, hgiven⟩, h⟩

end Membership

namespace Assignment

variable {user : Member} {a : Assignment} {m : Membership} {ms : List Membership}
  {assignments : List Assignment}

def rolesIn (user : Member) (assignments : List Assignment) (m : Membership) : List RoleName :=
  (assignments.filter (·.isIn user m)).map (·.role)

theorem isIn_iff : a.isIn user m = true ↔ m.key = (a.reference, user.id) := by
  simp [isIn, Membership.key]

theorem isIn_of_key {m' : Membership} (h : m'.key = m.key) : a.isIn user m' = a.isIn user m := by
  rw [Bool.eq_iff_iff, isIn_iff, isIn_iff, h]

theorem rolesIn_of_key {m' : Membership} (h : m'.key = m.key) :
    rolesIn user assignments m' = rolesIn user assignments m := by
  simp only [rolesIn, isIn_of_key h]

theorem give_cons :
    give user (m :: ms) a =
      if a.isIn user m then m.grant user a.role :: ms else m :: give user ms a := by
  cases hm : a.isIn user m with
  | true =>
    have hkey : (m.grant user a.role).key = m.key := Membership.key_grant m user a.role
    rw [give, List.find?_cons_of_pos hm, Option.getD_some, Store.putMembership,
      if_pos (Prod.mk.inj hkey.symm), if_pos rfl]
  | false =>
    have hkey : ((((ms.find? (a.isIn user)).getD (.empty a.reference user.id)).grant user
        a.role)).key = (a.reference, user.id) := by
      rw [Membership.key_grant]
      cases hfind : ms.find? (a.isIn user) with
      | none => rfl
      | some n => exact isIn_iff.mp (List.find?_some hfind)
    have hne : ¬m.key = (a.reference, user.id) := fun h => by simp [isIn_iff.mpr h] at hm
    rw [give, List.find?_cons_of_neg (by simp [hm]), Store.putMembership, if_neg, give]
    · rfl
    · exact fun hc => hne (hkey ▸ Prod.ext hc.1 hc.2)

/-- The first membership takes the roles that are held in it, and the others get the rest. -/
theorem foldl_give_cons (m : Membership) (ms : List Membership) (assignments : List Assignment) :
    assignments.foldl (give user) (m :: ms) =
      m.grantAll user (rolesIn user assignments m) ::
        (assignments.filter (!·.isIn user m)).foldl (give user) ms := by
  induction assignments generalizing m ms with
  | nil => rfl
  | cons a assignments ih =>
    rw [List.foldl_cons, give_cons]
    cases ha : a.isIn user m with
    | true =>
      have hkey : (m.grant user a.role).key = m.key := Membership.key_grant m user a.role
      simp [ih, rolesIn, ha, isIn_of_key hkey]
    | false => simp [ih, rolesIn, ha]

theorem foldl_give_nil (a : Assignment) (assignments : List Assignment) :
    (a :: assignments).foldl (give user) [] =
      (a :: assignments).foldl (give user) [.empty a.reference user.id] := by
  have hin : a.isIn user (.empty a.reference user.id) = true := isIn_iff.mpr rfl
  rw [List.foldl_cons, List.foldl_cons, give_cons, if_pos hin]
  rfl

/-- Along the memberships the assignments are left that are held in none of them. Where there is no
membership any more, the next assignment makes one. -/
theorem give_induction (user : Member) {P : List Assignment → List Membership → Prop}
    (done : P [] [])
    (new : ∀ a assignments, P (a :: assignments) [.empty a.reference user.id] →
      P (a :: assignments) [])
    (next : ∀ assignments m ms, P (assignments.filter (!·.isIn user m)) ms →
      P assignments (m :: ms))
    (assignments : List Assignment) (ms : List Membership) : P assignments ms := by
  induction ms generalizing assignments with
  | nil =>
    induction hn : assignments.length using Nat.strong_induction_on generalizing assignments with
    | _ n ih =>
      cases assignments with
      | nil => exact done
      | cons a assignments =>
        refine new a assignments (next _ _ _ (ih _ ?_ _ rfl))
        have hin : a.isIn user (.empty a.reference user.id) = true := isIn_iff.mpr rfl
        rw [← hn, List.filter_cons_of_neg (by simp [hin]), List.length_cons]
        exact Nat.lt_succ_of_le (List.length_filter_le _ _)
  | cons m ms ih => exact next assignments m ms (ih _)

theorem foldl_give_foldl_give (assignments : List Assignment) (ms : List Membership) :
    assignments.foldl (give user) (assignments.foldl (give user) ms) =
      assignments.foldl (give user) ms := by
  induction assignments, ms using give_induction user with
  | done => rfl
  | new a assignments ih => rw [foldl_give_nil, ih]
  | next assignments m ms ih =>
    have hkey : (m.grantAll user (rolesIn user assignments m)).key = m.key :=
      Membership.key_grantAll
    rw [foldl_give_cons, foldl_give_cons, rolesIn_of_key hkey, Membership.grantAll_grantAll]
    simp only [isIn_of_key hkey, ih]

section Frame

variable {Given : Reference → RoleScope → Prop}

theorem givenTo_grantAll (h : ∀ a ∈ assignments, Given a.reference a.role.scope)
    (m : Membership) :
    m.GivenTo user Given (m.grantAll user (rolesIn user assignments m)) := by
  have hin : ∀ role ∈ rolesIn user assignments m,
      m.user.id = user.id ∧ Given m.reference role.scope := by
    intro role hrole
    obtain ⟨a, ha, rfl⟩ := List.mem_map.mp hrole
    obtain ⟨ha, hm⟩ := List.mem_filter.mp ha
    obtain ⟨href, huser⟩ := Prod.mk.inj (isIn_iff.mp hm)
    exact ⟨huser, href ▸ h a ha⟩
  refine ⟨Membership.key_grantAll, fun hother => ?_, fun scope hscope => ?_, ?_⟩
  · cases hroles : rolesIn user assignments m with
    | nil => rfl
    | cons role roles =>
      obtain ⟨huser, hgiven⟩ := hin role (hroles ▸ List.mem_cons_self)
      exact absurd hgiven (hother huser role.scope)
  · rw [Membership.role?_grantAll]
    cases hlast : lastRole? scope (rolesIn user assignments m) with
    | none => rfl
    | some name => exact absurd (hin _ (mem_of_lastRole? hlast)).2 hscope
  · cases rolesIn user assignments m with
    | nil => exact Or.inl rfl
    | cons role roles => exact Or.inr Membership.user_grantAll_cons

/-- Memberships stay in their places when roles are given, each with the roles that it holds now,
and new ones follow them. -/
theorem grows_foldl_give (assignments : List Assignment) (ms : List Membership)
    (h : ∀ a ∈ assignments, Given a.reference a.role.scope) :
    Grows (Membership.GivenTo user Given) (Membership.NewTo user Given) ms
      (assignments.foldl (give user) ms) := by
  induction assignments, ms using give_induction user with
  | done => exact Grows.new fun _ hm => absurd hm List.not_mem_nil
  | new a assignments ih =>
    rw [foldl_give_nil]
    obtain ⟨first, rest, he, hfirst, hrest⟩ := (ih h).exists_of_cons
    rw [he]
    refine Grows.new (List.forall_mem_cons.mpr ⟨?_, hrest.forall_of_nil⟩)
    exact Membership.NewTo.of_givenTo (h a List.mem_cons_self) hfirst
  | next assignments m ms ih =>
    rw [foldl_give_cons]
    exact Grows.kept (givenTo_grantAll h m) (ih fun a ha => h a (List.mem_of_mem_filter ha))

end Frame

def rolesOn (assignments : List Assignment) (reference : Reference) : List RoleName :=
  (assignments.filter (·.reference == reference)).map (·.role)

theorem rolesOn_append (assignments assignments' : List Assignment) (reference : Reference) :
    rolesOn (assignments ++ assignments') reference =
      rolesOn assignments reference ++ rolesOn assignments' reference := by
  rw [rolesOn, List.filter_append, List.map_append, rolesOn, rolesOn]

/-- In the end the user holds the last role given in a scope of a reference, or what was held there
if there is none. -/
theorem roleOf?_foldl_after (assignments : List Assignment) (store : Store) (reference : Reference)
    (scope : RoleScope) :
    (assignments.foldl (after user) store).roleOf? reference scope user.id =
      (lastRole? scope (rolesOn assignments reference)).or
        (store.roleOf? reference scope user.id) := by
  induction assignments using List.reverseRecOn with
  | nil => rfl
  | append_singleton assignments a ih =>
    rw [List.foldl_append, List.foldl_cons, List.foldl_nil, after, Store.roleOf?_withGrant, ih,
      rolesOn_append, lastRole?_append]
    by_cases href : a.reference = reference
    · have hon : rolesOn [a] reference = [a.role] := by simp [rolesOn, href]
      rw [hon, lastRole?_singleton]
      by_cases hscope : scope = a.role.scope
      · simp [href, hscope]
      · simp [hscope, Ne.symm hscope]
    · have hoff : rolesOn [a] reference = [] := by simp [rolesOn, href]
      rw [hoff, if_neg fun hc => href hc.1]
      rfl

theorem rolesOn_eq_map {reference : Reference} (h : ∀ a ∈ assignments, a.reference = reference) :
    rolesOn assignments reference = assignments.map (·.role) := by
  rw [rolesOn, List.filter_eq_self.mpr fun a ha => by simp [h a ha]]

theorem rolesOn_eq_nil {reference : Reference} (h : ∀ a ∈ assignments, a.reference ≠ reference) :
    rolesOn assignments reference = [] := by
  rw [rolesOn, List.filter_eq_nil_iff.mpr fun a ha => by simp [h a ha], List.map_nil]

section Places

variable {store : Store} {groups : List Group} {scope : RoleScope} {reference : Reference}

theorem environment?_ne_group (scope : RoleScope) (id : String) :
    Reference.environment? scope ≠ some (.group id) := by
  cases scope <;> simp [Reference.environment?, RoleScope.defaultReferenceType?, Reference.group]

theorem rolesOn_inEnvironment_group (roles : List RoleName) (id : String) :
    rolesOn (inEnvironment roles) (.group id) = [] := by
  refine rolesOn_eq_nil fun a ha href => ?_
  obtain ⟨role, -, h⟩ := List.mem_filterMap.mp ha
  obtain ⟨reference, hreference, rfl⟩ := Option.map_eq_some_iff.mp h
  exact environment?_ne_group role.scope id (href ▸ hreference)

theorem exists_group_of_mem_inGroups (h : a ∈ inGroups store groups) :
    ∃ group ∈ groups, a.reference = .group group.id := by
  obtain ⟨group, hgroup, h⟩ := List.mem_flatMap.mp h
  obtain ⟨role, -, rfl⟩ := List.mem_map.mp h
  exact ⟨group, hgroup, rfl⟩

theorem rolesOn_inGroups_environment (h : Reference.environment? scope = some reference) :
    rolesOn (inGroups store groups) reference = [] := by
  refine rolesOn_eq_nil fun a ha href => ?_
  obtain ⟨group, -, hgroup⟩ := exists_group_of_mem_inGroups ha
  exact environment?_ne_group scope group.id (hgroup ▸ href ▸ h)

theorem rolesOn_inEnvironment (h : Reference.environment? scope = some reference)
    (roles : List RoleName) :
    rolesOn (inEnvironment roles) reference = roles.filter (·.scope == scope) := by
  induction roles with
  | nil => rfl
  | cons role roles ih =>
    have hone : rolesOn (inEnvironment [role]) reference = [role].filter (·.scope == scope) := by
      rcases role with ⟨scope', name⟩
      cases scope <;> cases h <;> cases scope' <;> rfl
    rw [← List.singleton_append, inEnvironment, List.filterMap_append, ← inEnvironment,
      ← inEnvironment, rolesOn_append, hone, ih, List.filter_append]

theorem lastRole?_rolesOn_inEnvironment (h : Reference.environment? scope = some reference)
    (roles : List RoleName) :
    lastRole? scope (rolesOn (inEnvironment roles) reference) = lastRole? scope roles := by
  rw [rolesOn_inEnvironment h, lastRole?, List.filter_filter, lastRole?]
  simp only [Bool.and_self]

theorem rolesOn_inGroup (store : Store) (group : Group) :
    rolesOn (inGroups store [group]) (.group group.id) =
      (store.defaultRoles [.api, .application]).map Role.roleName := by
  rw [inGroups, List.flatMap_singleton, rolesOn_eq_map, List.map_map]
  · rfl
  · intro a ha
    obtain ⟨role, -, rfl⟩ := List.mem_map.mp ha
    rfl

theorem rolesOn_inGroups_of_not_mem {id : String} (h : id ∉ groups.map (·.id)) :
    rolesOn (inGroups store groups) (.group id) = [] := by
  refine rolesOn_eq_nil fun a ha href => h ?_
  obtain ⟨group, hgroup, hreference⟩ := exists_group_of_mem_inGroups ha
  exact List.mem_map.mpr ⟨group, hgroup, congrArg Reference.id (hreference.symm.trans href)⟩

theorem lastRole?_rolesOn_inGroups {id : String} (h : id ∈ groups.map (·.id)) :
    lastRole? scope (rolesOn (inGroups store groups) (.group id)) =
      lastRole? scope ((store.defaultRoles [.api, .application]).map Role.roleName) := by
  induction groups with
  | nil => exact absurd h List.not_mem_nil
  | cons group groups ih =>
    have hcons : inGroups store (group :: groups) =
        inGroups store [group] ++ inGroups store groups := by
      rw [inGroups, inGroups, inGroups, List.flatMap_singleton, List.flatMap_cons]
    rw [hcons, rolesOn_append, lastRole?_append]
    -- the last group of the id counts, and all of them carry the same roles
    by_cases hrest : id ∈ groups.map (·.id)
    · rw [ih hrest]
      by_cases hid : group.id = id
      · rw [← hid, rolesOn_inGroup, Option.or_self]
      · rw [rolesOn_inGroups_of_not_mem (by simpa using Ne.symm hid)]
        exact Option.or_none
    · obtain rfl : id = group.id := (List.mem_cons.mp h).resolve_right hrest
      rw [rolesOn_inGroups_of_not_mem hrest, rolesOn_inGroup]
      exact Option.none_or

end Places

end Assignment

end ApiCatalog
