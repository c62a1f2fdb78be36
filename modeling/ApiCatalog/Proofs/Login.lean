import ApiCatalog.Login
import ApiCatalog.Proofs.Results
import ApiCatalog.Proofs.Store.Consistent
import ApiCatalog.Proofs.Task

/-! # What logins leave

The mapping of a login is refused before its first write or not at all. It gives roles in groups and
in the environment, and never on an API.
-/

namespace ApiCatalog

open CatalogM

namespace Assignment

def after (user : Member) (store : Store) (assignment : Assignment) : Store :=
  store.withGrant assignment.reference user assignment.role

def isIn (user : Member) (a : Assignment) (m : Membership) : Bool :=
  m.reference == a.reference && m.user.id == user.id

def give (user : Member) (ms : List Membership) (a : Assignment) : List Membership :=
  Store.putMembership
    (((ms.find? (a.isIn user)).getD (.empty a.reference user.id)).grant user a.role) ms

theorem foldl_after_eq (user : Member) (assignments : List Assignment) (store : Store) :
    ∃ writes, assignments.foldl (after user) store =
      { store with memberships := assignments.foldl (give user) store.memberships, writes } := by
  induction assignments generalizing store with
  | nil => exact ⟨store.writes, rfl⟩
  | cons a assignments ih => exact ih (after user store a)

variable {store : Store} {assignment : Assignment}

/-- Roles that there are can be given, and giving them touches no counter. -/
theorem runOn_forM_run (user : Member) {assignments : List Assignment} {c : Catalog}
    (h : ∀ a ∈ assignments, c.store.hasRole a.role = true) :
    (assignments.forM (·.run user)).runOn c =
      (.ok (), { c with store := assignments.foldl (after user) c.store }) := by
  induction assignments generalizing c with
  | nil => rfl
  | cons a assignments ih =>
    have hgive := Store.giveRole_eq a.reference user a.role c.store
    rw [if_pos (h a List.mem_cons_self)] at hgive
    have hrun : (a.run user).runOn c = (.ok (), { c with store := after user c.store a }) := by
      rw [run, runOn_bind, runOn_onStore, hgive]
      rfl
    exact (runOn_bind_ok hrun).trans (ih fun b hb => h b (List.mem_cons_of_mem _ hb))

theorem membership?_foldl_after {reference : Reference} {assignments : List Assignment}
    (h : ∀ a ∈ assignments, a.reference ≠ reference) (user : Member) (userId : String) :
    (assignments.foldl (after user) store).membership? reference userId =
      store.membership? reference userId := by
  induction assignments generalizing store with
  | nil => rfl
  | cons a assignments ih =>
    rw [List.foldl_cons, ih fun b hb => h b (List.mem_cons_of_mem _ hb), after,
      Store.membership?_withGrant, if_neg fun hc => h a List.mem_cons_self hc.1]

theorem hasRole_of_mem_inGroups {groups : List Group} (h : assignment ∈ inGroups store groups) :
    store.hasRole assignment.role = true := by
  obtain ⟨group, _, h⟩ := List.mem_flatMap.mp h
  obtain ⟨role, hrole, rfl⟩ := List.mem_map.mp h
  obtain ⟨scope, _, hrole⟩ := List.mem_flatMap.mp hrole
  exact Store.hasRole_iff.mpr ⟨role, List.mem_of_mem_filter hrole, rfl⟩

theorem mem_of_mem_inEnvironment {roles : List RoleName} (h : assignment ∈ inEnvironment roles) :
    assignment.role ∈ roles := by
  obtain ⟨role, hrole, h⟩ := List.mem_filterMap.mp h
  obtain ⟨reference, _, rfl⟩ := Option.map_eq_some_iff.mp h
  exact hrole

/-- Whether an assignment is held in a group that there is, or in the environment. -/
def OutsideApis (store : Store) (assignment : Assignment) : Prop :=
  assignment.reference.type ≠ .api ∧
    (assignment.reference.type = .group →
      assignment.reference.id ∈ store.groups.map (·.id))

theorem outsideApis_of_mem {groups : List Group} (hgroups : groups ⊆ store.groups)
    {roles : List RoleName} (h : assignment ∈ inGroups store groups ++ inEnvironment roles) :
    assignment.OutsideApis store := by
  rcases List.mem_append.mp h with h | h
  · obtain ⟨group, hgroup, h⟩ := List.mem_flatMap.mp h
    obtain ⟨role, _, rfl⟩ := List.mem_map.mp h
    exact ⟨fun he => (nomatch he), fun _ => List.mem_map_of_mem (hgroups hgroup)⟩
  · obtain ⟨⟨scope, name⟩, _, h⟩ := List.mem_filterMap.mp h
    obtain ⟨reference, href, rfl⟩ := Option.map_eq_some_iff.mp h
    cases scope <;> cases href <;> exact ⟨fun he => (nomatch he), fun he => (nomatch he)⟩

end Assignment

def Store.GivenOutsideApis (store store' : Store) : Prop :=
  ∃ (user : Member) (assignments : List Assignment),
    (∀ a ∈ assignments, a.OutsideApis store) ∧
      store' = assignments.foldl (Assignment.after user) store

theorem Store.GivenOutsideApis.membership?_eq {store store' : Store}
    (h : store.GivenOutsideApis store') (apiId userId : String) :
    store'.membership? (.api apiId) userId = store.membership? (.api apiId) userId := by
  obtain ⟨user, assignments, hout, rfl⟩ := h
  exact Assignment.membership?_foldl_after
    (fun a ha he => (hout a ha).1 (congrArg Reference.type he)) user userId

theorem Store.GivenOutsideApis.exists_eq {store store' : Store}
    (h : store.GivenOutsideApis store') :
    ∃ memberships writes, store' = { store with memberships, writes } := by
  obtain ⟨user, assignments, -, rfl⟩ := h
  obtain ⟨writes, he⟩ := Assignment.foldl_after_eq user assignments store
  exact ⟨_, writes, he⟩

namespace Mapping

theorem checkRoles_eq_ok_iff {store : Store} {roles : List RoleName} :
    checkRoles store roles = .ok () ↔ ∀ role ∈ roles, store.hasRole role = true := by
  induction roles with
  | nil => simp [checkRoles]
  | cons role roles ih =>
    rw [checkRoles, List.forall_mem_cons]
    cases store.hasRole role <;> simp [ih]

theorem mem_of_findGroups {store : Store} {names : List String} {groups : List Group}
    (h : findGroups store names = .ok groups) : groups ⊆ store.groups := by
  induction names generalizing groups with
  | nil =>
    cases h
    exact List.nil_subset _
  | cons name names ih =>
    rw [findGroups] at h
    split at h
    · rename_i group hgroup
      cases hrest : findGroups store names with
      | error e => simp [hrest, Except.map] at h
      | ok rest =>
        obtain rfl : group :: rest = groups := by simpa [hrest, Except.map] using h
        exact List.cons_subset.mpr ⟨List.mem_of_find?_eq_some hgroup, ih hrest⟩
    · cases h

def assignments (mapping : Mapping) (store : Store) (groups : List Group) (profile : Json) :
    List Assignment :=
  Assignment.inGroups store groups ++ Assignment.inEnvironment (mapping.rolesFor profile)

def applied (mapping : Mapping) (user : Member) (profile : Json) (groups : List Group)
    (c : Catalog) : Catalog :=
  { c with
    store := (mapping.assignments c.store groups profile).foldl (Assignment.after user) c.store
    metrics := (c.metrics.add .mappedGroups groups.length).add .mappedRoles
      (mapping.rolesFor profile).length }

theorem givenOutsideApis_applied {mapping : Mapping} {profile : Json} {groups : List Group}
    {c : Catalog} (h : findGroups c.store (mapping.groupsFor profile) = .ok groups)
    (user : Member) : c.store.GivenOutsideApis (mapping.applied user profile groups c).store :=
  ⟨user, _, fun _ ha => Assignment.outsideApis_of_mem (mem_of_findGroups h) ha, rfl⟩

section Apply

variable {mapping : Mapping} {profile : Json} {groups : List Group} {c : Catalog} {e : Error}

theorem runOn_apply_of_missing_group
    (hgroups : findGroups c.store (mapping.groupsFor profile) = .error e) (user : Member) :
    (mapping.apply user profile).runOn c = (.error e, c) := by
  rw [apply, runOn_bind_ok (runOn_fromStore id c)]
  exact runOn_bind_error (by rw [runOn_ofResult, id, hgroups])

theorem runOn_apply_of_missing_role
    (hgroups : findGroups c.store (mapping.groupsFor profile) = .ok groups)
    (hroles : checkRoles c.store (mapping.rolesFor profile) = .error e) (user : Member) :
    (mapping.apply user profile).runOn c = (.error e, c) := by
  rw [apply, runOn_bind_ok (runOn_fromStore id c),
    runOn_bind_ok (by rw [runOn_ofResult, id, hgroups])]
  exact runOn_bind_error (by rw [runOn_ofResult, id, hroles])

theorem runOn_apply_of_found
    (hgroups : findGroups c.store (mapping.groupsFor profile) = .ok groups)
    (hroles : checkRoles c.store (mapping.rolesFor profile) = .ok ()) (user : Member) :
    (mapping.apply user profile).runOn c =
      (.ok ⟨groups, mapping.rolesFor profile, (mapping.assignments c.store groups profile).length⟩,
        mapping.applied user profile groups c) := by
  rw [apply, runOn_bind_ok (runOn_fromStore id c),
    runOn_bind_ok (by rw [runOn_ofResult, id, hgroups]),
    runOn_bind_ok (by rw [runOn_ofResult, id, hroles])]
  refine runOn_bind_ok (Assignment.runOn_forM_run user fun a ha => ?_)
  rcases List.mem_append.mp ha with ha | ha
  · exact Assignment.hasRole_of_mem_inGroups ha
  · exact checkRoles_eq_ok_iff.mp hroles _ (Assignment.mem_of_mem_inEnvironment ha)

/-- A mapping is refused and changes nothing, or all that it assigns is given. -/
theorem runOn_apply (mapping : Mapping) (user : Member) (profile : Json) (c : Catalog) :
    (∃ e, (mapping.apply user profile).runOn c = (.error e, c)) ∨
      ∃ groups, findGroups c.store (mapping.groupsFor profile) = .ok groups ∧
        (mapping.apply user profile).runOn c =
          (.ok ⟨groups, mapping.rolesFor profile,
              (mapping.assignments c.store groups profile).length⟩,
            mapping.applied user profile groups c) := by
  cases hgroups : findGroups c.store (mapping.groupsFor profile) with
  | error e => exact Or.inl ⟨e, runOn_apply_of_missing_group hgroups user⟩
  | ok groups =>
    cases hroles : checkRoles c.store (mapping.rolesFor profile) with
    | error e => exact Or.inl ⟨e, runOn_apply_of_missing_role hgroups hroles user⟩
    | ok _ => exact Or.inr ⟨groups, rfl, runOn_apply_of_found hgroups hroles user⟩

end Apply

end Mapping

/-- Whether a profile makes the claims that a user cannot be known without. -/
def ClaimNames.Made (names : ClaimNames) (profile : Json) : Prop :=
  (ClaimNames.claim? profile names.id).isSome = true ∧
    (ClaimNames.claim? profile names.email).isSome = true

theorem ClaimNames.made_of_user {names : ClaimNames} {source : String} {profile : Json}
    {user : User} (h : names.user source profile = .ok user) : names.Made profile := by
  have hneeded : ∀ {name value}, needed profile name = .ok value →
      (claim? profile name).isSome = true := by
    intro name value hn
    rw [needed] at hn
    split at hn
    · rename_i hsome
      rw [hsome]
      rfl
    · cases hn
  obtain ⟨id, hid, h⟩ := bind_eq_ok_iff.mp h
  obtain ⟨email, hemail, _⟩ := bind_eq_ok_iff.mp h
  exact ⟨hneeded hid, hneeded hemail⟩

namespace Authenticator

theorem runOn_register (authenticator : Authenticator) (user : User) (c : Catalog) :
    ∃ user' identities,
      (authenticator.register user).runOn c = (.ok user', { c with identities }) := by
  rw [register, runOn_bind_ok (runOn_get c)]
  cases c.identities.registry? authenticator.source with
  | none => exact ⟨user, c.identities, rfl⟩
  | some registry => exact ⟨registry.adopt user, _, rfl⟩

/-- A login fails before its first write or its mapping is applied. The identities change only if
the profile is there and makes its claims. -/
theorem runOn_connect (authenticator : Authenticator) (reply : UserinfoReply) (c : Catalog) :
    ∃ identities,
      (identities ≠ c.identities →
        ∃ profile, reply.profile = .ok profile ∧ authenticator.claims.Made profile) ∧
      ((∃ e, (authenticator.connect reply).runOn c =
          (.error e, { c with identities, metrics := c.metrics.add (.logins e.kind) 1 })) ∨
        ∃ profile user groups, reply.profile = .ok profile ∧
          Mapping.findGroups c.store (authenticator.mapping.groupsFor profile) = .ok groups ∧
          let c' := authenticator.mapping.applied user.member profile groups { c with identities }
          (authenticator.connect reply).runOn c =
            (.ok ⟨user, groups, authenticator.mapping.rolesFor profile,
                (authenticator.mapping.assignments c.store groups profile).length⟩,
              { c' with metrics := c'.metrics.add (.logins Metric.success) 1 })) := by
  rw [connect, runOn_counting]
  cases hprofile : reply.profile with
  | error e =>
    rw [runOn_bind_error (by rw [runOn_ofResult])]
    exact ⟨c.identities, fun h => absurd rfl h, Or.inl ⟨e, rfl⟩⟩
  | ok profile =>
    rw [runOn_bind_ok (by rw [runOn_ofResult]), complete]
    cases huser : authenticator.claims.user authenticator.source profile with
    | error e =>
      rw [runOn_bind_error (by rw [runOn_ofResult])]
      exact ⟨c.identities, fun h => absurd rfl h, Or.inl ⟨e, rfl⟩⟩
    | ok user =>
      obtain ⟨user', identities, hregister⟩ := authenticator.runOn_register user c
      rw [runOn_bind_ok (by rw [runOn_ofResult]), runOn_bind_ok hregister]
      refine ⟨identities, fun _ => ⟨profile, rfl, ClaimNames.made_of_user huser⟩, ?_⟩
      rcases authenticator.mapping.runOn_apply user'.member profile { c with identities } with
        ⟨e, he⟩ | ⟨groups, hgroups, happly⟩
      · rw [runOn_bind_error he]
        exact Or.inl ⟨e, rfl⟩
      · rw [runOn_bind_ok happly]
        exact Or.inr ⟨profile, user', groups, rfl, hgroups, rfl⟩

theorem store_connect (authenticator : Authenticator) (reply : UserinfoReply) (c : Catalog) :
    let outcome := (authenticator.connect reply).runOn c
    ((∃ e, outcome.1 = .error e ∧ outcome.2.store = c.store) ∨
        ∃ login, outcome.1 = .ok login ∧ c.store.GivenOutsideApis outcome.2.store) := by
  intro outcome
  obtain ⟨identities, -, ⟨e, he⟩ | ⟨profile, user, groups, -, hgroups, he⟩⟩ :=
    authenticator.runOn_connect reply c
  · have houtcome : outcome = _ := he
    rw [houtcome]
    exact Or.inl ⟨e, rfl, rfl⟩
  · have houtcome : outcome = _ := he
    rw [houtcome]
    exact Or.inr ⟨_, rfl, Mapping.givenOutsideApis_applied (c := c) hgroups user.member⟩

end Authenticator

end ApiCatalog
