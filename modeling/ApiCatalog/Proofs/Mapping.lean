import ApiCatalog.Proofs.Login
import ApiCatalog.Proofs.Ordered

/-! # Compiled mappings

A mapping is refused for a condition or a granted role that cannot be read. What is compiled grants
roles of environment-wide scopes only, so that all of them are given at a login.
-/

namespace ApiCatalog

theorem RoleScope.isGrantable_iff {scope : RoleScope} :
    scope.isGrantable = true ↔ scope.defaultReferenceType?.isSome = true := by
  cases scope <;> decide

theorem RoleName.isGrantable_of_parseGrant {text : String} {role : RoleName}
    (h : parseGrant text = .ok role) : role.scope.isGrantable = true := by
  rw [parseGrant] at h
  split at h
  · cases h
  · obtain ⟨scope, -, h⟩ := bind_eq_ok_iff.mp h
    cases hscope : scope.isGrantable with
    | false =>
      rw [hscope] at h
      cases h
    | true =>
      rw [hscope, if_neg (by decide)] at h
      dsimp only at h
      split at h
      · cases h
      · cases h
        exact hscope

namespace MappingRule

variable {rule : MappingRule} {e : Error}

theorem of_compileGroups_error (h : rule.compileGroups = .error e) :
    Condition.compile rule.condition = .error e := by
  rcases bind_eq_error_iff.mp h with h | ⟨_, -, h⟩
  · exact h
  · cases h

theorem of_compileRoles_error (h : rule.compileRoles = .error e) :
    Condition.compile rule.condition = .error e ∨
      ∃ value ∈ rule.values, RoleName.parseGrant value = .error e := by
  rcases bind_eq_error_iff.mp h with h | ⟨_, -, h⟩
  · exact Or.inl h
  · rcases bind_eq_error_iff.mp h with h | ⟨_, -, h⟩
    · exact Or.inr (exists_of_mapM_eq_error h)
    · cases h

theorem isGrantable_of_compileRoles {grant : Grant RoleName} (h : rule.compileRoles = .ok grant)
    {role : RoleName} (hrole : role ∈ grant.values) : role.scope.isGrantable = true := by
  obtain ⟨condition, -, h⟩ := bind_eq_ok_iff.mp h
  obtain ⟨roles, hroles, h⟩ := bind_eq_ok_iff.mp h
  cases h
  obtain ⟨value, -, hvalue⟩ := exists_of_forall₂ (mapM_eq_ok_iff.mp hroles) hrole
  exact RoleName.isGrantable_of_parseGrant hvalue

end MappingRule

namespace Mapping

variable {groups roles : List MappingRule} {mapping : Mapping}

/-- A mapping is refused for the condition of a rule or for a role that a rule grants. -/
theorem of_compile_error {e : Error} (h : compile groups roles = .error e) :
    (∃ rule ∈ groups ++ roles, Condition.compile rule.condition = .error e) ∨
      ∃ rule ∈ roles, ∃ value ∈ rule.values, RoleName.parseGrant value = .error e := by
  rcases bind_eq_error_iff.mp h with h | ⟨_, -, h⟩
  · obtain ⟨rule, hrule, h⟩ := exists_of_mapM_eq_error h
    exact Or.inl ⟨rule, List.mem_append_left _ hrule, MappingRule.of_compileGroups_error h⟩
  · rcases bind_eq_error_iff.mp h with h | ⟨_, -, h⟩
    · obtain ⟨rule, hrule, h⟩ := exists_of_mapM_eq_error h
      rcases MappingRule.of_compileRoles_error h with h | h
      · exact Or.inl ⟨rule, List.mem_append_right _ hrule, h⟩
      · exact Or.inr ⟨rule, hrule, h⟩
    · cases h

theorem isSome_of_compile (h : compile groups roles = .ok mapping) {grant : Grant RoleName}
    (hgrant : grant ∈ mapping.roles) {role : RoleName} (hrole : role ∈ grant.values) :
    role.scope.defaultReferenceType?.isSome = true := by
  obtain ⟨_, -, h⟩ := bind_eq_ok_iff.mp h
  obtain ⟨_, hroles, h⟩ := bind_eq_ok_iff.mp h
  cases h
  obtain ⟨rule, -, hrule⟩ := exists_of_forall₂ (mapM_eq_ok_iff.mp hroles) hgrant
  exact RoleScope.isGrantable_iff.mp (MappingRule.isGrantable_of_compileRoles hrule hrole)

theorem exists_of_mem_rolesFor {profile : Json} {role : RoleName}
    (h : role ∈ mapping.rolesFor profile) : ∃ grant ∈ mapping.roles, role ∈ grant.values := by
  obtain ⟨grant, hgrant, hrole⟩ := List.mem_flatMap.mp (mem_distinct.mp h)
  exact ⟨grant, List.mem_of_mem_filter hgrant, hrole⟩

theorem map_name_of_findGroups {store : Store} {names : List String} {found : List Group}
    (h : findGroups store names = .ok found) : found.map (·.name) = names := by
  induction names generalizing found with
  | nil =>
    cases h
    rfl
  | cons name names ih =>
    rw [findGroups] at h
    split at h
    · rename_i group hgroup
      cases hrest : findGroups store names with
      | error e =>
        rw [hrest] at h
        cases h
      | ok rest =>
        rw [hrest] at h
        cases h
        have hname : (group.name == name) = true :=
          List.find?_some (p := fun group : Group => group.name == name) hgroup
        rw [List.map_cons, ih hrest, beq_iff_eq.mp hname]
    · cases h

end Mapping

namespace Assignment

theorem length_inGroups (store : Store) (groups : List Group) :
    (inGroups store groups).length =
      groups.length * (store.defaultRoles [.api, .application]).length := by
  simp [inGroups, List.length_flatMap]

/-- No role of an environment-wide scope is passed over. -/
theorem map_role_inEnvironment {roles : List RoleName}
    (h : ∀ role ∈ roles, role.scope.defaultReferenceType?.isSome = true) :
    (inEnvironment roles).map (·.role) = roles := by
  induction roles with
  | nil => rfl
  | cons role roles ih =>
    obtain ⟨hrole, hroles⟩ := List.forall_mem_cons.mp h
    obtain ⟨type, htype⟩ := Option.isSome_iff_exists.mp hrole
    have hstep :
        inEnvironment (role :: roles) = ⟨⟨type, "DEFAULT"⟩, role⟩ :: inEnvironment roles := by
      simp [inEnvironment, Reference.environment?, htype]
    rw [hstep, List.map_cons, ih hroles]

end Assignment

namespace Authenticator

/-- A login counts the default roles in each group that it finds, and every role for the
environment. No role is passed over. -/
theorem outcome_of_connect {authenticator : Authenticator}
    (hroles : ∀ grant ∈ authenticator.mapping.roles, ∀ role ∈ grant.values,
      role.scope.defaultReferenceType?.isSome = true)
    {reply : UserinfoReply} {c : Catalog} {login : Login}
    (h : ((authenticator.connect reply).runOn c).1 = .ok login) :
    ∃ profile, reply.profile = .ok profile ∧
      login.outcome.groups.map (·.name) = authenticator.mapping.groupsFor profile ∧
      login.outcome.roles = authenticator.mapping.rolesFor profile ∧
      (Assignment.inEnvironment login.outcome.roles).map (·.role) = login.outcome.roles ∧
      login.outcome.membershipsApplied =
        login.outcome.groups.length * (c.store.defaultRoles [.api, .application]).length +
          login.outcome.roles.length := by
  obtain ⟨identities, -, ⟨e, hrun⟩ | ⟨profile, user, groups, hprofile, hgroups, hrun⟩⟩ :=
    authenticator.runOn_connect reply c <;> rw [hrun] at h <;> cases h
  have hcarried : (Assignment.inEnvironment (authenticator.mapping.rolesFor profile)).map (·.role) =
      authenticator.mapping.rolesFor profile := by
    refine Assignment.map_role_inEnvironment fun role hrole => ?_
    obtain ⟨grant, hgrant, hrole⟩ := Mapping.exists_of_mem_rolesFor hrole
    exact hroles grant hgrant role hrole
  have hlength := congrArg List.length hcarried
  rw [List.length_map] at hlength
  refine ⟨profile, hprofile, Mapping.map_name_of_findGroups hgroups, rfl, hcarried, ?_⟩
  rw [Mapping.assignments, List.length_append, Assignment.length_inGroups, hlength]

theorem exists_ofProviders {providers : List ProviderConfig}
    (h : ∀ login, .logins login ∈ providers →
      ∃ mapping, Mapping.compile login.groups login.roles = .ok mapping) :
    ∃ authenticators, Authenticator.ofProviders providers = .ok authenticators := by
  induction providers with
  | nil => exact ⟨[], rfl⟩
  | cons provider providers ih =>
    obtain ⟨authenticators, hrest⟩ := ih fun login hlogin =>
      h login (List.mem_cons_of_mem provider hlogin)
    cases provider with
    | accounts config => exact ⟨authenticators, hrest⟩
    | directory config => exact ⟨authenticators, hrest⟩
    | logins login =>
      obtain ⟨mapping, hmapping⟩ := h login List.mem_cons_self
      refine ⟨⟨login.source, login.claims, mapping⟩ :: authenticators, ?_⟩
      rw [Authenticator.ofProviders, Authenticator.ofConfig, hmapping, hrest]
      rfl

end Authenticator

end ApiCatalog
