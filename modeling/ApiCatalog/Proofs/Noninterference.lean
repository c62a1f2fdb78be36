import ApiCatalog.Proofs.Mapping

/-! # What logins depend on

A login depends on the claims that its configuration names and on the parts of the profile to which
the conditions of its rules refer. Nothing else in a profile matters to how the login ends or to
what it leaves.
-/

namespace ApiCatalog

def Operand.paths : Operand → List (List String)
  | literal _ => []
  | .profile path => [path]

def Formula.paths : Formula → List (List String)
  | or left right => left.paths ++ right.paths
  | and left right => left.paths ++ right.paths
  | not inner => inner.paths
  | compare left _ right => left.paths ++ right.paths
  | holds operand => operand.paths

/-- Whether paths lead to the same parts of two profiles. -/
def Json.AgreeAlong (paths : List (List String)) (p q : Json) : Prop :=
  ∀ path ∈ paths, p.follow path = q.follow path

section Agree

variable {p q : Json}

theorem Json.agreeAlong_append {paths paths' : List (List String)} :
    p.AgreeAlong (paths ++ paths') q ↔ p.AgreeAlong paths q ∧ p.AgreeAlong paths' q :=
  List.forall_mem_append

theorem Operand.resolve_congr {operand : Operand} (h : p.AgreeAlong operand.paths q) :
    operand.resolve p = operand.resolve q := by
  cases operand with
  | literal value => rfl
  | profile path => exact h path List.mem_cons_self

theorem Formula.eval_congr {formula : Formula} (h : p.AgreeAlong formula.paths q) :
    formula.eval p = formula.eval q := by
  induction formula with
  | or left right ihl ihr =>
    obtain ⟨hl, hr⟩ := Json.agreeAlong_append.mp h
    rw [eval, eval, ihl hl, ihr hr]
  | and left right ihl ihr =>
    obtain ⟨hl, hr⟩ := Json.agreeAlong_append.mp h
    rw [eval, eval, ihl hl, ihr hr]
  | not inner ih => rw [eval, eval, ih h]
  | compare left relation right =>
    obtain ⟨hl, hr⟩ := Json.agreeAlong_append.mp h
    simp only [eval, Operand.resolve_congr hl, Operand.resolve_congr hr]
  | holds operand => rw [eval, eval, Operand.resolve_congr h]

theorem Grant.matching_congr {α : Type} [DecidableEq α] {grants : List (Grant α)}
    (h : ∀ grant ∈ grants, p.AgreeAlong grant.condition.formula.paths q) :
    matching grants p = matching grants q := by
  have hfilter : grants.filter (·.condition.evaluate p) = grants.filter (·.condition.evaluate q) :=
    List.filter_congr fun grant hgrant => Formula.eval_congr (h grant hgrant)
  rw [matching, matching, hfilter]

end Agree

theorem Condition.parse_of_compile {source : String} {condition : Condition}
    (h : compile source = .ok condition) : parse source = .ok condition := by
  rw [compile] at h
  split at h
  · rename_i parsed hparsed
    rwa [Except.ok.inj h] at hparsed
  · cases h

namespace MappingRule

def paths (rule : MappingRule) : List (List String) :=
  match Condition.parse rule.condition with
  | .ok condition => condition.formula.paths
  | .error _ => []

variable {rule : MappingRule} {condition : Condition}

theorem paths_of_compile (h : Condition.compile rule.condition = .ok condition) :
    rule.paths = condition.formula.paths := by
  rw [paths, Condition.parse_of_compile h]

theorem paths_of_compileGroups {grant : Grant String} (h : rule.compileGroups = .ok grant) :
    rule.paths = grant.condition.formula.paths := by
  obtain ⟨condition, hcondition, h⟩ := bind_eq_ok_iff.mp h
  cases h
  exact paths_of_compile hcondition

theorem paths_of_compileRoles {grant : Grant RoleName} (h : rule.compileRoles = .ok grant) :
    rule.paths = grant.condition.formula.paths := by
  obtain ⟨condition, hcondition, h⟩ := bind_eq_ok_iff.mp h
  obtain ⟨roles, -, h⟩ := bind_eq_ok_iff.mp h
  cases h
  exact paths_of_compile hcondition

end MappingRule

namespace Mapping

variable {mapping : Mapping} {p q : Json}

theorem granted_congr {groups roles : List MappingRule}
    (hcompile : compile groups roles = .ok mapping)
    (h : p.AgreeAlong ((groups ++ roles).flatMap MappingRule.paths) q) :
    mapping.groupsFor p = mapping.groupsFor q ∧ mapping.rolesFor p = mapping.rolesFor q := by
  have hrule : ∀ rule ∈ groups ++ roles, p.AgreeAlong rule.paths q := fun rule hrule path hpath =>
    h path (List.mem_flatMap.mpr ⟨rule, hrule, hpath⟩)
  obtain ⟨groupGrants, hgroups, hcompile⟩ := bind_eq_ok_iff.mp hcompile
  obtain ⟨roleGrants, hroles, hcompile⟩ := bind_eq_ok_iff.mp hcompile
  cases hcompile
  constructor
  · refine Grant.matching_congr fun grant hgrant => ?_
    obtain ⟨rule, hmem, hrun⟩ := exists_of_forall₂ (mapM_eq_ok_iff.mp hgroups) hgrant
    rw [← MappingRule.paths_of_compileGroups hrun]
    exact hrule rule (List.mem_append_left _ hmem)
  · refine Grant.matching_congr fun grant hgrant => ?_
    obtain ⟨rule, hmem, hrun⟩ := exists_of_forall₂ (mapM_eq_ok_iff.mp hroles) hgrant
    rw [← MappingRule.paths_of_compileRoles hrun]
    exact hrule rule (List.mem_append_right _ hmem)

/-- All that an application takes from a profile is what the mapping grants to it. -/
theorem apply_congr (hgroups : mapping.groupsFor p = mapping.groupsFor q)
    (hroles : mapping.rolesFor p = mapping.rolesFor q) (user : Member) :
    mapping.apply user p = mapping.apply user q := by
  rw [apply, apply, hgroups, hroles]

end Mapping

namespace ClaimNames

def toList (names : ClaimNames) : List String :=
  [names.id, names.email, names.firstname, names.lastname, names.picture]

theorem claim?_congr {p q : Json} {name : String} (h : p.field? name = q.field? name) :
    claim? p name = claim? q name := by
  rw [claim?, claim?, h]

theorem user_congr {names : ClaimNames} {p q : Json}
    (h : ∀ name ∈ names.toList, p.field? name = q.field? name) (source : String) :
    names.user source p = names.user source q := by
  have hclaim : ∀ name ∈ names.toList, claim? p name = claim? q name := fun name hname =>
    claim?_congr (h name hname)
  simp only [toList, List.forall_mem_cons] at hclaim
  obtain ⟨hid, hemail, hfirstname, hlastname, hpicture, -⟩ := hclaim
  simp only [user, needed, hid, hemail, hfirstname, hlastname, hpicture]

end ClaimNames

namespace LoginConfig

def paths (config : LoginConfig) : List (List String) :=
  (config.groups ++ config.roles).flatMap MappingRule.paths

/-- Profiles that a configuration does not tell apart: they make the claims that it names alike, and
the paths in its conditions lead to the same parts of them. -/
structure Indistinct (config : LoginConfig) (p q : Json) : Prop where
  claims : ∀ name ∈ config.claims.toList, p.field? name = q.field? name
  parts : p.AgreeAlong config.paths q

end LoginConfig

namespace Authenticator

theorem complete_congr {authenticator : Authenticator} {p q : Json}
    (huser : authenticator.claims.user authenticator.source p =
      authenticator.claims.user authenticator.source q)
    (happly : ∀ user, authenticator.mapping.apply user p = authenticator.mapping.apply user q) :
    authenticator.complete p = authenticator.complete q := by
  simp only [complete, huser, happly]

/-- In any catalog, a login ends in the same way and leaves the same catalog for two profiles that
the configuration does not tell apart. -/
theorem login_eq_of_indistinct {config : LoginConfig} {authenticator : Authenticator}
    (hconfig : ofConfig config = .ok authenticator) {p q : Json} (h : config.Indistinct p q)
    (c : Catalog) :
    (authenticator.complete p).runOn c = (authenticator.complete q).runOn c ∧
      ∀ reply reply' : UserinfoReply, reply.profile = .ok p → reply'.profile = .ok q →
        (authenticator.connect reply).runOn c = (authenticator.connect reply').runOn c := by
  obtain ⟨mapping, hcompile, hauthenticator⟩ := bind_eq_ok_iff.mp hconfig
  cases hauthenticator
  obtain ⟨hgroups, hroles⟩ := Mapping.granted_congr hcompile h.parts
  have hcomplete : complete ⟨config.source, config.claims, mapping⟩ p =
      complete ⟨config.source, config.claims, mapping⟩ q :=
    complete_congr (ClaimNames.user_congr h.claims config.source)
      (Mapping.apply_congr hgroups hroles)
  refine ⟨congrArg (CatalogM.runOn · c) hcomplete, fun reply reply' hp hq => ?_⟩
  rw [connect, connect, hp, hq]
  exact congrArg (fun task => (CatalogM.counting .logins task).runOn c) hcomplete

/-- Neither the age of a user nor a further team makes a difference to a rule on the first team. -/
theorem login_eq_of_same_team :
    let config : LoginConfig :=
      { roles := [⟨"#profile.teams['0'] == 'staff'", ["PORTAL:ADMIN"]⟩] }
    let profile (age : Int) (teams : List String) : Json :=
      .obj
        [("age", .int age), ("email", .str "jane@example.com"), ("sub", .str "42"),
          ("teams", .ofStrings ("staff" :: teams))]
    let c : Catalog := { identities := ⟨[.logins ⟨"oauth2", []⟩], []⟩ }
    ∃ authenticator, ofConfig config = .ok authenticator ∧
      config.Indistinct (profile 31 []) (profile 32 ["night"]) ∧
      ((authenticator.complete (profile 31 [])).runOn c).1.map (·.outcome.roles) =
        .ok [⟨.portal, "ADMIN"⟩] ∧
      (authenticator.complete (profile 31 [])).runOn c =
        (authenticator.complete (profile 32 ["night"])).runOn c := by
  intro config profile c
  have hroles : (ofConfig config >>= fun authenticator =>
      ((authenticator.complete (profile 31 [])).runOn c).1.map (·.outcome.roles)) =
        .ok [⟨.portal, "ADMIN"⟩] := by
    decide +kernel
  obtain ⟨authenticator, hconfig, hrun⟩ := bind_eq_ok_iff.mp hroles
  have hpaths : config.paths = [["teams", "0"]] := by decide +kernel
  have hsame : config.Indistinct (profile 31 []) (profile 32 ["night"]) := by
    constructor
    · simp only [ClaimNames.toList, List.forall_mem_cons]
      exact ⟨rfl, rfl, rfl, rfl, rfl, fun _ h => absurd h List.not_mem_nil⟩
    · rw [hpaths]
      exact List.forall_mem_singleton.mpr rfl
  exact ⟨authenticator, hconfig, hsame, hrun, (login_eq_of_indistinct hconfig hsame c).1⟩

end Authenticator

end ApiCatalog
