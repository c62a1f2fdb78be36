import ApiCatalog.Config.Validation
import ApiCatalog.Proofs.Mapping
import ApiCatalog.Proofs.Text.Blank

/-! # Validated configurations

A configuration is refused exactly for the checks that it fails, all of which are reported in the
order of the settings. One that is not refused can be set up, and its mappings give all that they
grant.
-/

namespace ApiCatalog

/-- What is checked of a configuration. Providers are counted from zero. -/
inductive ConfigCheck where
  | port (port : Nat)
  | bindAddress (address : String)
  | requestTimeout (timeout : Duration)
  | logLevel (level : String)
  | logFormat (format : String)
  | defaultVersion (version : String)
  | username (provider : Nat) (username : String)
  | directoryUrl (provider : Nat) (url : String)
  | searchBase (provider : Nat) (base : String)
  | searchFilter (provider : Nat) (filter : String)
  | endpoint (provider : Nat) (url : String)
  | condition (source : String)
  | grant (value : String)

namespace ConfigCheck

def Fails : ConfigCheck → ConfigProblem → Prop
  | port n, problem => n = 0 ∧ problem = .zeroPort
  | bindAddress address, problem => address = "" ∧ problem = .emptyBindAddress
  | requestTimeout timeout, problem => timeout.nanoseconds = 0 ∧ problem = .zeroTimeout
  | logLevel level, problem =>
    Text.toLower level ∉ ["trace", "debug", "info", "warn", "error"] ∧
      problem = .unknownLogLevel level
  | logFormat format, problem =>
    Text.toLower format ∉ ["json", "text"] ∧ problem = .unknownLogFormat format
  | defaultVersion version, problem =>
    Text.trim version ∉ ["default", "1.15"] ∧ problem = .refused (.noSerializer (Text.trim version))
  | username provider name, problem =>
    Text.trim name = "" ∧ problem = .blankUsername provider
  | directoryUrl provider url, problem =>
    (url = "" ∧ problem = .emptyDirectoryUrl provider) ∨
      url ≠ "" ∧ ∃ fault, Url.fault? url = some fault ∧
        problem = .invalidDirectoryUrl provider url fault
  | searchBase provider base, problem => base = "" ∧ problem = .emptySearchBase provider
  | searchFilter provider filter, problem =>
    '=' ∉ filter.toList ∧ problem = .invalidSearchFilter provider
  | endpoint provider url, problem =>
    ∃ fault, Url.fault? url = some fault ∧ problem = .invalidEndpoint provider url fault
  | condition source, problem =>
    ∃ e, Condition.compile source = .error e ∧ problem = .refused e
  | grant value, problem => ∃ e, RoleName.parseGrant value = .error e ∧ problem = .refused e

/-- The problems of the checks that fail, in the order of the checks. -/
inductive Reported : List ConfigCheck → List ConfigProblem → Prop where
  | nil : Reported [] []
  | fails {check checks problem problems} : check.Fails problem → Reported checks problems →
      Reported (check :: checks) (problem :: problems)
  | passes {check checks problems} : (∀ problem, ¬check.Fails problem) →
      Reported checks problems → Reported (check :: checks) problems

namespace Reported

variable {check : ConfigCheck} {checks checks' : List ConfigCheck}
  {problems problems' : List ConfigProblem}

theorem append (h : Reported checks problems) (h' : Reported checks' problems') :
    Reported (checks ++ checks') (problems ++ problems') := by
  induction h with
  | nil => exact h'
  | fails hfails _ ih => exact .fails hfails ih
  | passes hpasses _ ih => exact .passes hpasses ih

theorem flatMap {α : Type} {f : α → List ConfigCheck} {g : α → List ConfigProblem}
    (h : ∀ x, Reported (f x) (g x)) (xs : List α) : Reported (xs.flatMap f) (xs.flatMap g) := by
  induction xs with
  | nil => exact .nil
  | cons x xs ih => exact (h x).append ih

theorem map {α : Type} {f : α → ConfigCheck} {g : α → List ConfigProblem}
    (h : ∀ x, Reported [f x] (g x)) (xs : List α) : Reported (xs.map f) (xs.flatMap g) := by
  rw [List.map_eq_flatMap]
  exact flatMap h xs

theorem when {condition : Bool} {problem : ConfigProblem}
    (h : ∀ p, check.Fails p ↔ condition = true ∧ p = problem) :
    Reported [check] (ConfigProblem.when condition problem) := by
  cases condition with
  | true => exact .fails ((h problem).mpr ⟨rfl, rfl⟩) .nil
  | false => exact .passes (fun p hp => nomatch ((h p).mp hp).1) .nil

theorem ofResult {α : Type} {result : Except Error α}
    (h : ∀ p, check.Fails p ↔ ∃ e, result = .error e ∧ p = .refused e) :
    Reported [check] (ConfigProblem.ofResult result) := by
  cases result with
  | error e => exact .fails ((h _).mpr ⟨e, rfl, rfl⟩) .nil
  | ok x => exact .passes (fun p hp => by obtain ⟨e, he, -⟩ := (h p).mp hp; cases he) .nil

theorem eq_nil_iff (h : Reported checks problems) :
    problems = [] ↔ ∀ check ∈ checks, ∀ problem, ¬check.Fails problem := by
  induction h with
  | nil => simp
  | fails hfails _ _ =>
    refine iff_of_false (List.cons_ne_nil _ _) fun hall => ?_
    exact hall _ List.mem_cons_self _ hfails
  | passes hpasses _ ih =>
    rw [ih, List.forall_mem_cons]
    exact (and_iff_right hpasses).symm

end Reported

end ConfigCheck

open ConfigCheck (Reported)

namespace ProviderConfig

/-- What is checked of a provider. Of a provider of logins it is the endpoint, then the conditions
of all rules, then what the rules for roles grant. -/
def checks (index : Nat) : ProviderConfig → List ConfigCheck
  | accounts config => config.users.map fun user => .username index user.username
  | directory config =>
    [.directoryUrl index config.url, .searchBase index config.contextSourceBase,
      .searchFilter index config.userSearchFilter]
  | logins config =>
    [.endpoint index config.userinfoEndpoint] ++
      (config.groups ++ config.roles).map (fun rule => .condition rule.condition) ++
      config.roles.flatMap fun rule => rule.values.map .grant

end ProviderConfig

def Config.checks (config : Config) : List ConfigCheck :=
  [.port config.server.port, .bindAddress config.server.bindAddress,
      .requestTimeout config.server.requestTimeout] ++
    [.logLevel config.logging.level, .logFormat config.logging.format] ++
    [.defaultVersion config.exports.defaultVersion] ++
    config.providers.zipIdx.flatMap fun (provider, index) => provider.checks index

theorem ServerConfig.reported (config : ServerConfig) :
    Reported
      [.port config.port, .bindAddress config.bindAddress, .requestTimeout config.requestTimeout]
      config.problems := by
  have hport : Reported [.port config.port] (ConfigProblem.when (config.port == 0) .zeroPort) :=
    .when fun p => by simp [ConfigCheck.Fails]
  have haddress : Reported [.bindAddress config.bindAddress]
      (ConfigProblem.when config.bindAddress.isEmpty .emptyBindAddress) :=
    .when fun p => by simp [ConfigCheck.Fails]
  have htimeout : Reported [.requestTimeout config.requestTimeout]
      (ConfigProblem.when config.requestTimeout.isZero .zeroTimeout) :=
    .when fun p => by simp [ConfigCheck.Fails, Duration.isZero]
  exact (hport.append haddress).append htimeout

theorem LoggingConfig.reported (config : LoggingConfig) :
    Reported [.logLevel config.level, .logFormat config.format] config.problems := by
  have hlevel : Reported [.logLevel config.level]
      (ConfigProblem.when (!levels.contains (Text.toLower config.level))
        (.unknownLogLevel config.level)) :=
    .when fun p => by simp [ConfigCheck.Fails, levels]
  have hformat : Reported [.logFormat config.format]
      (ConfigProblem.when (!formats.contains (Text.toLower config.format))
        (.unknownLogFormat config.format)) :=
    .when fun p => by simp [ConfigCheck.Fails, formats, LogFormat.name]
  exact hlevel.append hformat

theorem ExportVersion.parse_eq_error_iff {text : String} {e : Error} :
    parse text = .error e ↔
      Text.trim text ∉ ["default", "1.15"] ∧ e = .noSerializer (Text.trim text) := by
  rw [parse, ofName?]
  generalize Text.trim text = name
  by_cases hdefault : name = "default"
  · simp [hdefault]
  · by_cases hnumbered : name = "1.15"
    · simp [hnumbered]
    · simp only [beq_iff_eq, hdefault, hnumbered, if_false, List.mem_cons, List.not_mem_nil,
        or_self, not_false_eq_true, true_and, Except.error.injEq]
      exact eq_comm

theorem ExportConfig.reported (config : ExportConfig) :
    Reported [.defaultVersion config.defaultVersion] config.problems :=
  .ofResult fun p => by simp [ConfigCheck.Fails, ExportVersion.parse_eq_error_iff]

theorem Text.trim_eq_empty_iff {text : String} : trim text = "" ↔ isBlankText text = true := by
  rw [trim, isBlankText, ← trimChars_eq_nil_iff, ← String.toList_inj, String.toList_ofList]
  rfl

namespace ProviderConfig

theorem reported_urlProblems (index : Nat) (url : String) :
    Reported [.directoryUrl index url] (DirectoryConfig.urlProblems index url) := by
  unfold DirectoryConfig.urlProblems
  by_cases hempty : url = ""
  · rw [if_pos (by simp [hempty])]
    exact .fails (Or.inl ⟨hempty, rfl⟩) .nil
  · rw [if_neg (by simpa using hempty)]
    cases hfault : Url.fault? url with
    | some fault => exact .fails (Or.inr ⟨hempty, fault, hfault, rfl⟩) .nil
    | none => exact .passes (fun p hp => by simp [ConfigCheck.Fails, hempty, hfault] at hp) .nil

theorem reported_endpointProblems (index : Nat) (url : String) :
    Reported [.endpoint index url] (LoginConfig.endpointProblems index url) := by
  unfold LoginConfig.endpointProblems
  cases hfault : Url.fault? url with
  | some fault => exact .fails ⟨fault, hfault, rfl⟩ .nil
  | none => exact .passes (fun p hp => by simp [ConfigCheck.Fails, hfault] at hp) .nil

theorem reported (index : Nat) (provider : ProviderConfig) :
    Reported (provider.checks index) (provider.problems index) := by
  cases provider with
  | accounts config =>
    exact .map (fun user => .when fun p => by simp [ConfigCheck.Fails, Text.trim_eq_empty_iff])
      config.users
  | directory config =>
    have hbase : Reported [.searchBase index config.contextSourceBase]
        (ConfigProblem.when config.contextSourceBase.isEmpty (.emptySearchBase index)) :=
      .when fun p => by simp [ConfigCheck.Fails]
    have hfilter : Reported [.searchFilter index config.userSearchFilter]
        (ConfigProblem.when (!config.userSearchFilter.toList.contains '=')
          (.invalidSearchFilter index)) :=
      .when fun p => by simp [ConfigCheck.Fails]
    exact ((reported_urlProblems index config.url).append hbase).append hfilter
  | logins config =>
    have hconditions : Reported
        ((config.groups ++ config.roles).map fun rule => .condition rule.condition)
        ((config.groups ++ config.roles).flatMap fun rule =>
          ConfigProblem.ofResult (Condition.compile rule.condition)) :=
      .map (fun rule => .ofResult fun p => Iff.rfl) _
    have hgrants : Reported (config.roles.flatMap fun rule => rule.values.map .grant)
        (config.roles.flatMap fun rule => rule.values.flatMap fun value =>
          ConfigProblem.ofResult (RoleName.parseGrant value)) :=
      .flatMap (fun rule : MappingRule =>
        .map (fun value => .ofResult fun p => Iff.rfl) rule.values) _
    exact ((reported_endpointProblems index config.userinfoEndpoint).append hconditions).append
      hgrants

end ProviderConfig

theorem exists_intercalate_eq (header separator : String) {text : String} {texts : List String}
    (h : text ∈ texts) :
    ∃ before after, header ++ separator.intercalate texts = before ++ text ++ after := by
  induction texts generalizing header with
  | nil => cases h
  | cons first texts ih =>
    cases texts with
    | nil =>
      obtain rfl := List.mem_singleton.mp h
      exact ⟨header, "", by simp⟩
    | cons second texts =>
      rw [String.intercalate_cons_cons]
      rcases List.mem_cons.mp h with rfl | h
      · exact ⟨header, separator ++ separator.intercalate (second :: texts), by
          simp only [String.append_assoc]⟩
      · obtain ⟨before, after, he⟩ := ih (header ++ first ++ separator) h
        exact ⟨before, after, by rw [← he]; simp only [String.append_assoc]⟩

namespace Config

variable (config : Config)

theorem reported : Reported config.checks config.problems :=
  ((config.server.reported.append config.logging.reported).append config.exports.reported).append
    (.flatMap (fun (provider, index) => provider.reported index) _)

def report (problems : List ConfigProblem) : String :=
  "Configuration validation failed:\n" ++ "\n".intercalate (problems.map ConfigProblem.message)

theorem exists_report_eq {problem : ConfigProblem} {problems : List ConfigProblem}
    (h : problem ∈ problems) :
    ∃ before after, report problems = before ++ problem.message ++ after :=
  exists_intercalate_eq _ _ (List.mem_map_of_mem h)

theorem validate_eq :
    config.validate =
      if config.problems = [] then .ok ()
      else .error (.configuration (report config.problems)) := by
  rw [validate]
  cases config.problems with
  | nil => rfl
  | cons problem problems => rfl

variable {config}

theorem problems_eq_nil_of_validate (h : config.validate = .ok ()) : config.problems = [] := by
  rw [validate_eq] at h
  by_contra hne
  rw [if_neg hne] at h
  cases h

theorem exists_problems_subset {provider : ProviderConfig} (h : provider ∈ config.providers) :
    ∃ index, provider.problems index ⊆ config.problems := by
  obtain ⟨index, hindex⟩ := List.mem_iff_getElem?.mp h
  exact ⟨index, fun problem hproblem => List.mem_append_right _ (List.mem_flatMap.mpr
    ⟨(provider, index), List.mk_mem_zipIdx_iff_getElem?.mpr hindex, hproblem⟩)⟩

theorem mem_problems_of_compile_error {login : LoginConfig}
    (hlogin : .logins login ∈ config.providers) {e : Error}
    (h : Mapping.compile login.groups login.roles = .error e) :
    .refused e ∈ config.problems := by
  obtain ⟨index, hsubset⟩ := exists_problems_subset hlogin
  have hrefused : ∀ {α : Type} {result : Except Error α}, result = .error e →
      .refused e ∈ ConfigProblem.ofResult result := fun he => he ▸ List.mem_singleton_self _
  refine hsubset ?_
  rw [ProviderConfig.problems, LoginConfig.problems, List.mem_append, List.mem_append]
  rcases Mapping.of_compile_error h with ⟨rule, hrule, he⟩ | ⟨rule, hrule, value, hvalue, he⟩
  · exact Or.inl (Or.inr (List.mem_flatMap.mpr ⟨rule, hrule, hrefused he⟩))
  · exact Or.inr (List.mem_flatMap.mpr
      ⟨rule, hrule, List.mem_flatMap.mpr ⟨value, hvalue, hrefused he⟩⟩)

theorem exists_compile (h : config.validate = .ok ()) {login : LoginConfig}
    (hlogin : .logins login ∈ config.providers) :
    ∃ mapping, Mapping.compile login.groups login.roles = .ok mapping := by
  cases hcompile : Mapping.compile login.groups login.roles with
  | ok mapping => exact ⟨mapping, rfl⟩
  | error e =>
    have hmem := mem_problems_of_compile_error hlogin hcompile
    rw [problems_eq_nil_of_validate h] at hmem
    cases hmem

end Config

/-- A configuration is refused exactly for the checks that it fails, with a line for each of them in
the order of the settings. One that is not refused can be set up, and all that its mappings grant is
given at every login; a mapping that cannot be compiled is among the problems that are reported. -/
theorem validate_wires (config : Config) :
    (∃ problems, Reported config.checks problems ∧
      config.validate =
        if problems = [] then .ok () else .error (.configuration (Config.report problems))) ∧
    (config.validate = .ok () ↔ ∀ check ∈ config.checks, ∀ problem, ¬check.Fails problem) ∧
    (config.validate = .ok () →
      (∃ version, ExportVersion.parse config.exports.defaultVersion = .ok version) ∧
      (∃ authenticators, Authenticator.ofProviders config.providers = .ok authenticators) ∧
      ∀ login, .logins login ∈ config.providers →
        ∃ authenticator, Authenticator.ofConfig login = .ok authenticator ∧
          Mapping.compile login.groups login.roles = .ok authenticator.mapping ∧
          (∀ grant ∈ authenticator.mapping.roles, ∀ role ∈ grant.values,
            role.scope.defaultReferenceType?.isSome = true) ∧
          ∀ (reply : UserinfoReply) (c : Catalog) (done : Login),
            ((authenticator.connect reply).runOn c).1 = .ok done →
            ∃ profile, reply.profile = .ok profile ∧
              done.outcome.groups.map (·.name) = authenticator.mapping.groupsFor profile ∧
              done.outcome.roles = authenticator.mapping.rolesFor profile ∧
              (Assignment.inEnvironment done.outcome.roles).map (·.role) = done.outcome.roles ∧
              done.outcome.membershipsApplied =
                done.outcome.groups.length * (c.store.defaultRoles [.api, .application]).length +
                  done.outcome.roles.length) ∧
    ∀ login, .logins login ∈ config.providers → ∀ e,
      Mapping.compile login.groups login.roles = .error e →
        ∃ before after,
          config.validate = .error (.configuration (before ++ e.message ++ after)) := by
  have hreported := config.reported
  have hvalid : config.validate = .ok () ↔ config.problems = [] := by
    refine ⟨Config.problems_eq_nil_of_validate, fun h => ?_⟩
    rw [Config.validate_eq, if_pos h]
  refine ⟨⟨config.problems, hreported, config.validate_eq⟩, hvalid.trans hreported.eq_nil_iff,
    fun h => ⟨?_, Authenticator.exists_ofProviders fun _ => Config.exists_compile h,
      fun login hlogin => ?_⟩, fun login hlogin e he => ?_⟩
  · cases hversion : ExportVersion.parse config.exports.defaultVersion with
    | ok version => exact ⟨version, rfl⟩
    | error e =>
      have hmem : .refused e ∈ config.problems := by
        simp [Config.problems, ExportConfig.problems, hversion, ConfigProblem.ofResult]
      rw [hvalid.mp h] at hmem
      cases hmem
  · obtain ⟨mapping, hmapping⟩ := Config.exists_compile h hlogin
    have hauthenticator : Authenticator.ofConfig login =
        .ok ⟨login.source, login.claims, mapping⟩ := by
      rw [Authenticator.ofConfig, hmapping]
      rfl
    have hroles : ∀ grant ∈ mapping.roles, ∀ role ∈ grant.values,
        role.scope.defaultReferenceType?.isSome = true :=
      fun _ hgrant _ hrole => Mapping.isSome_of_compile hmapping hgrant hrole
    exact ⟨_, hauthenticator, hmapping, hroles, fun _ _ _ hdone =>
      Authenticator.outcome_of_connect hroles hdone⟩
  · have hmem := Config.mem_problems_of_compile_error hlogin he
    rw [Config.validate_eq, if_neg (List.ne_nil_of_mem hmem)]
    obtain ⟨before, after, hreport⟩ := Config.exists_report_eq hmem
    exact ⟨before, after, by rw [hreport]; rfl⟩

/-- A login in a configuration that is fine, and one that would grant a role on APIs. -/
theorem validate_wires_partners :
    let login (role : String) : LoginConfig := {
      userinfoEndpoint := "https://id.example/userinfo"
      groups := [⟨"true", ["Partners"]⟩]
      roles := [⟨"#jsonPath(#profile, '$.admin') == true", [role]⟩] }
    let config (role : String) : Config := { providers := [.logins (login role)] }
    let before : Catalog := { store := Store.fresh.insertGroup ⟨"group~1", "Partners"⟩ }
    let profile :=
      "\x7b\"sub\": \"ada\", \"email\": \"ada@id.example\", \"admin\": true\x7d"
    (config "management:admin").validate = .ok () ∧
      (∃ authenticator done, Authenticator.ofConfig (login "management:admin") = .ok authenticator ∧
        ((authenticator.connect (.answered 200 profile)).runOn before).1 = .ok done ∧
        done.outcome.membershipsApplied =
          done.outcome.groups.length * 2 + done.outcome.roles.length) ∧
      ∃ front rest, (config "API:USER").validate = .error (.configuration (front ++
        (Error.configuration <| "Role mapping 'API:USER' uses scope API " ++
          "(only MANAGEMENT and PORTAL are allowed)").message ++ rest)) := by
  intro login config before profile
  have hvalid : (config "management:admin").validate = .ok () := by decide +kernel
  have hdone : (Authenticator.ofConfig (login "management:admin") >>= fun authenticator =>
      ((authenticator.connect (.answered 200 profile)).runOn before).1).toOption.isSome = true := by
    decide +kernel
  obtain ⟨-, -, hwired, -⟩ := validate_wires (config "management:admin")
  obtain ⟨-, -, hlogins⟩ := hwired hvalid
  obtain ⟨authenticator, hauthenticator, -, -, hlogin⟩ := hlogins _ List.mem_cons_self
  rw [hauthenticator] at hdone
  have hrefused : (Mapping.compile (login "API:USER").groups (login "API:USER").roles).map
      (fun _ => ()) = .error (.configuration <| "Role mapping 'API:USER' uses scope API " ++
        "(only MANAGEMENT and PORTAL are allowed)") := by
    decide +kernel
  refine ⟨hvalid, ?_, ?_⟩
  · cases hrun : ((authenticator.connect (.answered 200 profile)).runOn before).1 with
    | error e =>
      have hsome :
          ((authenticator.connect (.answered 200 profile)).runOn before).1.toOption.isSome = true :=
        hdone
      rw [hrun] at hsome
      cases hsome
    | ok done =>
      obtain ⟨_, -, -, -, -, happlied⟩ := hlogin _ before done hrun
      have hdefaults : (before.store.defaultRoles [.api, .application]).length = 2 := by decide
      exact ⟨authenticator, done, hauthenticator, hrun, by rw [happlied, hdefaults]⟩
  · obtain ⟨-, -, -, hreports⟩ := validate_wires (config "API:USER")
    cases hcompile : Mapping.compile (login "API:USER").groups (login "API:USER").roles with
    | ok mapping =>
      rw [hcompile] at hrefused
      cases hrefused
    | error e =>
      rw [hcompile] at hrefused
      obtain ⟨front, rest, hreport⟩ := hreports _ List.mem_cons_self e hcompile
      rw [Except.error.inj hrefused] at hreport
      exact ⟨front, rest, hreport⟩

end ApiCatalog
