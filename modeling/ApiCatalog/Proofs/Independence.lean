import ApiCatalog.Proofs.Import.Holdings

/-! # Independence of imports

Imports into different APIs do not meet. In whatever order they are made, each of them ends as it
does alone, and its API is exported as it is after that import alone.
-/

namespace ApiCatalog

structure ImportRequest where
  apiId : Option String
  parsed : Except DefinitionFault Definition
  actingUser : Option String

/-- What is seen of an import afterwards: how it ended, and every document of its API as long as
there is one. -/
structure ImportReport where
  outcome : Except Error Unit
  document : ExportVersion → List ExportSection → Option (Except Error Json)

/-- The API that an import was about. A new API is there only if the import succeeded. -/
def ImportRequest.target? (request : ImportRequest) : Except Error Api → Option String
  | .ok api => some api.id
  | .error _ => request.apiId

namespace Catalog

def importing (c : Catalog) (request : ImportRequest) : Except Error Api × Catalog :=
  (importParsed request.apiId request.parsed request.actingUser).runOn c

/-- Imports made one after the other, each with its result, and the catalog that they leave. -/
def importAll (c : Catalog) :
    List ImportRequest → List (ImportRequest × Except Error Api) × Catalog
  | [] => ([], c)
  | request :: requests =>
    let (result, next) := c.importing request
    let (results, last) := next.importAll requests
    ((request, result) :: results, last)

def exported (c : Catalog) (id : String) (version : ExportVersion)
    (excluded : List ExportSection) : Option (Except Error Json) :=
  (c.store.api? id).map fun api =>
    ((exportAs ExportVersion.registered version excluded api).runOn c).1

def report (c : Catalog) (request : ImportRequest) (result : Except Error Api) : ImportReport where
  outcome := result.map fun _ => ()
  document version excluded :=
    (request.target? result).bind fun id => c.exported id version excluded

def reports (c : Catalog) (requests : List ImportRequest) : List ImportReport :=
  let (results, last) := c.importAll requests
  results.map fun (request, result) => last.report request result

def existing? (c : Catalog) : Option String → Except Error (Option Api)
  | none => .ok none
  | some id =>
    match c.store.api? id with
    | some api => .ok (some api)
    | none => .error (.apiNotFound id)

/-- How an import ends, and what its API holds then. -/
def forecast (c : Catalog) (request : ImportRequest) : Except Error Holdings := do
  let existing ← c.existing? request.apiId
  let definition ← request.parsed.mapError DefinitionFault.toError
  let members ← planMembers c definition.members
  return (c.store.holdings (c.store.startingApi existing definition)).imported definition
    (Store.newOwner existing request.actingUser) members

def reportAlone (c : Catalog) (request : ImportRequest) : ImportReport :=
  match c.forecast request with
  | .ok holdings =>
    ⟨.ok (), fun version excluded => some (.ok (holdings.document version excluded))⟩
  | .error e =>
    ⟨.error e, fun version excluded => request.apiId.bind fun id => c.exported id version excluded⟩

variable {c : Catalog} {request : ImportRequest}

theorem existing?_eq_ok {apiId : Option String} {existing : Option Api}
    (h : c.existing? apiId = .ok existing) : apiId.map c.store.api? = existing.map some := by
  unfold existing? at h
  split at h
  · cases h
    rfl
  · split at h
    · rename_i api hapi
      cases h
      rw [Option.map_some, hapi, Option.map_some]
    · cases h

theorem existing?_eq_error {apiId : Option String} {e : Error}
    (h : c.existing? apiId = .error e) :
    ∃ id, apiId = some id ∧ c.store.api? id = none ∧ e = .apiNotFound id := by
  unfold existing? at h
  split at h
  · cases h
  · rename_i id
    split at h
    · cases h
    · rename_i hapi
      cases h
      exact ⟨id, rfl, hapi, rfl⟩

theorem importing_cases (hc : c.store.Consistent) (request : ImportRequest) :
    (∃ e, c.forecast request = .error e ∧
        ∃ metrics, c.importing request = (.error e, { c with metrics })) ∨
      ∃ existing definition members metrics,
        Importable c request.apiId request.parsed existing definition members ∧
        c.forecast request =
          .ok ((c.store.holdings (c.store.startingApi existing definition)).imported definition
            (Store.newOwner existing request.actingUser) members) ∧
        c.importing request =
          (.ok ((c.store.withGroups definition.groups).savedApi existing definition),
            { c with
              store := c.store.imported existing definition request.actingUser members,
              metrics }) := by
  rcases request with ⟨apiId, parsed, actingUser⟩
  cases hexisting : c.existing? apiId with
  | error e =>
    refine Or.inl ⟨e, by rw [forecast, hexisting]; rfl, ?_⟩
    obtain ⟨id, rfl, hapi, rfl⟩ := existing?_eq_error hexisting
    exact runOn_importParsed_of_unknown hapi
  | ok existing =>
    have hfound := existing?_eq_ok hexisting
    cases parsed with
    | error fault =>
      exact Or.inl ⟨fault.toError, by rw [forecast, hexisting]; rfl,
        runOn_importParsed_of_malformed hfound⟩
    | ok definition =>
      cases hmembers : planMembers c definition.members with
      | error e =>
        refine Or.inl ⟨e, ?_, runOn_importParsed_of_unplanned hfound hmembers⟩
        rw [forecast, hexisting]
        simp only [bind, Except.bind, Except.mapError, hmembers]
      | ok members =>
        have hready : Importable c apiId (.ok definition) existing definition members :=
          ⟨hfound, rfl, hmembers⟩
        obtain ⟨metrics, hrun⟩ :=
          runOn_importParsed_of_importable hc.seeded_owner hready actingUser
        refine Or.inr ⟨existing, definition, members, metrics, hready, ?_, hrun⟩
        rw [forecast, hexisting]
        simp only [bind, Except.bind, Except.mapError, hmembers]
        rfl

/-- A later catalog that knows the same identities and roles. -/
structure Follows (c c' : Catalog) : Prop where
  consistent : c'.store.Consistent
  identities : c'.identities = c.identities
  roles : c'.store.roles = c.store.roles

/-- A later catalog in which nothing has happened to an API. -/
structure Untouched (c c' : Catalog) (api : Api) : Prop where
  stored : c'.store.api? api.id = some api
  holdings : c'.store.holdings api = c.store.holdings api

theorem Follows.trans {c' c'' : Catalog} (h : c.Follows c') (h' : c'.Follows c'') :
    c.Follows c'' :=
  ⟨h'.consistent, h'.identities.trans h.identities, h'.roles.trans h.roles⟩

theorem Untouched.trans {c' c'' : Catalog} {api : Api} (h : c.Untouched c' api)
    (h' : c'.Untouched c'' api) : c.Untouched c'' api :=
  ⟨h'.stored, h'.holdings.trans h.holdings⟩

theorem follows_importing (hc : c.store.Consistent) (request : ImportRequest) :
    c.Follows (c.importing request).2 := by
  have hconsistent := moves_importParsed moving_consistent request.apiId request.parsed
    request.actingUser c hc
  rcases importing_cases hc request with ⟨e, -, metrics, he⟩ | ⟨_, _, _, _, -, -, he⟩
  · refine ⟨hconsistent, ?_, ?_⟩ <;> rw [he]
  · refine ⟨hconsistent, by rw [he], ?_⟩
    rw [he]
    exact Store.roles_imported

theorem untouched_importing (hc : c.store.Consistent) {api : Api}
    (hapi : c.store.api? api.id = some api) (hne : request.apiId ≠ some api.id) :
    c.Untouched (c.importing request).2 api := by
  rcases importing_cases hc request with
    ⟨e, -, metrics, he⟩ | ⟨existing, definition, members, metrics, hi, -, he⟩ <;> rw [he]
  · exact ⟨hapi, rfl⟩
  · obtain ⟨hstored, hholdings⟩ := hi.other_imported hc request.actingUser hapi hne
    exact ⟨hstored, hholdings⟩

theorem follows_importAll (hc : c.store.Consistent) (requests : List ImportRequest) :
    c.Follows (c.importAll requests).2 := by
  induction requests generalizing c with
  | nil => exact ⟨hc, rfl, rfl⟩
  | cons request requests ih =>
    have hstep := follows_importing hc request
    exact hstep.trans (ih hstep.consistent)

theorem untouched_importAll (hc : c.store.Consistent) {api : Api}
    (hapi : c.store.api? api.id = some api) {requests : List ImportRequest}
    (hne : ∀ request ∈ requests, request.apiId ≠ some api.id) :
    c.Untouched (c.importAll requests).2 api := by
  induction requests generalizing c with
  | nil => exact ⟨hapi, rfl⟩
  | cons request requests ih =>
    obtain ⟨hne, hrest⟩ := List.forall_mem_cons.mp hne
    have hstep := untouched_importing hc hapi hne
    exact hstep.trans (ih (follows_importing hc request).consistent hstep.stored hrest)

theorem exported_eq (hc : c.store.Consistent) {id : String} {api : Api}
    (hapi : c.store.api? id = some api) (version : ExportVersion)
    (excluded : List ExportSection) :
    c.exported id version excluded =
      some (.ok ((c.store.holdings api).document version excluded)) := by
  rw [exported, hapi, Option.map_some, result_exportAs hc]

theorem Untouched.exported_eq {c' : Catalog} {api : Api} (h : c.Untouched c' api)
    (hc : c.store.Consistent) (hc' : c'.store.Consistent)
    (hapi : c.store.api? api.id = some api) : c'.exported api.id = c.exported api.id := by
  funext version excluded
  rw [Catalog.exported_eq hc' h.stored, Catalog.exported_eq hc hapi, h.holdings]

theorem holdings_startingApi_none (store : Store) (definition : Definition) :
    store.holdings (store.startingApi none definition) = { details := definition.details } := by
  have hgroups : store.groupsWithIds [] = [] := List.filter_eq_nil_iff.mpr (by simp)
  have hmembers : store.memberships.filter (·.reference == .api store.freshApiId) = [] :=
    List.filter_eq_nil_iff.mpr fun m hm => by simp [Store.reference_ne_freshApiId hm]
  have hpages : store.pagesOf store.freshApiId = [] :=
    List.filter_eq_nil_iff.mpr fun page hpage => by simp [Store.page_apiId_ne_freshApiId hpage]
  have hplans : store.plansOf store.freshApiId = [] :=
    List.filter_eq_nil_iff.mpr fun plan hplan => by simp [Store.plan_apiId_ne_freshApiId hplan]
  simp only [Store.holdings, Store.startingApi, Option.getD_none, hgroups, hpages, hplans,
    Store.holders, hmembers, List.map_nil]
  rfl

/-- What is foretold depends on the API alone, and not at all on what is stored if it is new. -/
theorem forecast_eq {c' : Catalog} (hfollows : c.Follows c')
    (hkept : ∀ id, request.apiId = some id → ∃ api, c.store.api? id = some api ∧
      c.Untouched c' api) : c'.forecast request = c.forecast request := by
  have hplanned : ∀ entries, planMembers c' entries = planMembers c entries :=
    planMembers_congr hfollows.identities hfollows.roles
  rcases request with ⟨apiId, parsed, actingUser⟩
  cases apiId with
  | none => simp only [forecast, existing?, bind, Except.bind, hplanned, holdings_startingApi_none]
  | some id =>
    obtain ⟨api, hapi, huntouched⟩ := hkept id rfl
    have hstored := huntouched.stored
    rw [(Store.mem_of_api?_eq_some hapi).2] at hstored
    have hholdings : ∀ definition, c'.store.holdings (c'.store.startingApi (some api) definition) =
        c.store.holdings (c.store.startingApi (some api) definition) := fun _ =>
      huntouched.holdings
    simp only [forecast, existing?, hapi, hstored, bind, Except.bind, hplanned, hholdings]

theorem reportAlone_eq {c' : Catalog} (hc : c.store.Consistent) (hfollows : c.Follows c')
    (hkept : ∀ id, request.apiId = some id → ∃ api, c.store.api? id = some api ∧
      c.Untouched c' api) : c'.reportAlone request = c.reportAlone request := by
  have hdocument : ∀ version excluded,
      (request.apiId.bind fun id => c'.exported id version excluded) =
        request.apiId.bind fun id => c.exported id version excluded := by
    intro version excluded
    cases hid : request.apiId with
    | none => rfl
    | some id =>
      obtain ⟨api, hapi, huntouched⟩ := hkept id hid
      obtain rfl := (Store.mem_of_api?_eq_some hapi).2
      exact congrFun (congrFun (huntouched.exported_eq hc hfollows.consistent hapi) _) _
  rw [reportAlone, reportAlone, forecast_eq hfollows hkept]
  simp only [hdocument]

/-- Imports of which each creates an API or updates another one of those that are stored. -/
structure Apart (c : Catalog) (requests : List ImportRequest) : Prop where
  stored : ∀ request ∈ requests, ∀ id, request.apiId = some id → (c.store.api? id).isSome = true
  distinct : (requests.filterMap (·.apiId)).Nodup

theorem Apart.perm {requests requests' : List ImportRequest} (h : c.Apart requests)
    (hperm : requests.Perm requests') : c.Apart requests' where
  stored request hrequest := h.stored request (hperm.symm.subset hrequest)
  distinct := (hperm.filterMap _).nodup_iff.mp h.distinct

theorem Apart.singleton {requests : List ImportRequest} (h : c.Apart requests)
    (hrequest : request ∈ requests) : c.Apart [request] where
  stored := List.forall_mem_singleton.mpr (h.stored request hrequest)
  distinct := by cases hid : request.apiId <;> simp [hid]

section Cons

variable {requests : List ImportRequest} (h : c.Apart (request :: requests))
include h

theorem Apart.apiId_ne {id : String} (hid : request.apiId = some id) :
    ∀ other ∈ requests, other.apiId ≠ some id := by
  intro other hother he
  have hdistinct := h.distinct
  rw [List.filterMap_cons_some hid, List.nodup_cons] at hdistinct
  exact hdistinct.1 (List.mem_filterMap.mpr ⟨other, hother, he⟩)

/-- The API of a later import is there, and the first import leaves it alone. -/
theorem Apart.untouched (hc : c.store.Consistent) {other : ImportRequest}
    (hother : other ∈ requests) {id : String} (hid : other.apiId = some id) :
    ∃ api, c.store.api? id = some api ∧ c.Untouched (c.importing request).2 api := by
  obtain ⟨api, hapi⟩ :=
    Option.isSome_iff_exists.mp (h.stored other (List.mem_cons_of_mem _ hother) id hid)
  have hsame := (Store.mem_of_api?_eq_some hapi).2
  refine ⟨api, hapi, untouched_importing hc (hsame ▸ hapi) fun he => ?_⟩
  exact h.apiId_ne he other hother (hsame ▸ hid)

theorem Apart.tail (hc : c.store.Consistent) : (c.importing request).2.Apart requests where
  stored other hother id hid := by
    obtain ⟨api, hapi, huntouched⟩ := h.untouched hc hother hid
    have hstored := huntouched.stored
    rw [(Store.mem_of_api?_eq_some hapi).2] at hstored
    rw [hstored]
    rfl
  distinct := h.distinct.sublist ((List.sublist_cons_self request requests).filterMap _)

theorem Apart.apiId_ne_targetId {existing : Option Api} {definition : Definition}
    {members : List PlannedMember}
    (hi : Importable c request.apiId request.parsed existing definition members) :
    ∀ other ∈ requests, other.apiId ≠ some (c.store.targetId existing definition) := by
  intro other hother hid
  rw [hi.targetId_eq] at hid
  cases happ : request.apiId with
  | some id => exact h.apiId_ne happ other hother (by rwa [happ] at hid)
  | none =>
    have hstored := h.stored other (List.mem_cons_of_mem _ hother) _ hid
    rw [happ, Option.getD_none, c.store.api?_freshApiId] at hstored
    cases hstored

/-- Imports that follow change nothing about what is seen of an import. -/
theorem Apart.report_eq (hc : c.store.Consistent) :
    ((c.importing request).2.importAll requests).2.report request (c.importing request).1 =
      c.reportAlone request := by
  have hnext := follows_importing hc request
  have hlast := follows_importAll hnext.consistent requests
  rcases importing_cases hc request with
    ⟨e, hforecast, metrics, he⟩ | ⟨existing, definition, members, metrics, hi, hforecast, he⟩
  · have hdocument : ∀ id, request.apiId = some id →
        ((c.importing request).2.importAll requests).2.exported id = c.exported id := by
      intro id hid
      obtain ⟨api, hapi⟩ :=
        Option.isSome_iff_exists.mp (h.stored request List.mem_cons_self id hid)
      obtain rfl := (Store.mem_of_api?_eq_some hapi).2
      have hsame : c.Untouched (c.importing request).2 api := by
        rw [he]
        exact ⟨hapi, rfl⟩
      have hrest := untouched_importAll hnext.consistent hsame.stored (h.apiId_ne hid)
      exact (hsame.trans hrest).exported_eq hc hlast.consistent hapi
    have hresult : (c.importing request).1 = .error e := by rw [he]
    rw [reportAlone, hforecast, report, hresult]
    congr 1
    funext version excluded
    cases hid : request.apiId with
    | none => simp [ImportRequest.target?, hid]
    | some id => simp [ImportRequest.target?, hid, hdocument id hid]
  · let saved := (c.store.withGroups definition.groups).savedApi existing definition
    have hstored : (c.importing request).2.store.api? saved.id = some saved := by
      rw [he]
      exact Store.api?_imported fun _ => hi.api?_eq
    have hholdings : (c.importing request).2.store.holdings saved =
        (c.store.holdings (c.store.startingApi existing definition)).imported definition
          (Store.newOwner existing request.actingUser) members := by
      rw [he]
      exact hi.holdings_imported hc request.actingUser
    have hrest := untouched_importAll hnext.consistent hstored (h.apiId_ne_targetId hi)
    have hresult : (c.importing request).1 = .ok saved := by rw [he]
    rw [reportAlone, hforecast, report, hresult]
    congr 1
    funext version excluded
    rw [ImportRequest.target?, Option.bind_some, Catalog.exported_eq hlast.consistent hrest.stored,
      hrest.holdings, hholdings]

end Cons

theorem reports_eq (hc : c.store.Consistent) {requests : List ImportRequest}
    (h : c.Apart requests) : c.reports requests = requests.map c.reportAlone := by
  induction requests generalizing c with
  | nil => rfl
  | cons request requests ih =>
    have hnext := follows_importing hc request
    have hrest : (c.importing request).2.reports requests = requests.map c.reportAlone := by
      rw [ih hnext.consistent (h.tail hc)]
      exact List.map_congr_left fun other hother =>
        reportAlone_eq hc hnext fun _ hid => h.untouched hc hother hid
    rw [List.map_cons, ← hrest, ← h.report_eq hc]
    rfl

end Catalog

/-- Imports into different APIs are independent. Whatever they are, in every order each of them ends
and is seen afterwards as if it had been made alone. -/
theorem imports_independent (identities : Identities) (steps : List (Event ⊕ StoreWrite))
    (requests requests' : List ImportRequest) (hperm : requests.Perm requests') :
    let before := (Catalog.start identities).afterSteps steps
    before.Apart requests →
      ∃ report : ImportRequest → ImportReport,
        (∀ request ∈ requests, before.reports [request] = [report request]) ∧
        before.reports requests = requests.map report ∧
        before.reports requests' = requests'.map report := by
  intro before h
  have hbefore : before.store.Consistent :=
    Catalog.consistent_afterSteps (Catalog.consistent_start identities) steps
  exact ⟨before.reportAlone,
    fun _ hrequest => Catalog.reports_eq hbefore (h.singleton hrequest),
    Catalog.reports_eq hbefore h, Catalog.reports_eq hbefore (h.perm hperm)⟩

/-- Two new APIs and an old one join a group that none of them finds. -/
theorem imports_independent_partners :
    let shop : Definition := { details := { name := "Shop", version := "1" } }
    let joining : Definition := { shop with groups := ["Partners"] }
    let steps : List (Event ⊕ StoreWrite) := [.inl (.imported none (.ok shop) none)]
    let before := (Catalog.start {}).afterSteps steps
    let requests : List ImportRequest :=
      [⟨none, .ok joining, some "ada"⟩, ⟨some "api~1", .ok joining, none⟩,
        ⟨none, .ok joining, none⟩]
    before.Apart requests ∧
      ∃ report : ImportRequest → ImportReport,
        before.reports requests = requests.map report ∧
        before.reports requests.reverse = requests.reverse.map report := by
  intro shop joining steps before requests
  have h : before.Apart requests := ⟨by
    intro request hrequest id hid
    have hall : ∀ request ∈ requests, request.apiId = none ∨ request.apiId = some "api~1" := by
      simp [requests]
    rcases hall request hrequest with he | he <;> rw [he] at hid <;> cases hid
    rfl, by decide⟩
  obtain ⟨report, -, hreports⟩ :=
    imports_independent {} steps requests requests.reverse (List.reverse_perm requests).symm h
  exact ⟨h, report, hreports⟩

end ApiCatalog
