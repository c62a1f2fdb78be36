import ApiCatalog.Proofs.Regular
import ApiCatalog.Proofs.Store.Counts
import Mathlib.Algebra.GroupWithZero.Nat

/-! # Accounts of writes

The store counts what is written to it, and imports and logins count what they do. In ordinary use
both counts agree with each other and with what is stored, and no count is ever lowered.
-/

namespace ApiCatalog

/-- The counters to which an import adds a write of a kind. -/
def WriteKind.metrics : WriteKind → List Metric
  | apiCreate => [.changes .api .create]
  | apiUpdate => [.changes .api .update]
  | memberUpsert => [.changes .member .create, .changes .member .update]
  | pageCreate => [.changes .page .create]
  | pageUpdate => [.changes .page .update]
  | planCreate => [.changes .plan .create]
  | planUpdate => [.changes .plan .update]
  | groupCreate => [.changes .group .create]

namespace Metrics

/-- How many writes of a kind the counters of imports tell of. -/
def recorded (metrics : Metrics) (kind : WriteKind) : Nat := (kind.metrics.map metrics.count).sum

theorem recorded_add (metrics : Metrics) (metric : Metric) (n : Nat) (kind : WriteKind) :
    (metrics.add metric n).recorded kind =
      metrics.recorded kind + if metric ∈ kind.metrics then n else 0 := by
  have hsum : ∀ ms : List Metric, ms.Nodup →
      (ms.map (metrics.add metric n).count).sum =
        (ms.map metrics.count).sum + if metric ∈ ms then n else 0 := by
    intro ms hnodup
    induction ms with
    | nil => rfl
    | cons m ms ih =>
      obtain ⟨hm, hms⟩ := List.nodup_cons.mp hnodup
      rw [List.map_cons, List.map_cons, List.sum_cons, List.sum_cons, ih hms, count_add]
      by_cases he : m = metric
      · subst he
        simp only [if_neg hm, List.mem_cons_self, if_true]
        omega
      · simp only [if_neg he, List.mem_cons, Ne.symm he, false_or]
        omega
  exact hsum kind.metrics (by cases kind <;> decide)

theorem count_le_count_add (metrics : Metrics) (metric other : Metric) (n : Nat) :
    metrics.count other ≤ (metrics.add metric n).count other := by
  rw [count_add]
  exact Nat.le_add_right _ _

end Metrics

theorem Store.wrote_foldl_after (store : Store) (user : Member) (assignments : List Assignment) :
    Wrote .memberUpsert assignments.length store
      (assignments.foldl (Assignment.after user) store) := by
  induction assignments generalizing store with
  | nil => exact Wrote.refl _ store
  | cons a assignments ih =>
    rw [List.length_cons, Nat.add_comm]
    exact (store.wrote_withGrant a.reference user a.role).trans (ih _)

namespace Catalog

structure NoLess (c c' : Catalog) : Prop where
  get_le : ∀ kind, c.store.writes.get kind ≤ c'.store.writes.get kind
  count_le : ∀ metric, c.metrics.count metric ≤ c'.metrics.count metric

/-- What has been written is counted by the store and by the counters of imports alike, except for
so many memberships that were given otherwise. -/
structure Booked (given : Nat) (c c' : Catalog) : Prop extends NoLess c c' where
  accurate : c.store.Accurate → c'.store.Accurate
  recorded_eq : ∀ kind,
    c.store.writes.get kind + c'.metrics.recorded kind +
        (if kind = .memberUpsert then given else 0) =
      c'.store.writes.get kind + c.metrics.recorded kind

structure PieceBooked (c c' : Catalog) : Prop extends Booked 0 c c' where
  imports_eq : ∀ outcome,
    c'.metrics.count (.imports outcome) = c.metrics.count (.imports outcome)

variable {c c' c'' : Catalog}

theorem NoLess.refl (c : Catalog) : NoLess c c := ⟨fun _ => le_rfl, fun _ => le_rfl⟩

theorem NoLess.trans (h : NoLess c c') (h' : NoLess c' c'') : NoLess c c'' :=
  ⟨fun kind => (h.get_le kind).trans (h'.get_le kind),
    fun metric => (h.count_le metric).trans (h'.count_le metric)⟩

namespace Booked

variable {given given' : Nat}

theorem refl (c : Catalog) : Booked 0 c c :=
  { NoLess.refl c with accurate := id, recorded_eq := fun kind => by simp }

theorem trans (h : Booked given c c') (h' : Booked given' c' c'') :
    Booked (given + given') c c'' :=
  { h.toNoLess.trans h'.toNoLess with
    accurate := h'.accurate ∘ h.accurate
    recorded_eq := fun kind => by
      have hkind := h.recorded_eq kind
      have hkind' := h'.recorded_eq kind
      by_cases hk : kind = .memberUpsert
      · simp only [if_pos hk] at hkind hkind' ⊢
        omega
      · simp only [if_neg hk] at hkind hkind' ⊢
        omega }

theorem add (h : Booked given c c') {metric : Metric}
    (hmetric : ∀ kind : WriteKind, metric ∉ kind.metrics) (n : Nat) :
    Booked given c { c' with metrics := c'.metrics.add metric n } where
  get_le := h.get_le
  count_le other := (h.count_le other).trans (c'.metrics.count_le_count_add metric other n)
  accurate := h.accurate
  recorded_eq kind := by
    rw [← h.recorded_eq kind, Metrics.recorded_add, if_neg (hmetric kind), Nat.add_zero]

theorem identified (h : Booked given c c') (identities : Identities) :
    Booked given c { c' with identities } := { h with }

theorem of_given {store' : Store} (hwrote : c.store.Wrote .memberUpsert given store') :
    Booked given c { c with store := store' } where
  get_le kind := by
    rw [hwrote.get_eq]
    exact Nat.le_add_right _ _
  count_le _ := le_rfl
  accurate := hwrote.accurate
  recorded_eq kind := by
    simp only [hwrote.get_eq]
    omega

theorem applied (mapping : Mapping) (user : Member) (profile : Json) (groups : List Group)
    (c : Catalog) :
    Booked (mapping.assignments c.store groups profile).length c
      (mapping.applied user profile groups c) := by
  have hwrote := c.store.wrote_foldl_after user (mapping.assignments c.store groups profile)
  exact ((of_given hwrote).add (fun kind => by cases kind <;> decide) _).add
    (fun kind => by cases kind <;> decide) _

end Booked

namespace PieceBooked

instance : Std.Refl PieceBooked where
  refl c := { Booked.refl c with imports_eq := fun _ => rfl }

instance : IsTrans Catalog PieceBooked where
  trans _ _ _ h h' := { h.toBooked.trans h'.toBooked with
    imports_eq := fun outcome => (h'.imports_eq outcome).trans (h.imports_eq outcome) }

theorem of_wrote {kind : WriteKind} {metric : Metric}
    (hmetric : ∀ k : WriteKind, metric ∈ k.metrics ↔ k = kind) {store' : Store}
    (hwrote : c.store.Wrote kind 1 store') :
    PieceBooked c { c with store := store', metrics := c.metrics.add metric 1 } where
  get_le k := by
    rw [hwrote.get_eq]
    exact Nat.le_add_right _ _
  count_le other := c.metrics.count_le_count_add metric other 1
  accurate := hwrote.accurate
  recorded_eq k := by
    simp only [hwrote.get_eq, Metrics.recorded_add, hmetric, ite_self]
    omega
  imports_eq outcome := by
    have hne : Metric.imports outcome ≠ metric := by
      rintro rfl
      have hmem := (hmetric kind).mpr rfl
      cases kind <;> simp [WriteKind.metrics] at hmem
    rw [Metrics.count_add, if_neg hne, Nat.add_zero]

end PieceBooked

open CatalogM

/-- An operation on the store that is counted if it is not refused. -/
theorem moves_booked {α β : Type} {operation : StoreM α} {kind : WriteKind} {metric : Metric}
    (hwrites : Store.Writes kind operation)
    (hmetric : ∀ k : WriteKind, metric ∈ k.metrics ↔ k = kind) {next : α → CatalogM β}
    (hnext : ∀ x c, ((next x).runOn c).2 = { c with metrics := c.metrics.add metric 1 }) :
    Moves PieceBooked (CatalogM.onStore operation >>= next) := by
  intro c
  rcases hwrites c.store with ⟨e, he⟩ | ⟨x, store', he, hwrote⟩
  · have hrun : (CatalogM.onStore operation).runOn c = (.error e, c) := by rw [runOn_onStore, he]
    rw [runOn_bind_error hrun]
    exact refl_of PieceBooked c
  · have hrun : (CatalogM.onStore operation).runOn c = (.ok x, { c with store := store' }) := by
      rw [runOn_onStore, he]
    rw [runOn_bind_ok hrun, hnext]
    exact PieceBooked.of_wrote hmetric hwrote

theorem importing_booked : Importing PieceBooked where
  refl := refl_of PieceBooked
  trans _ _ _ := trans_of PieceBooked
  ensureGroup name := by
    refine (Moves.fromStore _).bind fun found => ?_
    cases found with
    | some group => exact Moves.pure _
    | none =>
      exact moves_booked (Store.writes_createGroup name) (fun k => by cases k <;> decide)
        fun _ _ => rfl
  saveApi existing definition groupIds := by
    cases existing with
    | some api =>
      exact moves_booked (Store.writes_updateApi _) (fun k => by cases k <;> decide) fun _ _ => rfl
    | none =>
      refine (Moves.fromStore _).bind fun id => ?_
      exact moves_booked (Store.writes_createApi _) (fun k => by cases k <;> decide) fun _ _ => rfl
  assignOwner apiId username :=
    moves_booked (Store.writes_giveRole _ _ _) (fun k => by cases k <;> decide) fun _ _ => rfl
  memberStep reference step := by
    cases step with
    | keep =>
      exact fun c => { (Booked.refl c).add (fun kind => by cases kind <;> decide) 1 with
        imports_eq := fun outcome => c.metrics.count_add (.skips .member) (.imports outcome) 1 }
    | assign m kind =>
      exact moves_booked (Store.writes_giveRole _ _ _)
        (fun k => by cases kind <;> cases k <;> decide) fun _ _ => rfl
  pageStep apiId contributor step := by
    cases step with
    | update id entry =>
      exact moves_booked (Store.writes_updatePage _ _ _ _) (fun k => by cases k <;> decide)
        fun _ _ => rfl
    | create entry =>
      exact moves_booked (Store.writes_createPage _ _ _) (fun k => by cases k <;> decide)
        fun _ _ => rfl
  planStep apiId step := by
    cases step with
    | update id entry =>
      exact moves_booked (Store.writes_updatePlan _ _ _) (fun k => by cases k <;> decide)
        fun _ _ => rfl
    | create entry =>
      exact moves_booked (Store.writes_createPlan _ _) (fun k => by cases k <;> decide)
        fun _ _ => rfl

/-- What a visit comes to, if it is an import. -/
def resultOf? (c : Catalog) : Visit → Option (Except Error Api)
  | .imported apiId payload actingUser =>
    some ((importDefinition apiId payload actingUser).runOn c).1
  | .loggedIn _ _ => none

def given (c : Catalog) : Visit → Nat
  | .imported _ _ _ => 0
  | .loggedIn authenticator reply =>
    match ((authenticator.connect reply).runOn c).1 with
    | .ok login => login.outcome.membershipsApplied
    | .error _ => 0

/-- How many memberships the logins among visits give. -/
def givenBy (c : Catalog) : List Visit → Nat
  | [] => 0
  | visit :: visits => c.given visit + (c.afterEvent visit.event).givenBy visits

/-- Every visit is booked, and an import is counted once by what it has come to. -/
theorem booked_afterEvent (c : Catalog) (visit : Visit) :
    Booked (c.given visit) c (c.afterEvent visit.event) ∧
      ∀ outcome,
        (c.afterEvent visit.event).metrics.count (.imports outcome) =
          c.metrics.count (.imports outcome) +
            if (c.resultOf? visit).map Metric.outcome = some outcome then 1 else 0 := by
  cases visit with
  | imported apiId payload actingUser =>
    obtain ⟨result, c', hpieces, hrun⟩ := runOn_importParsed_of_importing importing_booked apiId
      (Definition.parse payload) actingUser c
    have hresult : c.resultOf? (.imported apiId payload actingUser) = some result :=
      congrArg (fun run : Except Error Api × Catalog => some run.1) hrun
    rw [Visit.event, afterEvent, hresult, hrun]
    refine ⟨hpieces.toBooked.add (fun kind => by cases kind <;> simp [WriteKind.metrics]) 1,
      fun outcome => ?_⟩
    rw [Metrics.count_add, hpieces.imports_eq]
    simp [eq_comm]
  | loggedIn authenticator reply =>
    have hlogins : ∀ outcome (kind : WriteKind), .logins outcome ∉ kind.metrics := fun _ kind => by
      cases kind <;> simp [WriteKind.metrics]
    obtain ⟨identities, -, ⟨e, hrun⟩ | ⟨profile, user, groups, -, -, hrun⟩⟩ :=
      authenticator.runOn_connect reply c
    · have hgiven : c.given (.loggedIn authenticator reply) = 0 := by rw [given, hrun]
      rw [Visit.event, afterEvent, hgiven, hrun]
      refine ⟨((Booked.refl c).identified identities).add (hlogins _) 1, fun outcome => ?_⟩
      rw [Metrics.count_add]
      rfl
    · have hgiven : c.given (.loggedIn authenticator reply) =
          (authenticator.mapping.assignments c.store groups profile).length := by
        rw [given, hrun]
      rw [Visit.event, afterEvent, hgiven, hrun]
      refine ⟨((Booked.applied _ _ _ _ c).identified identities).add (hlogins _) 1,
        fun outcome => ?_⟩
      simp only [Mapping.applied, Metrics.count_add]
      rfl

theorem booked_after (c : Catalog) (visits : List Visit) :
    Booked (c.givenBy visits) c (c.after (visits.map Visit.event)) := by
  induction visits generalizing c with
  | nil => exact Booked.refl c
  | cons visit visits ih => exact (c.booked_afterEvent visit).1.trans (ih _)

end Catalog

/-- Of several entries with one key the first creates or revises a record and the others do nothing,
so that there are as many writes as keys. -/
theorem Upsert.writes_eq {α ε κ ι : Type} [DecidableEq ι] (u : Upsert α ε κ) (xs : List α)
    (key : ε → ι) (es : List ε) {creates creates' updates updates' : Nat}
    (hcreates : creates = creates') (hupdates : updates = updates') :
    (creates + (firsts key es).countP (u.isNew xs) - creates') +
        (updates + (firsts key es).countP (!u.isNew xs ·) - updates') =
      (es.map key).toFinset.card := by
  subst hcreates hupdates
  rw [Nat.add_sub_cancel_left, Nat.add_sub_cancel_left, ← length_firsts,
    List.length_eq_countP_add_countP (u.isNew xs)]
  simp

namespace Store

variable (store : Store) (existing : Option Api) (definition : Definition)
  (actingUser : Option String) (members : List PlannedMember)

theorem get_beforeMembers (kind : WriteKind)
    (hkind : kind ∈ [.pageCreate, .pageUpdate, .planCreate, .planUpdate]) :
    (store.beforeMembers existing definition actingUser).writes.get kind =
      store.writes.get kind := by
  simp only [List.mem_cons, List.not_mem_nil, or_false] at hkind
  rcases hkind with rfl | rfl | rfl | rfl <;> cases existing <;> cases actingUser <;> rfl

theorem pageWrites_imported :
    let writes := (store.imported existing definition actingUser members).writes.since store.writes
    writes.pageCreates + writes.pageUpdates =
      (definition.pages.map PageEntry.name).toFinset.card :=
  (pageUpsert (store.targetId existing definition) actingUser).writes_eq
    _ PageEntry.name definition.pages
    (store.get_beforeMembers existing definition actingUser .pageCreate (by decide))
    (store.get_beforeMembers existing definition actingUser .pageUpdate (by decide))

theorem planWrites_imported :
    let writes := (store.imported existing definition actingUser members).writes.since store.writes
    writes.planCreates + writes.planUpdates =
      (definition.plans.map PlanEntry.key).toFinset.card :=
  (planUpsert (store.targetId existing definition)).writes_eq
    _ PlanEntry.key definition.plans
    (store.get_beforeMembers existing definition actingUser .planCreate (by decide))
    (store.get_beforeMembers existing definition actingUser .planUpdate (by decide))

end Store

theorem Metric.outcome_eq_success_iff {α : Type} {result : Except Error α} :
    outcome result = success ↔ ∃ x, result = .ok x := by
  cases result with
  | ok x => exact ⟨fun _ => ⟨x, rfl⟩, fun _ => rfl⟩
  | error e =>
    have hne : e.kind ≠ success := by cases e <;> simp [Error.kind, success]
    exact ⟨fun h => absurd h hne, fun ⟨_, h⟩ => nomatch h⟩

/-- How an import of a payload is accounted for. It is counted as a success only if it is one, and
writes one page for each name and one plan for each key then, and nothing otherwise. -/
structure ImportAccounted (c c' : Catalog) (payload : List UInt8) (result : Except Error Api) :
    Prop where
  success : Metric.outcome result = Metric.success ↔ ∃ api, result = .ok api
  written : ∀ api, result = .ok api → ∃ definition, Definition.parse payload = .ok definition ∧
    (c'.store.writes.since c.store.writes).pageCreates +
        (c'.store.writes.since c.store.writes).pageUpdates =
      (definition.pages.map PageEntry.name).toFinset.card ∧
    (c'.store.writes.since c.store.writes).planCreates +
        (c'.store.writes.since c.store.writes).planUpdates =
      (definition.plans.map PlanEntry.key).toFinset.card
  unwritten : ∀ e, result = .error e → c'.store = c.store

/-- The accounts of a catalog in which logins have given `given` memberships. -/
structure Accounted (c : Catalog) (given : Nat) : Prop where
  apis : c.store.writes.apiCreates = c.metrics.count (.changes .api .create) ∧
    c.store.writes.apiUpdates = c.metrics.count (.changes .api .update)
  pages : c.store.writes.pageCreates = c.metrics.count (.changes .page .create) ∧
    c.store.writes.pageUpdates = c.metrics.count (.changes .page .update)
  plans : c.store.writes.planCreates = c.metrics.count (.changes .plan .create) ∧
    c.store.writes.planUpdates = c.metrics.count (.changes .plan .update)
  groups : c.store.writes.groupCreates = c.metrics.count (.changes .group .create)
  members : c.store.writes.memberUpserts =
    c.metrics.count (.changes .member .create) + c.metrics.count (.changes .member .update) + given
  stored : c.store.writes.apiCreates = c.store.apis.length ∧
    c.store.writes.pageCreates = c.store.pages.length ∧
    c.store.writes.planCreates = c.store.plans.length ∧
    c.store.writes.groupCreates = c.store.groups.length
  /-- Every import is counted once, by what it comes to, and nothing else is. -/
  outcomes : ∀ visit outcome,
    (c.afterEvent visit.event).metrics.count (.imports outcome) =
      c.metrics.count (.imports outcome) +
        if (c.resultOf? visit).map Metric.outcome = some outcome then 1 else 0
  imports : ∀ apiId payload actingUser,
    ImportAccounted c ((importDefinition apiId payload actingUser).runOn c).2 payload
      ((importDefinition apiId payload actingUser).runOn c).1
  /-- No count is ever lowered. -/
  counters_le : ∀ (visits : List Visit) (metric : Metric),
    c.metrics.count metric ≤ (c.after (visits.map Visit.event)).metrics.count metric
  writes_since : ∀ (visits : List Visit) (kind : WriteKind),
    c.store.writes.get kind +
        ((c.after (visits.map Visit.event)).store.writes.since c.store.writes).get kind =
      (c.after (visits.map Visit.event)).store.writes.get kind

/-- In ordinary use the counters of imports and the counts of the store agree, apart from the
memberships that logins give, and tell how much is stored. Nothing that is counted is lost between
two counts. -/
theorem accounts_agree (identities : Identities) (visits : List Visit) :
    Accounted ((Catalog.start identities).after (visits.map Visit.event))
      ((Catalog.start identities).givenBy visits) := by
  generalize hc : (Catalog.start identities).after (visits.map Visit.event) = c
  have hbooked := hc ▸ (Catalog.start identities).booked_after visits
  have hregular := hc ▸ Catalog.regular_after identities visits
  have hrecorded : ∀ kind, c.store.writes.get kind = c.metrics.recorded kind +
      if kind = .memberUpsert then (Catalog.start identities).givenBy visits else 0 := by
    intro kind
    have hkind := hbooked.recorded_eq kind
    have hstart : (Catalog.start identities).store.writes.get kind = 0 := by cases kind <;> rfl
    have hstart' : (Catalog.start identities).metrics.recorded kind = 0 := by cases kind <;> rfl
    rw [hstart, hstart', Nat.zero_add, Nat.add_zero] at hkind
    exact hkind.symm
  have haccurate : c.store.Accurate := hbooked.accurate fun kind n hn => by
    cases kind <;> cases hn <;> rfl
  constructor
  case apis => exact ⟨hrecorded .apiCreate, hrecorded .apiUpdate⟩
  case pages => exact ⟨hrecorded .pageCreate, hrecorded .pageUpdate⟩
  case plans => exact ⟨hrecorded .planCreate, hrecorded .planUpdate⟩
  case groups => exact hrecorded .groupCreate
  case members => exact hrecorded .memberUpsert
  case stored =>
    exact ⟨haccurate .apiCreate _ rfl, haccurate .pageCreate _ rfl, haccurate .planCreate _ rfl,
      haccurate .groupCreate _ rfl⟩
  case outcomes => exact fun visit => (c.booked_afterEvent visit).2
  case imports =>
    intro apiId payload actingUser
    rcases runOn_importParsed hregular.seeded_owner apiId (Definition.parse payload) actingUser with
      ⟨e, metrics, he⟩ | ⟨existing, definition, members, metrics, hi, he⟩
    · rw [importDefinition, he]
      exact ⟨Metric.outcome_eq_success_iff, nofun, fun _ _ => rfl⟩
    · rw [importDefinition, he]
      exact ⟨Metric.outcome_eq_success_iff, fun _ _ => ⟨definition, hi.parsed_eq,
        c.store.pageWrites_imported existing definition actingUser members,
        c.store.planWrites_imported existing definition actingUser members⟩, nofun⟩
  case counters_le => exact fun visits' => (c.booked_after visits').toNoLess.count_le
  case writes_since =>
    intro visits' kind
    have hle := (c.booked_after visits').toNoLess.get_le kind
    rw [WriteCounts.get_since, Nat.add_sub_cancel' hle]

end ApiCatalog
