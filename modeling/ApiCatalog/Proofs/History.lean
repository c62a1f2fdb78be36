import ApiCatalog.Import
import ApiCatalog.Login
import ApiCatalog.Proofs.Store.Consistent
import ApiCatalog.Proofs.Task

/-! # Histories of a catalog

What can happen to a catalog from its start on. Imports and logins change the store by its own
operations only, so that every catalog with a history has a consistent store.
-/

namespace ApiCatalog

/-- What happens to a catalog. -/
inductive Event where
  | imported (apiId : Option String) (parsed : Except DefinitionFault Definition)
    (actingUser : Option String)
  | loggedIn (authenticator : Authenticator) (reply : UserinfoReply)
  | roleAdded (role : Role)
  | groupInserted (group : Group)

namespace Catalog

/-- A catalog without content, with the identity providers that it is set up with. -/
def start (identities : Identities) : Catalog := { identities }

def onStore (catalog : Catalog) (f : Store → Store) : Catalog :=
  { catalog with store := f catalog.store }

/-- The catalog after an event, whether it succeeds or not. -/
def afterEvent (catalog : Catalog) : Event → Catalog
  | .imported apiId parsed actingUser => ((importParsed apiId parsed actingUser).runOn catalog).2
  | .loggedIn authenticator reply => ((authenticator.connect reply).runOn catalog).2
  | .roleAdded role => catalog.onStore (Store.addRole role)
  | .groupInserted group => catalog.onStore (Store.insertGroup group)

def after (catalog : Catalog) (events : List Event) : Catalog := events.foldl afterEvent catalog

def afterStep (catalog : Catalog) : Event ⊕ StoreWrite → Catalog
  | .inl event => catalog.afterEvent event
  | .inr write => catalog.onStore write.run

def afterSteps (catalog : Catalog) (steps : List (Event ⊕ StoreWrite)) : Catalog :=
  steps.foldl afterStep catalog

@[simp] theorem after_cons (catalog : Catalog) (event : Event) (events : List Event) :
    catalog.after (event :: events) = (catalog.afterEvent event).after events := rfl

@[simp] theorem after_append (catalog : Catalog) (events events' : List Event) :
    catalog.after (events ++ events') = (catalog.after events).after events' :=
  List.foldl_append

theorem after_induction {P : Catalog → Prop} (hstep : ∀ c event, P c → P (c.afterEvent event))
    {catalog : Catalog} (h : P catalog) (events : List Event) : P (catalog.after events) := by
  induction events generalizing catalog with
  | nil => exact h
  | cons event events ih => exact ih (hstep catalog event h)

end Catalog

/-- A relation that holds across every write to the store and across all counting. -/
structure Moving (R : Catalog → Catalog → Prop) : Prop extends Std.Refl R, IsTrans Catalog R where
  write : ∀ c (w : StoreWrite), R c (c.onStore w.run)
  count : ∀ c (metrics : Metrics), R c { c with metrics }

/-- A relation that holds across every piece of work that an import is made of. -/
structure Importing (R : Catalog → Catalog → Prop) : Prop extends
    Std.Refl R, IsTrans Catalog R where
  ensureGroup : ∀ name, CatalogM.Moves R (ensureGroup name)
  saveApi : ∀ existing definition groupIds, CatalogM.Moves R (saveApi existing definition groupIds)
  assignOwner : ∀ apiId username, CatalogM.Moves R (assignOwner apiId username)
  memberStep : ∀ reference (step : MemberStep), CatalogM.Moves R (step.run reference)
  pageStep : ∀ apiId contributor (step : PageStep), CatalogM.Moves R (step.run apiId contributor)
  planStep : ∀ apiId (step : PlanStep), CatalogM.Moves R (step.run apiId)

section Moves

open CatalogM

variable {R : Catalog → Catalog → Prop} {α : Type}

theorem moves_importGroups (h : Importing R) (names : List String) :
    Moves R (importGroups names) := by
  have := h.toRefl
  have := h.toIsTrans
  induction names with
  | nil => exact Moves.pure _
  | cons name names ih =>
    exact (h.ensureGroup name).bind fun _ => ih.bind fun _ => Moves.pure _

theorem moves_reconcile (h : Importing R) (existing : Option Api) (definition : Definition)
    (actingUser : Option String) : Moves R (reconcile existing definition actingUser) := by
  have := h.toRefl
  have := h.toIsTrans
  refine Moves.get.bind fun c => (Moves.ofResult _).bind fun members => ?_
  refine (moves_importGroups h _).bind fun groupIds => ?_
  refine (h.saveApi _ _ _).bind fun api => ?_
  have hmembers : Moves R (importMembers api.id members) :=
    (Moves.fromStore _).bind fun steps => Moves.forM (h.memberStep _) steps
  have hpages : Moves R (importPages api.id actingUser definition.pages) :=
    (Moves.fromStore _).bind fun steps => Moves.forM (h.pageStep _ _) steps
  have hplans : Moves R (importPlans api.id definition.plans) :=
    (Moves.fromStore _).bind fun steps => Moves.forM (h.planStep _) steps
  have hrest : Moves R (do
      importMembers api.id members
      importPages api.id actingUser definition.pages
      importPlans api.id definition.plans
      return api) :=
    hmembers.bind fun _ => hpages.bind fun _ => hplans.bind fun _ => Moves.pure _
  cases existing with
  | some _ => exact hrest
  | none =>
    cases actingUser with
    | some username => exact (h.assignOwner _ _).bind fun _ => hrest
    | none => exact hrest

/-- An import is counted once, whatever it has come to. -/
theorem runOn_importParsed_of_importing (h : Importing R) (apiId : Option String)
    (parsed : Except DefinitionFault Definition) (actingUser : Option String) (c : Catalog) :
    ∃ result c', R c c' ∧
      (importParsed apiId parsed actingUser).runOn c =
        (result, { c' with metrics := c'.metrics.add (.imports (Metric.outcome result)) 1 }) := by
  have := h.toRefl
  have := h.toIsTrans
  have hexisting : Moves R (existingApi? apiId) := by
    cases apiId with
    | none => exact Moves.pure _
    | some id =>
      refine (Moves.fromStore _).bind fun found => ?_
      cases found with
      | some api => exact Moves.pure _
      | none => exact Moves.throw _
  cases parsed with
  | ok definition =>
    have htask : Moves R (existingApi? apiId >>= (reconcile · definition actingUser)) :=
      hexisting.bind fun existing => moves_reconcile h existing definition actingUser
    exact ⟨_, _, htask c, rfl⟩
  | error fault =>
    have htask : Moves R (existingApi? apiId >>= fun _ => (throw fault.toError : CatalogM Api)) :=
      hexisting.bind fun _ => Moves.throw _
    exact ⟨_, _, htask c, rfl⟩

theorem moves_count (h : Moving R) (metric : Metric) (n : Nat) : Moves R (count metric n) :=
  fun c => h.count c _

theorem moves_write (h : Moving R) {operation : StoreM α} (w : StoreWrite)
    (hw : ∀ store, (operation store).2 = w.run store) : Moves R (onStore operation) := by
  intro c
  have hc := h.write c w
  rw [Catalog.onStore, ← hw] at hc
  exact hc

theorem moves_giveRole (h : Moving R) (reference : Reference) (user : Member) (role : RoleName) :
    Moves R (onStore (Store.giveRole reference user role)) :=
  moves_write h (.giveRole reference user role) fun _ => rfl

theorem Moving.importing (h : Moving R) : Importing R := by
  have := h.toRefl
  have := h.toIsTrans
  refine { h.toRefl, h.toIsTrans with
    ensureGroup := ?ensureGroup
    saveApi := ?saveApi
    assignOwner := ?assignOwner
    memberStep := ?memberStep
    pageStep := ?pageStep
    planStep := ?planStep }
  case ensureGroup =>
    intro name
    refine (Moves.fromStore _).bind fun found => ?_
    cases found with
    | some group => exact Moves.pure _
    | none =>
      refine (moves_write h (.createGroup name) fun _ => rfl).bind fun group => ?_
      exact (moves_count h _ _).bind fun _ => Moves.pure _
  case saveApi =>
    intro existing definition groupIds
    cases existing with
    | some api =>
      refine (moves_write h (.updateApi _) fun _ => rfl).bind fun api => ?_
      exact (moves_count h _ _).bind fun _ => Moves.pure _
    | none =>
      refine (Moves.fromStore _).bind fun id => ?_
      refine (moves_write h (.createApi _) fun _ => rfl).bind fun api => ?_
      exact (moves_count h _ _).bind fun _ => Moves.pure _
  case assignOwner =>
    intro apiId username
    exact (moves_giveRole h _ _ _).bind fun _ => moves_count h _ _
  case memberStep =>
    intro reference step
    cases step with
    | keep => exact moves_count h _ _
    | assign m kind => exact (moves_giveRole h _ _ _).bind fun _ => moves_count h _ _
  case pageStep =>
    intro apiId contributor step
    cases step with
    | update id entry =>
      exact (moves_write h (.updatePage id entry.name entry.body contributor) fun _ => rfl).bind
        fun _ => moves_count h _ _
    | create entry =>
      exact (moves_write h (.createPage apiId entry contributor) fun _ => rfl).bind
        fun _ => moves_count h _ _
  case planStep =>
    intro apiId step
    cases step with
    | update id entry =>
      exact (moves_write h (.updatePlan id entry.name entry.terms) fun _ => rfl).bind
        fun _ => moves_count h _ _
    | create entry =>
      exact (moves_write h (.createPlan apiId entry) fun _ => rfl).bind
        fun _ => moves_count h _ _

theorem moves_importParsed (h : Moving R) (apiId : Option String)
    (parsed : Except DefinitionFault Definition) (actingUser : Option String) :
    Moves R (importParsed apiId parsed actingUser) := by
  intro c
  obtain ⟨result, c', hc, hrun⟩ :=
    runOn_importParsed_of_importing h.importing apiId parsed actingUser c
  rw [hrun]
  exact h.trans _ _ _ hc (h.count c' _)

theorem moves_counting (h : Moving R) (metric : String → Metric) {task : CatalogM α}
    (ht : Moves R task) : Moves R (counting metric task) :=
  fun c => h.trans _ _ _ (ht c) (h.count _ _)

theorem moves_apply (h : Moving R) (mapping : Mapping) (user : Member) (profile : Json) :
    Moves R (mapping.apply user profile) := by
  have := h.toRefl
  have := h.toIsTrans
  refine (Moves.fromStore _).bind fun store => (Moves.ofResult _).bind fun groups => ?_
  refine (Moves.ofResult _).bind fun _ => ?_
  refine (Moves.forM (fun assignment => ?_) _).bind fun _ => ?_
  · exact (moves_giveRole h _ _ _).bind fun _ => Moves.pure _
  · exact (moves_count h _ _).bind fun _ => (moves_count h _ _).bind fun _ => Moves.pure _

theorem moves_connect_of_register (h : Moving R) {authenticator : Authenticator}
    (hregister : ∀ user, Moves R (authenticator.register user)) (reply : UserinfoReply) :
    Moves R (authenticator.connect reply) := by
  have := h.toRefl
  have := h.toIsTrans
  refine moves_counting h _ ((Moves.ofResult _).bind fun profile => ?_)
  refine (Moves.ofResult _).bind fun user => (hregister user).bind fun user => ?_
  exact (moves_apply h _ _ _).bind fun _ => Moves.pure _

theorem moves_register {authenticator : Authenticator} {user : User} (hrefl : ∀ c, R c c)
    (hlisted : ∀ c : Catalog,
      R c { c with identities := c.identities.register authenticator.source user }) :
    Moves R (authenticator.register user) := by
  intro c
  rw [Authenticator.register, runOn_bind_ok (runOn_get c)]
  cases c.identities.registry? authenticator.source with
  | none => exact hrefl c
  | some registry => exact hlisted c

theorem moves_connect (h : Moving R)
    (hregister : ∀ c (identities : Identities), R c { c with identities })
    (authenticator : Authenticator) (reply : UserinfoReply) :
    Moves R (authenticator.connect reply) :=
  moves_connect_of_register h (fun _ => moves_register h.refl fun c => hregister c _) reply

/-- What every write keeps and no count or identity matters for, every event keeps. -/
theorem moves_afterEvent (h : Moving R)
    (hregister : ∀ c (identities : Identities), R c { c with identities }) (c : Catalog)
    (event : Event) : R c (c.afterEvent event) := by
  cases event with
  | imported apiId parsed actingUser => exact moves_importParsed h _ _ _ c
  | loggedIn authenticator reply => exact moves_connect h hregister _ _ c
  | roleAdded role => exact h.write c (.addRole role)
  | groupInserted group => exact h.write c (.insertGroup group)

end Moves

theorem moving_consistent : Moving fun c c' => c.store.Consistent → c'.store.Consistent where
  refl _ h := h
  trans _ _ _ h h' := h' ∘ h
  write _ w h := w.consistent_run h
  count _ _ h := h

namespace Catalog

theorem consistent_afterEvent {c : Catalog} (h : c.store.Consistent) (event : Event) :
    (c.afterEvent event).store.Consistent :=
  moves_afterEvent moving_consistent (fun _ _ h => h) c event h

theorem consistent_after {c : Catalog} (h : c.store.Consistent) (events : List Event) :
    (c.after events).store.Consistent :=
  after_induction (P := (·.store.Consistent)) (fun _ event h => consistent_afterEvent h event) h
    events

theorem consistent_afterSteps {c : Catalog} (h : c.store.Consistent)
    (steps : List (Event ⊕ StoreWrite)) : (c.afterSteps steps).store.Consistent := by
  induction steps generalizing c with
  | nil => exact h
  | cons step steps ih =>
    refine ih ?_
    cases step with
    | inl event => exact consistent_afterEvent h event
    | inr write => exact write.consistent_run h

theorem consistent_start (identities : Identities) : (start identities).store.Consistent :=
  Store.Consistent.fresh

end Catalog

end ApiCatalog
