import ApiCatalog.Proofs.History
import ApiCatalog.Proofs.Import.Outcome

/-! # Confinement of imports

An import keeps every record in its place and changes none but those of its own API. What it creates
belongs to that API and comes after what was there.
-/

namespace ApiCatalog

/-- A list grows when its elements stay in their places, each of them as `Kept` allows, and new
elements follow them. -/
inductive Grows {α : Type} (Kept : α → α → Prop) (New : α → Prop) : List α → List α → Prop where
  | new {ys : List α} : (∀ y ∈ ys, New y) → Grows Kept New [] ys
  | kept {x y : α} {xs ys : List α} :
      Kept x y → Grows Kept New xs ys → Grows Kept New (x :: xs) (y :: ys)

namespace Grows

variable {α : Type} {Kept : α → α → Prop} {New : α → Prop} {xs ys zs : List α}

theorem of_map {f : α → α} (h : ∀ x ∈ xs, Kept x (f x)) (hnew : ∀ y ∈ ys, New y) :
    Grows Kept New xs (xs.map f ++ ys) := by
  induction xs with
  | nil => exact new hnew
  | cons x xs ih =>
    obtain ⟨hx, hxs⟩ := List.forall_mem_cons.mp h
    exact kept hx (ih hxs)

theorem refl (h : ∀ x, Kept x x) (xs : List α) : Grows Kept New xs xs := by
  induction xs with
  | nil => exact new fun _ hy => absurd hy List.not_mem_nil
  | cons x xs ih => exact kept (h x) ih

theorem forall_of_nil (h : Grows Kept New [] ys) : ∀ y ∈ ys, New y := by
  cases h with
  | new hys => exact hys

theorem exists_of_cons {x : α} (h : Grows Kept New (x :: xs) ys) :
    ∃ y ys', ys = y :: ys' ∧ Kept x y ∧ Grows Kept New xs ys' := by
  cases h with
  | kept hxy hxs => exact ⟨_, _, rfl, hxy, hxs⟩

theorem forall_new (hkept : ∀ {y z}, New y → Kept y z → New z) (h : Grows Kept New ys zs)
    (hys : ∀ y ∈ ys, New y) : ∀ z ∈ zs, New z := by
  induction h with
  | new hzs => exact hzs
  | kept hyz _ ih =>
    obtain ⟨hy, hys⟩ := List.forall_mem_cons.mp hys
    exact List.forall_mem_cons.mpr ⟨hkept hy hyz, ih hys⟩

theorem trans (hkept : ∀ {x y z}, Kept x y → Kept y z → Kept x z)
    (hnew : ∀ {y z}, New y → Kept y z → New z) (h : Grows Kept New xs ys)
    (h' : Grows Kept New ys zs) : Grows Kept New xs zs := by
  induction h generalizing zs with
  | new hys => exact new (h'.forall_new hnew hys)
  | kept hxy _ ih =>
    cases h' with
    | kept hyz h' => exact kept (hkept hxy hyz) (ih h')

theorem filter_eq {p : α → Bool} (h : Grows Kept New xs ys)
    (hkept : ∀ {x y}, Kept x y → p y = p x ∧ (p x = true → y = x))
    (hnew : ∀ {y}, New y → p y = false) : ys.filter p = xs.filter p := by
  induction h with
  | new hys =>
    rw [List.filter_nil]
    exact List.filter_eq_nil_iff.mpr fun y hy => by simp [hnew (hys y hy)]
  | kept hxy _ ih =>
    obtain ⟨hp, he⟩ := hkept hxy
    rw [List.filter_cons, List.filter_cons, hp, ih]
    split
    · rename_i hx
      rw [he hx]
    · rfl

end Grows

/-- A run of entries revises records in their places and creates the others behind them. -/
theorem Upsert.grows_run {α ε κ : Type} (u : Upsert α ε κ) {Kept : α → α → Prop} {New : α → Prop}
    {xs : List α} {es : List ε} (hid : (u.ids xs).Nodup) (hkey : (es.map u.key).Nodup)
    (hrefl : ∀ x, Kept x x) (hrevise : ∀ e x, u.isAbout e x = true → Kept x (u.revise e x))
    (hcreate : ∀ i e, New (u.create i e)) : Grows Kept New xs (u.run xs es) := by
  rw [u.run_eq hid hkey]
  refine Grows.of_map (fun x hx => ?_) fun x hx => ?_
  · rcases u.revised_cases hid hx es with he | ⟨e, -, habout, he⟩ <;> rw [he]
    · exact hrefl x
    · exact hrevise e x habout
  · obtain ⟨e, -, i, rfl⟩ := u.mem_created hx
    exact hcreate i e

/-- What an import into an API makes of the record of an API. -/
structure Api.KeptIn (target : String) (api api' : Api) : Prop where
  id : api'.id = api.id
  other : api.id ≠ target → api' = api
  groups : api.groups ⊆ api'.groups

structure Membership.KeptIn (target : String) (m m' : Membership) : Prop where
  key : m'.key = m.key
  other : m.reference ≠ .api target → m' = m
  scopes : ∀ scope, scope ≠ .api → m'.role? scope = m.role? scope
  role : (m.role? .api).isSome = true → (m'.role? .api).isSome = true

structure Page.KeptIn (target : String) (page page' : Page) : Prop where
  id : page'.id = page.id
  apiId : page'.apiId = page.apiId
  other : page.apiId ≠ target → page' = page

structure Plan.KeptIn (target : String) (plan plan' : Plan) : Prop where
  id : plan'.id = plan.id
  apiId : plan'.apiId = plan.apiId
  security : plan'.security = plan.security
  status : plan'.status = plan.status
  other : plan.apiId ≠ target → plan' = plan
  closed : plan.status = .closed → plan' = plan

/-- What an import into an API makes of a store. -/
structure Store.GrowsIn (target : String) (before after : Store) : Prop where
  apis : Grows (Api.KeptIn target) (·.id = target) before.apis after.apis
  memberships :
    Grows (Membership.KeptIn target) (·.reference = .api target) before.memberships
      after.memberships
  pages : Grows (Page.KeptIn target) (·.apiId = target) before.pages after.pages
  plans : Grows (Plan.KeptIn target) (·.apiId = target) before.plans after.plans
  groups : before.groups <+: after.groups
  roles : after.roles = before.roles

section Kept

variable {target : String}

theorem Api.KeptIn.refl (api : Api) : api.KeptIn target api :=
  ⟨rfl, fun _ => rfl, List.Subset.refl _⟩

theorem Membership.KeptIn.refl (m : Membership) : m.KeptIn target m :=
  ⟨rfl, fun _ => rfl, fun _ _ => rfl, id⟩

theorem Membership.KeptIn.trans {m m' m'' : Membership} (h : m.KeptIn target m')
    (h' : m'.KeptIn target m'') : m.KeptIn target m'' where
  key := h'.key.trans h.key
  other hm := by
    have href : m'.reference = m.reference := congrArg Prod.fst h.key
    rw [h'.other (href ▸ hm), h.other hm]
  scopes scope hscope := (h'.scopes scope hscope).trans (h.scopes scope hscope)
  role hm := h'.role (h.role hm)

theorem Page.KeptIn.refl (page : Page) : page.KeptIn target page := ⟨rfl, rfl, fun _ => rfl⟩

theorem Plan.KeptIn.refl (plan : Plan) : plan.KeptIn target plan :=
  ⟨rfl, rfl, rfl, rfl, fun _ => rfl, fun _ => rfl⟩

end Kept

namespace Store

variable {store : Store} {target : String}

theorem GrowsIn.refl (store : Store) (target : String) : store.GrowsIn target store :=
  ⟨Grows.refl .refl _, Grows.refl .refl _, Grows.refl .refl _, Grows.refl .refl _,
    List.prefix_rfl, rfl⟩

theorem grows_putMembership {m : Membership} {ms : List Membership}
    (hkept : ∀ n, (ms.find? fun n => n.reference == m.reference && n.user.id == m.user.id) = some n →
      n.KeptIn target m) (hnew : m.reference = .api target) :
    Grows (Membership.KeptIn target) (·.reference = .api target) ms (putMembership m ms) := by
  induction ms with
  | nil => exact Grows.new (List.forall_mem_singleton.mpr hnew)
  | cons n ms ih =>
    rw [List.find?_cons] at hkept
    rw [putMembership]
    split
    · rename_i hn
      exact Grows.kept (hkept n (by simp [hn])) (Grows.refl .refl ms)
    · rename_i hn
      have hb : (n.reference == m.reference && n.user.id == m.user.id) = false := by simpa using hn
      exact Grows.kept (.refl n) (ih fun n' hn' => hkept n' (by rw [hb]; exact hn'))

theorem grows_withGrant (store : Store) (target : String) (user : Member) {role : RoleName}
    (hscope : role.scope = .api) :
    Grows (Membership.KeptIn target) (·.reference = .api target) store.memberships
      (store.withGrant (.api target) user role).memberships := by
  have hkey := store.key_granted (.api target) user role
  obtain ⟨href, huser⟩ := Prod.mk.inj hkey
  refine grows_putMembership (fun n hn => ?_) href
  rw [href, huser] at hn
  have hmembership : store.membership? (.api target) user.id = some n := hn
  have hrole : ∀ scope, (store.granted (.api target) user role).role? scope =
      if scope = role.scope then some role.name else n.role? scope := by
    intro scope
    rw [role?_granted, roleOf?, hmembership]
    rfl
  have hn' := (mem_of_membership?_eq_some hmembership).2
  refine ⟨hkey.trans hn'.symm, fun hother => ?_, fun scope hs => ?_, fun _ => ?_⟩
  · exact absurd (congrArg Prod.fst hn') hother
  · rw [hrole, hscope, if_neg hs]
  · rw [hrole, hscope, if_pos rfl]
    rfl

theorem grows_foldl_after {steps : List MemberStep}
    (hscope : ∀ m kind, .assign m kind ∈ steps → m.role.scope = .api) (store : Store) :
    Grows (Membership.KeptIn target) (·.reference = .api target) store.memberships
      (steps.foldl (MemberStep.after (.api target)) store).memberships := by
  induction steps generalizing store with
  | nil => exact Grows.refl .refl _
  | cons step steps ih =>
    have hrest := ih (fun m kind hm => hscope m kind (List.mem_cons_of_mem _ hm))
      (MemberStep.after (.api target) store step)
    cases step with
    | keep => exact hrest
    | assign m kind =>
      have hstep := grows_withGrant store target m.user (hscope m kind List.mem_cons_self)
      exact hstep.trans .trans (fun href hkept => (congrArg Prod.fst hkept.key).trans href) hrest

section Imported

variable {existing : Option Api} {definition : Definition} {actingUser : Option String}
  {members : List PlannedMember}

theorem grows_memberships (hscope : ∀ m ∈ members, m.role.scope = .api) :
    Grows (Membership.KeptIn (store.targetId existing definition))
      (·.reference = .api (store.targetId existing definition)) store.memberships
      (store.imported existing definition actingUser members).memberships := by
  have hbefore : Grows (Membership.KeptIn (store.targetId existing definition))
      (·.reference = .api (store.targetId existing definition)) store.memberships
      (store.beforeMembers existing definition actingUser).memberships := by
    cases existing with
    | some api => exact Grows.refl .refl _
    | none =>
      cases actingUser with
      | none => exact Grows.refl .refl _
      | some username => exact grows_withGrant _ _ _ rfl
  rw [memberships_imported, withMembers_eq]
  refine hbefore.trans .trans (fun href hkept => (congrArg Prod.fst hkept.key).trans href) ?_
  exact grows_foldl_after (fun m kind hm =>
    hscope m (mem_of_mem_firsts (MemberStep.mem_of_assign_mem_plan hm))) _

theorem grows_apis (hids : (store.apis.map (·.id)).Nodup)
    (hexisting : ∀ api, existing = some api → api ∈ store.apis) :
    Grows (Api.KeptIn (store.targetId existing definition))
      (·.id = store.targetId existing definition) store.apis
      (store.imported existing definition actingUser members).apis := by
  rw [apis_imported]
  cases existing with
  | none =>
    have happ : Grows (Api.KeptIn (store.targetId none definition))
        (·.id = store.targetId none definition) store.apis (store.apis.map id ++ _) :=
      Grows.of_map (fun api _ => Api.KeptIn.refl api) (List.forall_mem_singleton.mpr rfl)
    rwa [List.map_id] at happ
  | some api =>
    have hmap := replaceFirst_eq_map (f := fun stored : Api =>
      { (store.withGroups definition.groups).savedApi (some api) definition with
        createdAt := stored.createdAt }) (·.id) hids api.id
    have hsaved : store.apisSaved (some api) definition = _ := hmap
    rw [hsaved, ← List.append_nil (List.map _ _)]
    refine Grows.of_map (fun stored hstored => ?_) fun _ h => absurd h List.not_mem_nil
    split
    · rename_i hid
      obtain rfl : stored = api := List.inj_on_of_nodup_map hids hstored (hexisting api rfl) hid
      exact ⟨rfl, fun hother => absurd rfl hother,
        fun _ hg => Names.mem_insertAll.mpr (Or.inr hg)⟩
    · exact .refl stored

theorem grows_pages (hids : (store.pages.map (·.id)).Nodup) :
    Grows (Page.KeptIn (store.targetId existing definition))
      (·.apiId = store.targetId existing definition) store.pages
      (store.imported existing definition actingUser members).pages := by
  rw [pages_imported]
  refine Upsert.grows_run _ hids (nodup_map_firsts _ _) .refl (fun entry page habout => ?_)
    fun _ _ => rfl
  have hapi := beq_iff_eq.mp (Bool.and_eq_true_iff.mp habout).1
  exact ⟨rfl, rfl, fun hother => absurd hapi hother⟩

theorem grows_plans (hids : (store.plans.map (·.id)).Nodup) :
    Grows (Plan.KeptIn (store.targetId existing definition))
      (·.apiId = store.targetId existing definition) store.plans
      (store.imported existing definition actingUser members).plans := by
  rw [plans_imported]
  refine Upsert.grows_run _ hids (nodup_map_firsts _ _) .refl (fun entry plan habout => ?_)
    fun _ _ => rfl
  obtain ⟨hapi, hopen⟩ := Bool.and_eq_true_iff.mp habout
  have hstatus : plan.status ≠ .closed := by
    simpa [Plan.isOpen] using (Bool.and_eq_true_iff.mp hopen).1
  exact ⟨rfl, rfl, rfl, rfl, fun hother => absurd (beq_iff_eq.mp hapi) hother,
    fun hclosed => absurd hclosed hstatus⟩

theorem growsIn_imported (h : store.Consistent)
    (hexisting : ∀ api, existing = some api → api ∈ store.apis)
    (hscope : ∀ m ∈ members, m.role.scope = .api) :
    store.GrowsIn (store.targetId existing definition)
      (store.imported existing definition actingUser members) where
  apis := grows_apis h.apiIds_nodup hexisting
  memberships := grows_memberships hscope
  pages := grows_pages h.pageIds_nodup
  plans := grows_plans h.planIds_nodup
  groups := by
    rw [groups_imported]
    exact List.prefix_append _ _
  roles := roles_imported

end Imported

end Store

/-- Whether an import succeeds or not, it leaves all that is not its own API's as it was, adds to
what the API has, and takes nothing away. -/
theorem import_confined (identities : Identities) (steps : List (Event ⊕ StoreWrite))
    (apiId : Option String) (parsed : Except DefinitionFault Definition)
    (actingUser : Option String) :
    let before := (Catalog.start identities).afterSteps steps
    let target := apiId.getD before.store.freshApiId
    let outcome := (importParsed apiId parsed actingUser).runOn before
    (∀ api, outcome.1 = .ok api → api.id = target) ∧
      (apiId = none → target ∉ before.store.apiIds) ∧
      outcome.2.identities = before.identities ∧
      before.store.GrowsIn target outcome.2.store := by
  intro before target outcome
  have hbefore : before.store.Consistent :=
    Catalog.consistent_afterSteps (Catalog.consistent_start identities) steps
  have hfresh : apiId = none → target ∉ before.store.apiIds := by
    rintro rfl
    exact before.store.freshApiId_not_mem
  rcases runOn_importParsed hbefore.seeded_owner apiId parsed actingUser with
    ⟨e, metrics, he⟩ | ⟨existing, definition, members, metrics, hi, he⟩
  · have hsame : outcome = (.error e, { before with metrics }) := he
    rw [hsame]
    exact ⟨fun _ h => (nomatch h), hfresh, rfl, .refl _ _⟩
  · have himported : outcome = _ := he
    have htarget : before.store.targetId existing definition = target := by
      have hfound := hi.existing_eq
      cases existing with
      | none =>
        obtain rfl : apiId = none := Option.map_eq_none_iff.mp hfound
        rfl
      | some api =>
        obtain ⟨id, rfl, hid⟩ := Option.map_eq_some_iff.mp hfound
        exact (Store.mem_of_api?_eq_some hid).2
    have hgrows : before.store.GrowsIn (before.store.targetId existing definition)
        (before.store.imported existing definition actingUser members) :=
      Store.growsIn_imported hbefore (fun api hapi => (Store.mem_of_api?_eq_some (hi.api?_eq hapi)).1)
        (scope_of_planMembers hi.members_eq)
    rw [himported]
    rw [htarget] at hgrows
    exact ⟨fun api hapi => Except.ok.inj hapi ▸ htarget, hfresh, rfl, hgrows⟩

end ApiCatalog
