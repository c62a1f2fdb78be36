import ApiCatalog.Proofs.Import.NewApi
import ApiCatalog.Proofs.Import.Refusal
import ApiCatalog.Proofs.RoundTrip
import ApiCatalog.Proofs.Text.Case

/-! # The normal form of a definition

A definition that is imported as a new API without an acting user is exported in its normal form,
which does not change when it is imported and exported in its turn.
-/

namespace ApiCatalog

theorem mergeSort_mergeSort {α : Type} {le : α → α → Bool}
    (htrans : ∀ x y z, le x y = true → le y z = true → le x z = true)
    (htotal : ∀ x y, (le x y || le y x) = true) (xs : List α) :
    (xs.mergeSort le).mergeSort le = xs.mergeSort le :=
  List.mergeSort_of_pairwise (List.pairwise_mergeSort htrans htotal xs)

section Place

variable {α : Type} (place : α → Int) (name : α → String)

def placeOrder (x y : α) : Bool :=
  place x < place y || (place x == place y && name x ≤ name y)

theorem placeOrder_iff {x y : α} : placeOrder place name x y = true ↔
    place x < place y ∨ place x = place y ∧ name x ≤ name y := by
  simp [placeOrder]

theorem placeOrder_trans (x y z : α) (hxy : placeOrder place name x y = true)
    (hyz : placeOrder place name y z = true) : placeOrder place name x z = true := by
  rw [placeOrder_iff] at hxy hyz ⊢
  rcases hxy with hxy | ⟨hxy, hname⟩ <;> rcases hyz with hyz | ⟨hyz, hname'⟩
  · exact Or.inl (by omega)
  · exact Or.inl (by omega)
  · exact Or.inl (by omega)
  · exact Or.inr ⟨by omega, String.le_trans hname hname'⟩

theorem placeOrder_total (x y : α) :
    (placeOrder place name x y || placeOrder place name y x) = true := by
  rw [Bool.or_eq_true, placeOrder_iff, placeOrder_iff]
  rcases Int.lt_trichotomy (place x) (place y) with h | h | h
  · exact Or.inl (Or.inl h)
  · exact (String.le_total (name x) (name y)).imp (fun hname => Or.inr ⟨h, hname⟩)
      fun hname => Or.inr ⟨h.symm, hname⟩
  · exact Or.inr (Or.inl h)

end Place

namespace PageEntry

def exportFields (entry : PageEntry) : List (String × Json) :=
  [("name", .str entry.name), ("type", Wire.toJson entry.type),
    ("content", .ofString? entry.body.content), ("order", .int entry.body.order),
    ("published", .bool entry.body.published), ("homepage", .bool entry.body.homepage),
    ("configuration", .obj (entry.body.configuration.map fun (k, v) => (k, .str v))),
    ("source", .orNull entry.body.source)]

def exportOrder : PageEntry → PageEntry → Bool :=
  placeOrder (fun entry => entry.body.order) PageEntry.name

def withoutVoid (entry : PageEntry) : PageEntry := { entry with body := entry.body.withoutVoid }

end PageEntry

namespace PlanEntry

def exportFields (entry : PlanEntry) : List (String × Json) :=
  [("name", .str entry.name), ("description", .ofString? entry.terms.description),
    ("security", Wire.toJson entry.security),
    ("securityDefinition", .ofString? entry.terms.securityDefinition),
    ("validation", Wire.toJson entry.terms.validation), ("status", Wire.toJson entry.status),
    ("order", .int entry.terms.order), ("characteristics", .ofStrings entry.terms.characteristics),
    ("paths", .obj entry.terms.paths), ("tags", .ofStrings entry.terms.tags),
    ("excluded_groups", .ofStrings entry.terms.excludedGroups),
    ("selection_rule", .ofString? entry.terms.selectionRule),
    ("comment_required", .bool entry.terms.commentRequired)]

def exportOrder : PlanEntry → PlanEntry → Bool :=
  placeOrder (fun entry => entry.terms.order) PlanEntry.name

def isOpen (entry : PlanEntry) : Bool := entry.status != .closed

end PlanEntry

def MemberEntry.member? (identities : Identities) (entry : MemberEntry) : Option ScopedMember :=
  (identities.resolve? entry.reference entry.source).map fun user => ⟨user.member, entry.role, .user⟩

namespace Definition

/-- The first entry of every user, and of those one primary owner at most. Members are listed by
reference and role, and by id where these are the same. -/
def normalMembers (identities : Identities) (definition : Definition) : List ScopedMember :=
  let resolved := definition.members.filterMap (·.member? identities)
  let kept := onlyFirst (·.role == Role.primaryOwner) (firsts (·.user.id) resolved)
  (kept.mergeSort fun m m' => m.user.id ≤ m'.user.id).mergeSort ScopedMember.exportOrder

def normalPages (definition : Definition) : List PageEntry :=
  (firsts PageEntry.name definition.pages).mergeSort PageEntry.exportOrder

def normalPlans (definition : Definition) : List PlanEntry :=
  ((firsts PlanEntry.key definition.plans).filter (·.isOpen)).mergeSort PlanEntry.exportOrder

/-- The document that a definition amounts to. -/
def normalForm (identities : Identities) (definition : Definition) : Json :=
  .ofPresent <|
    definition.details.fields ++
      [("groups", .ofStrings (Names.ofList definition.groups)),
        ("members", .arr ((definition.normalMembers identities).map fun m =>
          .ofPresent m.exportFields)),
        ("pages", .arr (definition.normalPages.map fun entry => .ofPresent entry.exportFields)),
        ("plans", .arr (definition.normalPlans.map fun entry => .ofPresent entry.exportFields))]

/-- The definition that the normal form is read as. -/
def normalized (identities : Identities) (definition : Definition) : Definition where
  details := definition.details.withoutVoid
  members := (definition.normalMembers identities).map (·.toEntry)
  pages := definition.normalPages.map (·.withoutVoid)
  plans := definition.normalPlans
  groups := Names.ofList definition.groups

end Definition

def Page.entry (page : Page) : PageEntry := ⟨page.name, page.type, page.body⟩

theorem PlannedMember.map_shown {identities : Identities} {entries : List MemberEntry}
    {members : List PlannedMember}
    (h : List.Forall₂ (fun entry m => entry.resolve identities = .ok m) entries members) :
    members.map (·.shown) = entries.filterMap (·.member? identities) := by
  induction h with
  | nil => rfl
  | @cons entry m entries members hresolve _ ih =>
    rw [MemberEntry.resolve] at hresolve
    cases huser : identities.resolve? entry.reference entry.source with
    | none =>
      rw [huser] at hresolve
      cases hresolve
    | some user =>
      rw [huser] at hresolve
      cases hresolve
      have hmember : entry.member? identities = some ⟨user.member, entry.role, .user⟩ := by
        rw [MemberEntry.member?, huser]
        rfl
      rw [List.map_cons, ih, List.filterMap_cons_some hmember]
      rfl

namespace Store

variable {c : Catalog} {definition : Definition} {members : List PlannedMember}

structure ListsNormally (store : Store) (api : Api) (identities : Identities)
    (definition : Definition) : Prop where
  details : api.details = definition.details
  groups : store.listedGroups [] api = Names.ofList definition.groups
  members : store.listedMembers [] api = definition.normalMembers identities
  pages : (store.listedPages [] api).map (·.entry) = definition.normalPages
  plans : (store.listedPlans [] api).map (·.toEntry) = definition.normalPlans

theorem listsNormally_imported (hbefore : c.store.Consistent)
    (hafter : (c.store.imported none definition none members).Consistent)
    (hmembers : planMembers c definition.members = .ok members) :
    (c.store.imported none definition none members).ListsNormally
      ((c.store.withGroups definition.groups).savedApi none definition) c.identities
      definition where
  details := rfl
  groups := groupNames_imported_new (groups_imported ▸ hafter.groupIds_nodup)
  members := by
    have hkept : (newMembers members).map (·.shown) =
        onlyFirst (·.role == Role.primaryOwner)
          (firsts (·.user.id) (definition.members.filterMap (·.member? c.identities))) := by
      rw [← PlannedMember.map_shown (planMembers_eq_ok_iff.mp hmembers).1, firsts_map, onlyFirst_map]
      rfl
    have hlisted : (c.store.imported none definition none members).members
        (.api c.store.freshApiId) .api = _ :=
      members_imported_new (scope_of_planMembers hmembers)
    rw [Definition.normalMembers, ← hkept, ← hlisted]
    rfl
  pages := by
    have hentries := (pageUpsert c.store.freshApiId none).map_created (f := Page.entry) (g := id)
      (fun _ _ => rfl) (c.store.pages.map (·.id)) (firsts PageEntry.name definition.pages)
    rw [List.map_id, ← pagesOf_imported_new hbefore.pageIds_nodup] at hentries
    rw [Definition.normalPages, ← hentries, listedPages, fetchedPages_eq hafter.pageIds_nodup]
    exact List.map_mergeSort fun _ _ _ _ => rfl
  plans := by
    have hentries := (planUpsert c.store.freshApiId).map_created (f := Plan.toEntry) (g := id)
      (fun _ _ => rfl) (c.store.plans.map (·.id)) (firsts PlanEntry.key definition.plans)
    rw [List.map_id, ← plansOf_imported_new hbefore.planIds_nodup] at hentries
    rw [Definition.normalPlans, ← hentries, List.filter_map]
    exact List.map_mergeSort fun _ _ _ _ => rfl

section ListsNormally

variable {store : Store} {api : Api} {identities : Identities}

theorem ListsNormally.exportDocument_eq (h : store.ListsNormally api identities definition) :
    exportDocument store .default [] api = definition.normalForm identities := by
  have hpages : (store.listedPages [] api).map (fun page => Json.ofPresent page.exportFields) =
      definition.normalPages.map fun entry => Json.ofPresent entry.exportFields := by
    rw [← h.pages, List.map_map]
    rfl
  have hplans : (store.listedPlans [] api).map (fun plan => Json.ofPresent plan.exportFields) =
      definition.normalPlans.map fun entry => Json.ofPresent entry.exportFields := by
    rw [← h.plans, List.map_map]
    rfl
  rw [exportDocument_default, documentFields, h.details]
  simp only [ExportSection.all, List.map_cons, List.map_nil, ExportSection.name, sectionOf,
    h.groups, h.members, hpages, hplans]
  rfl

theorem ListsNormally.definitionOf_eq (h : store.ListsNormally api identities definition) :
    store.definitionOf [] api = definition.normalized identities := by
  have hpages : (store.listedPages [] api).map (·.toEntry) =
      definition.normalPages.map (·.withoutVoid) := by
    rw [← h.pages, List.map_map]
    rfl
  rw [definitionOf, Definition.normalized, h.details, h.members, h.groups, h.plans, hpages]

end ListsNormally

end Store

/-- Whether identity providers take the entry of a member for the member. -/
def ScopedMember.RecognizedBy (m : ScopedMember) (identities : Identities) : Prop :=
  Text.isBlankText m.label = false ∧
    (identities.resolve? m.toEntry.reference m.toEntry.source).map User.member = some m.user

instance (m : ScopedMember) (identities : Identities) : Decidable (m.RecognizedBy identities) :=
  inferInstanceAs (Decidable (_ ∧ _))

namespace Definition

variable {definition : Definition} {identities identities' : Identities}

theorem perm_normalMembers (identities : Identities) (definition : Definition) :
    (definition.normalMembers identities).Perm
      (onlyFirst (·.role == Role.primaryOwner)
        (firsts (·.user.id) (definition.members.filterMap (·.member? identities)))) :=
  (List.mergeSort_perm _ _).trans (List.mergeSort_perm _ _)

theorem exists_entry_of_mem_normalMembers {m : ScopedMember}
    (h : m ∈ definition.normalMembers identities) :
    ∃ entry ∈ definition.members, entry.member? identities = some m :=
  List.mem_filterMap.mp
    (mem_of_mem_firsts (onlyFirst_sublist.subset ((perm_normalMembers _ _).subset h)))

theorem nodup_ids_normalMembers (identities : Identities) (definition : Definition) :
    ((definition.normalMembers identities).map (·.user.id)).Nodup :=
  ((perm_normalMembers identities definition).map _).nodup_iff.mpr
    ((nodup_map_firsts _ _).sublist (onlyFirst_sublist.map _))

theorem countP_owner_normalMembers (identities : Identities) (definition : Definition) :
    (definition.normalMembers identities).countP (·.role == Role.primaryOwner) ≤ 1 := by
  rw [(perm_normalMembers identities definition).countP_eq]
  exact countP_onlyFirst_le _ _

theorem mergeSort_id_eq_of_perm {ms ms' : List ScopedMember} (hperm : ms.Perm ms')
    (hnodup : (ms.map (·.user.id)).Nodup) :
    (ms.mergeSort fun m m' => m.user.id ≤ m'.user.id) =
      ms'.mergeSort fun m m' => m.user.id ≤ m'.user.id := by
  have hsorted : ∀ ms : List ScopedMember,
      (ms.mergeSort fun m m' => m.user.id ≤ m'.user.id).Pairwise
        fun m m' => decide (m.user.id ≤ m'.user.id) = true :=
    List.pairwise_mergeSort
      (fun _ _ _ h h' => decide_eq_true (String.le_trans (of_decide_eq_true h)
        (of_decide_eq_true h')))
      fun m m' => by simpa using String.le_total m.user.id m'.user.id
  refine List.Perm.eq_of_pairwise (fun m m' hm hm' h h' => ?_) (hsorted ms) (hsorted ms')
    (((List.mergeSort_perm _ _).trans hperm).trans (List.mergeSort_perm _ _).symm)
  exact List.inj_on_of_nodup_map hnodup (List.mem_mergeSort.mp hm)
    (hperm.symm.subset (List.mem_mergeSort.mp hm'))
    (String.le_antisymm (of_decide_eq_true h) (of_decide_eq_true h'))

/-- The roles of a definition that was read stay the same when they are read again. -/
theorem Canonical.role_eq (h : definition.Canonical) {m : ScopedMember}
    (hm : m ∈ definition.normalMembers identities) :
    Text.isBlankText m.role = false ∧ Text.toUpper (Text.trim m.role) = m.role := by
  obtain ⟨entry, hentry, hmember⟩ := exists_entry_of_mem_normalMembers hm
  obtain ⟨user, -, rfl⟩ := Option.map_eq_some_iff.mp hmember
  obtain ⟨role, hblank, hrole⟩ := h.roles entry hentry
  simp only [hrole]
  exact ⟨Text.isBlankText_toUpper_trim hblank, Text.toUpper_trim_toUpper_trim role⟩

theorem Canonical.member?_toEntry (h : definition.Canonical) {m : ScopedMember}
    (hm : m ∈ definition.normalMembers identities) (hrecognized : m.RecognizedBy identities') :
    m.toEntry.member? identities' = some m := by
  obtain ⟨user, huser, hsame⟩ := Option.map_eq_some_iff.mp hrecognized.2
  obtain ⟨entry, -, hmember⟩ := exists_entry_of_mem_normalMembers hm
  have htype : m.type = .user := by
    obtain ⟨_, -, rfl⟩ := Option.map_eq_some_iff.mp hmember
    rfl
  rw [MemberEntry.member?, huser, Option.map_some, hsame]
  simp only [ScopedMember.toEntry, (h.role_eq hm).2, ← htype]

theorem Canonical.normalMembers_normalized (h : definition.Canonical)
    (hrecognized : ∀ m ∈ definition.normalMembers identities, m.RecognizedBy identities') :
    (definition.normalized identities).normalMembers identities' =
      definition.normalMembers identities := by
  have hresolved : (definition.normalized identities).members.filterMap
      (·.member? identities') = definition.normalMembers identities := by
    rw [normalized, List.filterMap_map]
    refine (List.filterMap_congr fun m hm => ?_).trans List.filterMap_some
    exact h.member?_toEntry hm (hrecognized m hm)
  have hkept : onlyFirst (·.role == Role.primaryOwner)
      (firsts (·.user.id) (definition.normalMembers identities)) =
        definition.normalMembers identities := by
    rw [firsts_eq_self (nodup_ids_normalMembers _ _),
      onlyFirst_eq_self (countP_owner_normalMembers _ _)]
  have hsorted := mergeSort_id_eq_of_perm (perm_normalMembers identities definition)
    (nodup_ids_normalMembers identities definition)
  rw [normalMembers, hresolved, hkept, hsorted]
  rfl

theorem normalPages_normalized (identities : Identities) (definition : Definition) :
    (definition.normalized identities).normalPages =
      definition.normalPages.map (·.withoutVoid) := by
  have hnames : ((definition.normalPages.map (·.withoutVoid)).map PageEntry.name).Nodup := by
    rw [List.map_map]
    exact ((List.mergeSort_perm _ _).map _).nodup_iff.mpr (nodup_map_firsts _ _)
  have hsort : (definition.normalPages.map (·.withoutVoid)).mergeSort PageEntry.exportOrder =
      (definition.normalPages.mergeSort PageEntry.exportOrder).map (·.withoutVoid) :=
    (List.map_mergeSort (f := PageEntry.withoutVoid) fun _ _ _ _ => rfl).symm
  have hsorted : definition.normalPages.mergeSort PageEntry.exportOrder = definition.normalPages :=
    mergeSort_mergeSort (placeOrder_trans _ _) (placeOrder_total _ _) _
  rw [normalPages, normalized, firsts_eq_self hnames, hsort, hsorted]

theorem normalPlans_normalized (identities : Identities) (definition : Definition) :
    (definition.normalized identities).normalPlans = definition.normalPlans := by
  have hperm := List.mergeSort_perm
    ((firsts PlanEntry.key definition.plans).filter (·.isOpen)) PlanEntry.exportOrder
  have hkeys : (definition.normalPlans.map PlanEntry.key).Nodup :=
    (hperm.map _).nodup_iff.mpr ((nodup_map_firsts _ _).sublist (List.filter_sublist.map _))
  have hopen : definition.normalPlans.filter (·.isOpen) = definition.normalPlans :=
    List.filter_eq_self.mpr fun entry hentry => (List.mem_filter.mp (hperm.subset hentry)).2
  have hsorted : definition.normalPlans.mergeSort PlanEntry.exportOrder = definition.normalPlans :=
    mergeSort_mergeSort (placeOrder_trans _ _) (placeOrder_total _ _) _
  rw [normalPlans, normalized, firsts_eq_self hkeys, hopen, hsorted]

theorem Canonical.normalForm_normalized (h : definition.Canonical)
    (hrecognized : ∀ m ∈ definition.normalMembers identities, m.RecognizedBy identities') :
    (definition.normalized identities).normalForm identities' =
      definition.normalForm identities := by
  have hpages : (definition.normalPages.map (·.withoutVoid)).map
      (fun entry => Json.ofPresent entry.exportFields) =
        definition.normalPages.map fun entry => Json.ofPresent entry.exportFields := by
    rw [List.map_map]
    refine List.map_congr_left fun entry _ => Json.ofPresent_congr ?_
    simp only [PageEntry.withoutVoid, PageEntry.exportFields, PageBody.withoutVoid, List.map_cons,
      Json.nullIfVoid_unlessVoid]
  rw [normalForm, h.normalMembers_normalized hrecognized, normalPages_normalized, hpages,
    normalPlans_normalized]
  refine Json.ofPresent_congr ?_
  simp only [normalized, List.map_append, ApiDetails.map_nullIfVoid_withoutVoid,
    Names.ofList_eq_self (Names.sorted_ofList _)]

end Definition

theorem Store.ListsNormally.describable {store : Store} {api : Api} {identities : Identities}
    {definition : Definition} (h : store.ListsNormally api identities definition)
    (hcanonical : definition.Canonical)
    (hlabels : ∀ m ∈ definition.normalMembers identities, Text.isBlankText m.label = false) :
    store.Describable [] api where
  name := h.details ▸ hcanonical.name
  version := h.details ▸ hcanonical.version
  details := h.details ▸ hcanonical.details
  members m hm := by
    rw [h.members] at hm
    exact ⟨hlabels m hm, (hcanonical.role_eq hm).1⟩
  pages page hpage := by
    have hentry : page.entry ∈ definition.normalPages := h.pages ▸ List.mem_map_of_mem hpage
    exact hcanonical.pages page.entry (mem_of_mem_firsts (List.mem_mergeSort.mp hentry))
  plans plan hplan := by
    have hentry : plan.toEntry ∈ definition.normalPlans := h.plans ▸ List.mem_map_of_mem hplan
    exact hcanonical.plans plan.toEntry
      (mem_of_mem_firsts (List.mem_of_mem_filter (List.mem_mergeSort.mp hentry)))
  groups name hname := by
    rw [h.groups] at hname
    exact hcanonical.groups name (Names.mem_ofList.mp hname)

/-- A catalog that has a history, whatever has been counted. -/
def Catalog.Reached (c : Catalog) : Prop :=
  ∃ identities steps metrics, c = { (start identities).afterSteps steps with metrics }

namespace Catalog.Reached

variable {c : Catalog} {definition : Definition} {members : List PlannedMember}

theorem consistent (h : c.Reached) : c.store.Consistent := by
  obtain ⟨identities, steps, metrics, rfl⟩ := h
  exact consistent_afterSteps (consistent_start identities) steps

theorem imported_new (h : c.Reached) (hmembers : planMembers c definition.members = .ok members)
    (metrics : Metrics) :
    Catalog.Reached
      { c with store := c.store.imported none definition none members, metrics } := by
  obtain ⟨identities, steps, _, rfl⟩ := h
  have hconsistent := consistent_afterSteps (consistent_start identities) steps
  have hready : Importable ((start identities).afterSteps steps) none (.ok definition) none
      definition members := ⟨rfl, rfl, hmembers⟩
  obtain ⟨_, hrun⟩ := runOn_importParsed_of_importable hconsistent.seeded_owner hready none
  refine ⟨identities, steps ++ [.inl (.imported none (.ok definition) none)], metrics, ?_⟩
  have hlast : (start identities).afterSteps
      (steps ++ [.inl (.imported none (.ok definition) none)]) =
        ((importParsed none (.ok definition) none).runOn ((start identities).afterSteps steps)).2 :=
    List.foldl_append
  rw [hlast, hrun]

end Catalog.Reached

open CatalogM

/-- A definition whose members and roles are known is imported as a new API, and exported in its
normal form. -/
theorem runOn_import_new {c : Catalog} (hc : c.Reached) {definition : Definition}
    {members : List PlannedMember} (hmembers : planMembers c definition.members = .ok members) :
    ∃ api after exported,
      (importParsed none (.ok definition) none).runOn c = (.ok api, after) ∧
      (exportAs ExportVersion.registered .default [] api).runOn after =
        (.ok (definition.normalForm c.identities), exported) ∧
      exported.Reached ∧ exported.identities = c.identities ∧
      exported.store.roles = c.store.roles ∧
      exported.store.ListsNormally api c.identities definition := by
  have hready : Importable c none (.ok definition) none definition members := ⟨rfl, rfl, hmembers⟩
  obtain ⟨metrics, himport⟩ :=
    runOn_importParsed_of_importable hc.consistent.seeded_owner hready none
  have hlists := Store.listsNormally_imported hc.consistent
    (hc.imported_new hmembers metrics).consistent hmembers
  obtain ⟨metrics', hexport⟩ := runOn_exportAs
    { c with store := c.store.imported none definition none members, metrics } .default []
    ((c.store.withGroups definition.groups).savedApi none definition)
  rw [hlists.exportDocument_eq] at hexport
  exact ⟨_, _, _, himport, hexport, hc.imported_new hmembers metrics', rfl, Store.roles_imported,
    hlists⟩

theorem Definition.Canonical.planMembers_normalized {definition : Definition}
    {identities : Identities} {c : Catalog} (h : definition.Canonical)
    (hmembers : ∀ m ∈ definition.normalMembers identities,
      m.RecognizedBy c.identities ∧ c.store.hasRole ⟨.api, m.role⟩ = true) :
    ∃ members, planMembers c (definition.normalized identities).members = .ok members := by
  refine exists_planMembers_iff.mpr fun entry hentry => ?_
  obtain ⟨m, hm, rfl⟩ := List.mem_map.mp hentry
  obtain ⟨⟨-, hresolve⟩, hrole⟩ := hmembers m hm
  obtain ⟨user, huser, -⟩ := Option.map_eq_some_iff.mp hresolve
  refine ⟨by rw [huser]; rfl, ?_⟩
  rwa [ScopedMember.toEntry, (h.role_eq hm).2]

/-- A payload that is read as a definition whose members are known and whose roles there are is
imported as a new API, and that is exported in the normal form of the definition. The document can
be imported as a new API in its turn, into the same catalog or another one, wherever its members are
recognized and its roles there are; what is exported then is the same document. -/
theorem import_new_exported (before : Catalog) (hbefore : before.Reached) (payload : List UInt8)
    (definition : Definition) (hparse : Definition.parse payload = .ok definition)
    (hmembers : ∀ entry ∈ definition.members,
      (before.identities.resolve? entry.reference entry.source).isSome = true ∧
        before.store.hasRole ⟨.api, entry.role⟩ = true) :
    ∃ api after exported,
      (importDefinition none payload none).runOn before = (.ok api, after) ∧
      (exportAs ExportVersion.registered .default [] api).runOn after =
        (.ok (definition.normalForm before.identities), exported) ∧
      exported.Reached ∧ exported.identities = before.identities ∧
      exported.store.roles = before.store.roles ∧
      ∀ other : Catalog, other.Reached →
        (∀ m ∈ definition.normalMembers before.identities,
          m.RecognizedBy other.identities ∧ other.store.hasRole ⟨.api, m.role⟩ = true) →
        ∃ api' after' exported',
          (importParsed none (Definition.ofJson (definition.normalForm before.identities))
            none).runOn other = (.ok api', after') ∧
          (exportAs ExportVersion.registered .default [] api').runOn after' =
            (.ok (definition.normalForm before.identities), exported') := by
  have hcanonical := Definition.canonical_of_parse hparse
  obtain ⟨members, hplanned⟩ := exists_planMembers_iff.mpr hmembers
  obtain ⟨api, after, exported, himport, hexport, hreached, hidentities, hroles, hlists⟩ :=
    runOn_import_new hbefore hplanned
  rw [← hparse] at himport
  refine ⟨api, after, exported, himport, hexport, hreached, hidentities, hroles,
    fun other hother hrecognized => ?_⟩
  have hread : Definition.ofJson (definition.normalForm before.identities) =
      .ok (definition.normalized before.identities) := by
    rw [← hlists.exportDocument_eq, Definition.ofJson_exportDocument
      (hlists.describable hcanonical fun m hm => (hrecognized m hm).1.1), hlists.definitionOf_eq]
  obtain ⟨members', hplanned'⟩ := hcanonical.planMembers_normalized hrecognized
  obtain ⟨api', after', exported', himport', hexport', -⟩ := runOn_import_new hother hplanned'
  rw [hcanonical.normalForm_normalized fun m hm => (hrecognized m hm).1] at hexport'
  exact ⟨api', after', exported', hread ▸ himport', hexport'⟩

/-- A shop with two owners, of whom the second does not count, a page that is listed twice and a
closed plan comes back in its normal form. -/
theorem import_new_exported_shop :
    let ada : User := { id := "ada", reference := "ada", source := "memory", displayName := "Ada" }
    let bob : User := { id := "bob", reference := "bob", source := "memory", displayName := "Bob" }
    let before := Catalog.start ⟨[.accounts ⟨"memory", [("ada", ada), ("bob", bob)]⟩], []⟩
    let payload := Text.encodeUtf8
      ("\x7b\"name\":\"Shop\",\"version\":\"1\",\"members\":[" ++
        "\x7b\"reference\":\"bob\",\"role\":\"primary_owner\"\x7d," ++
        "\x7b\"reference\":\"ada\",\"role\":\"primary_owner\"\x7d]," ++
        "\"pages\":[\x7b\"name\":\"Home\",\"order\":2\x7d,\x7b\"name\":\"Home\"\x7d]," ++
        "\"plans\":[\x7b\"name\":\"Old\",\"status\":\"CLOSED\"\x7d]\x7d")
    ∃ definition api after exported api' after' exported',
      Definition.parse payload = .ok definition ∧ definition.members.length = 2 ∧
      (importDefinition none payload none).runOn before = (.ok api, after) ∧
      (exportAs ExportVersion.registered .default [] api).runOn after =
        (.ok (definition.normalForm before.identities), exported) ∧
      (importParsed none (Definition.ofJson (definition.normalForm before.identities)) none).runOn
        exported = (.ok api', after') ∧
      (exportAs ExportVersion.registered .default [] api').runOn after' =
        (.ok (definition.normalForm before.identities), exported') := by
  intro ada bob before payload
  -- one evaluation of the payload shows all that the theorem asks for
  have hready : (Definition.parse payload).toOption.any (fun definition =>
      definition.members.length = 2 ∧
        (∀ entry ∈ definition.members,
          (before.identities.resolve? entry.reference entry.source).isSome = true ∧
            before.store.hasRole ⟨.api, entry.role⟩ = true) ∧
        ∀ m ∈ definition.normalMembers before.identities,
          m.RecognizedBy before.identities ∧ before.store.hasRole ⟨.api, m.role⟩ = true) = true := by
    decide +kernel
  obtain ⟨definition, hparse⟩ : ∃ definition, Definition.parse payload = .ok definition := by
    cases hresult : Definition.parse payload with
    | error fault =>
      rw [hresult] at hready
      cases hready
    | ok definition => exact ⟨definition, rfl⟩
  rw [hparse] at hready
  obtain ⟨hlength, hmembers, hrecognized⟩ := of_decide_eq_true hready
  obtain ⟨api, after, exported, himport, hexport, hreached, hidentities, hroles, hagain⟩ :=
    import_new_exported before ⟨_, [], _, rfl⟩ payload definition hparse hmembers
  obtain ⟨api', after', exported', himport', hexport'⟩ := hagain exported hreached fun m hm => by
    rw [hidentities, Store.hasRole, Store.role?, hroles]
    exact hrecognized m hm
  exact ⟨definition, api, after, exported, api', after', exported', hparse, hlength, himport,
    hexport, himport', hexport'⟩

end ApiCatalog
