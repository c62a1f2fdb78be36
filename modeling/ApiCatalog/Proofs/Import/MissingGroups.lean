import ApiCatalog.Proofs.History
import ApiCatalog.Proofs.Import.Groups

/-! # Creating the groups that are missing

An import of groups creates what is missing and nothing else. Groups are looked up while others are
created, so that a name that comes twice finds the group that was created for it. Since groups are
only added at the end, each name keeps the group that it was found by.
-/

namespace ApiCatalog

namespace Store

variable {store : Store} {name : String} {names : List String} {group : Group}

theorem isSome_groupNamed?_iff :
    (store.groupNamed? name).isSome = true ↔ name ∈ store.groups.map (·.name) := by
  simp [groupNamed?, List.find?_isSome]

theorem map_name_newGroups (store : Store) (names : List String) :
    (store.newGroups names).map (·.name) = firstsFrom id (store.groups.map (·.name)) names := by
  induction names generalizing store with
  | nil => rfl
  | cons n names ih =>
    rw [newGroups, firstsFrom]
    simp only [isSome_groupNamed?_iff, id]
    split
    · exact ih store
    · rw [List.map_cons, ih]
      congr 1
      exact firstsFrom_congr (fun k => by simp [withNewGroup, countWrite, or_comm]) names

theorem Consistent.withGroups (h : store.Consistent) (names : List String) :
    (store.withGroups names).Consistent :=
  withGroups_induction h fun _ name _ _ hconsistent => hconsistent.withNewGroup name

theorem sorted_groupIdsNamed (store : Store) (names : List String) :
    Names.Sorted (store.groupIdsNamed names) := by
  rw [groupIdsNamed]
  induction names.filterMap store.groupNamed? with
  | nil => exact List.Pairwise.nil
  | cons group groups ih => exact Names.sorted_insert ih group.id

theorem groupIdsNamed_congr {names' : List String} (h : ∀ name, name ∈ names' ↔ name ∈ names) :
    store.groupIdsNamed names' = store.groupIdsNamed names :=
  Names.eq_of_mem_iff (store.sorted_groupIdsNamed names') (store.sorted_groupIdsNamed names)
    fun id => by simp only [mem_groupIdsNamed, h]

theorem eq_of_groupNamed?_of_id_eq (h : (store.groups.map (·.id)).Nodup) {name' : String}
    {group' : Group} (hgroup : store.groupNamed? name = some group)
    (hgroup' : store.groupNamed? name' = some group') (hid : group.id = group'.id) :
    name = name' := by
  obtain ⟨hmem, rfl⟩ := mem_of_groupNamed?_eq_some hgroup
  obtain ⟨hmem', rfl⟩ := mem_of_groupNamed?_eq_some hgroup'
  rw [List.inj_on_of_nodup_map h hmem hmem' hid]

/-- Where all names have groups and no two groups have one id, there are as many ids as names. -/
theorem length_groupIdsNamed (h : (store.groups.map (·.id)).Nodup)
    (hnamed : ∀ name ∈ names, ∃ group, store.groupNamed? name = some group) :
    (store.groupIdsNamed names).length = (distinct names).length := by
  let idOf (name : String) : String := ((store.groupNamed? name).map (·.id)).getD ""
  have hidOf : ∀ {name group}, store.groupNamed? name = some group → idOf name = group.id :=
    fun hgroup => by simp [idOf, hgroup]
  have hnodup : ((distinct names).map idOf).Nodup := by
    refine List.Nodup.map_on (fun name hname name' hname' he => ?_) ?_
    · obtain ⟨group, hgroup⟩ := hnamed name (mem_distinct.mp hname)
      obtain ⟨group', hgroup'⟩ := hnamed name' (mem_distinct.mp hname')
      rw [hidOf hgroup, hidOf hgroup'] at he
      exact eq_of_groupNamed?_of_id_eq h hgroup hgroup' he
    · exact nodup_distinct names
  have hperm : (store.groupIdsNamed names).Perm ((distinct names).map idOf) := by
    refine (List.perm_ext_iff_of_nodup (store.sorted_groupIdsNamed names).nodup hnodup).mpr
      fun id => ?_
    rw [mem_groupIdsNamed, List.mem_map]
    constructor
    · rintro ⟨name, hname, group, hgroup, rfl⟩
      exact ⟨name, mem_distinct.mpr hname, hidOf hgroup⟩
    · rintro ⟨name, hname, rfl⟩
      obtain ⟨group, hgroup⟩ := hnamed name (mem_distinct.mp hname)
      exact ⟨name, mem_distinct.mp hname, group, hgroup, (hidOf hgroup).symm⟩
  rw [hperm.length_eq, List.length_map]

end Store

/-- How an import of groups by their names, which gave `ids`, has led from one catalog to another by
creating the groups `news`. -/
structure GroupsCreated (before after : Catalog) (names ids : List String) (news : List Group) :
    Prop where
  named : ∀ name ∈ names, ∃ group, after.store.groupNamed? name = some group
  mem_ids_iff : ∀ id, id ∈ ids ↔
    ∃ name ∈ names, ∃ group, after.store.groupNamed? name = some group ∧ group.id = id
  /-- There is one new group for each name that no group had, in the order of the names. -/
  names_news : news.map (·.name) =
    distinct (names.filter (· ∉ before.store.groups.map (·.name)))
  ids_news : ∀ group ∈ news, group.id ∉ before.store.groupIds
  store_eq : after.store = { before.store with
    groups := before.store.groups ++ news
    writes := { before.store.writes with
      groupCreates := before.store.writes.groupCreates + news.length } }
  identities_eq : after.identities = before.identities
  count_eq : ∀ metric, after.metrics.count metric = before.metrics.count metric +
    if metric = .changes .group .create then news.length else 0
  name_eq_of_id_eq : ∀ name name' group group', after.store.groupNamed? name = some group →
    after.store.groupNamed? name' = some group' → group.id = group'.id → name = name'
  nodup_ids : ids.Nodup
  length_ids : ids.length = (distinct names).length
  /-- Importing the names again, in whichever order and however often each, changes nothing. -/
  again : ∀ names', (∀ name, name ∈ names' ↔ name ∈ names) →
    (importGroups names').runOn after = (.ok ids, after)

/-- Whatever a catalog has been through, an import of groups creates a group for each of the names
that no group has, in the order in which they come first, and changes nothing else. It gives the
ids of the groups that are then found by the names, another one for every name. -/
theorem importGroups_creates_missing (identities : Identities) (steps : List (Event ⊕ StoreWrite))
    (names : List String) :
    let before := (Catalog.start identities).afterSteps steps
    let outcome := (importGroups names).runOn before
    ∃ (ids : List String) (news : List Group),
      outcome.1 = .ok ids ∧ GroupsCreated before outcome.2 names ids news := by
  intro before outcome
  obtain ⟨metrics, hrun, hcount⟩ := CatalogM.runOn_importGroups names before
  have hstore : outcome.2.store = before.store.withGroups names := congrArg (·.2.store) hrun
  have hresult : outcome.1 = .ok (outcome.2.store.groupIdsNamed names) := by
    rw [hstore]
    exact congrArg Prod.fst hrun
  have hmetrics : outcome.2.metrics = metrics := congrArg (·.2.metrics) hrun
  have hnamed : ∀ name ∈ names, ∃ group, outcome.2.store.groupNamed? name = some group := by
    rw [hstore]
    exact fun name hname => Store.exists_groupNamed?_withGroups hname
  have hids : (outcome.2.store.groups.map (·.id)).Nodup := by
    rw [hstore]
    exact ((Catalog.consistent_afterSteps (Catalog.consistent_start identities)
      steps).withGroups names).groupIds_nodup
  refine ⟨outcome.2.store.groupIdsNamed names, before.store.newGroups names, hresult, ?_⟩
  constructor
  case named => exact hnamed
  case mem_ids_iff => exact fun id => Store.mem_groupIdsNamed
  case names_news =>
    rw [Store.map_name_newGroups, distinct_eq_firsts, firsts]
    exact firstsFrom_append [] _ names
  case ids_news => exact fun group => Store.not_mem_groupIds_of_mem_newGroups
  case store_eq => exact hstore
  case identities_eq => exact congrArg (·.2.identities) hrun
  case count_eq => exact hmetrics ▸ hcount
  case name_eq_of_id_eq =>
    exact fun _ _ _ _ hgroup hgroup' => Store.eq_of_groupNamed?_of_id_eq hids hgroup hgroup'
  case nodup_ids => exact (outcome.2.store.sorted_groupIdsNamed names).nodup
  case length_ids => exact Store.length_groupIdsNamed hids hnamed
  case again =>
    intro names' hnames
    rw [← Store.groupIdsNamed_congr hnames]
    exact CatalogM.runOn_importGroups_of_named fun name hname =>
      hnamed name ((hnames name).mp hname)

end ApiCatalog
