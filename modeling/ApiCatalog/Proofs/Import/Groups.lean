import ApiCatalog.Import.Groups
import ApiCatalog.Proofs.Ordered
import ApiCatalog.Proofs.Store.Fresh
import ApiCatalog.Proofs.Store.Writes
import ApiCatalog.Proofs.Task

/-! # What importing groups leaves

The import of groups does not fail. It creates one group for every name that has none, so that a
second import of the same names creates none.
-/

namespace ApiCatalog

namespace Store

def newGroups : Store → List String → List Group
  | _, [] => []
  | store, name :: names =>
    if (store.groupNamed? name).isSome then newGroups store names
    else ⟨store.freshGroupId, name⟩ :: newGroups (store.withNewGroup name) names

def withGroups (store : Store) (names : List String) : Store :=
  { store with groups := store.groups ++ store.newGroups names }.countWrite fun n =>
    { n with groupCreates := n.groupCreates + (store.newGroups names).length }

def groupIdsNamed (store : Store) (names : List String) : List String :=
  (names.filterMap store.groupNamed?).foldr (fun group ids => Names.insert group.id ids) []

variable {store : Store} {name : String} {names : List String} {group : Group}

theorem withGroups_cons_of_named (h : (store.groupNamed? name).isSome) :
    store.withGroups (name :: names) = store.withGroups names := by
  simp only [withGroups, newGroups, if_pos h]

theorem withGroups_cons_of_new (h : store.groupNamed? name = none) :
    store.withGroups (name :: names) = (store.withNewGroup name).withGroups names := by
  have hnot : ¬(store.groupNamed? name).isSome = true := by simp [h]
  simp [withGroups, newGroups, if_neg hnot, withNewGroup, countWrite, Nat.add_assoc,
    Nat.add_comm 1]

theorem groupNamed?_withGroups (h : store.groupNamed? name = some group) (names : List String) :
    (store.withGroups names).groupNamed? name = some group := by
  have happ : (store.withGroups names).groupNamed? name =
      (store.groupNamed? name).or ((store.newGroups names).find? (·.name == name)) :=
    List.find?_append
  rw [happ, h, Option.some_or]

theorem groupNamed?_withNewGroup (h : store.groupNamed? name = none) :
    (store.withNewGroup name).groupNamed? name = some ⟨store.freshGroupId, name⟩ := by
  have happ : (store.withNewGroup name).groupNamed? name =
      (store.groupNamed? name).or (List.find? (·.name == name) [⟨store.freshGroupId, name⟩]) :=
    List.find?_append
  rw [happ, h, Option.none_or, List.find?_singleton, if_pos (beq_self_eq_true name)]

theorem exists_groupNamed?_withGroups (h : name ∈ names) :
    ∃ group, (store.withGroups names).groupNamed? name = some group := by
  induction names generalizing store with
  | nil => exact absurd h List.not_mem_nil
  | cons n names ih =>
    cases hn : store.groupNamed? n with
    | some group =>
      rw [withGroups_cons_of_named (by simp [hn])]
      rcases List.mem_cons.mp h with rfl | h
      · exact ⟨group, groupNamed?_withGroups hn names⟩
      · exact ih h
    | none =>
      rw [withGroups_cons_of_new hn]
      rcases List.mem_cons.mp h with rfl | h
      · exact ⟨_, groupNamed?_withGroups (groupNamed?_withNewGroup hn) names⟩
      · exact ih h

theorem withGroups_of_named (h : ∀ name ∈ names, ∃ group, store.groupNamed? name = some group) :
    store.withGroups names = store := by
  induction names with
  | nil => simp [withGroups, newGroups, countWrite]
  | cons n names ih =>
    obtain ⟨group, hn⟩ := h n List.mem_cons_self
    rw [withGroups_cons_of_named (by simp [hn])]
    exact ih fun m hm => h m (List.mem_cons_of_mem _ hm)

theorem withGroups_again {old : Store} (h : store.groups = (old.withGroups names).groups) :
    store.withGroups names = store := by
  refine withGroups_of_named fun name hname => ?_
  rw [groupNamed?, h]
  exact exists_groupNamed?_withGroups hname

/-- What a store keeps when a group is created for a name without one, it keeps when groups are
imported. -/
theorem withGroups_induction {P : Store → Prop} (h : P store)
    (hnew : ∀ store, ∀ name ∈ names, store.groupNamed? name = none → P store →
      P (store.withNewGroup name)) :
    P (store.withGroups names) := by
  induction names generalizing store with
  | nil =>
    rw [withGroups_of_named fun _ hm => absurd hm List.not_mem_nil]
    exact h
  | cons n names ih =>
    have hrest := fun store name hname => hnew store name (List.mem_cons_of_mem n hname)
    cases hn : store.groupNamed? n with
    | some group =>
      rw [withGroups_cons_of_named (by simp [hn])]
      exact ih h hrest
    | none =>
      rw [withGroups_cons_of_new hn]
      exact ih (hnew store n List.mem_cons_self hn h) hrest

/-- Groups are created for names without a group, so that names of groups stay distinct. -/
theorem nodup_names_withGroups (h : (store.groups.map (·.name)).Nodup) (names : List String) :
    ((store.withGroups names).groups.map (·.name)).Nodup := by
  refine withGroups_induction (P := fun store => (store.groups.map (·.name)).Nodup) h
    fun store n _ hn hnodup => ?_
  have hnot : n ∉ store.groups.map (·.name) := fun hm => by
    obtain ⟨group, hgroup, he⟩ := List.mem_map.mp hm
    exact List.find?_eq_none.mp hn group hgroup (beq_iff_eq.mpr he)
  rw [withNewGroup, countWrite, List.map_append]
  exact nodup_append_singleton hnodup hnot

theorem mem_withGroups (h : group ∈ (store.withGroups names).groups) :
    group ∈ store.groups ∨ group.name ∈ names := by
  refine withGroups_induction
    (P := fun grown => group ∈ grown.groups → group ∈ store.groups ∨ group.name ∈ names) Or.inl
    (fun grown n hn _ hgrown hmem => ?_) h
  rcases List.mem_append.mp hmem with hmem | hmem
  · exact hgrown hmem
  · rw [List.mem_singleton.mp hmem]
    exact Or.inr hn

theorem freshGroupId_not_mem (store : Store) : store.freshGroupId ∉ store.groupIds :=
  freshId_not_mem _ _

theorem not_mem_groupIds_of_mem_newGroups (h : group ∈ store.newGroups names) :
    group.id ∉ store.groupIds := by
  induction names generalizing store with
  | nil => exact absurd h List.not_mem_nil
  | cons n names ih =>
    rw [newGroups] at h
    split at h
    · exact ih h
    · rcases List.mem_cons.mp h with rfl | h
      · exact store.freshGroupId_not_mem
      · refine fun hm => ih h ?_
        simp only [groupIds, withNewGroup, countWrite, List.map_append, List.mem_append] at hm ⊢
        tauto

theorem mem_of_groupNamed?_eq_some (h : store.groupNamed? name = some group) :
    group ∈ store.groups ∧ group.name = name := by
  have hk := List.find?_some h
  exact ⟨List.mem_of_find?_eq_some h, beq_iff_eq.mp hk⟩

theorem groupIdsNamed_cons (h : store.groupNamed? name = some group) (names : List String) :
    store.groupIdsNamed (name :: names) = Names.insert group.id (store.groupIdsNamed names) := by
  rw [groupIdsNamed, List.filterMap_cons_some h, List.foldr_cons, groupIdsNamed]

theorem mem_groupIdsNamed {id : String} :
    id ∈ store.groupIdsNamed names ↔
      ∃ name ∈ names, ∃ group, store.groupNamed? name = some group ∧ group.id = id := by
  induction names with
  | nil => simp [groupIdsNamed]
  | cons n names ih =>
    rw [List.exists_mem_cons_iff, ← ih]
    cases h : store.groupNamed? n with
    | none => simp [groupIdsNamed, h]
    | some group =>
      rw [groupIdsNamed_cons h, Names.mem_insert]
      simp [eq_comm]

end Store

namespace CatalogM

theorem runOn_ensureGroup_of_named {c : Catalog} {name : String} {group : Group}
    (h : c.store.groupNamed? name = some group) : (ensureGroup name).runOn c = (.ok group, c) := by
  rw [ensureGroup, runOn_bind_ok (runOn_fromStore _ c), h]
  rfl

theorem runOn_ensureGroup_of_new {c : Catalog} {name : String}
    (h : c.store.groupNamed? name = none) :
    (ensureGroup name).runOn c =
      (.ok ⟨c.store.freshGroupId, name⟩,
        { c with
          store := c.store.withNewGroup name
          metrics := c.metrics.add (.changes .group .create) 1 }) := by
  rw [ensureGroup, runOn_bind_ok (runOn_fromStore _ c), h]
  rfl

theorem runOn_importGroups (names : List String) (c : Catalog) :
    ∃ metrics,
      (importGroups names).runOn c =
        (.ok ((c.store.withGroups names).groupIdsNamed names),
          { c with store := c.store.withGroups names, metrics }) ∧
      ∀ metric, metrics.count metric = c.metrics.count metric +
        if metric = .changes .group .create then (c.store.newGroups names).length else 0 := by
  induction names generalizing c with
  | nil =>
    rw [c.store.withGroups_of_named fun _ h => absurd h List.not_mem_nil]
    exact ⟨c.metrics, rfl, fun metric => by rw [Store.newGroups, List.length_nil, ite_self]; rfl⟩
  | cons name names ih =>
    cases h : c.store.groupNamed? name with
    | some group =>
      have hnamed : (c.store.groupNamed? name).isSome = true := by rw [h]; rfl
      obtain ⟨metrics, hrest, hcount⟩ := ih c
      refine ⟨metrics, ?_, fun metric => ?_⟩
      · rw [Store.withGroups_cons_of_named hnamed,
          Store.groupIdsNamed_cons (Store.groupNamed?_withGroups h names), importGroups,
          runOn_bind_ok (runOn_ensureGroup_of_named h), runOn_bind_ok hrest]
        rfl
      · rw [hcount, Store.newGroups, if_pos hnamed]
    | none =>
      have hnot : ¬(c.store.groupNamed? name).isSome = true := by simp [h]
      obtain ⟨metrics, hrest, hcount⟩ := ih { c with
        store := c.store.withNewGroup name
        metrics := c.metrics.add (.changes .group .create) 1 }
      refine ⟨metrics, ?_, fun metric => ?_⟩
      · have hnew := Store.groupNamed?_withGroups (Store.groupNamed?_withNewGroup h) names
        rw [Store.withGroups_cons_of_new h, Store.groupIdsNamed_cons hnew, importGroups,
          runOn_bind_ok (runOn_ensureGroup_of_new h), runOn_bind_ok hrest]
        rfl
      · rw [hcount, Metrics.count_add, Store.newGroups, if_neg hnot, List.length_cons]
        dsimp only
        split
        · omega
        · rfl

theorem runOn_importGroups_of_named {names : List String} {c : Catalog}
    (h : ∀ name ∈ names, ∃ group, c.store.groupNamed? name = some group) :
    (importGroups names).runOn c = (.ok (c.store.groupIdsNamed names), c) := by
  induction names with
  | nil => rfl
  | cons name names ih =>
    obtain ⟨group, hgroup⟩ := h name List.mem_cons_self
    rw [importGroups, runOn_bind_ok (runOn_ensureGroup_of_named hgroup),
      runOn_bind_ok (ih fun name hname => h name (List.mem_cons_of_mem _ hname)),
      Store.groupIdsNamed_cons hgroup]
    rfl

end CatalogM

theorem gives_importGroups (names : List String) (store : Store) :
    (importGroups names).Gives store ((store.withGroups names).groupIdsNamed names)
      (store.withGroups names) := by
  rintro c rfl
  obtain ⟨metrics, hrun, -⟩ := CatalogM.runOn_importGroups names c
  exact ⟨metrics, hrun⟩

end ApiCatalog
