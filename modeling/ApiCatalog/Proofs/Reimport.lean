import ApiCatalog.Proofs.History
import ApiCatalog.Proofs.Import.Outcome

/-! # Importing again

A definition that was imported can be imported again, by the same user into the same API. The
second import finds all but the plans that it is to create as closed ones.
-/

namespace ApiCatalog

theorem Api.describedBy_describedBy (api : Api) (definition : Definition) (groupIds : List String) :
    (api.describedBy definition groupIds).describedBy definition groupIds =
      api.describedBy definition groupIds := by
  simp only [describedBy, noteExportVersion, Names.insertAll_insertAll, Fields.insert_insert_self]

namespace Store

variable {store : Store} {existing : Option Api} {definition : Definition}
  {actingUser : Option String} {members : List PlannedMember}

theorem api?_withSaved (store : Store)
    (h : ∀ api, existing = some api → store.api? api.id = some api) :
    (store.withSaved existing (store.savedApi existing definition)).api?
      (store.savedApi existing definition).id = some (store.savedApi existing definition) := by
  cases existing with
  | some api =>
    let saved := store.savedApi (some api) definition
    exact find?_replaceFirst (f := fun stored => { saved with createdAt := stored.createdAt })
      (h api rfl) (beq_self_eq_true api.id)
  | none =>
    have hfree := store.api?_freshApiId
    have happ : (store.withSaved none (store.savedApi none definition)).api?
        (store.savedApi none definition).id =
          (store.api? store.freshApiId).or
            ([store.savedApi none definition].find? (·.id == store.freshApiId)) :=
      List.find?_append
    rw [happ, hfree, Option.none_or, List.find?_singleton]
    exact if_pos (beq_self_eq_true store.freshApiId)

theorem api?_imported (h : ∀ api, existing = some api → store.api? api.id = some api) :
    (store.imported existing definition actingUser members).api?
      (store.targetId existing definition) =
        some ((store.withGroups definition.groups).savedApi existing definition) := by
  rw [api?, apis_imported]
  exact (store.withGroups definition.groups).api?_withSaved h

theorem savedApi_again {store' : Store}
    (hgroups : store'.groups = (store.withGroups definition.groups).groups) :
    store'.savedApi (some ((store.withGroups definition.groups).savedApi existing definition))
        definition =
      (store.withGroups definition.groups).savedApi existing definition := by
  have hnamed : store'.groupNamed? = (store.withGroups definition.groups).groupNamed? := by
    funext name
    rw [groupNamed?, hgroups, groupNamed?]
  have hids : store'.groupIdsNamed definition.groups =
      (store.withGroups definition.groups).groupIdsNamed definition.groups := by
    rw [groupIdsNamed, hnamed, groupIdsNamed]
  rw [savedApi, hids]
  exact Api.describedBy_describedBy _ _ _

/-- Writing a record over itself only counts. -/
theorem withApi_of_stored {api : Api} (h : store.api? api.id = some api) :
    store.withApi api =
      store.countWrite fun n => { n with apiUpdates := n.apiUpdates + 1 } := by
  have hsame : replaceFirst (·.id == api.id)
      (fun stored => { api with createdAt := stored.createdAt }) store.apis = store.apis :=
    replaceFirst_eq_self h rfl
  rw [withApi, hsame]

/-- A second import of one definition for one user finds all but the plans that are to be closed
from the start. -/
theorem imported_again {store' : Store}
    (hstore : store' = store.imported existing definition actingUser members)
    (hold : store.Consistent) (hnew : store'.Consistent)
    (hexisting : ∀ api, existing = some api → store.api? api.id = some api)
    (hscope : ∀ m ∈ members, m.role.scope = .api) :
    let api := (store.withGroups definition.groups).savedApi existing definition
    let news := store'.newPlans api.id definition.plans
    (store'.withGroups definition.groups).savedApi (some api) definition = api ∧
      store'.imported (some api) definition actingUser members =
        { store' with plans := store'.plans ++ news }.countWrite fun n =>
          { n with
            apiUpdates := n.apiUpdates + 1
            pageUpdates := n.pageUpdates + (definition.pages.map PageEntry.name).toFinset.card
            planCreates := n.planCreates + news.length
            planUpdates :=
              n.planUpdates +
                ((definition.plans.map PlanEntry.key).toFinset.card - news.length) } := by
  intro api news
  have hapi : store'.api? api.id = some api := hstore ▸ api?_imported hexisting
  have hgroups : store'.groups = (store.withGroups definition.groups).groups :=
    hstore ▸ groups_imported
  have hgrouped : store'.withGroups definition.groups = store' := withGroups_again hgroups
  have hsaved : store'.savedApi (some api) definition = api := savedApi_again hgroups
  refine ⟨by rw [hgrouped, hsaved], ?_⟩
  let started := store'.countWrite fun n => { n with apiUpdates := n.apiUpdates + 1 }
  have hstarted : store'.beforeMembers (some api) definition actingUser = started := by
    rw [beforeMembers_of_grouped hgrouped, hsaved, withApi_of_stored hapi]
  -- every part of the second import starts from what the first one left of it
  have hmemberships : started.memberships =
      ((store.beforeMembers existing definition actingUser).withMembers api.id
        members).memberships :=
    (congrArg Store.memberships hstore).trans memberships_imported
  have hmembers := withMembers_again hmemberships (nodup_beforeMembers hold.memberKeys_nodup)
    hnew.memberKeys_nodup hscope
  have hpages : started.pages = (pageUpsert api.id actingUser).run store.pages
      (firsts PageEntry.name definition.pages) :=
    (congrArg Store.pages hstore).trans pages_imported
  have hplans : (started.withPages api.id actingUser definition.pages).plans =
      (planUpsert api.id).run store.plans (firsts PlanEntry.key definition.plans) :=
    (congrArg Store.plans hstore).trans plans_imported
  have himported : store'.imported (some api) definition actingUser members =
      (((store'.beforeMembers (some api) definition actingUser).withMembers api.id
        members).withPages api.id actingUser definition.pages).withPlans api.id
          definition.plans := rfl
  rw [himported, hstarted, hmembers, withPlans_again hplans hold.planIds_nodup,
    withPages_again hpages hold.pageIds_nodup]
  rfl

end Store

/-- Closed plans that entries create because there is no open plan of their key: one for each key,
by the first entry that has it. -/
structure Store.ClosedAnew (store : Store) (apiId : String) (entries : List PlanEntry)
    (news : List Plan) : Prop where
  keys_nodup : (news.map Plan.key).Nodup
  mem_keys_iff : ∀ key, key ∈ news.map Plan.key ↔
    key ∈ entries.map PlanEntry.key ∧
      ∀ plan ∈ store.plansOf apiId, plan.isOpen = true → plan.key ≠ key
  of_entry : ∀ plan ∈ news, plan.apiId = apiId ∧ plan.status = .closed ∧
    ∃ entry, entries.find? (·.key == plan.key) = some entry ∧ entry.status = .closed ∧
      plan.terms = entry.terms
  ids_nodup : ((store.plans ++ news).map (·.id)).Nodup

theorem Store.closedAnew_newPlans {store old : Store} {apiId : String} {entries : List PlanEntry}
    (hrun : store.plans = (planUpsert apiId).run old.plans (firsts PlanEntry.key entries))
    (hold : (old.plans.map (·.id)).Nodup) (hids : (store.plans.map (·.id)).Nodup) :
    store.ClosedAnew apiId entries (store.newPlans apiId entries) where
  keys_nodup := store.nodup_keys_newPlans apiId entries
  mem_keys_iff _ := mem_keys_newPlans_iff
  of_entry plan hplan := by
    obtain ⟨entry, hentry, id, hnew, rfl⟩ := mem_newPlans hplan
    have hclosed := status_of_isNew_again hrun hold hentry hnew
    exact ⟨rfl, hclosed, entry, mem_firsts_iff.mp hentry, hclosed, rfl⟩
  ids_nodup := by
    have hfresh := (planUpsert apiId).nodup_append_ids_created hids
      ((firsts PlanEntry.key entries).filter ((planUpsert apiId).isNew store.plans))
    rw [List.map_append]
    exact hfresh

open CatalogM

/-- What was imported once can be imported again by the same user. The second import writes the API
and its pages and plans again as they are, and creates nothing but closed plans. -/
theorem import_again (identities : Identities) (steps : List (Event ⊕ StoreWrite))
    (apiId : Option String) (definition : Definition) (actingUser : Option String) (api : Api)
    (first : Catalog)
    (hrun : (importParsed apiId (.ok definition) actingUser).runOn
      ((Catalog.start identities).afterSteps steps) = (.ok api, first)) :
    ∃ (second : Catalog) (news : List Plan),
      (importParsed (some api.id) (.ok definition) actingUser).runOn first = (.ok api, second) ∧
        second.identities = first.identities ∧
        second.store =
          { first.store with
            plans := first.store.plans ++ news
            writes :=
              { first.store.writes with
                apiUpdates := first.store.writes.apiUpdates + 1
                pageUpdates :=
                  first.store.writes.pageUpdates +
                    (definition.pages.map PageEntry.name).toFinset.card
                planCreates := first.store.writes.planCreates + news.length
                planUpdates :=
                  first.store.writes.planUpdates +
                    ((definition.plans.map PlanEntry.key).toFinset.card - news.length) } } ∧
        first.store.ClosedAnew api.id definition.plans news := by
  have hold : ((Catalog.start identities).afterSteps steps).store.Consistent :=
    Catalog.consistent_afterSteps (Catalog.consistent_start identities) steps
  have hnew := moves_importParsed moving_consistent apiId (.ok definition) actingUser _ hold
  rcases runOn_importParsed hold.seeded_owner apiId (.ok definition) actingUser with
    ⟨e, metrics, he⟩ | ⟨existing, found, members, metrics, hi, he⟩
  · rw [he] at hrun
    cases hrun
  obtain rfl : definition = found := Except.ok.inj hi.parsed_eq
  rw [he] at hrun hnew
  cases hrun
  generalize (Catalog.start identities).afterSteps steps = c at *
  have hexisting := fun api (h : existing = some api) => hi.api?_eq h
  obtain ⟨hsaved, hstore⟩ := Store.imported_again rfl hold hnew hexisting
    (scope_of_planMembers hi.members_eq)
  have hready : Importable { c with
      store := c.store.imported existing definition actingUser members, metrics }
      (some ((c.store.withGroups definition.groups).savedApi existing definition).id)
      (.ok definition) (some ((c.store.withGroups definition.groups).savedApi existing definition))
      definition members := by
    refine ⟨congrArg some (Store.api?_imported hexisting), rfl, ?_⟩
    rw [← hi.members_eq]
    exact planMembers_congr (by rfl) Store.roles_imported _
  obtain ⟨metrics', hsecond⟩ := runOn_importParsed_of_importable hnew.seeded_owner hready actingUser
  rw [hsaved, hstore] at hsecond
  exact ⟨_, _, hsecond, rfl, rfl,
    Store.closedAnew_newPlans Store.plans_imported hold.planIds_nodup hnew.planIds_nodup⟩

/-- A store with two pages of one name, and a definition that repeats it and has a closed plan. -/
theorem import_again_closed :
    let page : PageEntry := { name := "Home" }
    let definition : Definition := {
      details := { name := "Shop", version := "1" }
      pages := [page, page]
      plans := [{ name := "Legacy", status := .closed }] }
    let steps : List (Event ⊕ StoreWrite) :=
      [.inr (.createPage "api~2" page none), .inr (.createPage "api~2" page none)]
    ∃ api first second news,
      (importParsed none (.ok definition) none).runOn ((Catalog.start {}).afterSteps steps) =
        (.ok api, first) ∧
      (importParsed (some api.id) (.ok definition) none).runOn first = (.ok api, second) ∧
      first.store.ClosedAnew api.id definition.plans news := by
  intro page definition steps
  obtain ⟨api, first, hrun⟩ : ∃ api first,
      (importParsed none (.ok definition) none).runOn ((Catalog.start {}).afterSteps steps) =
        (.ok api, first) := ⟨_, _, rfl⟩
  obtain ⟨second, news, hsecond, -, -, hnews⟩ :=
    import_again {} steps none definition none api first hrun
  exact ⟨api, first, second, news, hrun, hsecond, hnews⟩

end ApiCatalog
