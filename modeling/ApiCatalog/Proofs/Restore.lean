import ApiCatalog.Proofs.Document
import ApiCatalog.Proofs.Regular

/-! # Restoring documents

In a regular store the document of an API is a definition that finds every group, page and open plan
it lists, so that importing it creates nothing. What the import leaves is given here.
-/

namespace ApiCatalog

/-- A page after the document of an API has been brought back, which may list it. -/
def Page.restored (excluded : List ExportSection) (apiId : String) (actingUser : Option String)
    (page : Page) : Page :=
  if .pages ∉ excluded ∧ page.apiId = apiId then
    { page with body := page.body.withoutVoid, lastContributor := actingUser }
  else page

namespace Store

variable {store : Store} {excluded : List ExportSection} {api : Api}

/-- The roles on APIs are the built-in ones, whose names are in upper case. -/
theorem Regular.role_of_mem_members (h : store.Regular) {reference : Reference} {m : ScopedMember}
    (hm : m ∈ store.members reference .api) :
    Text.isBlankText m.role = false ∧ Text.toUpper (Text.trim m.role) = m.role := by
  obtain ⟨membership, hmem, -, hrole, -⟩ := mem_members.mp hm
  obtain ⟨role, hseeded, hname⟩ := hasRole_iff.mp (h.holds membership hmem .api m.role hrole)
  rw [h.roles_eq] at hseeded
  have hall : ∀ role ∈ seededRoles,
      Text.isBlankText role.name = false ∧ Text.toUpper (Text.trim role.name) = role.name := by
    decide
  have hsame : role.name = m.role := congrArg RoleName.name hname
  exact hsame ▸ hall role hseeded

theorem mem_listedMembers {m : ScopedMember} (h : m ∈ store.listedMembers excluded api) :
    m ∈ store.members (.api api.id) .api := by
  unfold listedMembers at h
  split at h
  · exact absurd h List.not_mem_nil
  · exact List.mem_mergeSort.mp h

/-- The pages that a document lists are those of the API, unless pages are left out. -/
def isListedPage (excluded : List ExportSection) (apiId : String) (page : Page) : Bool :=
  !excluded.contains .pages && page.apiId == apiId

def isListedPlan (excluded : List ExportSection) (apiId : String) (plan : Plan) : Bool :=
  !excluded.contains .plans && (plan.isOpen && plan.apiId == apiId)

theorem perm_listedPages (hids : (store.pages.map (·.id)).Nodup) (excluded : List ExportSection)
    (api : Api) :
    (store.listedPages excluded api).Perm (store.pages.filter (isListedPage excluded api.id)) := by
  by_cases h : ExportSection.pages ∈ excluded
  · have hnone : isListedPage excluded api.id = fun _ => false := by
      funext page
      simp [isListedPage, h]
    simp [listedPages, h, hnone]
  · have hall : isListedPage excluded api.id = (·.apiId == api.id) := by
      funext page
      simp [isListedPage, h]
    rw [listedPages, if_neg h, hall, fetchedPages_eq hids]
    exact List.mergeSort_perm _ _

theorem perm_listedPlans (store : Store) (excluded : List ExportSection) (api : Api) :
    (store.listedPlans excluded api).Perm (store.plans.filter (isListedPlan excluded api.id)) := by
  by_cases h : ExportSection.plans ∈ excluded
  · have hnone : isListedPlan excluded api.id = fun _ => false := by
      funext plan
      simp [isListedPlan, h]
    simp [listedPlans, h, hnone]
  · have hall : isListedPlan excluded api.id = fun plan => plan.isOpen && plan.apiId == api.id := by
      funext plan
      simp [isListedPlan, h]
    rw [listedPlans, if_neg h, hall, ← List.filter_filter]
    exact List.mergeSort_perm _ _

theorem mem_listedGroups {name : String} (h : name ∈ store.listedGroups excluded api) :
    ∃ group ∈ store.groups, group.id ∈ api.groups ∧ group.name = name := by
  unfold listedGroups at h
  split at h
  · exact absurd h List.not_mem_nil
  · obtain ⟨group, hgroup, he⟩ := List.mem_map.mp (Names.mem_ofList.mp h)
    obtain ⟨hmem, hid⟩ := List.mem_filter.mp hgroup
    exact ⟨group, hmem, by simpa using hid, he⟩

theorem Regular.describable (h : store.Regular) (hapi : api ∈ store.apis)
    (hmembers : ∀ m ∈ store.listedMembers excluded api, Text.isBlankText m.label = false) :
    store.Describable excluded api where
  name := (h.apis api hapi).name
  version := (h.apis api hapi).version
  details := (h.apis api hapi).details
  members m hm := ⟨hmembers m hm, (h.role_of_mem_members (mem_listedMembers hm)).1⟩
  pages page hpage :=
    h.pages page
      (List.mem_of_mem_filter ((perm_listedPages h.pageIds_nodup excluded api).subset hpage))
  plans plan hplan :=
    h.plans plan (List.mem_of_mem_filter ((perm_listedPlans store excluded api).subset hplan))
  groups name hname := by
    obtain ⟨group, hgroup, -, rfl⟩ := mem_listedGroups hname
    exact h.groups group hgroup

theorem Regular.groupNamed?_eq (h : store.Regular) {group : Group} (hgroup : group ∈ store.groups) :
    store.groupNamed? group.name = some group := by
  obtain ⟨found, hfound⟩ : ∃ found, store.groupNamed? group.name = some found :=
    Option.isSome_iff_exists.mp (List.find?_isSome.mpr ⟨group, hgroup, by simp⟩)
  obtain ⟨hmem, hname⟩ := mem_of_groupNamed?_eq_some hfound
  rw [hfound, List.inj_on_of_nodup_map h.groupNames_nodup hmem hgroup hname]

theorem Regular.withGroups_listedGroups (h : store.Regular) (excluded : List ExportSection)
    (api : Api) : store.withGroups (store.listedGroups excluded api) = store := by
  refine withGroups_of_named fun name hname => ?_
  obtain ⟨group, hgroup, -, rfl⟩ := mem_listedGroups hname
  exact ⟨group, h.groupNamed?_eq hgroup⟩

theorem Regular.savedApi_definitionOf (h : store.Regular) (hapi : api ∈ store.apis) :
    store.savedApi (some api) (store.definitionOf excluded api) = api.withoutVoid := by
  have hgroups : Names.insertAll (store.groupIdsNamed (store.listedGroups excluded api))
      api.groups = api.groups := by
    refine Names.insertAll_eq_self fun id hid => Names.insert_eq_self (h.apis api hapi).groups ?_
    obtain ⟨name, hname, found, hfound, rfl⟩ := mem_groupIdsNamed.mp hid
    obtain ⟨group, hgroup, hid, rfl⟩ := mem_listedGroups hname
    rw [h.groupNamed?_eq hgroup] at hfound
    exact Option.some.inj hfound ▸ hid
  have hnoted := (h.apis api hapi).noted
  simp only [savedApi, Option.getD_some, Api.describedBy, Api.noteExportVersion, hnoted,
    definitionOf, hgroups, Api.withoutVoid]

theorem Regular.withPages_listedPages (h : store.Regular) {store' : Store}
    (hpages : store'.pages = store.pages) (excluded : List ExportSection) (api : Api)
    (contributor : Option String) :
    store'.withPages api.id contributor ((store.listedPages excluded api).map (·.toEntry)) =
      { store' with
        pages := store.pages.map fun page =>
          if isListedPage excluded api.id page then
            { page with body := page.body.withoutVoid, lastContributor := contributor }
          else page }.countWrite fun n =>
        { n with pageUpdates := n.pageUpdates + (store.listedPages excluded api).length } := by
  have hkeyed := keyed_pageUpsert api.id contributor
  have hperm := perm_listedPages h.pageIds_nodup excluded api
  have haddresses : ((store.pages.filter fun _ => true).map Page.address).Nodup := by
    rw [List.filter_true]
    exact h.pageAddresses_nodup
  have hentry : ∀ page ∈ store.listedPages excluded api,
      true = true ∧ (api.id, page.toEntry.name) = page.address := by
    intro page hpage
    have hlisted := (List.mem_filter.mp (hperm.subset hpage)).2
    simp only [isListedPage, Bool.and_eq_true, beq_iff_eq] at hlisted
    exact ⟨rfl, Prod.ext hlisted.2.symm rfl⟩
  have hfirsts : firsts PageEntry.name ((store.listedPages excluded api).map (·.toEntry)) =
      (store.listedPages excluded api).map (·.toEntry) :=
    firsts_eq_self (hkeyed.nodup_keys_toEntry h.pageIds_nodup haddresses hperm hentry)
  obtain ⟨hnone, hall⟩ := hkeyed.countP_isNew_toEntry haddresses hperm hentry
  rw [withPages, hpages, hfirsts, hnone, hall,
    hkeyed.run_map_toEntry h.pageIds_nodup haddresses hperm hentry]
  rfl

theorem Regular.withPlans_listedPlans (h : store.Regular) {store' : Store}
    (hplans : store'.plans = store.plans) (excluded : List ExportSection) (api : Api) :
    store'.withPlans api.id ((store.listedPlans excluded api).map (·.toEntry)) =
      store'.countWrite fun n =>
        { n with planUpdates := n.planUpdates + (store.listedPlans excluded api).length } := by
  have hkeyed := keyed_planUpsert api.id
  have hperm := perm_listedPlans store excluded api
  have hentry : ∀ plan ∈ store.listedPlans excluded api,
      plan.isOpen = true ∧ (api.id, plan.toEntry.key) = plan.address := by
    intro plan hplan
    have hlisted := (List.mem_filter.mp (hperm.subset hplan)).2
    simp only [isListedPlan, Bool.and_eq_true, beq_iff_eq] at hlisted
    exact ⟨hlisted.2.1, Prod.ext hlisted.2.2.symm rfl⟩
  have hfirsts : firsts PlanEntry.key ((store.listedPlans excluded api).map (·.toEntry)) =
      (store.listedPlans excluded api).map (·.toEntry) :=
    firsts_eq_self
      (hkeyed.nodup_keys_toEntry h.planIds_nodup h.planAddresses_nodup hperm hentry)
  obtain ⟨hnone, hall⟩ := hkeyed.countP_isNew_toEntry h.planAddresses_nodup hperm hentry
  have hsame : store.plans.map (fun plan =>
      if isListedPlan excluded api.id plan then (planUpsert api.id).revise plan.toEntry plan
      else plan) = store.plans :=
    (List.map_congr_left fun plan _ => ite_self plan).trans (List.map_id _)
  rw [withPlans, hplans, hfirsts, hnone, hall,
    hkeyed.run_map_toEntry h.planIds_nodup h.planAddresses_nodup hperm hentry, hsame, ← hplans]
  rfl

/-- The store after the document of an API has been brought back. -/
def restored (store : Store) (excluded : List ExportSection) (apiId : String)
    (actingUser : Option String) : Store :=
  { store with
    apis := store.apis.map fun api =>
      if api.id = apiId then api.withoutVoid else api
    pages := store.pages.map (Page.restored excluded apiId actingUser)
    writes :=
      { store.writes with
        apiUpdates := store.writes.apiUpdates + 1
        pageUpdates :=
          store.writes.pageUpdates + if .pages ∈ excluded then 0 else (store.pagesOf apiId).length
        planUpdates :=
          store.writes.planUpdates +
            if .plans ∈ excluded then 0
            else ((store.plansOf apiId).filter (·.isOpen)).length } }

theorem length_listedPages (hids : (store.pages.map (·.id)).Nodup)
    (excluded : List ExportSection) (api : Api) :
    (store.listedPages excluded api).length =
      if .pages ∈ excluded then 0 else (store.pagesOf api.id).length := by
  rw [listedPages, fetchedPages_eq hids]
  split
  · rfl
  · exact List.length_mergeSort _

theorem length_listedPlans (store : Store) (excluded : List ExportSection) (api : Api) :
    (store.listedPlans excluded api).length =
      if .plans ∈ excluded then 0 else ((store.plansOf api.id).filter (·.isOpen)).length := by
  unfold listedPlans
  split
  · rfl
  · exact List.length_mergeSort _

theorem Regular.apis_withApi (h : store.Regular) (hapi : api ∈ store.apis) :
    (store.withApi api.withoutVoid).apis =
      store.apis.map fun stored =>
        if stored.id = api.id then stored.withoutVoid else stored := by
  rw [withApi, countWrite, replaceFirst_eq_map Api.id h.apiIds_nodup]
  refine List.map_congr_left fun stored hstored => ?_
  change (if stored.id = api.id then _ else stored) = _
  by_cases hid : stored.id = api.id
  · rw [if_pos hid, if_pos hid, List.inj_on_of_nodup_map h.apiIds_nodup hstored hapi hid]
    rfl
  · rw [if_neg hid, if_neg hid]

/-- Importing the definition of what is stored changes nothing but what `restored` tells. -/
theorem Regular.imported_definitionOf (h : store.Regular) (hapi : api ∈ store.apis)
    (actingUser : Option String) {members : List PlannedMember}
    (hmembers : ∀ m ∈ members,
      store.roleOf? (.api api.id) .api m.user.id = some m.role.name) :
    store.imported (some api) (store.definitionOf excluded api) actingUser members =
      store.restored excluded api.id actingUser := by
  have hgroups : store.withGroups (store.definitionOf excluded api).groups = store :=
    h.withGroups_listedGroups excluded api
  have hbefore : store.beforeMembers (some api) (store.definitionOf excluded api) actingUser =
      store.withApi api.withoutVoid := by
    rw [beforeMembers_of_grouped hgroups, h.savedApi_definitionOf hapi]
  have hmembers : (store.withApi api.withoutVoid).withMembers
      api.id members = store.withApi api.withoutVoid :=
    withMembers_of_held hmembers
  have himported : store.imported (some api) (store.definitionOf excluded api) actingUser members =
      (((store.beforeMembers (some api) (store.definitionOf excluded api) actingUser).withMembers
        api.id members).withPages api.id actingUser
          ((store.listedPages excluded api).map (·.toEntry))).withPlans api.id
            ((store.listedPlans excluded api).map (·.toEntry)) := rfl
  have hlisted : Page.restored excluded api.id actingUser = fun page =>
      if isListedPage excluded api.id page then
        { page with body := page.body.withoutVoid, lastContributor := actingUser }
      else page := by
    funext page
    simp [Page.restored, isListedPage]
  rw [himported, hbefore, hmembers, h.withPages_listedPages, h.withPlans_listedPlans, restored,
    ← h.apis_withApi hapi, ← length_listedPages h.pageIds_nodup, ← length_listedPlans, hlisted]
  all_goals rfl

end Store

end ApiCatalog
