import ApiCatalog.Proofs.Holdings

/-! # What imports make of holdings

An import makes of the holdings of its API what depends on nothing else that is stored, and leaves
the holdings of all other APIs alone.
-/

namespace ApiCatalog

def Holder.granted (holder : Option Holder) (user : Member) (role : RoleName) : Holder :=
  let before := holder.getD ⟨{ id := user.id }, {}⟩
  { user :=
      { before.user with
        reference := user.reference.or before.user.reference
        source := user.source.or before.user.source }
    roles := before.roles.give role }

namespace Holders

def give (holders : List (String × Holder)) (user : Member) (role : RoleName) :
    List (String × Holder) :=
  Fields.insert user.id (Holder.granted (holders.lookup user.id) user role) holders

def roleOf? (holders : List (String × Holder)) (userId : String) : Option String :=
  (holders.lookup userId).bind fun holder => holder.roles.get? .api

def hasOwner (holders : List (String × Holder)) : Bool :=
  holders.any fun entry => entry.2.roles.get? .api == some Role.primaryOwner

def steps (holders : List (String × Holder)) (members : List PlannedMember) : List MemberStep :=
  MemberStep.plan (roleOf? holders) (hasOwner holders) (firsts (·.user.id) members)

def after (holders : List (String × Holder)) : MemberStep → List (String × Holder)
  | .keep => holders
  | .assign m _ => give holders m.user m.role

def imported (holders : List (String × Holder)) (members : List PlannedMember) :
    List (String × Holder) :=
  (steps holders members).foldl after holders

/-- A new API with an acting user has an owner from the start. -/
def withOwner (holders : List (String × Holder)) : Option String → List (String × Holder)
  | some username =>
    give holders { id := username, reference := some username } ⟨.api, Role.primaryOwner⟩
  | none => holders

end Holders

def PageEntry.isAbout (entry page : PageEntry) : Bool := page.name == entry.name

def PageEntry.revise (entry page : PageEntry) : PageEntry :=
  { page with name := entry.name, body := entry.body }

def PlanEntry.isAbout (entry plan : PlanEntry) : Bool := plan.isOpen && plan.key == entry.key

def PlanEntry.revise (entry plan : PlanEntry) : PlanEntry :=
  { plan with name := entry.name, terms := entry.terms }

/-- What an import makes of holdings. The owner is the acting user of a new API. -/
def Holdings.imported (holdings : Holdings) (definition : Definition) (owner : Option String)
    (members : List PlannedMember) : Holdings where
  details := definition.details
  groups := Names.insertAll definition.groups holdings.groups
  members := Holders.imported (Holders.withOwner holdings.members owner) members
  pages :=
    Upsert.broughtInto PageEntry.isAbout PageEntry.revise (firsts PageEntry.name definition.pages)
      holdings.pages
  plans :=
    Upsert.broughtInto PlanEntry.isAbout PlanEntry.revise (firsts PlanEntry.key definition.plans)
      holdings.plans

namespace Store

variable {store : Store} {apiId : String}

theorem holder_granted (reference : Reference) (user : Member) (role : RoleName) :
    (store.granted reference user role).holder =
      Holder.granted ((store.membership? reference user.id).map Membership.holder) user role := by
  rw [granted]
  cases store.membership? reference user.id <;> rfl

theorem holders_withGrant (h : (store.memberships.map Membership.key).Nodup) (user : Member)
    (role : RoleName) :
    (store.withGrant (.api apiId) user role).holders apiId =
      Holders.give (store.holders apiId) user role := by
  refine Fields.eq_of_lookup_eq (Fields.sorted_ofList _)
    (Fields.sorted_insert (Fields.sorted_ofList _) _ _) fun userId => ?_
  rw [lookup_holders (nodup_key_putMembership h), membership?_withGrant, Holders.give,
    Fields.lookup_insert, lookup_holders h, lookup_holders h]
  by_cases hid : userId = user.id
  · simp [hid, holder_granted]
  · simp [hid, Ne.symm hid]

theorem hasOwner_holders (h : (store.memberships.map Membership.key).Nodup) (apiId : String) :
    Holders.hasOwner (store.holders apiId) =
      !(store.membershipsWith (.api apiId) ⟨.api, Role.primaryOwner⟩).isEmpty := by
  rw [Bool.eq_iff_iff, exists_owner_iff h, Holders.hasOwner, List.any_eq_true]
  constructor
  · rintro ⟨⟨userId, holder⟩, hmem, hrole⟩
    have hlookup := (Fields.lookup_eq_some_iff
      (Fields.nodup_keys (Fields.sorted_ofList _))).mpr hmem
    refine ⟨userId, ?_⟩
    rw [roleOf?_eq_lookup h, ← beq_iff_eq.mp hrole]
    exact congrArg (Option.bind · _) hlookup
  · rintro ⟨userId, hrole⟩
    rw [roleOf?_eq_lookup h, Option.bind_eq_some_iff] at hrole
    obtain ⟨holder, hlookup, hrole⟩ := hrole
    refine ⟨(userId, holder), ?_, beq_iff_eq.mpr hrole⟩
    exact (Fields.lookup_eq_some_iff (Fields.nodup_keys (Fields.sorted_ofList _))).mp hlookup

theorem memberSteps_eq (h : (store.memberships.map Membership.key).Nodup)
    (members : List PlannedMember) :
    memberSteps store apiId members = Holders.steps (store.holders apiId) members := by
  have hroles : store.roleOf? (.api apiId) .api = Holders.roleOf? (store.holders apiId) := by
    funext userId
    exact roleOf?_eq_lookup h userId
  rw [memberSteps, Holders.steps, hasOwner_holders h, hroles]

theorem holders_foldl_after (h : (store.memberships.map Membership.key).Nodup)
    (steps : List MemberStep) :
    (steps.foldl (MemberStep.after (.api apiId)) store).holders apiId =
      steps.foldl Holders.after (store.holders apiId) := by
  induction steps generalizing store with
  | nil => rfl
  | cons step steps ih =>
    cases step with
    | keep => exact ih h
    | assign m kind =>
      rw [List.foldl_cons, MemberStep.after, ih (nodup_key_putMembership h), holders_withGrant h]
      rfl

theorem holders_withMembers (h : (store.memberships.map Membership.key).Nodup)
    (members : List PlannedMember) :
    (store.withMembers apiId members).holders apiId =
      Holders.imported (store.holders apiId) members := by
  rw [withMembers_eq, holders_foldl_after h, memberSteps_eq h, Holders.imported]

theorem seen_pageUpsert (apiId : String) (contributor : Option String) :
    (pageUpsert apiId contributor).Seen (·.apiId == apiId) Page.entry PageEntry.isAbout
      PageEntry.revise where
  isAbout_eq _ _ := rfl
  here_revise _ _ := rfl
  view_revise _ _ := rfl
  here_create _ _ := beq_self_eq_true apiId
  view_create _ _ := rfl

theorem seen_planUpsert (apiId : String) :
    (planUpsert apiId).Seen (·.apiId == apiId) Plan.toEntry PlanEntry.isAbout
      PlanEntry.revise where
  isAbout_eq _ _ := rfl
  here_revise _ _ := rfl
  view_revise _ _ := rfl
  here_create _ _ := beq_self_eq_true apiId
  view_create _ _ := rfl

theorem groupsWithIds_withGroups {ids : List String} (h : ids ⊆ store.groupIds)
    (names : List String) :
    (store.withGroups names).groupsWithIds ids = store.groupsWithIds ids := by
  have hnew : (store.newGroups names).filter (fun group => ids.contains group.id) = [] := by
    refine List.filter_eq_nil_iff.mpr fun group hgroup hmem => ?_
    exact not_mem_groupIds_of_mem_newGroups hgroup (h (List.contains_iff_mem.mp hmem))
  have happ : (store.withGroups names).groupsWithIds ids =
      store.groupsWithIds ids ++
        (store.newGroups names).filter fun group => ids.contains group.id :=
    List.filter_append ..
  rw [happ, hnew, List.append_nil]

/-- The groups of an API are those it had before and those that the definition names. -/
theorem mem_groupNames_described {ids names : List String} (hids : ids ⊆ store.groupIds)
    (hnodup : ((store.withGroups names).groups.map (·.id)).Nodup) {name : String} :
    name ∈ ((store.withGroups names).groupsWithIds
        (Names.insertAll ((store.withGroups names).groupIdsNamed names) ids)).map (·.name) ↔
      name ∈ names ∨ name ∈ (store.groupsWithIds ids).map (·.name) := by
  rw [← groupsWithIds_withGroups hids names]
  simp only [groupsWithIds, List.mem_map, List.mem_filter, List.contains_iff_mem,
    Names.mem_insertAll, mem_groupIdsNamed]
  constructor
  · rintro ⟨group, ⟨hgroup, ⟨n, hn, found, hfound, hid⟩ | hid⟩, rfl⟩
    · obtain ⟨hmem, rfl⟩ := mem_of_groupNamed?_eq_some hfound
      exact Or.inl (List.inj_on_of_nodup_map hnodup hmem hgroup hid ▸ hn)
    · exact Or.inr ⟨group, ⟨hgroup, hid⟩, rfl⟩
  · rintro (hname | ⟨group, ⟨hgroup, hid⟩, rfl⟩)
    · obtain ⟨group, hgroup⟩ : ∃ group, (store.withGroups names).groupNamed? name = some group :=
        exists_groupNamed?_withGroups hname
      obtain ⟨hmem, he⟩ := mem_of_groupNamed?_eq_some hgroup
      exact ⟨group, ⟨hmem, Or.inl ⟨name, hname, group, hgroup, rfl⟩⟩, he⟩
    · exact ⟨group, ⟨hgroup, Or.inr hid⟩, rfl⟩

def startingApi (store : Store) (existing : Option Api) (definition : Definition) : Api :=
  existing.getD { id := store.freshApiId, details := definition.details }

section Imported

variable {existing : Option Api} {definition : Definition} {actingUser : Option String}
  {members : List PlannedMember}

/-- The one who becomes the owner before the members are imported. -/
def newOwner (existing : Option Api) (actingUser : Option String) : Option String :=
  if existing.isNone then actingUser else none

theorem id_startingApi : (store.startingApi existing definition).id =
    store.targetId existing definition := by
  cases existing <;> rfl

theorem groups_startingApi (h : ∀ api, existing = some api → api ∈ store.apis) :
    (store.startingApi existing definition).groups ⊆ store.groupIds := by
  intro id hid
  cases existing with
  | none => exact absurd hid List.not_mem_nil
  | some api =>
    exact List.mem_append_right _ (List.mem_flatMap.mpr ⟨api, h api rfl, hid⟩)

theorem holders_beforeMembers (h : (store.memberships.map Membership.key).Nodup) :
    (store.beforeMembers existing definition actingUser).holders
        (store.targetId existing definition) =
      Holders.withOwner (store.holders (store.targetId existing definition))
        (newOwner existing actingUser) := by
  cases existing with
  | some api => rfl
  | none =>
    cases actingUser with
    | none => rfl
    | some username =>
      refine holders_withGrant ?_ _ _
      exact h

theorem groupNames_imported
    (hafter : (store.imported existing definition actingUser members).Consistent)
    (hexisting : ∀ api, existing = some api → api ∈ store.apis) :
    Names.ofList
        (((store.imported existing definition actingUser members).groupsWithIds
          ((store.withGroups definition.groups).savedApi existing definition).groups).map
            (·.name)) =
      Names.insertAll definition.groups
        (Names.ofList ((store.groupsWithIds
          (store.startingApi existing definition).groups).map (·.name))) := by
  refine Names.eq_of_mem_iff (Names.sorted_ofList _)
    (Names.sorted_insertAll (Names.sorted_ofList _) _) fun name => ?_
  have hnodup := hafter.groupIds_nodup
  rw [groups_imported] at hnodup
  rw [Names.mem_ofList, Names.mem_insertAll, Names.mem_ofList,
    ← mem_groupNames_described (groups_startingApi hexisting) hnodup, groupsWithIds,
    groups_imported]
  cases existing <;> rfl

theorem holders_imported (h : (store.memberships.map Membership.key).Nodup) :
    (store.imported existing definition actingUser members).holders
        (store.targetId existing definition) =
      Holders.imported (Holders.withOwner (store.holders (store.targetId existing definition))
        (newOwner existing actingUser)) members := by
  rw [← holders_beforeMembers h, ← holders_withMembers (nodup_beforeMembers h)]
  rfl

theorem map_pagesOf_imported (h : (store.pages.map (·.id)).Nodup) :
    ((store.imported existing definition actingUser members).pagesOf
        (store.targetId existing definition)).map Page.entry =
      Upsert.broughtInto PageEntry.isAbout PageEntry.revise (firsts PageEntry.name definition.pages)
        ((store.pagesOf (store.targetId existing definition)).map Page.entry) := by
  rw [pagesOf, pages_imported]
  exact (seen_pageUpsert _ actingUser).map_filter_run h (nodup_map_firsts PageEntry.name _)

theorem map_plansOf_imported (h : (store.plans.map (·.id)).Nodup) :
    ((store.imported existing definition actingUser members).plansOf
        (store.targetId existing definition)).map Plan.toEntry =
      Upsert.broughtInto PlanEntry.isAbout PlanEntry.revise (firsts PlanEntry.key definition.plans)
        ((store.plansOf (store.targetId existing definition)).map Plan.toEntry) := by
  rw [plansOf, plans_imported]
  exact (seen_planUpsert _).map_filter_run h (nodup_map_firsts PlanEntry.key _)

/-- An import makes of the holdings of its API what can be told from them alone. -/
theorem holdings_imported (h : store.Consistent)
    (hafter : (store.imported existing definition actingUser members).Consistent)
    (hexisting : ∀ api, existing = some api → api ∈ store.apis) :
    (store.imported existing definition actingUser members).holdings
        ((store.withGroups definition.groups).savedApi existing definition) =
      (store.holdings (store.startingApi existing definition)).imported definition
        (newOwner existing actingUser) members := by
  have hholders : (store.imported existing definition actingUser members).holders
      (store.targetId existing definition) = _ := holders_imported h.memberKeys_nodup
  have hpages : ((store.imported existing definition actingUser members).pagesOf
      (store.targetId existing definition)).map Page.entry = _ :=
    map_pagesOf_imported h.pageIds_nodup
  have hplans : ((store.imported existing definition actingUser members).plansOf
      (store.targetId existing definition)).map Plan.toEntry = _ :=
    map_plansOf_imported h.planIds_nodup
  simp only [holdings, Holdings.imported, id_startingApi, ← groupNames_imported hafter hexisting,
    ← hholders, ← hpages, ← hplans]
  rfl

end Imported

namespace GrowsIn

variable {target : String} {before after : Store} (h : before.GrowsIn target after)
include h

theorem api?_eq {id : String} (hid : id ≠ target) : after.api? id = before.api? id := by
  have hfilter := h.apis.filter_eq (p := (·.id == id))
    (fun hkept => ⟨by rw [hkept.id], fun he => hkept.other (beq_iff_eq.mp he ▸ hid)⟩)
    fun hnew => by simpa [hnew] using hid.symm
  rw [api?, ← List.head?_filter, hfilter, List.head?_filter, api?]

theorem holders_eq (hid : apiId ≠ target) : after.holders apiId = before.holders apiId := by
  have hne : Reference.api target ≠ .api apiId := fun he => hid (congrArg Reference.id he).symm
  have hfilter := h.memberships.filter_eq (p := (·.reference == .api apiId))
    (fun hkept => by
      have href := congrArg Prod.fst hkept.key
      exact ⟨congrArg (· == Reference.api apiId) href,
        fun he => hkept.other fun ht => hne (ht.symm.trans (beq_iff_eq.mp he))⟩)
    fun hnew => by simpa [hnew] using hne
  rw [holders, hfilter, holders]

theorem pagesOf_eq (hid : apiId ≠ target) : after.pagesOf apiId = before.pagesOf apiId :=
  h.pages.filter_eq
    (fun hkept => ⟨by rw [hkept.apiId], fun he => hkept.other (beq_iff_eq.mp he ▸ hid)⟩)
    fun hnew => by simpa [hnew] using hid.symm

theorem plansOf_eq (hid : apiId ≠ target) : after.plansOf apiId = before.plansOf apiId :=
  h.plans.filter_eq
    (fun hkept => ⟨by rw [hkept.apiId], fun he => hkept.other (beq_iff_eq.mp he ▸ hid)⟩)
    fun hnew => by simpa [hnew] using hid.symm

end GrowsIn

theorem other_imported {existing : Option Api} {definition : Definition}
    {actingUser : Option String} {members : List PlannedMember} (h : store.Consistent)
    (hexisting : ∀ api, existing = some api → api ∈ store.apis)
    (hscope : ∀ m ∈ members, m.role.scope = .api) {api : Api} (hapi : store.api? api.id = some api)
    (hne : api.id ≠ store.targetId existing definition) :
    (store.imported existing definition actingUser members).api? api.id = some api ∧
      (store.imported existing definition actingUser members).holdings api =
        store.holdings api := by
  have hgrows : store.GrowsIn (store.targetId existing definition)
      (store.imported existing definition actingUser members) :=
    growsIn_imported h hexisting hscope
  have hids : api.groups ⊆ store.groupIds := fun id hid =>
    List.mem_append_right _
      (List.mem_flatMap.mpr ⟨api, (mem_of_api?_eq_some hapi).1, hid⟩)
  have hgroups : (store.imported existing definition actingUser members).groupsWithIds api.groups =
      store.groupsWithIds api.groups := by
    rw [groupsWithIds, groups_imported]
    exact groupsWithIds_withGroups hids definition.groups
  refine ⟨(hgrows.api?_eq hne).trans hapi, ?_⟩
  simp only [holdings, hgroups, hgrows.holders_eq hne, hgrows.pagesOf_eq hne,
    hgrows.plansOf_eq hne]

end Store

namespace Importable

variable {c : Catalog} {apiId : Option String} {parsed : Except DefinitionFault Definition}
  {existing : Option Api} {definition : Definition} {members : List PlannedMember}
  (h : Importable c apiId parsed existing definition members) (hc : c.store.Consistent)
  (actingUser : Option String)
include h

theorem existing_mem {api : Api} (hapi : existing = some api) : api ∈ c.store.apis :=
  (Store.mem_of_api?_eq_some (h.api?_eq hapi)).1

include hc

theorem consistent_imported :
    (c.store.imported existing definition actingUser members).Consistent := by
  have hafter := moves_importParsed moving_consistent apiId parsed actingUser c hc
  obtain ⟨metrics, hrun⟩ := runOn_importParsed_of_importable hc.seeded_owner h actingUser
  rw [hrun] at hafter
  exact hafter

theorem holdings_imported :
    (c.store.imported existing definition actingUser members).holdings
        ((c.store.withGroups definition.groups).savedApi existing definition) =
      (c.store.holdings (c.store.startingApi existing definition)).imported definition
        (Store.newOwner existing actingUser) members :=
  Store.holdings_imported hc (h.consistent_imported hc actingUser) fun _ => h.existing_mem

theorem other_imported {api : Api} (hapi : c.store.api? api.id = some api)
    (hne : apiId ≠ some api.id) :
    (c.store.imported existing definition actingUser members).api? api.id = some api ∧
      (c.store.imported existing definition actingUser members).holdings api =
        c.store.holdings api := by
  refine Store.other_imported hc (fun _ => h.existing_mem) (scope_of_planMembers h.members_eq) hapi
    fun hid => ?_
  rw [h.targetId_eq] at hid
  cases apiId with
  | some id => exact hne (congrArg some hid.symm)
  | none =>
    have hfree : c.store.api? api.id = none := hid ▸ c.store.api?_freshApiId
    exact Option.some_ne_none api (hapi.symm.trans hfree)

end Importable

end ApiCatalog
