import ApiCatalog.Proofs.Import.Outcome

/-! # What importing a new API leaves

A new API has nothing but what the definition asks for. Without an acting user its members are those
of the definition, its pages and plans are the first entries of their keys.
-/

namespace ApiCatalog

/-- A list without the elements that fulfil a condition, but for the first of them. -/
def onlyFirst {α : Type} (p : α → Bool) : List α → List α
  | [] => []
  | x :: xs => if p x then x :: xs.filter (!p ·) else x :: onlyFirst p xs

section OnlyFirst

variable {α β : Type} {p : α → Bool} {xs : List α}

theorem onlyFirst_sublist : (onlyFirst p xs).Sublist xs := by
  induction xs with
  | nil => exact List.Sublist.refl []
  | cons x xs ih =>
    rw [onlyFirst]
    split
    · exact List.filter_sublist.cons_cons x
    · exact ih.cons_cons x

theorem onlyFirst_map (p : β → Bool) (f : α → β) (xs : List α) :
    onlyFirst p (xs.map f) = (onlyFirst (p ∘ f) xs).map f := by
  induction xs with
  | nil => rfl
  | cons x xs ih =>
    rw [List.map_cons, onlyFirst, onlyFirst, List.filter_map, ih]
    cases h : p (f x) <;> simp [h, Function.comp_def]

theorem countP_onlyFirst_le (p : α → Bool) (xs : List α) : (onlyFirst p xs).countP p ≤ 1 := by
  induction xs with
  | nil => exact Nat.zero_le 1
  | cons x xs ih =>
    rw [onlyFirst]
    split
    · rename_i h
      simp [h]
    · rename_i h
      simpa [h] using ih

theorem onlyFirst_eq_self (h : xs.countP p ≤ 1) : onlyFirst p xs = xs := by
  induction xs with
  | nil => rfl
  | cons x xs ih =>
    rw [onlyFirst]
    split
    · rename_i hx
      have hnone : xs.countP p = 0 := by
        rw [List.countP_cons, if_pos hx] at h
        omega
      rw [List.filter_eq_self.mpr fun y hy => by simpa using List.countP_eq_zero.mp hnone y hy]
    · rename_i hx
      rw [List.countP_cons, if_neg hx] at h
      rw [ih h]

end OnlyFirst

namespace PlannedMember

def isOwner (m : PlannedMember) : Bool := m.role.name == Role.primaryOwner

def membership (m : PlannedMember) (reference : Reference) : Membership :=
  (Membership.empty reference m.user.id).grant m.user m.role

def shown (m : PlannedMember) : ScopedMember := ⟨m.user, m.role.name, .user⟩

theorem user_membership (m : PlannedMember) (reference : Reference) :
    (m.membership reference).user = m.user := by
  simp [membership, Membership.grant, Membership.identify, Membership.empty]

theorem ofMembership?_membership (m : PlannedMember) (reference : Reference)
    (h : m.role.scope = .api) :
    ScopedMember.ofMembership? .api (m.membership reference) = some m.shown := by
  have hrole : (m.membership reference).role? .api = some m.role.name := by
    rw [membership, Membership.grant, Membership.role?, HeldRoles.get?_give, h, if_pos rfl]
  rw [ScopedMember.ofMembership?, hrole, user_membership]
  rfl

end PlannedMember

/-- On an API without members every one is assigned, but for further primary owners. -/
theorem MemberStep.plan_none (owned : Bool) (ms : List PlannedMember) :
    plan (fun _ => none) owned ms =
      (if owned then ms.filter (!·.isOwner) else onlyFirst (·.isOwner) ms).map
        (assign · .create) := by
  induction ms generalizing owned with
  | nil => cases owned <;> rfl
  | cons m ms ih =>
    by_cases h : m.role.name = Role.primaryOwner
    · cases owned <;> simp [plan, onlyFirst, PlannedMember.isOwner, h, ih]
    · cases owned <;> simp [plan, onlyFirst, PlannedMember.isOwner, h, ih]

namespace Store

theorem memberships_foldl_after {reference : Reference} {ms : List PlannedMember} {store : Store}
    (hnew : ∀ m ∈ ms, store.membership? reference m.user.id = none)
    (hdistinct : (ms.map (·.user.id)).Nodup) :
    ((ms.map (MemberStep.assign · .create)).foldl (MemberStep.after reference) store).memberships =
      store.memberships ++ ms.map (·.membership reference) := by
  induction ms generalizing store with
  | nil => exact (List.append_nil _).symm
  | cons m ms ih =>
    rw [List.map_cons, List.nodup_cons] at hdistinct
    obtain ⟨hm, hms⟩ := List.forall_mem_cons.mp hnew
    have hgranted : store.granted reference m.user m.role = m.membership reference := by
      rw [granted, hm]
      rfl
    have hput : (store.withGrant reference m.user m.role).memberships =
        store.memberships ++ [m.membership reference] := by
      rw [withGrant, hgranted]
      exact putMembership_of_find?_eq_none hm
    have hrest : ∀ n ∈ ms,
        (store.withGrant reference m.user m.role).membership? reference n.user.id = none := by
      intro n hn
      rw [membership?_withGrant, if_neg, hms n hn]
      exact fun hc => hdistinct.1 (hc.2 ▸ List.mem_map_of_mem hn)
    rw [List.map_cons, List.foldl_cons, MemberStep.after, ih hrest hdistinct.2, hput,
      List.append_assoc]
    rfl

variable {store : Store} {definition : Definition} {members : List PlannedMember}

/-- The members that a definition asks for on a new API: the first entry of every user, and one
primary owner at most. -/
def newMembers (members : List PlannedMember) : List PlannedMember :=
  onlyFirst (·.isOwner) (firsts (·.user.id) members)

theorem nodup_newMembers (members : List PlannedMember) :
    ((newMembers members).map (·.user.id)).Nodup :=
  (nodup_map_firsts _ members).sublist (onlyFirst_sublist.map _)

theorem memberships_imported_new :
    (store.imported none definition none members).memberships =
      store.memberships ++
        (newMembers members).map (·.membership (.api store.freshApiId)) := by
  have hroles : (store.beforeMembers none definition none).roleOf? (.api store.freshApiId) .api =
      fun _ => none := by
    funext u
    exact Option.bind_eq_none_iff.mpr fun m hm =>
      absurd (hm.symm.trans (store.membership?_freshApiId u)) (Option.some_ne_none m)
  have howners : (store.beforeMembers none definition none).membershipsWith
      (.api store.freshApiId) ⟨.api, Role.primaryOwner⟩ = [] := by
    refine List.eq_nil_iff_forall_not_mem.mpr fun m hm => ?_
    obtain ⟨hstored, href, -⟩ := mem_membershipsWith.mp hm
    have hbefore : m ∈ store.memberships := hstored
    exact reference_ne_freshApiId hbefore href
  have hsteps : memberSteps (store.beforeMembers none definition none) store.freshApiId members =
      (newMembers members).map (.assign · .create) := by
    rw [memberSteps, hroles, howners]
    exact MemberStep.plan_none false _
  rw [memberships_imported, withMembers_eq]
  change ((memberSteps (store.beforeMembers none definition none) store.freshApiId members).foldl
    (MemberStep.after (.api store.freshApiId)) _).memberships = _
  rw [hsteps]
  exact memberships_foldl_after (fun m _ => store.membership?_freshApiId m.user.id)
    (nodup_newMembers members)

theorem members_imported_new (hscope : ∀ m ∈ members, m.role.scope = .api) :
    (store.imported none definition none members).members (.api store.freshApiId) .api =
      ((newMembers members).map (·.shown)).mergeSort fun m m' => m.user.id ≤ m'.user.id := by
  have hold : store.memberships.filter (·.reference == .api store.freshApiId) = [] :=
    List.filter_eq_nil_iff.mpr fun m hm => by simp [reference_ne_freshApiId hm]
  have hnew : ((newMembers members).map (·.membership (.api store.freshApiId))).filter
      (·.reference == .api store.freshApiId) =
        (newMembers members).map (·.membership (.api store.freshApiId)) := by
    refine List.filter_eq_self.mpr fun m hm => ?_
    obtain ⟨p, -, rfl⟩ := List.mem_map.mp hm
    exact beq_self_eq_true _
  have hsort : ((newMembers members).map (·.membership (.api store.freshApiId))).mergeSort
      (fun m m' => m.user.id ≤ m'.user.id) =
        ((newMembers members).mergeSort fun m m' => m.user.id ≤ m'.user.id).map
          (·.membership (.api store.freshApiId)) :=
    (List.map_mergeSort fun m _ m' _ => by
      rw [PlannedMember.user_membership, PlannedMember.user_membership]).symm
  have hsort' : ((newMembers members).map (·.shown)).mergeSort
      (fun m m' => m.user.id ≤ m'.user.id) =
        ((newMembers members).mergeSort fun m m' => m.user.id ≤ m'.user.id).map (·.shown) :=
    (List.map_mergeSort (f := PlannedMember.shown) fun m _ m' _ => rfl).symm
  rw [Store.members, membershipsOf, memberships_imported_new, List.filter_append, hold, hnew,
    List.nil_append, hsort, hsort', List.filterMap_map]
  rw [← List.filterMap_eq_map]
  refine List.filterMap_congr fun m hm => ?_
  have hm : m ∈ members :=
    mem_of_mem_firsts (onlyFirst_sublist.subset (List.mem_mergeSort.mp hm))
  exact m.ofMembership?_membership _ (hscope m hm)

theorem pagesOf_imported_new (h : (store.pages.map (·.id)).Nodup) :
    (store.imported none definition none members).pagesOf store.freshApiId =
      (pageUpsert store.freshApiId none).created (store.pages.map (·.id))
        (firsts PageEntry.name definition.pages) := by
  rw [pagesOf, pages_imported]
  refine Upsert.filter_run_of_new _ h (nodup_map_firsts _ _) ?old ?about ?new
  case old => exact fun page hpage => beq_false_of_ne (page_apiId_ne_freshApiId hpage)
  case about => exact fun entry page habout => (Bool.and_eq_true_iff.mp habout).1
  case new => exact fun id entry => beq_self_eq_true _

theorem plansOf_imported_new (h : (store.plans.map (·.id)).Nodup) :
    (store.imported none definition none members).plansOf store.freshApiId =
      (planUpsert store.freshApiId).created (store.plans.map (·.id))
        (firsts PlanEntry.key definition.plans) := by
  rw [plansOf, plans_imported]
  refine Upsert.filter_run_of_new _ h (nodup_map_firsts _ _) ?old ?about ?new
  case old => exact fun plan hplan => beq_false_of_ne (plan_apiId_ne_freshApiId hplan)
  case about => exact fun entry plan habout => (Bool.and_eq_true_iff.mp habout).1
  case new => exact fun id entry => beq_self_eq_true _

theorem groupNames_imported_new
    (h : (((store.withGroups definition.groups).groups).map (·.id)).Nodup) :
    Names.ofList (((store.imported none definition none members).groupsWithIds
        ((store.withGroups definition.groups).savedApi none definition).groups).map (·.name)) =
      Names.ofList definition.groups := by
  refine Names.ofList_congr fun name => ?_
  have hids : ∀ id, id ∈ ((store.withGroups definition.groups).savedApi none definition).groups ↔
      ∃ name ∈ definition.groups, ∃ group,
        (store.withGroups definition.groups).groupNamed? name = some group ∧ group.id = id := by
    intro id
    exact Names.mem_insertAll.trans ((or_iff_left List.not_mem_nil).trans mem_groupIdsNamed)
  rw [List.mem_map, groupsWithIds, groups_imported]
  constructor
  · rintro ⟨group, hgroup, rfl⟩
    obtain ⟨hmem, hid⟩ := List.mem_filter.mp hgroup
    obtain ⟨name, hname, found, hfound, he⟩ := (hids _).mp (by simpa using hid)
    obtain ⟨hfoundMem, rfl⟩ := mem_of_groupNamed?_eq_some hfound
    rwa [← List.inj_on_of_nodup_map h hfoundMem hmem he]
  · intro hname
    obtain ⟨group, hgroup⟩ : ∃ group,
        (store.withGroups definition.groups).groupNamed? name = some group :=
      exists_groupNamed?_withGroups hname
    obtain ⟨hmem, he⟩ := mem_of_groupNamed?_eq_some hgroup
    refine ⟨group, List.mem_filter.mpr ⟨hmem, ?_⟩, he⟩
    simpa using (hids _).mpr ⟨name, hname, group, hgroup, rfl⟩

end Store

end ApiCatalog
