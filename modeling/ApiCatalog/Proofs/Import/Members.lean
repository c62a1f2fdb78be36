import ApiCatalog.Import.Members
import ApiCatalog.Proofs.Ordered
import ApiCatalog.Proofs.Results
import ApiCatalog.Proofs.Store.Consistent
import ApiCatalog.Proofs.Task
import Mathlib.Logic.Function.Basic

/-! # What importing members leaves

What is planned for members is described by the roles that users hold before and after it: a primary
owner stays, nobody joins one, and a second plan for the same members finds nothing to assign.
-/

namespace ApiCatalog

/-- The users who hold the role of a primary owner stay, and there is no second one after at most
one. -/
structure OwnersKept (held held' : String → Option String) : Prop where
  keep : ∀ {u}, held u = some Role.primaryOwner → held' u = some Role.primaryOwner
  unique : (∀ {u v}, held u = some Role.primaryOwner → held v = some Role.primaryOwner → u = v) →
    ∀ {u v}, held' u = some Role.primaryOwner → held' v = some Role.primaryOwner → u = v

namespace OwnersKept

variable {held held' held'' : String → Option String}

theorem refl (held : String → Option String) : OwnersKept held held := ⟨id, id⟩

theorem trans (h : OwnersKept held held') (h' : OwnersKept held' held'') :
    OwnersKept held held'' :=
  ⟨fun hu => h'.keep (h.keep hu), fun hone => h'.unique (h.unique hone)⟩

theorem update_eq_owner_iff {u v role : String} (hu : held u ≠ some Role.primaryOwner)
    (hrole : role ≠ Role.primaryOwner) :
    Function.update held u (some role) v = some Role.primaryOwner ↔
      held v = some Role.primaryOwner := by
  by_cases hv : v = u
  · subst hv
    simp [hu, hrole]
  · rw [Function.update_of_ne hv]

theorem update_other {u role : String} (hu : held u ≠ some Role.primaryOwner)
    (hrole : role ≠ Role.primaryOwner) :
    OwnersKept held (Function.update held u (some role)) :=
  ⟨(update_eq_owner_iff hu hrole).mpr, fun hone _ _ h h' =>
    hone ((update_eq_owner_iff hu hrole).mp h) ((update_eq_owner_iff hu hrole).mp h')⟩

theorem update_owner (u : String) (h : ∀ v, held v ≠ some Role.primaryOwner) :
    OwnersKept held (Function.update held u (some Role.primaryOwner)) := by
  have honly : ∀ {v}, Function.update held u (some Role.primaryOwner) v = some Role.primaryOwner →
      v = u := by
    intro v hv
    by_contra hne
    rw [Function.update_of_ne hne] at hv
    exact h v hv
  exact ⟨fun hv => absurd hv (h _), fun _ _ _ hv hv' => (honly hv).trans (honly hv').symm⟩

end OwnersKept

namespace MemberStep

def rolesAfter (held : String → Option String) : MemberStep → String → Option String
  | keep => held
  | assign m _ => Function.update held m.user.id (some m.role.name)

section Plan

variable {held r r' : String → Option String} {owned owned' : Bool} {m : PlannedMember}
  {ms : List PlannedMember}

/-- All that a plan can do about its first member. -/
theorem plan_cons_cases (held : String → Option String) (owned : Bool) (m : PlannedMember)
    (ms : List PlannedMember) :
    (held m.user.id = some m.role.name ∧
        plan held owned (m :: ms) = keep :: plan held owned ms) ∨
      (held m.user.id ≠ some m.role.name ∧
        (held m.user.id = some Role.primaryOwner ∨ m.role.name = Role.primaryOwner ∧ owned = true) ∧
        plan held owned (m :: ms) = plan held owned ms) ∨
      (held m.user.id ≠ some m.role.name ∧ held m.user.id ≠ some Role.primaryOwner ∧
        m.role.name ≠ Role.primaryOwner ∧
        ∃ kind, plan held owned (m :: ms) = assign m kind :: plan held owned ms) ∨
      (held m.user.id ≠ some Role.primaryOwner ∧ m.role.name = Role.primaryOwner ∧
        owned = false ∧
        ∃ kind, plan held owned (m :: ms) = assign m kind :: plan held true ms) := by
  rw [plan]
  cases held m.user.id with
  | some role =>
    by_cases h : role = m.role.name
    · simp [h]
    · by_cases ho : role = Role.primaryOwner
      · simp [← ho, h]
      · by_cases hm : m.role.name = Role.primaryOwner <;> cases owned <;> simp [h, ho, hm]
  | none => by_cases hm : m.role.name = Role.primaryOwner <;> cases owned <;> simp [hm]

theorem mem_of_assign_mem_plan {kind : ChangeKind} (h : assign m kind ∈ plan held owned ms) :
    m ∈ ms := by
  induction ms generalizing owned with
  | nil => exact absurd h List.not_mem_nil
  | cons n ms ih =>
    rcases plan_cons_cases held owned n ms with
      ⟨_, he⟩ | ⟨_, _, he⟩ | ⟨_, _, _, _, he⟩ | ⟨_, _, _, _, he⟩ <;> rw [he] at h
    · exact List.mem_cons_of_mem _ (ih ((List.mem_cons.mp h).resolve_left (by simp)))
    · exact List.mem_cons_of_mem _ (ih h)
    all_goals
      rcases List.mem_cons.mp h with he | h
      · exact (assign.inj he).1 ▸ List.mem_cons_self
      · exact List.mem_cons_of_mem _ (ih h)

theorem rolesAfter_plan_of_not_mem {u : String} (h : u ∉ ms.map (·.user.id)) :
    (plan held owned ms).foldl rolesAfter r u = r u := by
  induction ms generalizing owned r with
  | nil => rfl
  | cons m ms ih =>
    rw [List.map_cons, List.mem_cons, not_or] at h
    rcases plan_cons_cases held owned m ms with
      ⟨_, he⟩ | ⟨_, _, he⟩ | ⟨_, _, _, _, he⟩ | ⟨_, _, _, _, he⟩ <;> rw [he]
    · exact ih h.2
    · exact ih h.2
    all_goals
      rw [List.foldl_cons, ih h.2]
      exact Function.update_of_ne h.1 _ _

theorem rolesAfter_plan_update (h : m.user.id ∉ ms.map (·.user.id)) (x : Option String) :
    (plan held owned ms).foldl rolesAfter (Function.update r m.user.id x) m.user.id = x := by
  rw [rolesAfter_plan_of_not_mem h]
  exact Function.update_self _ _ _

theorem update_eq_of_not_mem (hr : ∀ n ∈ ms, r n.user.id = held n.user.id)
    (h : m.user.id ∉ ms.map (·.user.id)) (x : Option String) :
    ∀ n ∈ ms, Function.update r m.user.id x n.user.id = held n.user.id := by
  intro n hn
  rw [Function.update_of_ne, hr n hn]
  exact fun he => h (he ▸ List.mem_map_of_mem hn)

/-- A plan keeps the primary owner if it is told that there is one. -/
theorem ownersKept_plan (hr : ∀ m ∈ ms, r m.user.id = held m.user.id)
    (hdistinct : (ms.map (·.user.id)).Nodup)
    (howned : ∀ u, r u = some Role.primaryOwner → owned = true) :
    OwnersKept r ((plan held owned ms).foldl rolesAfter r) := by
  induction ms generalizing owned r with
  | nil => exact OwnersKept.refl r
  | cons m ms ih =>
    rw [List.map_cons, List.nodup_cons] at hdistinct
    have hm := hr m List.mem_cons_self
    have hrest : ∀ n ∈ ms, r n.user.id = held n.user.id := fun n hn =>
      hr n (List.mem_cons_of_mem _ hn)
    have hupdated := update_eq_of_not_mem hrest hdistinct.1
    rcases plan_cons_cases held owned m ms with
      ⟨_, he⟩ | ⟨_, _, he⟩ | ⟨_, hheld, hrole, _, he⟩ | ⟨_, hrole, hfree, _, he⟩ <;> rw [he]
    · exact ih hrest hdistinct.2 howned
    · exact ih hrest hdistinct.2 howned
    · have hstep := OwnersKept.update_other (hm ▸ hheld) hrole
      exact hstep.trans (ih (hupdated _) hdistinct.2 fun u hu =>
        howned u ((OwnersKept.update_eq_owner_iff (hm ▸ hheld) hrole).mp hu))
    · have hnone : ∀ v, r v ≠ some Role.primaryOwner := fun v hv =>
        absurd (howned v hv) (by simp [hfree])
      have hstep := OwnersKept.update_owner m.user.id hnone
      rw [List.foldl_cons, rolesAfter, hrole]
      exact hstep.trans (ih (hupdated _) hdistinct.2 fun _ _ => rfl)

theorem forall_mem_plan_cons_keep
    (h : held m.user.id = some m.role.name ∨ held m.user.id = some Role.primaryOwner ∨
      m.role.name = Role.primaryOwner ∧ owned = true)
    (hrest : ∀ step ∈ plan held owned ms, step = keep) :
    ∀ step ∈ plan held owned (m :: ms), step = keep := by
  rcases plan_cons_cases held owned m ms with
    ⟨_, he⟩ | ⟨_, _, he⟩ | ⟨hheld, hother, hrole, _⟩ | ⟨hother, hrole, hfree, _⟩
  · rw [he]
    exact List.forall_mem_cons.mpr ⟨rfl, hrest⟩
  · rw [he]
    exact hrest
  · rcases h with h | h | ⟨h, _⟩
    · exact absurd h hheld
    · exact absurd h hother
    · exact absurd h hrole
  · rcases h with h | h | ⟨_, h⟩
    · exact absurd (hrole ▸ h) hother
    · exact absurd h hother
    · exact absurd (hfree.symm.trans h) Bool.false_ne_true

theorem eq_keep_of_mem_plan_of_held (h : ∀ m ∈ ms, held m.user.id = some m.role.name) :
    ∀ step ∈ plan held owned ms, step = keep := by
  induction ms with
  | nil => exact fun _ hm => absurd hm List.not_mem_nil
  | cons m ms ih =>
    obtain ⟨hm, hms⟩ := List.forall_mem_cons.mp h
    exact forall_mem_plan_cons_keep (Or.inl hm) (ih hms)

/-- After a plan has been carried out, a further plan for the same members only keeps. -/
theorem eq_keep_of_mem_plan_again (hr : ∀ m ∈ ms, r m.user.id = held m.user.id)
    (hdistinct : (ms.map (·.user.id)).Nodup)
    (howned : owned = true ↔ ∃ u, r u = some Role.primaryOwner)
    (hafter : (plan held owned ms).foldl rolesAfter r = r')
    (howned' : ∀ u, r' u = some Role.primaryOwner → owned' = true) :
    ∀ step ∈ plan r' owned' ms, step = keep := by
  -- `r` are the roles by now, and `howned` keeps the flag in step with them
  induction ms generalizing owned r with
  | nil => exact fun _ h => absurd h List.not_mem_nil
  | cons m ms ih =>
    have hkept : OwnersKept r r' :=
      hafter ▸ ownersKept_plan hr hdistinct fun u hu => howned.mpr ⟨u, hu⟩
    rw [List.map_cons, List.nodup_cons] at hdistinct
    have hm := hr m List.mem_cons_self
    have hrest : ∀ n ∈ ms, r n.user.id = held n.user.id := fun n hn =>
      hr n (List.mem_cons_of_mem _ hn)
    have hupdated := update_eq_of_not_mem hrest hdistinct.1
    rcases plan_cons_cases held owned m ms with
      ⟨hheld, he⟩ | ⟨_, hskip, he⟩ | ⟨_, hother, hrole, _, he⟩ | ⟨_, hrole, _, _, he⟩ <;>
      rw [he] at hafter
    · have hsame : r' m.user.id = r m.user.id := hafter ▸ rolesAfter_plan_of_not_mem hdistinct.1
      refine forall_mem_plan_cons_keep (Or.inl ?_) (ih hrest hdistinct.2 howned hafter)
      rw [hsame, hm, hheld]
    · have hsame : r' m.user.id = r m.user.id := hafter ▸ rolesAfter_plan_of_not_mem hdistinct.1
      refine forall_mem_plan_cons_keep (Or.inr ?_) (ih hrest hdistinct.2 howned hafter)
      rcases hskip with hheld | ⟨hrole, ho⟩
      · exact Or.inl (by rw [hsame, hm, hheld])
      · obtain ⟨u, hu⟩ := howned.mp ho
        exact Or.inr ⟨hrole, howned' u (hkept.keep hu)⟩
    · rw [List.foldl_cons] at hafter
      have hgiven : r' m.user.id = some m.role.name :=
        hafter ▸ rolesAfter_plan_update hdistinct.1 _
      refine forall_mem_plan_cons_keep (Or.inl hgiven) (ih (hupdated _) hdistinct.2 ?_ hafter)
      exact howned.trans (exists_congr fun u =>
        (OwnersKept.update_eq_owner_iff (hm ▸ hother) hrole).symm)
    · rw [List.foldl_cons] at hafter
      have hgiven : r' m.user.id = some m.role.name :=
        hafter ▸ rolesAfter_plan_update hdistinct.1 _
      refine forall_mem_plan_cons_keep (Or.inl hgiven) (ih (hupdated _) hdistinct.2 ?_ hafter)
      exact ⟨fun _ => ⟨m.user.id, hrole ▸ Function.update_self _ _ _⟩, fun _ => rfl⟩

end Plan

section After

variable {reference : Reference} {store : Store} {steps : List MemberStep}

def after (reference : Reference) (store : Store) : MemberStep → Store
  | keep => store
  | assign m _ => store.withGrant reference m.user m.role

def isAssign : MemberStep → Bool
  | keep => false
  | assign _ _ => true

theorem foldl_after (reference : Reference) (store : Store) (steps : List MemberStep) :
    steps.foldl (after reference) store =
      { store with memberships := (steps.foldl (after reference) store).memberships }.countWrite
        fun n => { n with memberUpserts := n.memberUpserts + steps.countP isAssign } := by
  induction steps generalizing store with
  | nil => rfl
  | cons step steps ih =>
    rw [List.foldl_cons, ih]
    cases step with
    | keep => simp [after, isAssign, Store.countWrite]
    | assign m kind =>
      simp [after, isAssign, Store.countWrite, Store.withGrant, List.countP_cons, Nat.add_assoc,
        Nat.add_comm 1]

theorem foldl_after_of_forall_keep (h : ∀ step ∈ steps, step = keep) :
    steps.foldl (after reference) store = store := by
  induction steps with
  | nil => rfl
  | cons step steps ih =>
    rw [List.foldl_cons, h step List.mem_cons_self]
    exact ih fun s hs => h s (List.mem_cons_of_mem _ hs)

theorem membership?_foldl_after_of_ne {reference' : Reference} (h : reference ≠ reference')
    (userId : String) :
    (steps.foldl (after reference) store).membership? reference' userId =
      store.membership? reference' userId := by
  induction steps generalizing store with
  | nil => rfl
  | cons step steps ih =>
    rw [List.foldl_cons, ih]
    cases step with
    | keep => rfl
    | assign m kind => rw [after, Store.membership?_withGrant, if_neg fun hc => h hc.1]

theorem roleOf?_foldl_after
    (h : ∀ m kind, assign m kind ∈ steps → m.role.scope = .api) :
    (steps.foldl (after reference) store).roleOf? reference .api =
      steps.foldl rolesAfter (store.roleOf? reference .api) := by
  induction steps generalizing store with
  | nil => rfl
  | cons step steps ih =>
    have hrest : ∀ m kind, assign m kind ∈ steps → m.role.scope = .api := fun m kind hm =>
      h m kind (List.mem_cons_of_mem _ hm)
    rw [List.foldl_cons, ih hrest, List.foldl_cons]
    congr 1
    cases step with
    | keep => rfl
    | assign m kind =>
      funext u
      have hscope := h m kind List.mem_cons_self
      rw [after, Store.roleOf?_withGrant, rolesAfter, Function.update_apply]
      simp only [hscope, true_and, and_true, eq_comm]

theorem gives_run (hready : ∀ m kind, assign m kind ∈ steps → store.hasRole m.role = true) :
    (steps.forM (run reference)).Gives store () (steps.foldl (after reference) store) := by
  refine CatalogM.Gives.forM (after reference)
    (fun step store => ∀ m kind, step = assign m kind → store.hasRole m.role = true) ?_ ?_ steps ?_
  · intro step store hstep
    cases step with
    | keep => exact CatalogM.Gives.count _ _ _
    | assign m kind =>
      have hgive := Store.giveRole_eq reference m.user m.role store
      rw [if_pos (hstep m kind rfl)] at hgive
      exact (CatalogM.Gives.onStore hgive).bind (CatalogM.Gives.count _ _ _)
  · intro step step' store hstep m kind hm
    cases step with
    | keep => exact hstep m kind hm
    | assign n kind' => exact hstep m kind hm
  · intro step hstep m kind he
    exact hready m kind (he ▸ hstep)

end After

end MemberStep

namespace Store

variable {store : Store} {apiId : String} {members : List PlannedMember}

def withMembers (store : Store) (apiId : String) (members : List PlannedMember) : Store :=
  { store with
    memberships :=
      ((memberSteps store apiId members).foldl (MemberStep.after (.api apiId)) store).memberships
    }.countWrite fun n =>
      { n with
        memberUpserts :=
          n.memberUpserts + (memberSteps store apiId members).countP MemberStep.isAssign }

theorem withMembers_eq (store : Store) (apiId : String) (members : List PlannedMember) :
    store.withMembers apiId members =
      (memberSteps store apiId members).foldl (MemberStep.after (.api apiId)) store :=
  (MemberStep.foldl_after _ _ _).symm

/-- Whether an API has a primary owner, as it is looked up before its members are planned. -/
theorem exists_owner_iff (h : (store.memberships.map Membership.key).Nodup) (apiId : String) :
    (!(store.membershipsWith (.api apiId) ⟨.api, Role.primaryOwner⟩).isEmpty) = true ↔
      ∃ u, store.roleOf? (.api apiId) .api u = some Role.primaryOwner := by
  rw [Bool.not_eq_true', List.isEmpty_eq_false_iff_exists_mem]
  constructor
  · rintro ⟨m, hm⟩
    obtain ⟨hmem, href, hrole⟩ := mem_membershipsWith.mp hm
    exact ⟨m.user.id, (roleOf?_eq_some_iff h).mpr ⟨m, hmem, href, rfl, hrole⟩⟩
  · rintro ⟨u, hu⟩
    obtain ⟨m, hmem, href, _, hrole⟩ := (roleOf?_eq_some_iff h).mp hu
    exact ⟨m, mem_membershipsWith.mpr ⟨hmem, href, hrole⟩⟩

theorem roleOf?_withMembers (hscope : ∀ m ∈ members, m.role.scope = .api) :
    (store.withMembers apiId members).roleOf? (.api apiId) .api =
      (memberSteps store apiId members).foldl MemberStep.rolesAfter
        (store.roleOf? (.api apiId) .api) := by
  rw [withMembers_eq, MemberStep.roleOf?_foldl_after]
  exact fun m kind hm => hscope m (mem_of_mem_firsts (MemberStep.mem_of_assign_mem_plan hm))

theorem ownersKept_withMembers (h : (store.memberships.map Membership.key).Nodup)
    (hscope : ∀ m ∈ members, m.role.scope = .api) :
    OwnersKept (store.roleOf? (.api apiId) .api)
      ((store.withMembers apiId members).roleOf? (.api apiId) .api) := by
  rw [roleOf?_withMembers hscope]
  exact MemberStep.ownersKept_plan (fun _ _ => rfl) (nodup_map_firsts _ _)
    fun u hu => (exists_owner_iff h apiId).mpr ⟨u, hu⟩

theorem withMembers_of_held
    (h : ∀ m ∈ members, store.roleOf? (.api apiId) .api m.user.id = some m.role.name) :
    store.withMembers apiId members = store := by
  rw [withMembers_eq]
  exact MemberStep.foldl_after_of_forall_keep <|
    MemberStep.eq_keep_of_mem_plan_of_held fun m hm => h m (mem_of_mem_firsts hm)

theorem withMembers_again {old : Store}
    (h : store.memberships = (old.withMembers apiId members).memberships)
    (hold : (old.memberships.map Membership.key).Nodup)
    (hkeys : (store.memberships.map Membership.key).Nodup)
    (hscope : ∀ m ∈ members, m.role.scope = .api) :
    store.withMembers apiId members = store := by
  have hroles : store.roleOf? (.api apiId) .api =
      (memberSteps old apiId members).foldl MemberStep.rolesAfter
        (old.roleOf? (.api apiId) .api) := by
    rw [← roleOf?_withMembers hscope]
    funext u
    rw [roleOf?, membership?, h, roleOf?, membership?]
  have hkeep : ∀ step ∈ memberSteps store apiId members, step = .keep :=
    MemberStep.eq_keep_of_mem_plan_again (fun _ _ => rfl) (nodup_map_firsts _ _)
      (exists_owner_iff hold apiId) hroles.symm fun u hu =>
        (exists_owner_iff hkeys apiId).mpr ⟨u, hu⟩
  rw [withMembers_eq]
  exact MemberStep.foldl_after_of_forall_keep hkeep

end Store

theorem gives_importMembers {store : Store} {members : List PlannedMember} (apiId : String)
    (h : ∀ m ∈ members, store.hasRole m.role = true) :
    (importMembers apiId members).Gives store () (store.withMembers apiId members) := by
  rw [Store.withMembers_eq]
  refine (CatalogM.Gives.fromStore _ store).bind (MemberStep.gives_run fun m kind hm => ?_)
  exact h m (mem_of_mem_firsts (MemberStep.mem_of_assign_mem_plan hm))

theorem PlannedMember.checkRoles_eq_ok_iff {store : Store} {ms : List PlannedMember} :
    checkRoles store ms = .ok () ↔ ∀ m ∈ ms, store.hasRole m.role = true := by
  induction ms with
  | nil => simp [checkRoles]
  | cons m ms ih =>
    rw [checkRoles, List.forall_mem_cons]
    cases store.hasRole m.role <;> simp [ih]

theorem PlannedMember.checkRoles_congr {store store' : Store} (h : store'.roles = store.roles)
    (ms : List PlannedMember) : checkRoles store' ms = checkRoles store ms := by
  induction ms with
  | nil => rfl
  | cons m ms ih => rw [checkRoles, checkRoles, ih, Store.hasRole, Store.role?, h]; rfl

theorem planMembers_congr {c c' : Catalog} (hids : c'.identities = c.identities)
    (hroles : c'.store.roles = c.store.roles) (entries : List MemberEntry) :
    planMembers c' entries = planMembers c entries := by
  rw [planMembers, planMembers, hids]
  simp only [PlannedMember.checkRoles_congr hroles]

theorem MemberEntry.scope_of_resolve {identities : Identities} {entry : MemberEntry}
    {m : PlannedMember} (h : entry.resolve identities = .ok m) : m.role.scope = .api := by
  unfold resolve at h
  split at h
  · cases h
    rfl
  · cases h

theorem planMembers_eq_ok_iff {c : Catalog} {entries : List MemberEntry}
    {ms : List PlannedMember} :
    planMembers c entries = .ok ms ↔
      List.Forall₂ (fun entry m => entry.resolve c.identities = .ok m) entries ms ∧
        ∀ m ∈ ms, c.store.hasRole m.role = true := by
  rw [planMembers, bind_eq_ok_iff, ← PlannedMember.checkRoles_eq_ok_iff, ← mapM_eq_ok_iff]
  constructor
  · rintro ⟨ms', hms, h⟩
    obtain ⟨_, hroles, he⟩ := bind_eq_ok_iff.mp h
    cases he
    exact ⟨hms, hroles⟩
  · rintro ⟨hms, hroles⟩
    exact ⟨ms, hms, bind_eq_ok_iff.mpr ⟨(), hroles, rfl⟩⟩

theorem scope_of_planMembers {c : Catalog} {entries : List MemberEntry}
    {ms : List PlannedMember} (h : planMembers c entries = .ok ms) :
    ∀ m ∈ ms, m.role.scope = .api := by
  intro m hm
  obtain ⟨entry, _, he⟩ := exists_of_forall₂ (planMembers_eq_ok_iff.mp h).1 hm
  exact MemberEntry.scope_of_resolve he

end ApiCatalog
