import ApiCatalog.Proofs.Import.NewApi
import ApiCatalog.Proofs.Ownership

/-! # What becomes of the roles of members

The role of each user after an import is told by the role before it, by the first entry for the user
and by whether the API has a primary owner when that entry is reached. Just the users whose roles
change are written.
-/

namespace ApiCatalog

theorem filter_eq_of_sublist {α : Type} {p : α → Bool} {xs ys : List α} (h : xs.Sublist ys)
    (hnodup : ys.Nodup) (hp : ∀ y ∈ ys, y ∈ xs ↔ p y = true) : ys.filter p = xs := by
  induction h with
  | slnil => rfl
  | @cons xs ys y h ih =>
    obtain ⟨hy, hys⟩ := List.nodup_cons.mp hnodup
    obtain ⟨hpy, hpys⟩ := List.forall_mem_cons.mp hp
    rw [List.filter_cons_of_neg fun hc => hy (h.subset (hpy.mpr hc)), ih hys hpys]
  | @cons_cons xs ys y h ih =>
    obtain ⟨hy, hys⟩ := List.nodup_cons.mp hnodup
    obtain ⟨hpy, hpys⟩ := List.forall_mem_cons.mp hp
    rw [List.filter_cons_of_pos (hpy.mp List.mem_cons_self), ih hys fun z hz => ?_]
    rw [← hpys z hz, List.mem_cons, or_iff_right fun he : z = y => hy (he ▸ hz)]

namespace PlannedMember

/-- A member as planning leaves it: a role of APIs that there is, for a user who is known by name
and source. -/
structure Ready (store : Store) (m : PlannedMember) : Prop where
  scope_eq : m.role.scope = .api
  hasRole : store.hasRole m.role = true
  reference_isSome : m.user.reference.isSome
  source_isSome : m.user.source.isSome

theorem ready_of_planMembers {c : Catalog} {entries : List MemberEntry}
    {members : List PlannedMember} (h : planMembers c entries = .ok members) :
    ∀ m ∈ members, m.Ready c.store := by
  intro m hm
  obtain ⟨hresolved, hroles⟩ := planMembers_eq_ok_iff.mp h
  obtain ⟨entry, -, he⟩ := exists_of_forall₂ hresolved hm
  unfold MemberEntry.resolve at he
  split at he
  · cases he
    exact ⟨rfl, hroles _ hm, rfl, rfl⟩
  · cases he

/-- The role that a user has after an import with this as the first entry for the user. `held` is
the role before it, and `owned` tells whether there is a primary owner or an earlier entry asks for
one. -/
def settled (m : PlannedMember) (held : Option String) (owned : Bool) : Option String :=
  if held = some Role.primaryOwner then some Role.primaryOwner
  else if m.role.name ≠ Role.primaryOwner then some m.role.name
  else if owned then held
  else some Role.primaryOwner

theorem settled_of_ne {m : PlannedMember} {held : Option String} {owned : Bool}
    (h : m.settled held owned ≠ held) : m.settled held owned = some m.role.name := by
  unfold settled at h ⊢
  split_ifs at h ⊢ with hheld hrole howned
  · exact absurd hheld.symm h
  · rfl
  · exact absurd rfl h
  · rw [not_not.mp hrole]

end PlannedMember

namespace MemberStep

def assigned? : MemberStep → Option PlannedMember
  | keep => none
  | assign m _ => some m

def given (held : String → Option String) (owned : Bool) (ms : List PlannedMember) :
    List PlannedMember :=
  (plan held owned ms).filterMap assigned?

variable {held : String → Option String} {owned : Bool} {m : PlannedMember}
  {ms before after : List PlannedMember}

theorem given_sublist : (given held owned ms).Sublist ms := by
  induction ms generalizing owned with
  | nil => exact List.Sublist.refl []
  | cons m ms ih =>
    rcases plan_cons_cases held owned m ms with
      ⟨_, he⟩ | ⟨_, _, he⟩ | ⟨_, _, _, _, he⟩ | ⟨_, _, _, _, he⟩ <;> rw [given, he]
    · exact ih.cons m
    · exact ih.cons m
    · exact ih.cons_cons m
    · exact ih.cons_cons m

/-- What a plan does about its first member, and whether there is a primary owner from then on. -/
theorem given_cons (hfree : owned = false → held m.user.id ≠ some Role.primaryOwner) :
    given held owned (m :: ms) =
      (if m.settled (held m.user.id) owned = held m.user.id then [] else [m]) ++
        given held (owned || m.isOwner) ms := by
  have howned : held m.user.id = some Role.primaryOwner → owned = true := fun hheld =>
    Bool.eq_true_of_not_eq_false fun ho => hfree ho hheld
  rcases plan_cons_cases held owned m ms with
    ⟨hheld, he⟩ | ⟨_, hskip, he⟩ | ⟨hne, hother, hrole, kind, he⟩ | ⟨hother, hrole, ho, kind, he⟩
  -- the role is held already, and if it is that of a primary owner, the flag knew
  · have hflag : (owned || m.isOwner) = owned := by
      by_cases hrole : m.role.name = Role.primaryOwner
      · rw [howned (hrole ▸ hheld), Bool.true_or]
      · simp [PlannedMember.isOwner, hrole]
    have hsettled : m.settled (held m.user.id) owned = held m.user.id := by
      by_contra hc
      exact hc ((PlannedMember.settled_of_ne hc).trans hheld.symm)
    rw [given, he, hflag, if_pos hsettled]
    rfl
  -- a primary owner stays, or the member comes after one
  · have ho : owned = true := hskip.elim howned And.right
    have hsettled : m.settled (held m.user.id) owned = held m.user.id := by
      by_cases hheld : held m.user.id = some Role.primaryOwner
      · simp [PlannedMember.settled, hheld]
      · simp [PlannedMember.settled, hheld, (hskip.resolve_left hheld).1, ho]
    rw [given, he, if_pos hsettled, ho]
    rfl
  -- any other role is given
  · have hsettled : m.settled (held m.user.id) owned ≠ held m.user.id := by
      simpa [PlannedMember.settled, hother, hrole] using hne.symm
    have hflag : (owned || m.isOwner) = owned := by simp [PlannedMember.isOwner, hrole]
    rw [given, he, hflag, if_neg hsettled]
    rfl
  -- the first primary owner
  · have hsettled : m.settled (held m.user.id) owned ≠ held m.user.id := by
      simpa [PlannedMember.settled, hother, hrole, ho] using hother.symm
    have hflag : (owned || m.isOwner) = true := by simp [PlannedMember.isOwner, hrole]
    rw [given, he, hflag, if_neg hsettled]
    rfl

theorem given_append
    (hfree : owned = false → ∀ n ∈ before, held n.user.id ≠ some Role.primaryOwner) :
    given held owned (before ++ ms) =
      given held owned before ++ given held (owned || before.any (·.isOwner)) ms := by
  induction before generalizing owned with
  | nil => simp [given, plan]
  | cons n before ih =>
    have hn : owned = false → held n.user.id ≠ some Role.primaryOwner := fun ho =>
      hfree ho n List.mem_cons_self
    have hrest : (owned || n.isOwner) = false →
        ∀ n' ∈ before, held n'.user.id ≠ some Role.primaryOwner := fun ho n' hn' =>
      hfree (Bool.or_eq_false_iff.mp ho).1 n' (List.mem_cons_of_mem _ hn')
    rw [List.cons_append, given_cons hn, given_cons hn, ih hrest, List.append_assoc, List.any_cons,
      Bool.or_assoc]

/-- Of members without repeated users, those are given a role whose roles are settled otherwise than
before, where the entries before them tell whether there is a primary owner. -/
theorem mem_given_iff
    (hfree : owned = false →
      ∀ n ∈ before ++ m :: after, held n.user.id ≠ some Role.primaryOwner)
    (hdistinct : ((before ++ m :: after).map (·.user.id)).Nodup) :
    m ∈ given held owned (before ++ m :: after) ↔
      m.settled (held m.user.id) (owned || before.any (·.isOwner)) ≠ held m.user.id := by
  have hbefore : owned = false → ∀ n ∈ before, held n.user.id ≠ some Role.primaryOwner :=
    fun ho n hn => hfree ho n (List.mem_append_left _ hn)
  have hm : (owned || before.any (·.isOwner)) = false →
      held m.user.id ≠ some Role.primaryOwner := fun ho =>
    hfree (Bool.or_eq_false_iff.mp ho).1 m (List.mem_append_right _ List.mem_cons_self)
  have hnodup : (before ++ m :: after).Nodup := List.Nodup.of_map _ hdistinct
  have hother : m ∉ before ++ after := (List.nodup_middle.mp hnodup).notMem
  rw [List.mem_append, not_or] at hother
  have hfirst : m ∉ given held owned before := fun hc => hother.1 (given_sublist.subset hc)
  have hlast : ∀ owned, m ∉ given held owned after := fun _ hc =>
    hother.2 (given_sublist.subset hc)
  rw [given_append hbefore, given_cons hm]
  split_ifs with hsettled
  · simp [hfirst, hlast, hsettled]
  · simp [hsettled]

end MemberStep

namespace Store

variable {store : Store} {reference : Reference} {m : PlannedMember} {ms : List PlannedMember}

def withGrants (store : Store) (reference : Reference) (ms : List PlannedMember) : Store :=
  ms.foldl (fun store m => store.withGrant reference m.user m.role) store

theorem withMembers_eq_withGrants (store : Store) (apiId : String) (members : List PlannedMember) :
    store.withMembers apiId members =
      store.withGrants (.api apiId)
        (MemberStep.given (store.rolesOn apiId) (!(store.owners apiId).isEmpty)
          (firsts (·.user.id) members)) := by
  have howners : (store.owners apiId).isEmpty =
      (store.membershipsWith (.api apiId) ⟨.api, Role.primaryOwner⟩).isEmpty := List.isEmpty_map
  rw [withMembers_eq, withGrants, MemberStep.given, List.foldl_filterMap, howners]
  refine List.foldl_ext _ _ _ fun store step _ => ?_
  cases step <;> rfl

theorem run_giveRoles (hready : ∀ m ∈ ms, store.hasRole m.role = true) :
    (ms.forM fun m => (discard (Store.giveRole reference m.user m.role) : StoreM Unit)) store =
      (.ok (), store.withGrants reference ms) := by
  induction ms generalizing store with
  | nil => rfl
  | cons m ms ih =>
    obtain ⟨hm, hms⟩ := List.forall_mem_cons.mp hready
    have hgive : (discard (Store.giveRole reference m.user m.role) : StoreM Unit) store =
        (.ok (), store.withGrant reference m.user m.role) := by
      rw [discard_eq, giveRole_eq, if_pos hm]
      rfl
    change ExceptT.bindCont (fun _ => ms.forM fun m =>
        (discard (Store.giveRole reference m.user m.role) : StoreM Unit))
      ((discard (Store.giveRole reference m.user m.role) : StoreM Unit) store).1
      ((discard (Store.giveRole reference m.user m.role) : StoreM Unit) store).2 = _
    rw [hgive]
    exact ih hms

theorem memberUpserts_withGrants (store : Store) (reference : Reference)
    (ms : List PlannedMember) :
    (store.withGrants reference ms).writes.memberUpserts =
      store.writes.memberUpserts + ms.length := by
  induction ms generalizing store with
  | nil => rfl
  | cons m ms ih =>
    rw [withGrants, List.foldl_cons]
    refine (ih _).trans ?_
    rw [List.length_cons, Nat.add_comm ms.length, ← Nat.add_assoc]
    rfl

theorem membership?_withGrants_of_not {reference' : Reference} {userId : String}
    (h : reference' = reference → userId ∉ ms.map (·.user.id)) :
    (store.withGrants reference ms).membership? reference' userId =
      store.membership? reference' userId := by
  induction ms generalizing store with
  | nil => rfl
  | cons m ms ih =>
    have hm : ¬(reference = reference' ∧ m.user.id = userId) := fun hc =>
      h hc.1.symm (hc.2 ▸ List.mem_cons_self)
    have hms : reference' = reference → userId ∉ ms.map (·.user.id) := fun hr hc =>
      h hr (List.mem_cons_of_mem _ hc)
    rw [withGrants, List.foldl_cons]
    refine (ih hms).trans ?_
    rw [membership?_withGrant, if_neg hm]

/-- Every one of distinct users is given the role on top of what the user was before. -/
theorem membership?_withGrants_of_mem (store : Store) (reference : Reference) (hm : m ∈ ms)
    (hdistinct : (ms.map (·.user.id)).Nodup) :
    (store.withGrants reference ms).membership? reference m.user.id =
      some (store.granted reference m.user m.role) := by
  induction ms generalizing store with
  | nil => exact absurd hm List.not_mem_nil
  | cons n ms ih =>
    rw [List.map_cons, List.nodup_cons] at hdistinct
    rw [withGrants, List.foldl_cons]
    rcases List.mem_cons.mp hm with rfl | hm
    · refine (membership?_withGrants_of_not fun _ => hdistinct.1).trans ?_
      rw [membership?_withGrant, if_pos ⟨rfl, rfl⟩]
    · have hne : n.user.id ≠ m.user.id := fun he => hdistinct.1 (he ▸ List.mem_map_of_mem hm)
      refine (ih _ hm hdistinct.2).trans ?_
      rw [granted, membership?_withGrant, if_neg fun hc => hne hc.2, granted]

/-- The user of a membership is the one who was given the role last, if that one is known by name
and source. -/
theorem user_granted (hm : m.Ready store) (reference : Reference) :
    (store.granted reference m.user m.role).user = m.user := by
  have hid : (store.granted reference m.user m.role).user.id = m.user.id :=
    congrArg Prod.snd (store.key_granted reference m.user m.role)
  obtain ⟨⟨id, reference', source⟩, role⟩ := m
  obtain ⟨name, rfl⟩ := Option.isSome_iff_exists.mp hm.reference_isSome
  obtain ⟨provider, rfl⟩ := Option.isSome_iff_exists.mp hm.source_isSome
  exact congrArg (Member.mk · (some name) (some provider)) hid

variable {apiId : String} {members before after : List PlannedMember}

def appointed (store : Store) (apiId : String) (members : List PlannedMember) :
    List PlannedMember :=
  MemberStep.given (store.rolesOn apiId) (!(store.owners apiId).isEmpty)
    (firsts (·.user.id) members)

theorem rolesOn_ne_owner (h : (!(store.owners apiId).isEmpty) = false) (u : String) :
    store.rolesOn apiId u ≠ some Role.primaryOwner := by
  intro hu
  obtain ⟨m, hm, hrole⟩ := Option.bind_eq_some_iff.mp hu
  obtain ⟨hmem, hkey⟩ := mem_of_membership?_eq_some hm
  have howner : m.user.id ∈ store.owners apiId :=
    List.mem_map_of_mem (mem_membershipsWith.mpr ⟨hmem, congrArg Prod.fst hkey, hrole⟩)
  rw [Bool.not_eq_false', List.isEmpty_iff] at h
  exact List.not_mem_nil (h ▸ howner)

theorem appointed_sublist : (store.appointed apiId members).Sublist (firsts (·.user.id) members) :=
  MemberStep.given_sublist

theorem nodup_appointed : ((store.appointed apiId members).map (·.user.id)).Nodup :=
  (nodup_map_firsts _ members).sublist (appointed_sublist.map _)

theorem mem_appointed_iff (h : firsts (·.user.id) members = before ++ m :: after) :
    m ∈ store.appointed apiId members ↔
      m.settled (store.rolesOn apiId m.user.id)
          (!(store.owners apiId).isEmpty || before.any (·.isOwner)) ≠
        store.rolesOn apiId m.user.id := by
  rw [appointed, h]
  refine MemberStep.mem_given_iff (fun ho n _ => rolesOn_ne_owner ho n.user.id) ?_
  exact h ▸ nodup_map_firsts (·.user.id) members

theorem rolesOn_withMembers_of_mem (hm : m ∈ store.appointed apiId members)
    (hscope : m.role.scope = .api) :
    (store.withMembers apiId members).rolesOn apiId m.user.id = some m.role.name := by
  have hgiven := membership?_withGrants_of_mem store (.api apiId) hm nodup_appointed
  rw [rolesOn, roleOf?, withMembers_eq_withGrants]
  refine (congrArg (Option.bind · (·.role? .api)) hgiven).trans ?_
  rw [Option.bind_some, role?_granted, if_pos hscope.symm]

theorem membership?_withMembers_of_not {reference : Reference} {userId : String}
    (h : reference = .api apiId → userId ∉ (store.appointed apiId members).map (·.user.id)) :
    (store.withMembers apiId members).membership? reference userId =
      store.membership? reference userId := by
  rw [withMembers_eq_withGrants]
  exact membership?_withGrants_of_not h

theorem rolesOn_withMembers_of_not {userId : String}
    (h : userId ∉ (store.appointed apiId members).map (·.user.id)) :
    (store.withMembers apiId members).rolesOn apiId userId = store.rolesOn apiId userId := by
  rw [rolesOn, roleOf?, membership?_withMembers_of_not fun _ => h, rolesOn, roleOf?]

theorem id_not_mem_appointed (hm : m ∈ firsts (·.user.id) members)
    (h : m ∉ store.appointed apiId members) :
    m.user.id ∉ (store.appointed apiId members).map (·.user.id) := by
  rintro hc
  obtain ⟨n, hn, he⟩ := List.mem_map.mp hc
  have hsame : n = m :=
    List.inj_on_of_nodup_map (nodup_map_firsts _ members) (appointed_sublist.subset hn) hm he
  exact h (hsame ▸ hn)

theorem rolesOn_withMembers_eq_settled (hscope : m.role.scope = .api)
    (h : firsts (·.user.id) members = before ++ m :: after) :
    (store.withMembers apiId members).rolesOn apiId m.user.id =
      m.settled (store.rolesOn apiId m.user.id)
        (!(store.owners apiId).isEmpty || before.any (·.isOwner)) := by
  have hm : m ∈ firsts (·.user.id) members :=
    h ▸ List.mem_append_right _ List.mem_cons_self
  by_cases happointed : m ∈ store.appointed apiId members
  · rw [rolesOn_withMembers_of_mem happointed hscope,
      PlannedMember.settled_of_ne ((mem_appointed_iff h).mp happointed)]
  · rw [rolesOn_withMembers_of_not (id_not_mem_appointed hm happointed)]
    exact (not_not.mp fun hc => happointed ((mem_appointed_iff h).mpr hc)).symm

theorem filter_changed_eq (hscope : ∀ m ∈ members, m.role.scope = .api) :
    ((firsts (·.user.id) members).filter fun m =>
      (store.withMembers apiId members).rolesOn apiId m.user.id !=
        store.rolesOn apiId m.user.id) = store.appointed apiId members := by
  refine filter_eq_of_sublist appointed_sublist
    (List.Nodup.of_map _ (nodup_map_firsts (·.user.id) members)) fun m hm => ?_
  obtain ⟨before, after, h⟩ := List.append_of_mem hm
  rw [mem_appointed_iff h, bne_iff_ne,
    rolesOn_withMembers_eq_settled (hscope m (mem_of_mem_firsts hm)) h]

end Store

/-- What becomes of the members of an API when a definition lists members, of whom the first entry
for each user counts. A primary owner stays one. Anybody else gets the role asked for, but becomes a
primary owner only if the API has none and no earlier entry asks for one. The users whose roles
change, and nobody else, are given their roles once, in the order of the document, and are known by
what they were resolved to from then on. -/
theorem importMembers_outcome {c : Catalog} (apiId : String) {members : List PlannedMember}
    (h : ∀ m ∈ members, m.Ready c.store) :
    ∃ store metrics,
      (importMembers apiId members).runOn c = (.ok (), { c with store, metrics }) ∧
      let held := c.store.rolesOn apiId
      let listed := firsts (·.user.id) members
      let changed := listed.filter fun m => store.rolesOn apiId m.user.id != held m.user.id
      (∀ before m after, listed = before ++ m :: after →
        store.rolesOn apiId m.user.id =
          m.settled (held m.user.id)
            (!(c.store.owners apiId).isEmpty || before.any (·.isOwner))) ∧
      (∀ u ∉ members.map (·.user.id), store.rolesOn apiId u = held u) ∧
      (changed.forM fun m => discard (Store.giveRole (.api apiId) m.user m.role) : StoreM Unit)
        c.store = (.ok (), store) ∧
      store.writes.memberUpserts = c.store.writes.memberUpserts + changed.length ∧
      (∀ m ∈ changed,
        (store.membership? (.api apiId) m.user.id).map (·.user) = some m.user) ∧
      ∀ reference u, (reference = .api apiId → u ∉ changed.map (·.user.id)) →
        store.membership? reference u = c.store.membership? reference u := by
  obtain ⟨metrics, hrun⟩ := gives_importMembers apiId (fun m hm => (h m hm).hasRole) c rfl
  refine ⟨c.store.withMembers apiId members, metrics, hrun, ?_⟩
  intro held listed changed
  have hlisted : ∀ {m}, m ∈ listed → m.Ready c.store := fun hm => h _ (mem_of_mem_firsts hm)
  have hchanged : changed = c.store.appointed apiId members :=
    Store.filter_changed_eq fun m hm => (h m hm).scope_eq
  have hready : ∀ m ∈ c.store.appointed apiId members, m.Ready c.store := fun m hm =>
    hlisted (Store.appointed_sublist.subset hm)
  rw [hchanged, Store.withMembers_eq_withGrants]
  refine ⟨?settled, ?others, ?given, ?counted, ?known, ?kept⟩
  case settled =>
    intro before m after he
    rw [← Store.withMembers_eq_withGrants]
    exact Store.rolesOn_withMembers_eq_settled
      (hlisted (he ▸ List.mem_append_right _ List.mem_cons_self)).scope_eq he
  case others =>
    intro u hu
    rw [← Store.withMembers_eq_withGrants]
    refine Store.rolesOn_withMembers_of_not fun hc => hu ?_
    exact (mem_map_firsts _ members).mp ((Store.appointed_sublist.map _).subset hc)
  case given => exact Store.run_giveRoles fun m hm => (hready m hm).hasRole
  case counted => exact Store.memberUpserts_withGrants _ _ _
  case known =>
    intro m hm
    have hgiven := Store.membership?_withGrants_of_mem c.store (.api apiId) hm
      Store.nodup_appointed
    refine (congrArg (Option.map (·.user)) hgiven).trans ?_
    rw [Option.map_some, Store.user_granted (hready m hm)]
  case kept =>
    intro reference u hu
    exact Store.membership?_withGrants_of_not hu

/-- Of two candidates the first becomes the primary owner, and a listed user who was a member before
takes the role of the first of two entries. -/
theorem importMembers_outcome_rivals :
    let user (id : String) : User := { id, reference := id, source := "memory", displayName := id }
    let ann : Membership := ⟨.api "shop", { id := "ann" }, { api := some "USER" }⟩
    let roster : Roster := ⟨"memory", ["ann", "bob", "carol"].map fun id => (id, user id)⟩
    let c : Catalog :=
      { store := { Store.fresh with memberships := [ann] }
        identities := { resolvers := [.accounts roster] } }
    let entries : List MemberEntry :=
      [{ reference := "bob", role := Role.primaryOwner },
        { reference := "carol", role := Role.primaryOwner },
        { reference := "ann", role := "OWNER" }, { reference := "ann", role := Role.primaryOwner }]
    ∃ members store metrics,
      planMembers c entries = .ok members ∧
      (importMembers "shop" members).runOn c = (.ok (), { c with store, metrics }) ∧
      ["ann", "bob", "carol"].map (store.rolesOn "shop") =
        [some "OWNER", some Role.primaryOwner, none] := by
  intro user ann roster c entries
  let bob : PlannedMember := ⟨(user "bob").member, ⟨.api, Role.primaryOwner⟩⟩
  let carol : PlannedMember := ⟨(user "carol").member, ⟨.api, Role.primaryOwner⟩⟩
  let anew : PlannedMember := ⟨(user "ann").member, ⟨.api, "OWNER"⟩⟩
  let again : PlannedMember := ⟨(user "ann").member, ⟨.api, Role.primaryOwner⟩⟩
  have hplanned : planMembers c entries = .ok [bob, carol, anew, again] := by decide +kernel
  obtain ⟨store, metrics, hrun, hsettled, -⟩ :=
    importMembers_outcome "shop" (PlannedMember.ready_of_planMembers hplanned)
  have hlisted : firsts (·.user.id) [bob, carol, anew, again] = [bob, carol, anew] := rfl
  have hfree : c.store.owners "shop" = [] := by
    simp [Store.owners, Store.membershipsWith, Store.membershipsOf, c, ann, Membership.role?,
      HeldRoles.get?, Role.primaryOwner]
  rw [hlisted, hfree] at hsettled
  have hbob : store.rolesOn "shop" "bob" = some Role.primaryOwner :=
    hsettled [] bob [carol, anew] rfl
  have hcarol : store.rolesOn "shop" "carol" = none := hsettled [bob] carol [anew] rfl
  have hann : store.rolesOn "shop" "ann" = some "OWNER" := hsettled [bob, carol] anew [] rfl
  refine ⟨[bob, carol, anew, again], store, metrics, hplanned, hrun, ?_⟩
  rw [List.map_cons, List.map_cons, List.map_cons, hann, hbob, hcarol]
  rfl

end ApiCatalog
