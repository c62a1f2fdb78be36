import ApiCatalog.Proofs.History
import ApiCatalog.Proofs.Import.Outcome
import ApiCatalog.Proofs.Login

/-! # Primary owners

Whatever happens to a catalog, an API never has two primary owners and never loses the one it has.
-/

namespace ApiCatalog

namespace Store

/-- The ids of the users who are primary owners of an API. -/
def owners (store : Store) (apiId : String) : List String :=
  (store.membershipsWith (.api apiId) ⟨.api, Role.primaryOwner⟩).map (·.user.id)

def rolesOn (store : Store) (apiId : String) : String → Option String :=
  store.roleOf? (.api apiId) .api

variable {store store' : Store} {apiId : String}

theorem rolesOn_congr
    (h : ∀ userId, store'.membership? (.api apiId) userId = store.membership? (.api apiId) userId) :
    store'.rolesOn apiId = store.rolesOn apiId :=
  funext fun userId => by rw [rolesOn, roleOf?, h, rolesOn, roleOf?]

theorem mem_owners_iff (h : (store.memberships.map Membership.key).Nodup) {u : String} :
    u ∈ store.owners apiId ↔ store.rolesOn apiId u = some Role.primaryOwner := by
  rw [owners, List.mem_map, rolesOn, roleOf?_eq_some_iff h]
  constructor
  · rintro ⟨m, hm, rfl⟩
    obtain ⟨hmem, href, hrole⟩ := mem_membershipsWith.mp hm
    exact ⟨m, hmem, href, rfl, hrole⟩
  · rintro ⟨m, hmem, href, rfl, hrole⟩
    exact ⟨m, mem_membershipsWith.mpr ⟨hmem, href, hrole⟩, rfl⟩

theorem nodup_owners (h : (store.memberships.map Membership.key).Nodup) (apiId : String) :
    (store.owners apiId).Nodup := by
  have hkeys : ((store.membershipsWith (.api apiId) ⟨.api, Role.primaryOwner⟩).map
      Membership.key).Nodup := by
    refine List.Nodup.sublist (List.filter_sublist.map _) ?_
    exact ((List.mergeSort_perm _ _).map _).nodup_iff.mpr (h.sublist (List.filter_sublist.map _))
  have hmap : (store.membershipsWith (.api apiId) ⟨.api, Role.primaryOwner⟩).map Membership.key =
      (store.owners apiId).map (Prod.mk (Reference.api apiId)) := by
    rw [owners, List.map_map]
    exact List.map_congr_left fun m hm => Prod.ext (mem_membershipsWith.mp hm).2.1 rfl
  exact List.Nodup.of_map _ (hmap ▸ hkeys)

theorem owners_eq_singleton (h : (store.memberships.map Membership.key).Nodup) {u : String}
    (hone : ∀ {u v}, store.rolesOn apiId u = some Role.primaryOwner →
      store.rolesOn apiId v = some Role.primaryOwner → u = v)
    (hu : store.rolesOn apiId u = some Role.primaryOwner) : store.owners apiId = [u] := by
  rw [← List.perm_singleton, List.perm_ext_iff_of_nodup (nodup_owners h apiId)
    (List.nodup_singleton u)]
  intro v
  rw [mem_owners_iff h, List.mem_singleton]
  exact ⟨fun hv => hone hv hu, fun hv => hv ▸ hu⟩

section Imported

variable {existing : Option Api} {definition : Definition} {actingUser : Option String}
  {members : List PlannedMember}

theorem rolesOn_freshApiId (store : Store) (u : String) :
    store.rolesOn store.freshApiId u = none := by
  rw [rolesOn, roleOf?, store.membership?_freshApiId]
  rfl

theorem rolesOn_beforeMembers_new (store : Store) (definition : Definition) (u : String) :
    (store.beforeMembers none definition (some u)).rolesOn store.freshApiId =
      Function.update (store.rolesOn store.freshApiId) u (some Role.primaryOwner) := by
  funext v
  have hgrant := roleOf?_withGrant
    ((store.withGroups definition.groups).withSaved none
      ((store.withGroups definition.groups).savedApi none definition))
    (.api store.freshApiId) (.api store.freshApiId) { id := u, reference := some u }
    ⟨.api, Role.primaryOwner⟩ .api v
  rw [Function.update_apply]
  by_cases hv : v = u
  · rw [if_pos ⟨rfl, hv.symm, rfl⟩] at hgrant
    rw [if_pos hv]
    exact hgrant
  · rw [if_neg fun hc => hv hc.2.1.symm] at hgrant
    rw [if_neg hv]
    exact hgrant

theorem ownersKept_beforeMembers (store : Store) (existing : Option Api) (definition : Definition)
    (actingUser : Option String) :
    OwnersKept (store.rolesOn (store.targetId existing definition))
      ((store.beforeMembers existing definition actingUser).rolesOn
        (store.targetId existing definition)) := by
  cases existing with
  | some api => exact OwnersKept.refl _
  | none =>
    cases actingUser with
    | none => exact OwnersKept.refl _
    | some u =>
      have hstep : OwnersKept (store.rolesOn store.freshApiId)
          (Function.update (store.rolesOn store.freshApiId) u (some Role.primaryOwner)) :=
        OwnersKept.update_owner u fun v => by simp [rolesOn_freshApiId]
      rw [← rolesOn_beforeMembers_new store definition u] at hstep
      exact hstep

theorem membership?_imported_of_ne (h : store.targetId existing definition ≠ apiId)
    (userId : String) :
    (store.imported existing definition actingUser members).membership? (.api apiId) userId =
      store.membership? (.api apiId) userId := by
  have href : Reference.api (store.targetId existing definition) ≠ .api apiId := fun he =>
    h (congrArg Reference.id he)
  have hmembers : ((store.beforeMembers existing definition actingUser).withMembers
      (store.targetId existing definition) members).membership? (.api apiId) userId =
        (store.beforeMembers existing definition actingUser).membership? (.api apiId) userId := by
    rw [withMembers_eq, MemberStep.membership?_foldl_after_of_ne href]
  refine Eq.trans hmembers ?_
  cases existing with
  | some api => rfl
  | none =>
    cases actingUser with
    | none => rfl
    | some u =>
      exact (membership?_withGrant _ _ _ _ _ _).trans (if_neg fun hc => href hc.1)

theorem ownersKept_imported (h : (store.memberships.map Membership.key).Nodup)
    (hscope : ∀ m ∈ members, m.role.scope = .api) (apiId : String) :
    OwnersKept (store.rolesOn apiId)
      ((store.imported existing definition actingUser members).rolesOn apiId) := by
  by_cases hid : store.targetId existing definition = apiId
  · subst hid
    exact (store.ownersKept_beforeMembers existing definition actingUser).trans
      (ownersKept_withMembers (nodup_beforeMembers h) hscope)
  · rw [rolesOn_congr (membership?_imported_of_ne hid)]
    exact OwnersKept.refl _

end Imported

end Store

namespace Catalog

variable {c : Catalog}

theorem ownersKept_afterEvent (h : c.store.Consistent) (event : Event) (apiId : String) :
    OwnersKept (c.store.rolesOn apiId) ((c.afterEvent event).store.rolesOn apiId) := by
  cases event with
  | imported id parsed actingUser =>
    rw [afterEvent]
    rcases runOn_importParsed h.seeded_owner id parsed actingUser with
      ⟨e, metrics, he⟩ | ⟨existing, definition, members, metrics, hi, he⟩
    · rw [he]
      exact OwnersKept.refl _
    · rw [he]
      exact Store.ownersKept_imported h.memberKeys_nodup (scope_of_planMembers hi.members_eq) apiId
  | loggedIn authenticator reply =>
    rw [afterEvent]
    rcases authenticator.store_connect reply c with ⟨_, _, hsame⟩ | ⟨_, _, hgiven⟩
    · rw [hsame]
      exact OwnersKept.refl _
    · rw [Store.rolesOn_congr (hgiven.membership?_eq apiId)]
      exact OwnersKept.refl _
  | roleAdded role => exact OwnersKept.refl _
  | groupInserted group => exact OwnersKept.refl _

theorem ownersKept_after (h : c.store.Consistent) (events : List Event) (apiId : String) :
    OwnersKept (c.store.rolesOn apiId) ((c.after events).store.rolesOn apiId) := by
  induction events generalizing c with
  | nil => exact OwnersKept.refl _
  | cons event events ih =>
    exact (ownersKept_afterEvent h event apiId).trans (ih (consistent_afterEvent h event))

theorem owner_unique (identities : Identities) (events : List Event) (apiId : String) {u v : String}
    (hu : ((start identities).after events).store.rolesOn apiId u = some Role.primaryOwner)
    (hv : ((start identities).after events).store.rolesOn apiId v = some Role.primaryOwner) :
    u = v :=
  (ownersKept_after (consistent_start identities) events apiId).unique (fun h => nomatch h) hu hv

theorem owner_of_created (h : c.store.Consistent) {parsed : Except DefinitionFault Definition}
    {u : String} {api : Api} {created : Catalog}
    (hrun : (importParsed none parsed (some u)).runOn c = (.ok api, created)) :
    created.store.rolesOn api.id u = some Role.primaryOwner := by
  obtain ⟨existing, definition, members, hi, rfl, hstore⟩ := eq_imported_of_runOn hrun
  obtain rfl : existing = none := Option.map_eq_none_iff.mp hi.existing_eq.symm
  have howner : (c.store.beforeMembers none definition (some u)).rolesOn c.store.freshApiId u =
      some Role.primaryOwner := by
    rw [Store.rolesOn_beforeMembers_new, Function.update_self]
  rw [hstore]
  exact (Store.ownersKept_withMembers (Store.nodup_beforeMembers h.memberKeys_nodup)
    (scope_of_planMembers hi.members_eq)).keep howner

theorem owners_of_owner (identities : Identities) (events : List Event) {apiId u : String}
    (hu : ((start identities).after events).store.rolesOn apiId u = some Role.primaryOwner) :
    ((start identities).after events).store.owners apiId = [u] :=
  Store.owners_eq_singleton
    (consistent_after (consistent_start identities) events).memberKeys_nodup
    (owner_unique identities events apiId) hu

/-- An API has at most one primary owner at any time, keeps the one it has, and has the user who
created it as one. -/
theorem owners_after (identities : Identities) (history future : List Event) (apiId : String) :
    let before := (start identities).after history
    let after := before.after future
    (after.store.owners apiId).length ≤ 1 ∧
      (∀ u ∈ before.store.owners apiId, after.store.owners apiId = [u]) ∧
      ∀ parsed u api created,
        (importParsed none parsed (some u)).runOn before = (.ok api, created) →
          (created.after future).store.owners api.id = [u] := by
  intro before after
  have hbefore : before.store.Consistent := consistent_after (consistent_start identities) history
  have hafter : (start identities).after (history ++ future) = after := after_append _ _ _
  have hkeys : (after.store.memberships.map Membership.key).Nodup :=
    (consistent_after hbefore future).memberKeys_nodup
  refine ⟨?_, ?_, ?_⟩
  · cases howners : after.store.owners apiId with
    | nil => exact Nat.zero_le 1
    | cons u us =>
      have hu : after.store.rolesOn apiId u = some Role.primaryOwner :=
        (Store.mem_owners_iff hkeys).mp (howners ▸ List.mem_cons_self)
      rw [← howners, ← hafter, owners_of_owner identities (history ++ future) (hafter ▸ hu)]
      exact Nat.le_refl 1
  · intro u hu
    have hkept := (ownersKept_after hbefore future apiId).keep
      ((Store.mem_owners_iff hbefore.memberKeys_nodup).mp hu)
    rw [← hafter]
    exact owners_of_owner identities (history ++ future) (hafter ▸ hkept)
  · intro parsed u api created hrun
    have hcreated : before.afterEvent (.imported none parsed (some u)) = created :=
      congrArg Prod.snd hrun
    have hall : (start identities).after (history ++ .imported none parsed (some u) :: future) =
        created.after future := by
      rw [after_append, after_cons, hcreated]
    have hkept := (ownersKept_after (hcreated ▸ consistent_afterEvent hbefore _) future api.id).keep
      (owner_of_created hbefore hrun)
    rw [← hall]
    exact owners_of_owner identities _ (hall ▸ hkept)

/-- A later import that asks for another owner leaves the one who created the API. -/
theorem owners_after_rival :
    let bob : User := { id := "bob", reference := "bob", source := "memory", displayName := "Bob" }
    let identities : Identities := { resolvers := [.accounts ⟨"memory", [("bob", bob)]⟩] }
    let details : ApiDetails := { name := "Shop", version := "1" }
    let rival : MemberEntry := { reference := "bob", role := Role.primaryOwner }
    ∃ api created,
      (importParsed none (.ok { details }) (some "ann")).runOn (start identities) =
        (.ok api, created) ∧
      (created.after [.imported (some api.id) (.ok { details, members := [rival] })
        none]).store.owners api.id = ["ann"] := by
  intro bob identities details rival
  obtain ⟨api, created, hrun⟩ : ∃ api created,
      (importParsed none (.ok { details }) (some "ann")).runOn (start identities) =
        (.ok api, created) := ⟨_, _, rfl⟩
  exact ⟨api, created, hrun, (owners_after identities [] _ "").2.2 _ _ _ _ hrun⟩

end Catalog

end ApiCatalog
