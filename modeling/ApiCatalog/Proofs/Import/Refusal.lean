import ApiCatalog.Proofs.History
import ApiCatalog.Proofs.Import.Outcome

/-! # Why imports are refused

An import is refused for an API that there is not, for a payload that is no definition, for a member
whom nobody knows, or for a role that there is not. It is refused for nothing else: whatever follows
the planning of the members succeeds. Of several causes the first one in this order is reported, and
of several members the first one in the document.
-/

namespace ApiCatalog

namespace MemberEntry

def isUnknown (identities : Identities) (entry : MemberEntry) : Bool :=
  (identities.resolve? entry.reference entry.source).isNone

def lacksRole (store : Store) (entry : MemberEntry) : Bool := !store.hasRole ⟨.api, entry.role⟩

theorem resolve_eq_error_iff {identities : Identities} {entry : MemberEntry} {e : Error} :
    entry.resolve identities = .error e ↔
      entry.isUnknown identities = true ∧ e = .unresolvableMember entry.reference := by
  unfold resolve isUnknown
  cases identities.resolve? entry.reference entry.source <;> simp [eq_comm]

theorem map_role_of_resolved {identities : Identities} {entries : List MemberEntry}
    {ms : List PlannedMember}
    (h : List.Forall₂ (fun entry m => entry.resolve identities = .ok m) entries ms) :
    ms.map (·.role) = entries.map fun entry => ⟨.api, entry.role⟩ := by
  induction h with
  | nil => rfl
  | @cons entry m entries ms hm _ ih =>
    have hrole : m.role = ⟨.api, entry.role⟩ := by
      unfold resolve at hm
      split at hm <;> cases hm
      rfl
    rw [List.map_cons, List.map_cons, hrole, ih]

end MemberEntry

theorem PlannedMember.checkRoles_eq_error_iff {store : Store} {ms : List PlannedMember}
    {e : Error} :
    checkRoles store ms = .error e ↔
      ∃ role, (ms.map (·.role)).find? (!store.hasRole ·) = some role ∧ e = .missingRole role := by
  induction ms with
  | nil => simp [checkRoles]
  | cons m ms ih =>
    rw [checkRoles, List.map_cons, List.find?_cons]
    cases store.hasRole m.role <;> simp [ih, eq_comm]

/-- Members are looked up before their roles are. -/
theorem planMembers_eq_error_iff {c : Catalog} {entries : List MemberEntry} {e : Error} :
    planMembers c entries = .error e ↔
      (∃ entry, entries.find? (·.isUnknown c.identities) = some entry ∧
          e = .unresolvableMember entry.reference) ∨
        entries.find? (·.isUnknown c.identities) = none ∧
          ∃ entry, entries.find? (·.lacksRole c.store) = some entry ∧
            e = .roleNotFound "API" entry.role := by
  have hfails : ∀ entry : MemberEntry, entry.isUnknown c.identities = true ↔
      ∃ e, entry.resolve c.identities = .error e := fun entry => by
    simp [MemberEntry.resolve_eq_error_iff]
  rw [planMembers, bind_eq_error_iff, mapM_eq_error_iff hfails]
  refine or_congr (exists_congr fun entry => and_congr_right fun hentry => ?_) ?_
  · rw [MemberEntry.resolve_eq_error_iff]
    exact and_iff_right (List.find?_some hentry)
  -- what is left when all members are known is a fault of the roles that they are planned for
  cases hplanned : entries.mapM (·.resolve c.identities) with
  | error e' =>
    obtain ⟨entry, hentry, -⟩ := (mapM_eq_error_iff hfails).mp hplanned
    simp [hentry]
  | ok ms =>
    have hknown : entries.find? (·.isUnknown c.identities) = none := by
      by_contra hc
      obtain ⟨entry, hentry⟩ := Option.ne_none_iff_exists'.mp hc
      have herror := (mapM_eq_error_iff hfails).mpr
        ⟨entry, hentry, MemberEntry.resolve_eq_error_iff.mpr ⟨List.find?_some hentry, rfl⟩⟩
      rw [hplanned] at herror
      cases herror
    have hroles := MemberEntry.map_role_of_resolved (mapM_eq_ok_iff.mp hplanned)
    have hchecked : (∃ a, (Except.ok ms : Except Error _) = .ok a ∧
        (PlannedMember.checkRoles c.store a >>= fun _ => pure a) = .error e) ↔
          PlannedMember.checkRoles c.store ms = .error e := by
      simp [bind_eq_error_iff, pure, Except.pure]
    rw [hchecked, PlannedMember.checkRoles_eq_error_iff, hroles, List.find?_map,
      and_iff_right hknown]
    simp only [Option.map_eq_some_iff, exists_exists_and_eq_and]
    rfl

theorem exists_planMembers_iff {c : Catalog} {entries : List MemberEntry} :
    (∃ members, planMembers c entries = .ok members) ↔
      ∀ entry ∈ entries, (c.identities.resolve? entry.reference entry.source).isSome = true ∧
        c.store.hasRole ⟨.api, entry.role⟩ = true := by
  have hpass : ∀ entry : MemberEntry,
      ((c.identities.resolve? entry.reference entry.source).isSome = true ∧
        c.store.hasRole ⟨.api, entry.role⟩ = true) ↔
          ¬entry.isUnknown c.identities = true ∧ ¬entry.lacksRole c.store = true := fun entry => by
    simp [MemberEntry.isUnknown, MemberEntry.lacksRole, Option.isSome_iff_ne_none]
  simp only [hpass]
  constructor
  · rintro ⟨members, hmembers⟩
    have hsound : ∀ e, planMembers c entries ≠ .error e := fun e he =>
      nomatch hmembers.symm.trans he
    have hunknown : entries.find? (·.isUnknown c.identities) = none := by
      by_contra hc
      obtain ⟨entry, hentry⟩ := Option.ne_none_iff_exists'.mp hc
      exact hsound _ (planMembers_eq_error_iff.mpr (Or.inl ⟨entry, hentry, rfl⟩))
    have hlacks : entries.find? (·.lacksRole c.store) = none := by
      by_contra hc
      obtain ⟨entry, hentry⟩ := Option.ne_none_iff_exists'.mp hc
      exact hsound _ (planMembers_eq_error_iff.mpr (Or.inr ⟨hunknown, entry, hentry, rfl⟩))
    exact fun entry hentry =>
      ⟨List.find?_eq_none.mp hunknown entry hentry, List.find?_eq_none.mp hlacks entry hentry⟩
  · intro h
    cases hplanned : planMembers c entries with
    | ok members => exact ⟨members, rfl⟩
    | error e =>
      rcases planMembers_eq_error_iff.mp hplanned with ⟨entry, hentry, -⟩ | ⟨-, entry, hentry, -⟩
      · exact absurd (List.find?_some hentry) (h entry (List.mem_of_find?_eq_some hentry)).1
      · exact absurd (List.find?_some hentry) (h entry (List.mem_of_find?_eq_some hentry)).2

/-- The errors by which an import is refused. -/
inductive ImportRefusal (c : Catalog) (apiId : Option String)
    (parsed : Except DefinitionFault Definition) : Error → Prop where
  | unknownApi {id : String} :
    apiId = some id → c.store.api? id = none → ImportRefusal c apiId parsed (.apiNotFound id)
  | malformed {fault : DefinitionFault} :
    (∀ id ∈ apiId, (c.store.api? id).isSome) → parsed = .error fault →
      ImportRefusal c apiId parsed (.malformedDefinition fault.message)
  | unknownMember {definition : Definition} {entry : MemberEntry} :
    (∀ id ∈ apiId, (c.store.api? id).isSome) → parsed = .ok definition →
      definition.members.find? (·.isUnknown c.identities) = some entry →
        ImportRefusal c apiId parsed (.unresolvableMember entry.reference)
  | unknownRole {definition : Definition} {entry : MemberEntry} :
    (∀ id ∈ apiId, (c.store.api? id).isSome) → parsed = .ok definition →
      definition.members.find? (·.isUnknown c.identities) = none →
        definition.members.find? (·.lacksRole c.store) = some entry →
          ImportRefusal c apiId parsed (.roleNotFound "API" entry.role)

section Import

variable {c : Catalog} {apiId : Option String} {parsed : Except DefinitionFault Definition}

theorem exists_existing_iff {store : Store} :
    (∃ existing : Option Api, apiId.map store.api? = existing.map some) ↔
      ∀ id ∈ apiId, (store.api? id).isSome := by
  cases apiId with
  | none => exact ⟨fun _ _ h => (nomatch h), fun _ => ⟨none, rfl⟩⟩
  | some id =>
    cases h : store.api? id with
    | none => simp [h]
    | some api =>
      refine ⟨fun _ id' hid' => ?_, fun _ => ⟨some api, by simp [h]⟩⟩
      cases hid'
      simp [h]

theorem ImportRefusal.runOn_eq {e : Error} (h : ImportRefusal c apiId parsed e)
    (actingUser : Option String) :
    ((importParsed apiId parsed actingUser).runOn c).1 = .error e := by
  have hunplanned : ∀ {definition : Definition},
      (∀ id ∈ apiId, (c.store.api? id).isSome) → planMembers c definition.members = .error e →
        ((importParsed apiId (.ok definition) actingUser).runOn c).1 = .error e := by
    intro definition hknown hmembers
    obtain ⟨existing, hexisting⟩ := exists_existing_iff.mpr hknown
    obtain ⟨metrics, hrun⟩ := runOn_importParsed_of_unplanned hexisting hmembers
    rw [hrun]
  cases h with
  | unknownApi hid hapi =>
    subst hid
    obtain ⟨metrics, hrun⟩ := runOn_importParsed_of_unknown hapi
    rw [hrun]
  | malformed hknown hparsed =>
    subst hparsed
    obtain ⟨existing, hexisting⟩ := exists_existing_iff.mpr hknown
    obtain ⟨metrics, hrun⟩ := runOn_importParsed_of_malformed hexisting
    rw [hrun]
    rfl
  | unknownMember hknown hparsed hentry =>
    subst hparsed
    exact hunplanned hknown (planMembers_eq_error_iff.mpr (Or.inl ⟨_, hentry, rfl⟩))
  | unknownRole hknown hparsed hresolved hentry =>
    subst hparsed
    exact hunplanned hknown (planMembers_eq_error_iff.mpr (Or.inr ⟨hresolved, _, hentry, rfl⟩))

theorem refusal_or_importable (c : Catalog) (apiId : Option String)
    (parsed : Except DefinitionFault Definition) :
    (∃ e, ImportRefusal c apiId parsed e) ∨
      ∃ existing definition members, Importable c apiId parsed existing definition members := by
  rcases unknown_or_existing c.store apiId with ⟨id, hid, hapi⟩ | ⟨existing, hexisting⟩
  · exact Or.inl ⟨_, .unknownApi hid hapi⟩
  have hknown := exists_existing_iff.mp ⟨existing, hexisting⟩
  cases parsed with
  | error fault => exact Or.inl ⟨_, .malformed hknown rfl⟩
  | ok definition =>
    cases hmembers : planMembers c definition.members with
    | ok members => exact Or.inr ⟨existing, definition, members, hexisting, rfl, hmembers⟩
    | error e =>
      rcases planMembers_eq_error_iff.mp hmembers with
        ⟨entry, hentry, rfl⟩ | ⟨hresolved, entry, hentry, rfl⟩
      · exact Or.inl ⟨_, .unknownMember hknown rfl hentry⟩
      · exact Or.inl ⟨_, .unknownRole hknown rfl hresolved hentry⟩

theorem ImportRefusal.not_importable {e : Error} (h : ImportRefusal c apiId parsed e)
    {existing : Option Api} {definition : Definition} {members : List PlannedMember}
    (howner : c.store.hasRole ⟨.api, Role.primaryOwner⟩ = true) :
    ¬Importable c apiId parsed existing definition members := by
  intro himportable
  obtain ⟨metrics, hrun⟩ := runOn_importParsed_of_importable howner himportable none
  have herror := h.runOn_eq none
  rw [hrun] at herror
  cases herror

/-- What can be imported, told by the payload and the catalog alone. -/
theorem exists_importable_iff :
    (∃ existing definition members, Importable c apiId parsed existing definition members) ↔
      (∀ id ∈ apiId, (c.store.api? id).isSome) ∧
        ∃ definition, parsed = .ok definition ∧
          ∀ entry ∈ definition.members,
            (c.identities.resolve? entry.reference entry.source).isSome = true ∧
              c.store.hasRole ⟨.api, entry.role⟩ = true := by
  constructor
  · rintro ⟨existing, definition, members, hexisting, hparsed, hmembers⟩
    exact ⟨exists_existing_iff.mp ⟨existing, hexisting⟩, definition, hparsed,
      exists_planMembers_iff.mp ⟨members, hmembers⟩⟩
  · rintro ⟨hknown, definition, hparsed, hentries⟩
    obtain ⟨existing, hexisting⟩ := exists_existing_iff.mpr hknown
    obtain ⟨members, hmembers⟩ := exists_planMembers_iff.mpr hentries
    exact ⟨existing, definition, members, hexisting, hparsed, hmembers⟩

end Import

/-- Wherever the catalog may have come to, an import fails exactly with the errors by which it is
refused, and succeeds exactly if there is no cause to refuse it. -/
theorem import_refused_iff (identities : Identities) (steps : List (Event ⊕ StoreWrite))
    (apiId : Option String) (payload : List UInt8) (actingUser : Option String) :
    let c := (Catalog.start identities).afterSteps steps
    let result := ((importDefinition apiId payload actingUser).runOn c).1
    (∀ e, result = .error e ↔ ImportRefusal c apiId (Definition.parse payload) e) ∧
      ((∃ api, result = .ok api) ↔
        (∀ id ∈ apiId, (c.store.api? id).isSome) ∧
          ∃ definition, Definition.parse payload = .ok definition ∧
            ∀ entry ∈ definition.members,
              (c.identities.resolve? entry.reference entry.source).isSome = true ∧
                c.store.hasRole ⟨.api, entry.role⟩ = true) := by
  intro c result
  have howner : c.store.hasRole ⟨.api, Role.primaryOwner⟩ = true :=
    (Catalog.consistent_afterSteps (Catalog.consistent_start identities) steps).seeded_owner
  rw [← exists_importable_iff]
  rcases refusal_or_importable c apiId (Definition.parse payload) with
    ⟨e, hrefused⟩ | ⟨existing, definition, members, himportable⟩
  · have hresult : result = .error e := hrefused.runOn_eq actingUser
    refine ⟨fun e' => ⟨fun he' => ?_, fun he' => he'.runOn_eq actingUser⟩, fun ⟨api, hapi⟩ => ?_,
      fun ⟨_, _, _, himportable⟩ => absurd himportable (hrefused.not_importable howner)⟩
    · cases hresult.symm.trans he'
      exact hrefused
    · cases hresult.symm.trans hapi
  · obtain ⟨metrics, hrun⟩ := runOn_importParsed_of_importable howner himportable actingUser
    have hresult : ∃ api, result = .ok api := ⟨_, congrArg Prod.fst hrun⟩
    refine ⟨fun e => ⟨fun he => ?_, fun he => absurd himportable (he.not_importable howner)⟩,
      fun _ => ⟨_, _, _, himportable⟩, fun _ => hresult⟩
    obtain ⟨api, hapi⟩ := hresult
    cases hapi.symm.trans he

end ApiCatalog
