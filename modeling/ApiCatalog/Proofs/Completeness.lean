import ApiCatalog.Definition.Reader
import ApiCatalog.Proofs.Results
import ApiCatalog.Proofs.Store.Fresh

/-! # Complete drafts

A draft is completed if each required field holds more than white space, and otherwise the first
field that does not is reported. A definition has an entry for every entry of its draft, in the same
order, and says what the draft says.
-/

namespace ApiCatalog

/-- A required field with what a draft says in it. -/
abbrev Requirement := RequiredField × Option String

/-- There, and not just white space. -/
def Present (text : Option String) : Prop :=
  ∃ value, text = some value ∧ Text.isBlankText value = false

@[simp] theorem present_some_iff {value : String} :
    Present (some value) ↔ Text.isBlankText value = false := by
  simp [Present]

namespace Requirement

def isMissing (requirement : Requirement) : Bool := requirement.2.all Text.isBlankText

theorem isMissing_eq_false_iff {requirement : Requirement} :
    requirement.isMissing = false ↔ Present requirement.2 := by
  rcases requirement with ⟨field, text⟩
  cases text <;> simp [isMissing, Present]

def firstMissing? (requirements : List Requirement) : Option RequiredField :=
  (requirements.find? isMissing).map Prod.fst

theorem firstMissing?_append (requirements requirements' : List Requirement) :
    firstMissing? (requirements ++ requirements') =
      (firstMissing? requirements).or (firstMissing? requirements') := by
  rw [firstMissing?, List.find?_append, Option.map_or, firstMissing?, firstMissing?]

theorem firstMissing?_eq_none_iff {requirements : List Requirement} :
    firstMissing? requirements = none ↔ ∀ r ∈ requirements, Present r.2 := by
  simp only [firstMissing?, Option.map_eq_none_iff, List.find?_eq_none, Bool.not_eq_true,
    isMissing_eq_false_iff]

end Requirement

open Requirement

def MemberDraft.requirements (draft : MemberDraft) (index : Nat) : List Requirement :=
  [(.memberReference index, draft.reference), (.memberRole index, draft.role)]

def PageDraft.requirements (draft : PageDraft) (index : Nat) : List Requirement :=
  [(.pageName index, draft.name)]

def PlanDraft.requirements (draft : PlanDraft) (index : Nat) : List Requirement :=
  [(.planName index, draft.name)]

def requirementsFrom {α : Type} (requirements : α → Nat → List Requirement) (start : Nat)
    (drafts : List α) : List Requirement :=
  (drafts.zipIdx start).flatMap fun (draft, index) => requirements draft index

/-- The required fields of a draft in the order in which they are reported. -/
def DefinitionDraft.requirements (draft : DefinitionDraft) : List Requirement :=
  [(.name, draft.name), (.version, draft.version)] ++
    (requirementsFrom MemberDraft.requirements 0 draft.members ++
      (requirementsFrom PageDraft.requirements 0 draft.pages ++
        requirementsFrom PlanDraft.requirements 0 draft.plans))

structure DefinitionDraft.IsComplete (draft : DefinitionDraft) : Prop where
  name : Present draft.name
  version : Present draft.version
  members : ∀ member ∈ draft.members, Present member.reference ∧ Present member.role
  pages : ∀ page ∈ draft.pages, Present page.name
  plans : ∀ plan ∈ draft.plans, Present plan.name

structure MemberDraft.Becomes (draft : MemberDraft) (entry : MemberEntry) : Prop where
  reference : draft.reference = some entry.reference
  role : draft.role.map (fun role => Text.toUpper (Text.trim role)) = some entry.role
  source : ∀ source, entry.source = some source ↔
    draft.source = some source ∧ Text.isBlankText source = false

structure PageDraft.Becomes (draft : PageDraft) (entry : PageEntry) : Prop where
  name : draft.name = some entry.name
  type : entry.type = draft.type.getD .markdown
  body : entry.body = draft.body

structure PlanDraft.Becomes (draft : PlanDraft) (entry : PlanEntry) : Prop where
  name : draft.name = some entry.name
  security : entry.security = draft.security.getD .keyLess
  status : entry.status = draft.status.getD .staging
  validation : entry.terms.validation = draft.validation.getD .auto
  terms : { entry.terms with validation := draft.terms.validation } = draft.terms

/-- A definition that says what a draft says, with an entry for every entry of the draft. -/
structure DefinitionDraft.Becomes (draft : DefinitionDraft) (definition : Definition) : Prop where
  name : draft.name = some definition.details.name
  version : draft.version = some definition.details.version
  visibility : definition.details.visibility = draft.visibility.getD .membersOnly
  details : { definition.details with
    name := draft.details.name
    version := draft.details.version
    visibility := draft.details.visibility } = draft.details
  members : List.Forall₂ MemberDraft.Becomes draft.members definition.members
  pages : List.Forall₂ PageDraft.Becomes draft.pages definition.pages
  plans : List.Forall₂ PlanDraft.Becomes draft.plans definition.plans
  groups : definition.groups = draft.groups.filter fun name => !Text.isBlankText name

theorem RequiredField.check_eq_ok_iff {field : RequiredField} {text : Option String}
    {value : String} :
    field.check text = .ok value ↔ text = some value ∧ Text.isBlankText value = false := by
  cases text with
  | none => simp [check]
  | some text =>
    cases h : Text.isBlankText text with
    | true =>
      simp only [check, h, if_true, Option.some.injEq, reduceCtorEq, false_iff, not_and]
      rintro rfl
      simp [h]
    | false =>
      simp only [check, h, Bool.false_eq_true, if_false, Except.ok.injEq, Option.some.injEq]
      exact ⟨fun he => ⟨he, he ▸ h⟩, And.left⟩

/-- A check that reports the first missing one of some required fields, or yields what is asked
for. -/
structure ChecksFor {β : Type} (requirements : List Requirement) (R : β → Prop)
    (result : Except DefinitionFault β) : Prop where
  error : ∀ field, firstMissing? requirements = some field → result = .error (.missing field)
  ok : firstMissing? requirements = none → ∃ value, result = .ok value ∧ R value

namespace ChecksFor

variable {α β : Type} {requirements requirements' : List Requirement} {R : α → Prop} {S : β → Prop}

theorem pure (value : α) (h : R value) : ChecksFor [] R (.ok value) where
  error _ hfield := nomatch hfield
  ok _ := ⟨value, rfl, h⟩

theorem bind {result : Except DefinitionFault α} {next : α → Except DefinitionFault β}
    (h : ChecksFor requirements R result)
    (hnext : ∀ value, R value → ChecksFor requirements' S (next value)) :
    ChecksFor (requirements ++ requirements') S (result >>= next) := by
  have happ := firstMissing?_append requirements requirements'
  cases hfirst : firstMissing? requirements with
  | some field =>
    rw [hfirst, Option.some_or] at happ
    rw [h.error field hfirst]
    refine ⟨fun field' hfield => ?_, fun hnone => nomatch happ.symm.trans hnone⟩
    obtain rfl := Option.some.inj (happ.symm.trans hfield)
    rfl
  | none =>
    rw [hfirst, Option.none_or] at happ
    obtain ⟨value, rfl, hvalue⟩ := h.ok hfirst
    have hrest := hnext value hvalue
    exact ⟨fun field hfield => hrest.error field (happ.symm.trans hfield),
      fun hnone => hrest.ok (happ.symm.trans hnone)⟩

theorem check (field : RequiredField) (text : Option String) :
    ChecksFor [(field, text)] (fun value => text = some value) (field.check text) := by
  cases h : isMissing (field, text) with
  | true =>
    have hfirst : firstMissing? [(field, text)] = some field := by simp [firstMissing?, h]
    refine ⟨fun field' hfield => ?_, fun hnone => nomatch hfirst.symm.trans hnone⟩
    obtain rfl := Option.some.inj (hfirst.symm.trans hfield)
    cases text with
    | none => rfl
    | some text => exact if_pos h
  | false =>
    have hnone : firstMissing? [(field, text)] = none := by simp [firstMissing?, h]
    refine ⟨fun field' hfield => (nomatch hnone.symm.trans hfield), fun _ => ?_⟩
    obtain ⟨value, htext, hvalue⟩ := isMissing_eq_false_iff.mp h
    exact ⟨value, RequiredField.check_eq_ok_iff.mpr ⟨htext, hvalue⟩, htext⟩

theorem completeAll {R : α → β → Prop} {requirements : α → Nat → List Requirement}
    {complete : α → Nat → Except DefinitionFault β}
    (h : ∀ draft index, ChecksFor (requirements draft index) (R draft) (complete draft index))
    (start : Nat) (drafts : List α) :
    ChecksFor (requirementsFrom requirements start drafts) (List.Forall₂ R drafts)
      (ApiCatalog.completeAll complete start drafts) := by
  induction drafts generalizing start with
  | nil => exact .pure [] .nil
  | cons draft drafts ih =>
    refine (h draft start).bind fun entry hentry => ?_
    have hrest := (ih (start + 1)).bind fun entries hentries =>
      ChecksFor.pure (R := List.Forall₂ R (draft :: drafts)) _ (.cons hentry hentries)
    rwa [List.append_nil] at hrest

theorem eq_ok_iff {result : Except DefinitionFault α} (h : ChecksFor requirements R result)
    (hunique : ∀ {value value'}, R value → R value' → value = value') {value : α} :
    result = .ok value ↔ firstMissing? requirements = none ∧ R value := by
  cases hfirst : firstMissing? requirements with
  | some field => simp [h.error field hfirst]
  | none =>
    obtain ⟨value', rfl, hvalue'⟩ := h.ok hfirst
    refine ⟨fun he => ⟨rfl, Except.ok.inj he ▸ hvalue'⟩, fun ⟨_, hvalue⟩ => ?_⟩
    rw [hunique hvalue hvalue']

theorem eq_error_iff {result : Except DefinitionFault α} (h : ChecksFor requirements R result)
    {fault : DefinitionFault} :
    result = .error fault ↔
      ∃ field, firstMissing? requirements = some field ∧ fault = .missing field := by
  cases hfirst : firstMissing? requirements with
  | some field => simp [h.error field hfirst, eq_comm]
  | none =>
    obtain ⟨value, rfl, -⟩ := h.ok hfirst
    simp

end ChecksFor

theorem MemberDraft.checksFor_complete (draft : MemberDraft) (index : Nat) :
    ChecksFor (draft.requirements index) draft.Becomes (draft.complete index) := by
  refine (ChecksFor.check _ draft.reference).bind fun reference hreference => ?_
  have hrole := (ChecksFor.check (.memberRole index) draft.role).bind fun role hrole =>
    ChecksFor.pure (R := draft.Becomes) {
      reference
      source := draft.source.filter fun source => !Text.isBlankText source
      role := Text.toUpper (Text.trim role) }
      ⟨hreference, by rw [hrole]; rfl, fun source => by simp [Option.filter_eq_some_iff]⟩
  rwa [List.append_nil] at hrole

theorem PageDraft.checksFor_complete (draft : PageDraft) (index : Nat) :
    ChecksFor (draft.requirements index) draft.Becomes (draft.complete index) := by
  have hname := (ChecksFor.check (.pageName index) draft.name).bind fun name hname =>
    ChecksFor.pure (R := draft.Becomes)
      { name, type := draft.type.getD .markdown, body := draft.body } ⟨hname, rfl, rfl⟩
  rwa [List.append_nil] at hname

theorem PlanDraft.checksFor_complete (draft : PlanDraft) (index : Nat) :
    ChecksFor (draft.requirements index) draft.Becomes (draft.complete index) := by
  have hname := (ChecksFor.check (.planName index) draft.name).bind fun name hname =>
    ChecksFor.pure (R := draft.Becomes) {
      name
      security := draft.security.getD .keyLess
      status := draft.status.getD .staging
      terms := { draft.terms with validation := draft.validation.getD .auto } }
      ⟨hname, rfl, rfl, rfl, rfl⟩
  rwa [List.append_nil] at hname

theorem DefinitionDraft.checksFor_complete (draft : DefinitionDraft) :
    ChecksFor draft.requirements draft.Becomes draft.complete := by
  refine (ChecksFor.check .name draft.name).bind fun name hname => ?_
  refine (ChecksFor.check .version draft.version).bind fun version hversion => ?_
  refine (ChecksFor.completeAll MemberDraft.checksFor_complete 0 draft.members).bind
    fun members hmembers => ?_
  refine (ChecksFor.completeAll PageDraft.checksFor_complete 0 draft.pages).bind
    fun pages hpages => ?_
  have hplans := (ChecksFor.completeAll PlanDraft.checksFor_complete 0 draft.plans).bind
    fun plans hplans => ChecksFor.pure (R := draft.Becomes) {
      details := { draft.details with
        name, version, visibility := draft.visibility.getD .membersOnly }
      members, pages, plans
      groups := draft.groups.filter fun name => !Text.isBlankText name }
      ⟨hname, hversion, rfl, rfl, hmembers, hpages, hplans, rfl⟩
  rwa [List.append_nil] at hplans

theorem MemberDraft.rightUnique_becomes : Relator.RightUnique MemberDraft.Becomes := by
  intro draft entry entry' h h'
  have hreference := Option.some.inj (h.reference.symm.trans h'.reference)
  have hrole := Option.some.inj (h.role.symm.trans h'.role)
  have hsource : entry.source = entry'.source :=
    Option.ext fun source => (h.source source).trans (h'.source source).symm
  cases entry
  cases entry'
  simp_all

theorem PageDraft.rightUnique_becomes : Relator.RightUnique PageDraft.Becomes := by
  intro draft entry entry' h h'
  have hname := Option.some.inj (h.name.symm.trans h'.name)
  have htype := h.type.trans h'.type.symm
  have hbody := h.body.trans h'.body.symm
  cases entry
  cases entry'
  simp_all

theorem PlanDraft.rightUnique_becomes : Relator.RightUnique PlanDraft.Becomes := by
  intro draft entry entry' h h'
  have hname := Option.some.inj (h.name.symm.trans h'.name)
  have hsecurity := h.security.trans h'.security.symm
  have hstatus := h.status.trans h'.status.symm
  have hvalidation := h.validation.trans h'.validation.symm
  have hterms := h.terms.trans h'.terms.symm
  rcases entry with ⟨_, _, _, ⟨⟩⟩
  rcases entry' with ⟨_, _, _, ⟨⟩⟩
  simp_all

theorem DefinitionDraft.rightUnique_becomes : Relator.RightUnique DefinitionDraft.Becomes := by
  intro draft definition definition' h h'
  have hname := Option.some.inj (h.name.symm.trans h'.name)
  have hversion := Option.some.inj (h.version.symm.trans h'.version)
  have hvisibility := h.visibility.trans h'.visibility.symm
  have hdetails := h.details.trans h'.details.symm
  have hmembers := List.right_unique_forall₂' MemberDraft.rightUnique_becomes h.members h'.members
  have hpages := List.right_unique_forall₂' PageDraft.rightUnique_becomes h.pages h'.pages
  have hplans := List.right_unique_forall₂' PlanDraft.rightUnique_becomes h.plans h'.plans
  have hgroups := h.groups.trans h'.groups.symm
  rcases definition with ⟨⟨⟩, _, _, _, _⟩
  rcases definition' with ⟨⟨⟩, _, _, _, _⟩
  simp_all

theorem forall_requirementsFrom_iff {α : Type} {requirements : α → Nat → List Requirement}
    {P : α → Prop} (h : ∀ draft index, (∀ r ∈ requirements draft index, Present r.2) ↔ P draft)
    {start : Nat} {drafts : List α} :
    (∀ r ∈ requirementsFrom requirements start drafts, Present r.2) ↔ ∀ draft ∈ drafts, P draft := by
  induction drafts generalizing start with
  | nil => simp [requirementsFrom]
  | cons draft drafts ih =>
    have hcons : requirementsFrom requirements start (draft :: drafts) =
        requirements draft start ++ requirementsFrom requirements (start + 1) drafts := rfl
    rw [hcons, List.forall_mem_append, h, ih, List.forall_mem_cons]

theorem DefinitionDraft.firstMissing?_eq_none_iff {draft : DefinitionDraft} :
    firstMissing? draft.requirements = none ↔ draft.IsComplete := by
  have hmembers := @forall_requirementsFrom_iff MemberDraft MemberDraft.requirements
    (fun member => Present member.reference ∧ Present member.role)
    (fun draft index => by simp [MemberDraft.requirements]) 0 draft.members
  have hpages := @forall_requirementsFrom_iff PageDraft PageDraft.requirements
    (fun page => Present page.name) (fun draft index => by simp [PageDraft.requirements]) 0
    draft.pages
  have hplans := @forall_requirementsFrom_iff PlanDraft PlanDraft.requirements
    (fun plan => Present plan.name) (fun draft index => by simp [PlanDraft.requirements]) 0
    draft.plans
  rw [Requirement.firstMissing?_eq_none_iff, requirements, List.forall_mem_append,
    List.forall_mem_append, List.forall_mem_append, hmembers, hpages, hplans]
  constructor
  · rintro ⟨hdetails, hmembers, hpages, hplans⟩
    exact ⟨hdetails (.name, _) (by simp), hdetails (.version, _) (by simp), hmembers, hpages, hplans⟩
  · intro h
    exact ⟨by simpa using ⟨h.name, h.version⟩, h.members, h.pages, h.plans⟩

theorem DefinitionDraft.complete_eq_ok_iff {draft : DefinitionDraft} {definition : Definition} :
    draft.complete = .ok definition ↔ draft.IsComplete ∧ draft.Becomes definition := by
  rw [draft.checksFor_complete.eq_ok_iff (rightUnique_becomes · ·), firstMissing?_eq_none_iff]

namespace RequiredField

theorem path_injective : Function.Injective path := by
  intro field field' h
  have hs := congrArg String.toList h
  have hreversed := congrArg List.reverse hs
  -- paths of different kinds differ at their starts or at their ends
  cases field <;> cases field' <;> simp [path, toString] at hs hreversed
  case name.name | version.version => rfl
  all_goals exact congrArg _ (toDigits_injective hs)

end RequiredField

/-- The bytes are UTF-8 and hold a document from which a draft is read. -/
def Definition.Reads (bytes : List UInt8) (draft : DefinitionDraft) : Prop :=
  ∃ cs, Text.decodeUtf8 bytes = .ok cs ∧ Text.dropBlank cs ≠ [] ∧
    draft? (Text.dropBlank cs) = some draft

theorem Definition.Reads.parse_eq {bytes : List UInt8} {draft : DefinitionDraft}
    (h : Reads bytes draft) : parse bytes = draft.complete := by
  obtain ⟨cs, hcs, hne, hdraft⟩ := h
  obtain ⟨c, text, htext⟩ := List.exists_cons_of_ne_nil hne
  rw [htext] at hdraft
  simp only [parse, hcs, ofText, htext, hdraft]

theorem Definition.exists_reads_of_parse {bytes : List UInt8} {definition : Definition}
    (h : parse bytes = .ok definition) : ∃ draft, Reads bytes draft := by
  unfold parse at h
  split at h
  · rename_i cs hcs
    unfold ofText at h
    split at h
    · cases h
    · rename_i hne
      split at h
      · rename_i draft hdraft
        exact ⟨draft, cs, hcs, hne, hdraft⟩
      · cases h
  · cases h

/-- A draft is completed exactly if every required field is present. The definition has an entry
for every entry of the draft, in the same order, and says what the draft says. Of an incomplete
draft the first missing field is reported, by its path. Bytes are read as the definition of such a
draft, or refused as malformed. -/
theorem Definition.parse_completes :
    (∀ draft : DefinitionDraft,
      ((∃ definition, draft.complete = .ok definition) ↔ draft.IsComplete) ∧
      (∀ definition,
        draft.complete = .ok definition ↔ draft.IsComplete ∧ draft.Becomes definition) ∧
      ∀ error,
        draft.complete.mapError DefinitionFault.toError = .error error ↔
          ∃ field, firstMissing? draft.requirements = some field ∧
            error = .malformedDefinition s!"missing required field '{field.path}'") ∧
    Function.Injective RequiredField.path ∧
    (∀ bytes definition, parse bytes = .ok definition ↔
      ∃ draft, Reads bytes draft ∧ draft.IsComplete ∧ draft.Becomes definition) ∧
    ∀ bytes error, (parse bytes).mapError DefinitionFault.toError = .error error →
      ∃ reason, error = .malformedDefinition reason := by
  refine ⟨fun draft => ⟨⟨?_, fun h => ?_⟩, fun definition =>
    DefinitionDraft.complete_eq_ok_iff, fun error => ?_⟩,
    RequiredField.path_injective, fun bytes definition => ⟨fun h => ?_, ?_⟩, fun bytes error h => ?_⟩
  · rintro ⟨definition, h⟩
    exact (DefinitionDraft.complete_eq_ok_iff.mp h).1
  · obtain ⟨definition, hdefinition, -⟩ :=
      draft.checksFor_complete.ok (DefinitionDraft.firstMissing?_eq_none_iff.mpr h)
    exact ⟨definition, hdefinition⟩
  · rw [mapError_eq_error_iff]
    constructor
    · rintro ⟨fault, hfault, rfl⟩
      obtain ⟨field, hfield, rfl⟩ := draft.checksFor_complete.eq_error_iff.mp hfault
      exact ⟨field, hfield, rfl⟩
    · rintro ⟨field, hfield, rfl⟩
      exact ⟨.missing field, draft.checksFor_complete.error field hfield, rfl⟩
  · obtain ⟨draft, hdraft⟩ := exists_reads_of_parse h
    rw [hdraft.parse_eq] at h
    exact ⟨draft, hdraft, DefinitionDraft.complete_eq_ok_iff.mp h⟩
  · rintro ⟨draft, hdraft, h⟩
    rw [hdraft.parse_eq]
    exact DefinitionDraft.complete_eq_ok_iff.mpr h
  · obtain ⟨fault, -, rfl⟩ := mapError_eq_error_iff.mp h
    exact ⟨fault.message, rfl⟩

end ApiCatalog
