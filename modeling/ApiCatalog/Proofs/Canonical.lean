import ApiCatalog.Proofs.Completeness
import ApiCatalog.Proofs.Record

/-! # What documents are read as

A definition that is read has its sets and mappings sorted, its numbers in range, and a name
wherever one is required.
-/

namespace ApiCatalog

structure PageBody.Canonical (body : PageBody) : Prop where
  order : IsInt32 body.order
  configuration : Fields.Sorted body.configuration
  source : (Json.orNull body.source).Sorted

structure PlanTerms.Canonical (terms : PlanTerms) : Prop where
  order : IsInt32 terms.order
  paths : (Json.obj terms.paths).Sorted
  tags : Names.Sorted terms.tags

structure ApiDetails.Canonical (details : ApiDetails) : Prop where
  tags : Names.Sorted details.tags
  views : Names.Sorted details.views
  pathMappings : Names.Sorted details.pathMappings
  proxy : (Json.orNull details.proxy).Sorted
  services : (Json.orNull details.services).Sorted
  properties : (Json.orNull details.properties).Sorted
  responseTemplates : (Json.orNull details.responseTemplates).Sorted
  paths : (Json.obj details.paths).Sorted
  resources : (Json.arr details.resources).Sorted

structure Definition.Canonical (definition : Definition) : Prop where
  name : Text.isBlankText definition.details.name = false
  version : Text.isBlankText definition.details.version = false
  details : definition.details.Canonical
  roles : ∀ entry ∈ definition.members, ∃ role, Text.isBlankText role = false ∧
    entry.role = Text.toUpper (Text.trim role)
  pages : ∀ entry ∈ definition.pages,
    Text.isBlankText entry.name = false ∧ entry.body.Canonical
  plans : ∀ entry ∈ definition.plans,
    Text.isBlankText entry.name = false ∧ entry.terms.Canonical
  groups : ∀ name ∈ definition.groups, Text.isBlankText name = false

namespace Record

variable {α : Type} {P : α → Prop} {record : Record} {name : String} {read : Tree → Option α}

theorem of_optional? (hread : ∀ t x, read t = some x → P x) {x : α}
    (h : record.optional? name read = some (some x)) : P x := by
  unfold optional? at h
  split at h
  · cases h
  · split at h
    · cases h
    · cases h
    · obtain ⟨y, hy, hx⟩ := Option.map_eq_some_iff.mp h
      exact hread _ x (hy.trans hx)

theorem of_nullable? {default : α} (hdefault : P default) (hread : ∀ t x, read t = some x → P x)
    {x : α} (h : record.nullable? name read default = some x) : P x := by
  obtain ⟨y, hy, rfl⟩ := Option.map_eq_some_iff.mp h
  cases y with
  | none => exact hdefault
  | some y => exact of_optional? hread hy

end Record

namespace Tree

theorem forall_mem_of_mapM {α β : Type} {P : β → Prop} {read : α → Option β}
    (hread : ∀ x y, read x = some y → P y) {xs : List α} {ys : List β}
    (h : xs.mapM read = some ys) : ∀ y ∈ ys, P y := by
  induction xs generalizing ys with
  | nil =>
    cases h
    exact fun _ hm => absurd hm List.not_mem_nil
  | cons x xs ih =>
    rw [List.mapM_cons] at h
    obtain ⟨y, hy, h⟩ := Option.bind_eq_some_iff.mp h
    obtain ⟨rest, hrest, h⟩ := Option.bind_eq_some_iff.mp h
    cases h
    exact List.forall_mem_cons.mpr ⟨hread x y hy, ih hrest⟩

section Readers

variable {α : Type} {P : α → Prop} {read : Tree → Option α} {t : Tree}

theorem forall_mem_of_listOf? (hread : ∀ t x, read t = some x → P x) {xs : List α}
    (h : t.listOf? read = some xs) : ∀ x ∈ xs, P x := by
  obtain ⟨items, _, h⟩ := Option.bind_eq_some_iff.mp h
  exact forall_mem_of_mapM hread h

theorem sorted_of_fieldsOf? {fields : List (String × α)} (h : t.fieldsOf? read = some fields) :
    Fields.Sorted fields := by
  obtain ⟨entries, _, h⟩ := Option.bind_eq_some_iff.mp h
  obtain ⟨fields, _, h⟩ := Option.bind_eq_some_iff.mp h
  cases h
  exact Fields.sorted_ofList fields

theorem forall_mem_of_fieldsOf? (hread : ∀ t x, read t = some x → P x)
    {fields : List (String × α)} (h : t.fieldsOf? read = some fields) :
    ∀ field ∈ fields, P field.2 := by
  obtain ⟨entries, _, h⟩ := Option.bind_eq_some_iff.mp h
  obtain ⟨fields, hfields, h⟩ := Option.bind_eq_some_iff.mp h
  cases h
  have hall : ∀ field ∈ fields, P field.2 := by
    refine forall_mem_of_mapM (fun entry field hf => ?_) hfields
    obtain ⟨name, _, hf⟩ := Option.bind_eq_some_iff.mp hf
    obtain ⟨x, hx, hf⟩ := Option.bind_eq_some_iff.mp hf
    cases hf
    exact hread _ x hx
  exact fun field hf => hall field (Fields.mem_of_mem_ofList hf)

theorem sorted_of_names? {names : List String} (h : t.names? = some names) :
    Names.Sorted names := by
  obtain ⟨texts, _, rfl⟩ := Option.map_eq_some_iff.mp h
  exact Names.sorted_ofList texts

theorem isInt32_of_int32? {n : Int} (h : t.int32? = some n) : IsInt32 n := by
  unfold int32? at h
  split at h
  · rw [IsInt32]
    exact of_decide_eq_true (Option.filter_eq_some_iff.mp h).2
  · cases h

end Readers

end Tree

namespace Record

variable {record : Record} {name : String} {room : Nat}

theorem sorted_of_names? {names : List String}
    (h : record.nullable? name Tree.names? [] = some names) : Names.Sorted names :=
  of_nullable? List.Pairwise.nil (fun _ _ => Tree.sorted_of_names?) h

theorem isInt32_of_int32? {n : Int} (h : record.nullable? name Tree.int32? 0 = some n) :
    IsInt32 n :=
  of_nullable? (by unfold IsInt32; decide) (fun _ _ => Tree.isInt32_of_int32?) h

theorem sorted_of_json? {free : Option Json}
    (h : record.optional? name (Tree.json? room) = some free) : (Json.orNull free).Sorted := by
  cases free with
  | none => exact trivial
  | some value => exact of_optional? (fun t x => Tree.sorted_of_json? t room x) h

theorem sorted_of_listOf? {items : List Json}
    (h : record.nullable? name (Tree.listOf? (Tree.json? room)) [] = some items) :
    (Json.arr items).Sorted :=
  Json.sortedItems_iff.mpr <| of_nullable? (P := fun items => ∀ item ∈ items, item.Sorted)
    (fun _ hm => absurd hm List.not_mem_nil)
    (fun _ _ => Tree.forall_mem_of_listOf? fun t x => Tree.sorted_of_json? t room x) h

theorem sorted_of_fieldsOf? {fields : List (String × Json)}
    (h : record.nullable? name (Tree.fieldsOf? (Tree.json? room)) [] = some fields) :
    (Json.obj fields).Sorted :=
  of_nullable? (P := fun fields => (Json.obj fields).Sorted) ⟨List.Pairwise.nil, trivial⟩
    (fun _ _ hf => ⟨Tree.sorted_of_fieldsOf? hf, Json.sortedFields_iff.mpr <|
      Tree.forall_mem_of_fieldsOf? (fun t x => Tree.sorted_of_json? t room x) hf⟩) h

end Record

theorem PageDraft.canonical_of_ofTree? {room : Nat} {t : Tree} {draft : PageDraft}
    (h : PageDraft.ofTree? room t = some draft) : draft.body.Canonical := by
  obtain ⟨record, -, h⟩ := Option.bind_eq_some_iff.mp h
  obtain ⟨_, -, h⟩ := Option.bind_eq_some_iff.mp h
  obtain ⟨_, horder, h⟩ := Option.bind_eq_some_iff.mp h
  obtain ⟨_, -, h⟩ := Option.bind_eq_some_iff.mp h
  obtain ⟨_, -, h⟩ := Option.bind_eq_some_iff.mp h
  obtain ⟨_, hconfiguration, h⟩ := Option.bind_eq_some_iff.mp h
  obtain ⟨_, hsource, h⟩ := Option.bind_eq_some_iff.mp h
  obtain ⟨_, -, h⟩ := Option.bind_eq_some_iff.mp h
  obtain ⟨_, -, h⟩ := Option.bind_eq_some_iff.mp h
  cases h
  exact ⟨Record.isInt32_of_int32? horder,
    Record.of_nullable? List.Pairwise.nil (fun _ _ => Tree.sorted_of_fieldsOf?) hconfiguration,
    Record.sorted_of_json? hsource⟩

theorem PlanDraft.canonical_of_ofTree? {room : Nat} {t : Tree} {draft : PlanDraft}
    (h : PlanDraft.ofTree? room t = some draft) : draft.terms.Canonical := by
  obtain ⟨record, -, h⟩ := Option.bind_eq_some_iff.mp h
  obtain ⟨_, -, h⟩ := Option.bind_eq_some_iff.mp h
  obtain ⟨_, -, h⟩ := Option.bind_eq_some_iff.mp h
  obtain ⟨_, horder, h⟩ := Option.bind_eq_some_iff.mp h
  obtain ⟨_, -, h⟩ := Option.bind_eq_some_iff.mp h
  obtain ⟨_, hpaths, h⟩ := Option.bind_eq_some_iff.mp h
  obtain ⟨_, htags, h⟩ := Option.bind_eq_some_iff.mp h
  obtain ⟨_, -, h⟩ := Option.bind_eq_some_iff.mp h
  obtain ⟨_, -, h⟩ := Option.bind_eq_some_iff.mp h
  obtain ⟨_, -, h⟩ := Option.bind_eq_some_iff.mp h
  obtain ⟨_, -, h⟩ := Option.bind_eq_some_iff.mp h
  obtain ⟨_, -, h⟩ := Option.bind_eq_some_iff.mp h
  obtain ⟨_, -, h⟩ := Option.bind_eq_some_iff.mp h
  obtain ⟨_, -, h⟩ := Option.bind_eq_some_iff.mp h
  cases h
  exact ⟨Record.isInt32_of_int32? horder, Record.sorted_of_fieldsOf? hpaths,
    Record.sorted_of_names? htags⟩

theorem DefinitionDraft.canonical_of_ofTree? {limit : Nat} {t : Tree} {draft : DefinitionDraft}
    (h : DefinitionDraft.ofTree? limit t = some draft) :
    draft.details.Canonical ∧ (∀ page ∈ draft.pages, page.body.Canonical) ∧
      ∀ plan ∈ draft.plans, plan.terms.Canonical := by
  obtain ⟨record, -, h⟩ := Option.bind_eq_some_iff.mp h
  obtain ⟨_, -, h⟩ := Option.bind_eq_some_iff.mp h
  obtain ⟨_, htags, h⟩ := Option.bind_eq_some_iff.mp h
  obtain ⟨_, -, h⟩ := Option.bind_eq_some_iff.mp h
  obtain ⟨_, hproxy, h⟩ := Option.bind_eq_some_iff.mp h
  obtain ⟨_, hpaths, h⟩ := Option.bind_eq_some_iff.mp h
  obtain ⟨_, hservices, h⟩ := Option.bind_eq_some_iff.mp h
  obtain ⟨_, hresources, h⟩ := Option.bind_eq_some_iff.mp h
  obtain ⟨_, hproperties, h⟩ := Option.bind_eq_some_iff.mp h
  obtain ⟨_, hviews, h⟩ := Option.bind_eq_some_iff.mp h
  obtain ⟨_, -, h⟩ := Option.bind_eq_some_iff.mp h
  obtain ⟨_, hmappings, h⟩ := Option.bind_eq_some_iff.mp h
  obtain ⟨_, htemplates, h⟩ := Option.bind_eq_some_iff.mp h
  obtain ⟨_, -, h⟩ := Option.bind_eq_some_iff.mp h
  obtain ⟨_, hpages, h⟩ := Option.bind_eq_some_iff.mp h
  obtain ⟨_, hplans, h⟩ := Option.bind_eq_some_iff.mp h
  obtain ⟨_, -, h⟩ := Option.bind_eq_some_iff.mp h
  obtain ⟨_, -, h⟩ := Option.bind_eq_some_iff.mp h
  obtain ⟨_, -, h⟩ := Option.bind_eq_some_iff.mp h
  obtain ⟨_, -, h⟩ := Option.bind_eq_some_iff.mp h
  cases h
  refine ⟨⟨Record.sorted_of_names? htags, Record.sorted_of_names? hviews,
    Record.sorted_of_names? hmappings, Record.sorted_of_json? hproxy,
    Record.sorted_of_json? hservices, Record.sorted_of_json? hproperties,
    Record.sorted_of_json? htemplates, Record.sorted_of_fieldsOf? hpaths,
    Record.sorted_of_listOf? hresources⟩, ?_, ?_⟩
  · exact Record.of_nullable? (P := fun pages => ∀ page ∈ pages, page.body.Canonical)
      (fun _ hm => absurd hm List.not_mem_nil)
      (fun _ _ => Tree.forall_mem_of_listOf? fun _ _ => PageDraft.canonical_of_ofTree?) hpages
  · exact Record.of_nullable? (P := fun plans => ∀ plan ∈ plans, plan.terms.Canonical)
      (fun _ hm => absurd hm List.not_mem_nil)
      (fun _ _ => Tree.forall_mem_of_listOf? fun _ _ => PlanDraft.canonical_of_ofTree?) hplans

theorem DefinitionDraft.canonical_of_complete {limit : Nat} {t : Tree} {draft : DefinitionDraft}
    (hdraft : DefinitionDraft.ofTree? limit t = some draft) {definition : Definition}
    (h : draft.complete = .ok definition) : definition.Canonical := by
  obtain ⟨hdetails, hpages, hplans⟩ := canonical_of_ofTree? hdraft
  obtain ⟨hcomplete, hbecomes⟩ := complete_eq_ok_iff.mp h
  have hblank : ∀ {text value}, Present text → text = some value →
      Text.isBlankText value = false := by
    rintro _ value hpresent rfl
    exact present_some_iff.mp hpresent
  rw [← hbecomes.details] at hdetails
  refine ⟨hblank hcomplete.name hbecomes.name, hblank hcomplete.version hbecomes.version,
    { hdetails with }, fun entry hentry => ?_, fun entry hentry => ?_, fun entry hentry => ?_,
    fun name hname => ?_⟩
  · obtain ⟨member, hmember, hentry⟩ := exists_of_forall₂ hbecomes.members hentry
    obtain ⟨role, hrole, hnotBlank⟩ := (hcomplete.members member hmember).2
    have hsame := hentry.role
    rw [hrole] at hsame
    exact ⟨role, hnotBlank, (Option.some.inj hsame).symm⟩
  · obtain ⟨page, hpage, hentry⟩ := exists_of_forall₂ hbecomes.pages hentry
    exact ⟨hblank (hcomplete.pages page hpage) hentry.name, hentry.body ▸ hpages page hpage⟩
  · obtain ⟨plan, hplan, hentry⟩ := exists_of_forall₂ hbecomes.plans hentry
    have hterms := hplans plan hplan
    rw [← hentry.terms] at hterms
    exact ⟨hblank (hcomplete.plans plan hplan) hentry.name, { hterms with }⟩
  · rw [hbecomes.groups] at hname
    simpa using (List.mem_filter.mp hname).2

theorem Definition.canonical_of_ofText {cs : List Char} {definition : Definition}
    (h : ofText cs = .ok definition) : definition.Canonical := by
  unfold ofText at h
  split at h
  · cases h
  · split at h
    · rename_i draft hdraft
      unfold draft? at hdraft
      split at hdraft
      · obtain ⟨t, _, hdraft⟩ := Option.bind_eq_some_iff.mp hdraft
        exact DefinitionDraft.canonical_of_complete hdraft h
      · obtain ⟨t, _, hdraft⟩ := Option.bind_eq_some_iff.mp hdraft
        exact DefinitionDraft.canonical_of_complete hdraft h
    · cases h

theorem Definition.canonical_of_parse {bytes : List UInt8} {definition : Definition}
    (h : parse bytes = .ok definition) : definition.Canonical := by
  unfold parse at h
  split at h
  · exact canonical_of_ofText h
  · cases h

end ApiCatalog
