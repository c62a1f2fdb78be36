import ApiCatalog.Export.Document
import ApiCatalog.Proofs.Canonical

/-! # Exported documents as definitions

An exported document is a definition of what is stored: it lists the members, pages and open plans
in their order in the document, and reading it back loses nothing but empty free values.
-/

namespace ApiCatalog

def Json.unlessVoid (free : Option Json) : Option Json := free.filter (!·.isVoid)

theorem Json.depth_ofPresent_pos (fields : List (String × Json)) :
    0 < (Json.ofPresent fields).depth := Nat.succ_pos _

def PageBody.withoutVoid (body : PageBody) : PageBody :=
  { body with source := Json.unlessVoid body.source }

def ApiDetails.withoutVoid (details : ApiDetails) : ApiDetails :=
  { details with
    proxy := Json.unlessVoid details.proxy
    services := Json.unlessVoid details.services
    properties := Json.unlessVoid details.properties
    responseTemplates := Json.unlessVoid details.responseTemplates }

def Api.withoutVoid (api : Api) : Api := { api with details := api.details.withoutVoid }

def ScopedMember.toDraft (m : ScopedMember) : MemberDraft :=
  ⟨some m.label, m.user.source, some m.role⟩

def ScopedMember.toEntry (m : ScopedMember) : MemberEntry :=
  ⟨m.label, m.user.source.filter fun source => !Text.isBlankText source,
    Text.toUpper (Text.trim m.role)⟩

def Page.toDraft (page : Page) : PageDraft :=
  ⟨some page.name, some page.type, page.body.withoutVoid⟩

def Page.toEntry (page : Page) : PageEntry := ⟨page.name, page.type, page.body.withoutVoid⟩

def Plan.toDraft (plan : Plan) : PlanDraft :=
  ⟨some plan.name, some plan.security, some plan.status, some plan.terms.validation,
    { plan.terms with validation := .auto }⟩

def Plan.toEntry (plan : Plan) : PlanEntry := ⟨plan.name, plan.security, plan.status, plan.terms⟩

theorem RequiredField.check_of_not_blank (field : RequiredField) {text : String}
    (h : Text.isBlankText text = false) : field.check (some text) = .ok text :=
  check_eq_ok_iff.mpr ⟨rfl, h⟩

theorem ScopedMember.complete_toDraft {m : ScopedMember} (hlabel : Text.isBlankText m.label = false)
    (hrole : Text.isBlankText m.role = false) (index : Nat) :
    m.toDraft.complete index = .ok m.toEntry := by
  rw [toDraft, MemberDraft.complete, RequiredField.check_of_not_blank _ hlabel,
    RequiredField.check_of_not_blank _ hrole]
  rfl

theorem Page.complete_toDraft {page : Page} (hname : Text.isBlankText page.name = false)
    (index : Nat) : page.toDraft.complete index = .ok page.toEntry := by
  rw [toDraft, PageDraft.complete, RequiredField.check_of_not_blank _ hname]
  rfl

theorem Plan.complete_toDraft {plan : Plan} (hname : Text.isBlankText plan.name = false)
    (index : Nat) : plan.toDraft.complete index = .ok plan.toEntry := by
  rw [toDraft, PlanDraft.complete, RequiredField.check_of_not_blank _ hname]
  rfl

theorem PageDraft.knows : Record.Knows PageDraft.fields
    ["name", "type", "content", "order", "published", "homepage", "configuration", "source"] := by
  decide

theorem PageDraft.ofTree?_exportFields {page : Page} (h : page.body.Canonical) {room : Nat}
    (hroom : (Json.ofPresent page.exportFields).depth ≤ room + 1) :
    PageDraft.ofTree? room (Tree.ofJson (.ofPresent page.exportFields)) =
      some page.toDraft := by
  obtain ⟨record, hrecord, hshows⟩ := Record.record?_ofPresent page.exportFields knows
  have hname := Record.optional?_text (hshows "name" _ rfl rfl)
  have htype := Record.optional?_wire (hshows "type" (Wire.toJson page.type) rfl rfl)
  have hcontent := Record.optional?_string (hshows "content" (.ofString? page.body.content) rfl rfl)
  have horder := Record.nullable?_int32 (hshows "order" _ rfl rfl) h.order
  have hpublished := Record.nullable?_bool (hshows "published" _ rfl rfl)
  have hhomepage := Record.nullable?_bool (hshows "homepage" _ rfl rfl)
  have hconfiguration : record.nullable? "configuration" (Tree.fieldsOf? Tree.string?) [] =
      some page.body.configuration :=
    Record.nullable?_fields (hshows "configuration" _ rfl rfl) h.configuration fun _ _ _ => rfl
  have hsource := Record.optional?_json (hshows "source" _ rfl rfl) h.source hroom
  rw [ofTree?, bind_of_some hrecord, bind_of_some hcontent, bind_of_some horder,
    bind_of_some hpublished, bind_of_some hhomepage, bind_of_some hconfiguration,
    bind_of_some hsource, bind_of_some hname, bind_of_some htype]
  rfl

theorem PlanDraft.knows : Record.Knows PlanDraft.fields
    ["name", "description", "security", "securityDefinition", "validation", "status", "order",
      "characteristics", "paths", "tags", "excluded_groups", "selection_rule",
      "comment_required"] := by
  decide

theorem PlanDraft.ofTree?_exportFields {plan : Plan} (h : plan.terms.Canonical) {room : Nat}
    (hroom : (Json.ofPresent plan.exportFields).depth ≤ room + 1) :
    PlanDraft.ofTree? room (Tree.ofJson (.ofPresent plan.exportFields)) =
      some plan.toDraft := by
  obtain ⟨record, hrecord, hshows⟩ := Record.record?_ofPresent plan.exportFields knows
  have hname := Record.optional?_text (hshows "name" _ rfl rfl)
  have hdescription :=
    Record.optional?_string (hshows "description" (.ofString? plan.terms.description) rfl rfl)
  have hsecurity := Record.optional?_wire (hshows "security" (Wire.toJson plan.security) rfl rfl)
  have hdefinition := Record.optional?_string
    (hshows "securityDefinition" (.ofString? plan.terms.securityDefinition) rfl rfl)
  have hvalidation :=
    Record.optional?_wire (hshows "validation" (Wire.toJson plan.terms.validation) rfl rfl)
  have hstatus := Record.optional?_wire (hshows "status" (Wire.toJson plan.status) rfl rfl)
  have horder := Record.nullable?_int32 (hshows "order" _ rfl rfl) h.order
  have hcharacteristics := Record.nullable?_strings
    (hshows "characteristics" (.ofStrings plan.terms.characteristics) rfl rfl)
  have hpaths : record.nullable? "paths" (Tree.fieldsOf? (Tree.json? (room - 1))) [] =
      some plan.terms.paths :=
    Record.nullable?_free (hshows "paths" _ rfl rfl) h.paths (by omega)
  have htags := Record.nullable?_names (hshows "tags" _ rfl rfl) h.tags
  have hgroups := Record.nullable?_strings
    (hshows "excluded_groups" (.ofStrings plan.terms.excludedGroups) rfl rfl)
  have hrule :=
    Record.optional?_string (hshows "selection_rule" (.ofString? plan.terms.selectionRule) rfl rfl)
  have hcomment := Record.nullable?_bool (hshows "comment_required" _ rfl rfl)
  rw [ofTree?, bind_of_some hrecord, bind_of_some hdescription, bind_of_some hdefinition,
    bind_of_some horder, bind_of_some hcharacteristics, bind_of_some hpaths, bind_of_some htags,
    bind_of_some hgroups, bind_of_some hrule, bind_of_some hcomment, bind_of_some hname,
    bind_of_some hsecurity, bind_of_some hstatus, bind_of_some hvalidation]
  rfl

theorem MemberDraft.knows :
    Record.Knows MemberDraft.fields ["source", "reference", "role", "type"] := by
  decide

theorem MemberDraft.ofTree?_exportFields (m : ScopedMember) :
    MemberDraft.ofTree? (Tree.ofJson (.ofPresent m.exportFields)) = some m.toDraft := by
  obtain ⟨record, hrecord, hshows⟩ := Record.record?_ofPresent m.exportFields knows
  have hreference := Record.optional?_text (hshows "reference" _ rfl rfl)
  have hsource := Record.optional?_string (hshows "source" (.ofString? m.user.source) rfl rfl)
  have hrole := Record.optional?_text (hshows "role" _ rfl rfl)
  rw [ofTree?, bind_of_some hrecord, bind_of_some hreference, bind_of_some hsource,
    bind_of_some hrole]
  rfl

namespace Store

variable (store : Store) (excluded : List ExportSection) (api : Api)

def listedGroups : List String :=
  if .groups ∈ excluded then []
  else Names.ofList ((store.groupsWithIds api.groups).map (·.name))

def listedMembers : List ScopedMember :=
  if .members ∈ excluded then []
  else (store.members (.api api.id) .api).mergeSort ScopedMember.exportOrder

def listedPages : List Page :=
  if .pages ∈ excluded then [] else (store.fetchedPages api.id).mergeSort Page.exportOrder

def listedPlans : List Plan :=
  if .plans ∈ excluded then []
  else ((store.plansOf api.id).filter (·.isOpen)).mergeSort Plan.exportOrder

def definitionOf : Definition where
  details := api.details.withoutVoid
  members := (store.listedMembers excluded api).map (·.toEntry)
  pages := (store.listedPages excluded api).map (·.toEntry)
  plans := (store.listedPlans excluded api).map (·.toEntry)
  groups := store.listedGroups excluded api

/-- What a section of a document holds, which is nothing if it is left out. -/
def sectionOf : ExportSection → Json
  | .groups => .ofStrings (store.listedGroups excluded api)
  | .members => .arr ((store.listedMembers excluded api).map fun m => .ofPresent m.exportFields)
  | .pages => .arr ((store.listedPages excluded api).map fun page => .ofPresent page.exportFields)
  | .plans => .arr ((store.listedPlans excluded api).map fun plan => .ofPresent plan.exportFields)

def documentFields : List (String × Json) :=
  api.details.fields ++
    ExportSection.all.map fun part => (part.name, store.sectionOf excluded api part)

variable {store excluded api}

theorem isVoid_sectionOf {part : ExportSection} (h : part ∈ excluded) :
    (store.sectionOf excluded api part).isVoid = true := by
  cases part <;>
    simp only [sectionOf, listedGroups, listedMembers, listedPages, listedPlans, if_pos h] <;> rfl

theorem sectionOf_eq_content {part : ExportSection} (h : part ∉ excluded) :
    store.sectionOf excluded api part = part.content store .default api := by
  have hkeep : ∀ fields, dropFields [] fields = fields := fun fields =>
    List.filter_eq_self.mpr fun _ _ => rfl
  cases part <;>
    simp only [sectionOf, listedGroups, listedMembers, listedPages, listedPlans, if_neg h,
      ExportSection.content, ExportVersion.unknownPlanFields, hkeep]

theorem filter_sections (parts : List ExportSection) :
    ((parts.filter fun part => !excluded.contains part).map fun part =>
        (part.name, part.content store .default api)).filter (fun field => !field.2.isVoid) =
      (parts.map fun part => (part.name, store.sectionOf excluded api part)).filter
        fun field => !field.2.isVoid := by
  induction parts with
  | nil => rfl
  | cons part parts ih =>
    by_cases h : part ∈ excluded
    · rw [List.filter_cons_of_neg (by simpa using h), ih, List.map_cons,
        List.filter_cons_of_neg (by simpa using isVoid_sectionOf h)]
    · rw [List.filter_cons_of_pos (by simpa using h), List.map_cons, List.map_cons,
        List.filter_cons, ih, List.filter_cons, sectionOf_eq_content h]

theorem exportDocument_default :
    exportDocument store .default excluded api =
      .ofPresent (store.documentFields excluded api) := by
  have hkeep : dropFields [] api.details.fields = api.details.fields :=
    List.filter_eq_self.mpr fun _ _ => rfl
  rw [exportDocument, documentFields, ExportVersion.unknownApiFields, hkeep, Json.ofPresent,
    Json.ofPresent, List.filter_append, List.filter_append, filter_sections]

/-- What makes the document of an API a definition. -/
structure Describable (store : Store) (excluded : List ExportSection) (api : Api) : Prop where
  name : Text.isBlankText api.details.name = false
  version : Text.isBlankText api.details.version = false
  details : api.details.Canonical
  members : ∀ m ∈ store.listedMembers excluded api,
    Text.isBlankText m.label = false ∧ Text.isBlankText m.role = false
  pages : ∀ page ∈ store.listedPages excluded api,
    Text.isBlankText page.name = false ∧ page.body.Canonical
  plans : ∀ plan ∈ store.listedPlans excluded api,
    Text.isBlankText plan.name = false ∧ plan.terms.Canonical
  groups : ∀ name ∈ store.listedGroups excluded api, Text.isBlankText name = false

end Store

theorem DefinitionDraft.knows : Record.Knows DefinitionDraft.fields
    ["name", "version", "description", "visibility", "tags", "picture", "proxy", "paths",
      "services", "resources", "properties", "views", "labels", "path_mappings",
      "response_templates", "groups", "members", "pages", "plans"] := by
  decide

def Store.draftOf (store : Store) (excluded : List ExportSection) (api : Api) :
    DefinitionDraft where
  name := some api.details.name
  version := some api.details.version
  visibility := some api.details.visibility
  details := { api.details.withoutVoid with
    name := ""
    version := ""
    visibility := .membersOnly }
  members := (store.listedMembers excluded api).map (·.toDraft)
  pages := (store.listedPages excluded api).map (·.toDraft)
  plans := (store.listedPlans excluded api).map (·.toDraft)
  groups := store.listedGroups excluded api

theorem DefinitionDraft.ofTree?_documentFields {store : Store} {excluded : List ExportSection}
    {api : Api} (h : store.Describable excluded api) :
    DefinitionDraft.ofTree? (Json.ofPresent (store.documentFields excluded api)).depth
        (Tree.ofJson (.ofPresent (store.documentFields excluded api))) =
      some (store.draftOf excluded api) := by
  obtain ⟨record, hrecord, hshows⟩ :=
    Record.record?_ofPresent (store.documentFields excluded api) knows
  -- only that values are less deep than the document matters about its depth
  generalize (Json.ofPresent (store.documentFields excluded api)).depth = limit at hshows ⊢
  have hroom : limit ≤ limit - 1 + 1 := Nat.le_add_of_sub_le le_rfl
  have hroom' : limit ≤ limit - 2 + 2 := Nat.le_add_of_sub_le le_rfl
  have hname := Record.optional?_text (hshows "name" _ rfl rfl)
  have hversion := Record.optional?_text (hshows "version" _ rfl rfl)
  have hdescription :=
    Record.optional?_string (hshows "description" (.ofString? api.details.description) rfl rfl)
  have hvisibility :=
    Record.optional?_wire (hshows "visibility" (Wire.toJson api.details.visibility) rfl rfl)
  have htags := Record.nullable?_names (hshows "tags" _ rfl rfl) h.details.tags
  have hpicture :=
    Record.optional?_string (hshows "picture" (.ofString? api.details.picture) rfl rfl)
  have hproxy := Record.optional?_json (hshows "proxy" _ rfl rfl) h.details.proxy hroom
  have hpaths := Record.nullable?_free (hshows "paths" _ rfl rfl) h.details.paths hroom'
  have hservices := Record.optional?_json (hshows "services" _ rfl rfl) h.details.services hroom
  have hresources := Record.nullable?_frees (hshows "resources" _ rfl rfl) h.details.resources
    hroom'
  have hproperties :=
    Record.optional?_json (hshows "properties" _ rfl rfl) h.details.properties hroom
  have hviews := Record.nullable?_names (hshows "views" _ rfl rfl) h.details.views
  have hlabels :=
    Record.nullable?_strings (hshows "labels" (.ofStrings api.details.labels) rfl rfl)
  have hmappings :=
    Record.nullable?_names (hshows "path_mappings" _ rfl rfl) h.details.pathMappings
  have htemplates := Record.optional?_json (hshows "response_templates" _ rfl rfl)
    h.details.responseTemplates hroom
  have hmembers := Record.nullable?_list (hshows "members" _ rfl rfl) fun m _ _ =>
    MemberDraft.ofTree?_exportFields m
  have hpages : record.nullable? "pages" (Tree.listOf? (PageDraft.ofTree? (limit - 3))) [] =
      some ((store.listedPages excluded api).map (·.toDraft)) := by
    refine Record.nullable?_list (hshows "pages" _ rfl rfl) fun page hpage hdepth => ?_
    have hpos := Json.depth_ofPresent_pos page.exportFields
    exact PageDraft.ofTree?_exportFields (h.pages page hpage).2 (by omega)
  have hplans : record.nullable? "plans" (Tree.listOf? (PlanDraft.ofTree? (limit - 3))) [] =
      some ((store.listedPlans excluded api).map (·.toDraft)) := by
    refine Record.nullable?_list (hshows "plans" _ rfl rfl) fun plan hplan hdepth => ?_
    have hpos := Json.depth_ofPresent_pos plan.exportFields
    exact PlanDraft.ofTree?_exportFields (h.plans plan hplan).2 (by omega)
  have hgroups := Record.nullable?_strings
    (hshows "groups" (.ofStrings (store.listedGroups excluded api)) rfl rfl)
  rw [ofTree?, bind_of_some hrecord, bind_of_some hdescription, bind_of_some htags,
    bind_of_some hpicture, bind_of_some hproxy, bind_of_some hpaths, bind_of_some hservices,
    bind_of_some hresources, bind_of_some hproperties, bind_of_some hviews, bind_of_some hlabels,
    bind_of_some hmappings, bind_of_some htemplates, bind_of_some hmembers, bind_of_some hpages,
    bind_of_some hplans, bind_of_some hgroups, bind_of_some hname, bind_of_some hversion,
    bind_of_some hvisibility]
  rfl

theorem completeAll_map {α β γ : Type} {complete : α → Nat → Except DefinitionFault β}
    {draft : γ → α} {entry : γ → β} {xs : List γ}
    (h : ∀ x ∈ xs, ∀ index, complete (draft x) index = .ok (entry x)) (start : Nat) :
    completeAll complete start (xs.map draft) = .ok (xs.map entry) := by
  induction xs generalizing start with
  | nil => rfl
  | cons x xs ih =>
    obtain ⟨hx, hxs⟩ := List.forall_mem_cons.mp h
    rw [List.map_cons, completeAll, hx start, ih hxs]
    rfl

theorem DefinitionDraft.complete_draftOf {store : Store} {excluded : List ExportSection}
    {api : Api} (h : store.Describable excluded api) :
    (store.draftOf excluded api).complete = .ok (store.definitionOf excluded api) := by
  have hmembers := completeAll_map
    (fun m hm => ScopedMember.complete_toDraft (h.members m hm).1 (h.members m hm).2) 0
  have hpages := completeAll_map (fun page hpage => Page.complete_toDraft (h.pages page hpage).1) 0
  have hplans := completeAll_map (fun plan hplan => Plan.complete_toDraft (h.plans plan hplan).1) 0
  have hgroups : (store.listedGroups excluded api).filter (fun name => !Text.isBlankText name) =
      store.listedGroups excluded api :=
    List.filter_eq_self.mpr fun name hname => by rw [h.groups name hname]; rfl
  rw [Store.draftOf, complete, RequiredField.check_of_not_blank _ h.name,
    RequiredField.check_of_not_blank _ h.version, hmembers, hpages, hplans, hgroups]
  rfl

theorem Definition.ofJson_exportDocument {store : Store} {excluded : List ExportSection}
    {api : Api} (h : store.Describable excluded api) :
    ofJson (exportDocument store .default excluded api) =
      .ok (store.definitionOf excluded api) := by
  rw [Store.exportDocument_default, ofJson, DefinitionDraft.ofTree?_documentFields h]
  exact DefinitionDraft.complete_draftOf h

namespace Json

@[simp] theorem isVoid_null : null.isVoid = true := rfl

/-- A value, or null for an empty one. -/
def nullIfVoid (value : Json) : Json := if value.isVoid then .null else value

/-- Empty values make no difference to an object without them. -/
theorem ofPresent_congr {fields fields' : List (String × Json)}
    (h : (fields.map fun field => (field.1, field.2.nullIfVoid)) =
      fields'.map fun field => (field.1, field.2.nullIfVoid)) :
    ofPresent fields = ofPresent fields' := by
  have hpresent : ∀ fields : List (String × Json),
      fields.filter (fun field => !field.2.isVoid) =
        (fields.map fun field => (field.1, field.2.nullIfVoid)).filter
          fun field => !field.2.isVoid := by
    intro fields
    induction fields with
    | nil => rfl
    | cons field fields ih =>
      rw [List.filter_cons, ih, List.map_cons, List.filter_cons, nullIfVoid]
      cases hv : field.2.isVoid <;> simp [hv]
  rw [ofPresent, ofPresent, hpresent fields, h, ← hpresent fields']

theorem nullIfVoid_unlessVoid (free : Option Json) :
    (orNull (unlessVoid free)).nullIfVoid = (orNull free).nullIfVoid := by
  cases free with
  | none => rfl
  | some value =>
    cases hv : value.isVoid with
    | true => simp [unlessVoid, Option.filter, hv, orNull, nullIfVoid]
    | false => simp [unlessVoid, Option.filter, hv]

end Json

theorem map_nullIfVoid_dropFields (names : List String) (fields : List (String × Json)) :
    ((dropFields names fields).map fun field => (field.1, field.2.nullIfVoid)) =
      dropFields names (fields.map fun field => (field.1, field.2.nullIfVoid)) := by
  rw [dropFields, dropFields, List.filter_map]
  rfl

theorem ApiDetails.map_nullIfVoid_withoutVoid (details : ApiDetails) :
    (details.withoutVoid.fields.map fun field => (field.1, field.2.nullIfVoid)) =
      details.fields.map fun field => (field.1, field.2.nullIfVoid) := by
  simp only [fields, withoutVoid, List.map_cons, Json.nullIfVoid_unlessVoid]

theorem Page.ofPresent_exportFields (page : Page) (contributor : Option String) :
    Json.ofPresent
        { page with body := page.body.withoutVoid, lastContributor := contributor }.exportFields =
      Json.ofPresent page.exportFields := by
  refine Json.ofPresent_congr ?_
  simp only [exportFields, PageBody.withoutVoid, List.map_cons, Json.nullIfVoid_unlessVoid]

end ApiCatalog
