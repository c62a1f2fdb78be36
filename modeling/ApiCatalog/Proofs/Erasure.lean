import ApiCatalog.Proofs.Atomicity
import ApiCatalog.Proofs.RoundTrip

/-! # Exports as erasures

Every export of an API is its whole document with some of it left out: the sections that the caller
names, and the fields that the version does not know. An export changes nothing but a count.
-/

namespace ApiCatalog

section DropFields

variable {names names' : List String} {fields fields' : List (String × Json)}

theorem dropFields_append (names : List String) (fields fields' : List (String × Json)) :
    dropFields names (fields ++ fields') = dropFields names fields ++ dropFields names fields' :=
  List.filter_append fields fields'

theorem dropFields_eq_self (h : ∀ field ∈ fields, field.1 ∉ names) :
    dropFields names fields = fields :=
  List.filter_eq_self.mpr fun field hfield => by simpa using h field hfield

theorem dropFields_congr (h : ∀ name, name ∈ names ↔ name ∈ names')
    (fields : List (String × Json)) : dropFields names fields = dropFields names' fields :=
  List.filter_congr fun field _ => by simp [h]

theorem dropFields_dropFields (names names' : List String) (fields : List (String × Json)) :
    dropFields names' (dropFields names fields) = dropFields (names ++ names') fields := by
  rw [dropFields, dropFields, dropFields, List.filter_filter]
  refine List.filter_congr fun field _ => ?_
  rw [Bool.eq_iff_iff]
  simp [and_comm]

theorem dropFields_ofList (h : (fields.map (·.1)).Nodup) (names : List String) :
    dropFields names (Fields.ofList fields) = Fields.ofList (dropFields names fields) := by
  have hdropped : ((dropFields names fields).map (·.1)).Nodup :=
    h.sublist (List.filter_sublist.map _)
  refine Fields.eq_of_lookup_eq ((Fields.sorted_ofList fields).sublist List.filter_sublist)
    (Fields.sorted_ofList _) fun name => ?_
  rw [Fields.lookup_ofList hdropped]
  by_cases hname : name ∈ names
  · have hnone : ∀ fields : List (String × Json), (dropFields names fields).lookup name = none := by
      refine fun fields => lookup_eq_none_of_not_mem fun hmem => ?_
      obtain ⟨field, hfield, rfl⟩ := List.mem_map.mp hmem
      have hkept := (List.mem_filter.mp hfield).2
      simp [hname] at hkept
    rw [hnone, hnone]
  · have hkeep : (!names.contains name) = true := by simpa using hname
    have hsame : ∀ fields : List (String × Json),
        (dropFields names fields).lookup name = fields.lookup name := fun fields =>
      lookup_filter_key (p := fun key => !names.contains key) hkeep
    rw [hsame, hsame, Fields.lookup_ofList h]

theorem map_field_eq_self {name : String} {f : Json → Json}
    (h : ∀ field ∈ fields, field.1 ≠ name) :
    (fields.map fun (key, value) => (key, if key = name then f value else value)) = fields := by
  have hsame : ∀ field ∈ fields, (fun (key, value) => (key, if key = name then f value else value))
      field = id field := fun field hfield =>
    congrArg (Prod.mk field.1) (if_neg (h field hfield))
  rw [List.map_congr_left hsame, List.map_id]

end DropFields

namespace Json

def without (names : List String) : Json → Json
  | obj fields => obj (dropFields names fields)
  | value => value

def mapField (name : String) (f : Json → Json) : Json → Json
  | obj fields => obj (fields.map fun (key, value) => (key, if key = name then f value else value))
  | value => value

def mapItems (f : Json → Json) : Json → Json
  | arr items => arr (items.map f)
  | value => value

theorem without_nil (document : Json) : document.without [] = document := by
  cases document with
  | obj fields => exact congrArg obj (dropFields_eq_self fun _ _ => List.not_mem_nil)
  | _ => rfl

theorem without_without (names names' : List String) (document : Json) :
    (document.without names).without names' = document.without (names ++ names') := by
  cases document with
  | obj fields => exact congrArg obj (dropFields_dropFields names names' fields)
  | _ => rfl

theorem without_congr {names names' : List String} (h : ∀ name, name ∈ names ↔ name ∈ names')
    (document : Json) : document.without names = document.without names' := by
  cases document with
  | obj fields => exact congrArg obj (dropFields_congr h fields)
  | _ => rfl

theorem mapField_without (name : String) (f : Json → Json) (names : List String)
    (document : Json) :
    (document.mapField name f).without names = (document.without names).mapField name f := by
  cases document with
  | obj fields => simp [mapField, without, dropFields, List.filter_map, Function.comp_def]
  | _ => rfl

theorem mapField_id (name : String) (document : Json) : document.mapField name id = document := by
  cases document with
  | obj fields => simp [mapField]
  | _ => rfl

theorem mapItems_id (document : Json) : document.mapItems id = document := by
  cases document with
  | arr items => simp [mapItems]
  | _ => rfl

variable {fields : List (String × Json)}

theorem without_ofPresent (h : (fields.map (·.1)).Nodup) (names : List String) :
    (ofPresent fields).without names = ofPresent (dropFields names fields) := by
  have hpresent := h.sublist ((List.filter_sublist (p := fun field => !field.2.isVoid)).map _)
  rw [ofPresent, ofPresent, ofFields, without, dropFields_ofList hpresent, dropFields, dropFields,
    List.filter_filter, List.filter_filter, ofFields]
  simp only [Bool.and_comm]

/-- A field can be changed before or after the empty fields are left out, if it stays as empty as it
was. -/
theorem mapField_ofPresent {f : Json → Json} (hf : ∀ value, (f value).isVoid = value.isVoid)
    (name : String) (fields : List (String × Json)) :
    (ofPresent fields).mapField name f =
      ofPresent (fields.map fun (key, value) => (key, if key = name then f value else value)) := by
  have hvoid : ∀ field : String × Json,
      (if field.1 = name then f field.2 else field.2).isVoid = field.2.isVoid := by
    intro field
    split
    · exact hf field.2
    · rfl
  rw [ofPresent, ofFields, mapField, Fields.map_ofList fun key value =>
    if key = name then f value else value, ofPresent, ofFields, List.filter_map]
  simp only [Function.comp_def, hvoid]

theorem isVoid_mapItems (f : Json → Json) (value : Json) :
    (value.mapItems f).isVoid = value.isVoid := by
  cases value with
  | arr items => cases items <;> rfl
  | _ => rfl

end Json

namespace ExportVersion

/-- The document in a version, from the one in the default version. -/
def erase : ExportVersion → Json → Json
  | default, document => document
  | v1_15, document =>
    (document.without ["path_mappings", "response_templates"]).mapField "plans" <|
      .mapItems <| .without ["tags", "excluded_groups", "selection_rule", "comment_required"]

theorem erase_eq (version : ExportVersion) (document : Json) :
    version.erase document =
      (document.without version.unknownApiFields).mapField "plans"
        (.mapItems (.without version.unknownPlanFields)) := by
  cases version with
  | v1_15 => rfl
  | default =>
    have hwithout : Json.without [] = id := funext Json.without_nil
    have hplan : Json.mapItems (.without []) = id := by
      rw [hwithout]
      exact funext Json.mapItems_id
    rw [erase, unknownApiFields, unknownPlanFields, hplan, Json.without_nil, Json.mapField_id]

theorem without_erase (version : ExportVersion) (names : List String) (document : Json) :
    (version.erase document).without names = version.erase (document.without names) := by
  have hswap : (document.without version.unknownApiFields).without names =
      (document.without names).without version.unknownApiFields := by
    rw [Json.without_without, Json.without_without]
    exact Json.without_congr (fun name => by simp [or_comm]) document
  rw [erase_eq, erase_eq, Json.mapField_without, hswap]

end ExportVersion

namespace ExportSection

theorem name_injective : Function.Injective name := by
  intro part part' h
  cases part <;> cases part' <;> first | rfl | exact absurd h (by decide)

/-- A version lists the plans as its own, and all other sections as every version does. -/
theorem content_eq_erased (store : Store) (version : ExportVersion) (api : Api)
    (part : ExportSection) :
    part.content store version api =
      if part.name = "plans" then
        (part.content store .default api).mapItems (.without version.unknownPlanFields)
      else part.content store .default api := by
  cases part with
  | groups => rfl
  | members => rfl
  | pages => rfl
  | plans =>
    have hkeep : ∀ fields, dropFields [] fields = fields := fun fields =>
      dropFields_eq_self fun _ _ => List.not_mem_nil
    have hplan : ∀ plan : Plan,
        (Json.ofPresent plan.exportFields).without version.unknownPlanFields =
          Json.ofPresent (dropFields version.unknownPlanFields plan.exportFields) := fun plan =>
      Json.without_ofPresent (by simp [Plan.exportFields]) _
    have hdefault : ExportVersion.default.unknownPlanFields = [] := rfl
    rw [name, if_pos rfl, content, content, Json.mapItems, List.map_map]
    simp only [Function.comp_def, hdefault, hkeep, hplan]

end ExportSection

theorem nodup_documentFields (store : Store) (api : Api) :
    ((store.documentFields [] api).map (·.1)).Nodup := by
  have hkeys : (store.documentFields [] api).map (·.1) =
      ["name", "version", "description", "visibility", "tags", "picture", "proxy", "paths",
        "services", "resources", "properties", "views", "labels", "path_mappings",
        "response_templates", "groups", "members", "pages", "plans"] := rfl
  rw [hkeys]
  decide

theorem ApiDetails.name_not_mem_fields (details : ApiDetails) (part : ExportSection) :
    part.name ∉ details.fields.map (·.1) := by
  have hkeys : details.fields.map (·.1) =
      ["name", "version", "description", "visibility", "tags", "picture", "proxy", "paths",
        "services", "resources", "properties", "views", "labels", "path_mappings",
        "response_templates"] := rfl
  rw [hkeys]
  cases part <;> decide

theorem dropFields_sections (excluded : List ExportSection) (f : ExportSection → Json) :
    dropFields (excluded.map ExportSection.name)
        (ExportSection.all.map fun part => (part.name, f part)) =
      (ExportSection.all.filter fun part => !excluded.contains part).map fun part =>
        (part.name, f part) := by
  rw [dropFields, List.filter_map]
  congr 1
  refine List.filter_congr fun part _ => ?_
  simp [ExportSection.name_injective.eq_iff]

/-- Every document of an API is an erasure of the whole one. -/
theorem exportDocument_eq_erase (store : Store) (version : ExportVersion)
    (excluded : List ExportSection) (api : Api) :
    exportDocument store version excluded api =
      version.erase ((exportDocument store .default [] api).without
        (excluded.map ExportSection.name)) := by
  have hnodup := nodup_documentFields store api
  have hdropped : ∀ names, ((dropFields names (store.documentFields [] api)).map (·.1)).Nodup :=
    fun names => hnodup.sublist (List.filter_sublist.map _)
  rw [ExportVersion.erase_eq, Store.exportDocument_default, Json.without_ofPresent hnodup,
    Json.without_ofPresent (hdropped _), Json.mapField_ofPresent (Json.isVoid_mapItems _),
    exportDocument]
  congr 1
  have hdetails : ∀ field ∈ api.details.fields, ∀ part : ExportSection, field.1 ≠ part.name :=
    fun field hfield part he =>
      api.details.name_not_mem_fields part (he ▸ List.mem_map_of_mem hfield)
  have hkept : dropFields (excluded.map ExportSection.name) api.details.fields =
      api.details.fields :=
    dropFields_eq_self fun field hfield hmem => by
      obtain ⟨part, -, he⟩ := List.mem_map.mp hmem
      exact hdetails field hfield part he.symm
  rw [Store.documentFields, dropFields_append, hkept, dropFields_sections, dropFields_append,
    List.map_append]
  congr 1
  · exact (map_field_eq_self fun field hfield =>
      hdetails field (List.mem_of_mem_filter hfield) .plans).symm
  · have hkeep : ∀ part : ExportSection, part.name ∉ version.unknownApiFields := fun part => by
      cases version <;> cases part <;> decide
    rw [dropFields_eq_self, List.map_map]
    · refine List.map_congr_left fun part _ => ?_
      simp only [Function.comp_apply, Store.sectionOf_eq_content List.not_mem_nil,
        ExportSection.content_eq_erased store version]
    · rintro field hfield
      obtain ⟨part, -, rfl⟩ := List.mem_map.mp hfield
      exact hkeep part

namespace ExportSection

/-- The sections that a text names between commas, each with or without white space around it and
in any case. -/
def namedIn (text : String) : List String :=
  let listed := (text.toList.splitOn ',').map fun part =>
    Text.toLower (Text.trim (String.ofList part))
  ["groups", "members", "pages", "plans"].filter listed.contains

theorem parse?_eq_some_iff {text : String} {part : ExportSection} :
    parse? text = some part ↔ Text.toLower (Text.trim text) = part.name := by
  constructor
  · intro h
    have hname := List.find?_some h
    exact (beq_iff_eq.mp hname).symm
  · intro h
    rw [parse?, h]
    cases part <;> rfl

theorem map_name_parseList (text : String) : (parseList text).map name = namedIn text := by
  have hnames : ["groups", "members", "pages", "plans"] = all.map name := rfl
  rw [namedIn, hnames, List.filter_map, parseList]
  congr 1
  refine List.filter_congr fun part _ => ?_
  rw [Bool.eq_iff_iff, Function.comp_apply, List.contains_iff_mem, List.contains_iff_mem]
  simp only [List.mem_filterMap, List.mem_map, parse?_eq_some_iff, exists_exists_and_eq_and]

theorem mem_namedIn_comma {text text' name : String} :
    name ∈ namedIn (text ++ "," ++ text') ↔ name ∈ namedIn text ++ namedIn text' := by
  have hchars : (text ++ "," ++ text').toList = text.toList ++ ',' :: text'.toList := by simp
  have hsplit : (text ++ "," ++ text').toList.splitOn ',' =
      text.toList.splitOn ',' ++ text'.toList.splitOn ',' := by
    rw [hchars, List.splitOn_eq_splitOnP, List.splitOn_eq_splitOnP, List.splitOn_eq_splitOnP]
    exact List.splitOnP_append_cons _ _ (beq_self_eq_true ',')
  simp only [namedIn, hsplit, List.map_append, List.mem_append, List.mem_filter,
    List.contains_iff_mem, and_or_left]

end ExportSection

/-- In any chain in which the default version and another one are registered, the export of an API
in the other version without the sections that a text names is the whole export in the default
version, less these sections and what the version does not know. Sections named after a comma are
left out as well, and names that add none change nothing. No export changes what is stored. -/
theorem export_eq_erased {registered : List ExportVersion} {version : ExportVersion}
    (hversion : version ∈ registered) (hdefault : .default ∈ registered) (text : String)
    (api : Api) (c : Catalog) :
    ∃ whole,
      (exportAs registered .default [] api).runOn c =
        (.ok whole, { c with metrics := c.metrics.add (.exports .default) 1 }) ∧
      (exportAs registered version (ExportSection.parseList text) api).runOn c =
        (.ok (version.erase (whole.without (ExportSection.namedIn text))),
          { c with metrics := c.metrics.add (.exports version) 1 }) ∧
      (∀ text',
        let further :=
          exportAs registered version (ExportSection.parseList (text ++ "," ++ text')) api
        (further.runOn c).1 =
            .ok ((version.erase (whole.without (ExportSection.namedIn text))).without
              (ExportSection.namedIn text')) ∧
          (ExportSection.namedIn text' ⊆ ExportSection.namedIn text →
            further.runOn c =
              (exportAs registered version (ExportSection.parseList text) api).runOn c)) ∧
      ∀ registered' version' excluded,
        Untouched c ((exportAs registered' version' excluded api).runOn c).2 ∧
          Untouched c ((exportPreferring registered' version' excluded api).runOn c).2 := by
  have hexport : ∀ text, (exportAs registered version (ExportSection.parseList text) api).runOn c =
      (.ok (version.erase ((exportDocument c.store .default [] api).without
          (ExportSection.namedIn text))),
        { c with metrics := c.metrics.add (.exports version) 1 }) := fun text => by
    rw [runOn_exportAs_of_mem hversion, exportDocument_eq_erase, ExportSection.map_name_parseList]
  have hcomma : ∀ text' document,
      Json.without (ExportSection.namedIn (text ++ "," ++ text')) document =
        (Json.without (ExportSection.namedIn text) document).without
          (ExportSection.namedIn text') := fun text' document => by
    rw [Json.without_without]
    exact Json.without_congr (fun _ => ExportSection.mem_namedIn_comma) document
  refine ⟨_, runOn_exportAs_of_mem hdefault c [] api, hexport text,
    fun text' => ⟨?_, fun hsub => ?_⟩, fun registered' version' excluded => ⟨?_, ?_⟩⟩
  · rw [hexport, hcomma, ExportVersion.without_erase]
  · have hsame : ∀ name, name ∈ ExportSection.namedIn (text ++ "," ++ text') ↔
        name ∈ ExportSection.namedIn text := fun name => by
      rw [ExportSection.mem_namedIn_comma, List.mem_append]
      exact or_iff_left_of_imp fun h => hsub h
    rw [hexport, hexport, Json.without_congr hsame]
  · exact Server.moves_exportNoted _ _ _ c
  · exact Server.moves_exportPreferring _ _ _ _ c

/-- A chain that registers a version twice exports a shop without its pages and its path mappings,
and its plan without tags. -/
theorem export_eq_erased_shop :
    let registered : List ExportVersion := [.v1_15, .default, .v1_15]
    let details : ApiDetails := { name := "Shop", version := "1", pathMappings := ["/a"] }
    let api : Api := { id := "api-1", details }
    let c : Catalog :=
      { store :=
          { Store.fresh with
            apis := [api]
            pages := [⟨"page-1", "api-1", "Home", .markdown, {}, none⟩]
            plans := [⟨"plan-1", "api-1", "Gold", .keyLess, .published, { tags := ["paid"] }⟩] } }
    let excluded := ExportSection.parseList " PAGES,,shop"
    ExportVersion.v1_15 ∈ registered ∧ ExportVersion.default ∈ registered ∧
      ((exportAs registered .v1_15 excluded api).runOn c).1.map Json.compact =
        .ok ("\x7b\"name\":\"Shop\",\"plans\":[\x7b\"name\":\"Gold\",\"order\":0," ++
          "\"security\":\"KEY_LESS\",\"status\":\"PUBLISHED\",\"validation\":\"AUTO\"\x7d]," ++
          "\"version\":\"1\",\"visibility\":\"PRIVATE\"\x7d") ∧
      ∃ whole,
        ((exportAs registered .default [] api).runOn c).1 = .ok whole ∧
          ((exportAs registered .v1_15 excluded api).runOn c).1 =
            .ok (ExportVersion.v1_15.erase (whole.without ["pages"])) := by
  intro registered details api c excluded
  have hversion : ExportVersion.v1_15 ∈ registered := by decide
  have hdefault : ExportVersion.default ∈ registered := by decide
  have hnamed : ExportSection.namedIn " PAGES,,shop" = ["pages"] := by decide +kernel
  obtain ⟨whole, hwhole, hexport, -, -⟩ := export_eq_erased hversion hdefault " PAGES,,shop" api c
  rw [hnamed] at hexport
  exact ⟨hversion, hdefault, by decide +kernel, whole, congrArg Prod.fst hwhole,
    congrArg Prod.fst hexport⟩

end ApiCatalog
