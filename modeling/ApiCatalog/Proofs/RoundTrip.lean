import ApiCatalog.Export
import ApiCatalog.Proofs.Restore

/-! # Importing what was exported

A document that is exported in the default version and imported into the same API changes nothing in
a catalog in ordinary use, but for empty free values and the last contributors of pages.
-/

namespace ApiCatalog

/-- Whether the entry of a member is resolved to the member. -/
def ScopedMember.ResolvesIn (m : ScopedMember) (identities : Identities) : Prop :=
  Text.isBlankText m.label = false ∧
    (identities.resolve? m.toEntry.reference m.toEntry.source).map (·.id) = some m.user.id

instance (m : ScopedMember) (identities : Identities) : Decidable (m.ResolvesIn identities) :=
  inferInstanceAs (Decidable (_ ∧ _))

theorem ScopedMember.ResolvesIn.resolve_toEntry {m : ScopedMember} {identities : Identities}
    (h : m.ResolvesIn identities) :
    ∃ planned : PlannedMember, m.toEntry.resolve identities = .ok planned ∧
      planned.user.id = m.user.id ∧ planned.role = ⟨.api, Text.toUpper (Text.trim m.role)⟩ := by
  obtain ⟨user, huser, hid⟩ := Option.map_eq_some_iff.mp h.2
  exact ⟨_, by rw [MemberEntry.resolve, huser], hid, rfl⟩

theorem Store.Regular.planMembers_definitionOf {c : Catalog} (h : c.store.Regular)
    {excluded : List ExportSection} {api : Api}
    (hresolve : ∀ m ∈ c.store.listedMembers excluded api, m.ResolvesIn c.identities) :
    ∃ planned, planMembers c (c.store.definitionOf excluded api).members = .ok planned ∧
      ∀ p ∈ planned, c.store.roleOf? (.api api.id) .api p.user.id = some p.role.name := by
  obtain ⟨planned, hplanned⟩ : ∃ planned, List.Forall₂
      (fun entry p => MemberEntry.resolve c.identities entry = .ok p)
      (c.store.definitionOf excluded api).members planned := by
    refine exists_forall₂ fun entry hentry => ?_
    obtain ⟨m, hm, rfl⟩ := List.mem_map.mp hentry
    obtain ⟨p, hp, -⟩ := (hresolve m hm).resolve_toEntry
    exact ⟨p, hp⟩
  have hheld : ∀ p ∈ planned, ∃ m ∈ c.store.members (.api api.id) .api,
      p.user.id = m.user.id ∧ p.role = ⟨.api, m.role⟩ := by
    intro p hp
    obtain ⟨entry, hentry, he⟩ := exists_of_forall₂ hplanned hp
    obtain ⟨m, hm, rfl⟩ := List.mem_map.mp hentry
    obtain ⟨p', hp', hid, hrole⟩ := (hresolve m hm).resolve_toEntry
    obtain rfl : p' = p := Except.ok.inj (hp'.symm.trans he)
    have hmem := mem_listedMembers hm
    rw [(h.role_of_mem_members hmem).2] at hrole
    exact ⟨m, hmem, hid, hrole⟩
  refine ⟨planned, planMembers_eq_ok_iff.mpr ⟨hplanned, fun p hp => ?_⟩, fun p hp => ?_⟩
  · obtain ⟨m, hm, -, hrole⟩ := hheld p hp
    obtain ⟨membership, hmem, -, hholds, -⟩ := mem_members.mp hm
    rw [hrole]
    exact h.holds membership hmem .api m.role hholds
  · obtain ⟨m, hm, hid, hrole⟩ := hheld p hp
    obtain ⟨membership, hmem, href, hholds, he⟩ := mem_members.mp hm
    rw [hrole, hid]
    exact (roleOf?_eq_some_iff h.memberKeys_nodup).mpr
      ⟨membership, hmem, href, congrArg (·.user.id) he.symm, hholds⟩

section Page

variable (excluded : List ExportSection) (apiId : String) (actingUser : Option String) (page : Page)

theorem Page.restored_cases :
    page.restored excluded apiId actingUser = page ∨
      page.restored excluded apiId actingUser =
        { page with body := page.body.withoutVoid, lastContributor := actingUser } := by
  unfold restored
  split
  · exact Or.inr rfl
  · exact Or.inl rfl

@[simp] theorem Page.id_restored : (page.restored excluded apiId actingUser).id = page.id := by
  rcases page.restored_cases excluded apiId actingUser with h | h <;> rw [h]

@[simp] theorem Page.apiId_restored :
    (page.restored excluded apiId actingUser).apiId = page.apiId := by
  rcases page.restored_cases excluded apiId actingUser with h | h <;> rw [h]

@[simp] theorem Page.name_restored :
    (page.restored excluded apiId actingUser).name = page.name := by
  rcases page.restored_cases excluded apiId actingUser with h | h <;> rw [h]

@[simp] theorem Page.order_restored :
    (page.restored excluded apiId actingUser).body.order = page.body.order := by
  rcases page.restored_cases excluded apiId actingUser with h | h
  · rw [h]
  · rw [h]
    rfl

theorem Page.ofPresent_restored :
    Json.ofPresent (page.restored excluded apiId actingUser).exportFields =
      Json.ofPresent page.exportFields := by
  rcases page.restored_cases excluded apiId actingUser with h | h <;> rw [h]
  exact page.ofPresent_exportFields actingUser

end Page

theorem Store.page?_restored (store : Store) (excluded : List ExportSection) (apiId : String)
    (actingUser : Option String) (id : String) :
    (store.restored excluded apiId actingUser).page? id =
      (store.page? id).map (Page.restored excluded apiId actingUser) := by
  have hid : ((·.id == id) ∘ Page.restored excluded apiId actingUser) = (·.id == id) := by
    funext page
    rw [Function.comp_apply, Page.id_restored]
  rw [page?, restored, List.find?_map, hid, page?]

theorem Store.fetchedPages_restored (store : Store) (excluded : List ExportSection)
    (apiId : String) (actingUser : Option String) :
    (store.restored excluded apiId actingUser).fetchedPages apiId =
      (store.fetchedPages apiId).map (Page.restored excluded apiId actingUser) := by
  have hpages : (store.restored excluded apiId actingUser).pagesOf apiId =
      (store.pagesOf apiId).map (Page.restored excluded apiId actingUser) := by
    rw [pagesOf, restored, List.filter_map]
    congr 1
    exact List.filter_congr fun page _ => by rw [Function.comp_apply, Page.apiId_restored]
  rw [fetchedPages, hpages, List.filterMap_map, fetchedPages, List.map_filterMap]
  refine List.filterMap_congr fun page _ => ?_
  rw [Function.comp_apply, Page.id_restored, store.page?_restored]

theorem Store.listing_fetchedPages_restored (store : Store) (excluded : List ExportSection)
    (apiId : String) (actingUser : Option String) :
    (((store.restored excluded apiId actingUser).fetchedPages apiId).mergeSort
        Page.exportOrder).map (fun page => Json.ofPresent page.exportFields) =
      ((store.fetchedPages apiId).mergeSort Page.exportOrder).map
        fun page => Json.ofPresent page.exportFields := by
  have hsort : ((store.fetchedPages apiId).map
      (Page.restored excluded apiId actingUser)).mergeSort Page.exportOrder =
        ((store.fetchedPages apiId).mergeSort Page.exportOrder).map
          (Page.restored excluded apiId actingUser) :=
    (List.map_mergeSort fun page _ page' _ => by simp [Page.exportOrder]).symm
  rw [store.fetchedPages_restored, hsort, List.map_map]
  exact List.map_congr_left fun page _ => page.ofPresent_restored excluded apiId actingUser

theorem Store.exportDocument_restored (store : Store) (excluded : List ExportSection) (api : Api)
    (actingUser : Option String) (version : ExportVersion) (excluded' : List ExportSection) :
    exportDocument (store.restored excluded api.id actingUser) version excluded'
        api.withoutVoid =
      exportDocument store version excluded' api := by
  have hcontent : ∀ part : ExportSection,
      part.content (store.restored excluded api.id actingUser) version api.withoutVoid =
        part.content store version api := by
    intro part
    cases part with
    | groups => rfl
    | members => rfl
    | plans => rfl
    | pages =>
      exact congrArg Json.arr (store.listing_fetchedPages_restored excluded api.id actingUser)
  have hdetails : api.withoutVoid.details = api.details.withoutVoid := rfl
  simp only [exportDocument, hcontent, hdetails]
  refine Json.ofPresent_congr ?_
  rw [List.map_append, List.map_append, map_nullIfVoid_dropFields, map_nullIfVoid_dropFields,
    ApiDetails.map_nullIfVoid_withoutVoid]

theorem ExportVersion.name_injective : Function.Injective ExportVersion.name := by
  intro version version' h
  have hread := ofName?_name version
  rw [h, ofName?_name] at hread
  exact (Option.some.inj hread).symm

theorem selectVersion_noteExportVersion {registered : List ExportVersion} {version : ExportVersion}
    (h : version ∈ registered) (api : Api) :
    selectVersion registered (api.noteExportVersion version.name) = .ok version := by
  have hnoted : (api.noteExportVersion version.name).exportVersion? = some version.name := by
    rw [Api.exportVersion?, Api.noteExportVersion, Fields.lookup_insert, if_pos rfl]
  obtain ⟨found, hfound⟩ := Option.isSome_iff_exists.mp
    (List.find?_isSome (p := fun other => some version.name == some other.name) |>.mpr
      ⟨version, h, beq_self_eq_true _⟩)
  have hname : version.name = found.name := by simpa using List.find?_some hfound
  rw [selectVersion, hnoted, hfound, ExportVersion.name_injective hname]

theorem runOn_exportAs_of_mem {registered : List ExportVersion} {version : ExportVersion}
    (h : version ∈ registered) (c : Catalog) (excluded : List ExportSection) (api : Api) :
    (exportAs registered version excluded api).runOn c =
      (.ok (exportDocument c.store version excluded api),
        { c with metrics := c.metrics.add (.exports version) 1 }) := by
  rw [exportAs, exportNoted, selectVersion_noteExportVersion h]
  rfl

theorem runOn_exportAs (c : Catalog) (version : ExportVersion) (excluded : List ExportSection)
    (api : Api) :
    ∃ metrics, (exportAs ExportVersion.registered version excluded api).runOn c =
      (.ok (exportDocument c.store version excluded api), { c with metrics }) :=
  ⟨_, runOn_exportAs_of_mem (by cases version <;> decide) c excluded api⟩

theorem Store.api?_restored {store : Store} {excluded : List ExportSection} {apiId : String}
    {actingUser : Option String} {api : Api} (h : store.api? apiId = some api) :
    (store.restored excluded apiId actingUser).api? apiId = some api.withoutVoid := by
  have hid := (mem_of_api?_eq_some h).2
  have hsame :
      ((·.id == apiId) ∘ fun api : Api => if api.id = apiId then api.withoutVoid else api) =
        (·.id == apiId) := by
    funext stored
    rw [Function.comp_apply]
    split <;> rfl
  rw [api?, restored, List.find?_map, hsame, ← api?, h, Option.map_some, if_pos hid]

open CatalogM

/-- In a catalog in ordinary use, an API that is exported in the default version can be imported
from its document if the document lists no members or all of them are resolved to themselves. This
creates nothing, gives no roles, and leaves everything as it was but for empty free values and the
last contributors of the pages that the document lists. Every further export gives what it would
have given before. -/
theorem import_exported (identities : Identities) (visits : List Visit) (apiId : String) (api : Api)
    (excluded : List ExportSection) (actingUser : Option String) :
    let before := (Catalog.start identities).after (visits.map Visit.event)
    before.store.api? apiId = some api →
    (.members ∈ excluded ∨
      ∀ m ∈ before.store.members (.api apiId) .api, m.ResolvesIn before.identities) →
    ∃ document exported after,
      (exportAs ExportVersion.registered .default excluded api).runOn before =
        (.ok document, exported) ∧
      exported.store = before.store ∧ exported.identities = before.identities ∧
      (importParsed (some apiId) (Definition.ofJson document) actingUser).runOn exported =
        (.ok api.withoutVoid, after) ∧
      after.store = before.store.restored excluded apiId actingUser ∧
      after.identities = before.identities ∧
      after.store.api? apiId = some api.withoutVoid ∧
      ∀ version excluded',
        ((exportAs ExportVersion.registered version excluded' api.withoutVoid).runOn after).1 =
          ((exportAs ExportVersion.registered version excluded' api).runOn before).1 := by
  intro before hapi hmembers
  have hregular : before.store.Regular := Catalog.regular_after identities visits
  generalize before = c at *
  obtain ⟨hmem, rfl⟩ := Store.mem_of_api?_eq_some hapi
  have hresolve : ∀ m ∈ c.store.listedMembers excluded api, m.ResolvesIn c.identities := by
    intro m hm
    rcases hmembers with hout | hall
    · rw [Store.listedMembers, if_pos hout] at hm
      exact absurd hm List.not_mem_nil
    · exact hall m (Store.mem_listedMembers hm)
  have hdescribable := hregular.describable hmem fun m hm => (hresolve m hm).1
  obtain ⟨planned, hplanned, hheld⟩ := hregular.planMembers_definitionOf hresolve
  obtain ⟨metrics, hexport⟩ := runOn_exportAs c .default excluded api
  have hready : Importable { c with metrics } (some api.id)
      (Definition.ofJson (exportDocument c.store .default excluded api)) (some api)
      (c.store.definitionOf excluded api) planned :=
    ⟨congrArg some hapi, Definition.ofJson_exportDocument hdescribable, hplanned⟩
  have howner : ({ c with metrics } : Catalog).store.hasRole ⟨.api, Role.primaryOwner⟩ = true :=
    hregular.seeded_owner
  obtain ⟨metrics', himport⟩ := runOn_importParsed_of_importable howner hready actingUser
  have hgroups : c.store.withGroups (c.store.definitionOf excluded api).groups = c.store :=
    hregular.withGroups_listedGroups excluded api
  rw [hgroups, hregular.savedApi_definitionOf hmem, hregular.imported_definitionOf hmem actingUser
    hheld] at himport
  refine ⟨_, _, _, hexport, rfl, rfl, himport, rfl, rfl, Store.api?_restored hapi, ?_⟩
  intro version excluded'
  obtain ⟨_, hagain⟩ := runOn_exportAs { c with
    store := c.store.restored excluded api.id actingUser, metrics := metrics' } version excluded'
    api.withoutVoid
  obtain ⟨_, hbefore⟩ := runOn_exportAs c version excluded' api
  rw [hagain, hbefore, c.store.exportDocument_restored excluded api actingUser version excluded']

/-- An API whose owner is known and whose page has an empty source is brought back whole. -/
theorem import_exported_shop :
    let ada : User := { id := "ada", reference := "ada", source := "memory", displayName := "Ada" }
    let payload := Text.encodeUtf8
      ("\x7b\"name\":\"Shop\",\"version\":\"1\"," ++
        "\"pages\":[\x7b\"name\":\"Home\",\"source\":[]\x7d]\x7d")
    let before := (Catalog.start ⟨[.accounts ⟨"memory", [("ada", ada)]⟩], []⟩).after
      ([Visit.imported none payload (some "ada")].map Visit.event)
    ∃ api document exported after,
      before.store.api? "api~1" = some api ∧
      (∀ m ∈ before.store.members (.api "api~1") .api, m.ResolvesIn before.identities) ∧
      (exportAs ExportVersion.registered .default [] api).runOn before = (.ok document, exported) ∧
      (importParsed (some "api~1") (Definition.ofJson document) none).runOn exported =
        (.ok api.withoutVoid, after) ∧
      after.store = before.store.restored [] "api~1" none := by
  intro ada payload before
  have hsome : (before.store.api? "api~1").isSome = true := by decide +kernel
  have hmembers : ∀ m ∈ before.store.members (.api "api~1") .api,
      m.ResolvesIn before.identities := by
    decide +kernel
  obtain ⟨api, hapi⟩ := Option.isSome_iff_exists.mp hsome
  obtain ⟨document, exported, after, hexport, -, -, himport, hstore, -⟩ :=
    import_exported _ [Visit.imported none payload (some "ada")] "api~1" api [] none hapi
      (Or.inr hmembers)
  exact ⟨api, document, exported, after, hapi, hmembers, hexport, himport, hstore⟩

end ApiCatalog
