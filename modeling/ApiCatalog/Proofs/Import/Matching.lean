import ApiCatalog.Proofs.Accounts

/-! # How an import meets the pages and plans that are there

Of the pages of an API, and of its open plans, the first one with a key of the definition is revised
by the first entry with that key. The remaining keys get new records at the end, and all other
records stay as they are.
-/

namespace ApiCatalog

theorem find?_append_cons_eq_some_iff {α : Type} {before after : List α} {p : α → Bool} {x : α}
    (hx : x ∉ before) :
    (before ++ x :: after).find? p = some x ↔ p x = true ∧ before.any p = false := by
  constructor
  · intro h
    refine ⟨List.find?_some h, ?_⟩
    by_contra hany
    obtain ⟨y, hy, hpy⟩ := List.any_eq_true.mp (Bool.eq_true_of_not_eq_false hany)
    obtain ⟨z, hz⟩ : ∃ z, before.find? p = some z :=
      Option.isSome_iff_exists.mp (List.find?_isSome.mpr ⟨y, hy, hpy⟩)
    rw [List.find?_append, hz, Option.some_or, Option.some.injEq] at h
    exact hx (h ▸ List.mem_of_find?_eq_some hz)
  · rintro ⟨hpx, hnone⟩
    have hbefore : before.find? p = none :=
      List.find?_eq_none.mpr fun y hy hc => List.any_eq_false.mp hnone y hy hc
    rw [List.find?_append, hbefore, Option.none_or, List.find?_cons_of_pos hpx]

namespace Upsert

variable {α ε κ : Type} (u : Upsert α ε κ)

/-- A record as the entries leave it that comes after others. The first entry that is about it
revises it, unless that is about an earlier record as well. -/
def matched (es : List ε) (earlier : List α) (x : α) : α :=
  match es.find? (u.isAbout · x) with
  | some e => if earlier.any (u.isAbout e) then x else u.revise e x
  | none => x

theorem revised_eq_matched {before after : List α} {es : List ε} {x : α}
    (hid : (u.ids (before ++ x :: after)).Nodup) (hkey : (es.map u.key).Nodup) :
    u.revised (before ++ x :: after) es x = u.matched es before x := by
  have hmem : x ∈ before ++ x :: after := List.mem_append_right _ List.mem_cons_self
  have hx : x ∉ before := fun hc =>
    (List.nodup_append.mp (List.Nodup.of_map u.id hid)).2.2 x hc x List.mem_cons_self rfl
  unfold matched
  split
  · rename_i e he
    have hentry := List.mem_of_find?_eq_some he
    have habout : u.isAbout e x = true := by simpa using List.find?_some he
    cases hearlier : before.any (u.isAbout e) with
    | false =>
      have hfound : (before ++ x :: after).find? (u.isAbout e) = some x :=
        (find?_append_cons_eq_some_iff hx).mpr ⟨habout, hearlier⟩
      exact u.revised_of_find? hid hkey hentry hfound
    | true =>
      cases hreviser : u.entryOf? (before ++ x :: after) es x with
      | none =>
        rw [revised, hreviser]
        rfl
      | some e' =>
        -- an entry that finds the record has the same key, hence is the same
        obtain ⟨hentry', hfound⟩ := u.entryOf?_eq_some hid hmem hreviser
        obtain ⟨habout', hfree⟩ := (find?_append_cons_eq_some_iff hx).mp hfound
        have hsame : e' = e :=
          List.inj_on_of_nodup_map hkey hentry' hentry (u.key_eq habout' habout)
        rw [hsame, hearlier] at hfree
        cases hfree
  · rename_i hnone
    rcases u.revised_cases hid hmem es with hself | ⟨e, he, habout, -⟩
    · exact hself
    · exact absurd habout (List.find?_eq_none.mp hnone e he)

theorem forall₂_created (used : List String) (es : List ε) :
    List.Forall₂ (fun e x => x = u.create (u.id x) e) es (u.created used es) := by
  induction es generalizing used with
  | nil => exact .nil
  | cons e es ih => exact .cons (by rw [u.id_create]) (ih _)

theorem any_eq_not_isNew (xs : List α) (e : ε) : xs.any (u.isAbout e) = !u.isNew xs e := by
  rw [isNew, Option.not_isNone, ← List.isSome_find?]

/-- The outcome of a run by the first entries of the keys, place by place. What a record comes to is
told by all entries as well. -/
theorem exists_run_firsts_eq [DecidableEq κ] {xs : List α} (hid : (u.ids xs).Nodup)
    (habout : ∀ {e e'}, u.key e = u.key e' → u.isAbout e = u.isAbout e') (es : List ε) :
    ∃ news,
      u.run xs (firsts u.key es) = xs.mapIdx (fun i x => u.matched es (xs.take i) x) ++ news ∧
      List.Forall₂ (fun e x => x = u.create (u.id x) e)
        ((firsts u.key es).filter fun e => !xs.any (u.isAbout e)) news := by
  have hkey := nodup_map_firsts u.key es
  have hplaces : xs.map (u.revised xs (firsts u.key es)) =
      xs.mapIdx fun i x => u.matched es (xs.take i) x := by
    refine List.ext_getElem (by simp) fun i hi _ => ?_
    have hlt : i < xs.length := by simpa using hi
    have hsplit : xs = xs.take i ++ xs[i] :: xs.drop (i + 1) := by simp
    have hrevised := u.revised_eq_matched (hsplit ▸ hid) hkey
    rw [← hsplit, matched, find?_firsts fun e e' he => by rw [habout he]] at hrevised
    rw [List.getElem_map, List.getElem_mapIdx, hrevised, matched]
  have hnew : (firsts u.key es).filter (u.isNew xs) =
      (firsts u.key es).filter fun e => !xs.any (u.isAbout e) :=
    List.filter_congr fun e _ => by rw [any_eq_not_isNew, Bool.not_not]
  rw [u.run_eq hid hkey, hplaces, hnew]
  exact ⟨_, rfl, u.forall₂_created _ _⟩

end Upsert

theorem matched_page (apiId : String) (contributor : Option String) (entries : List PageEntry)
    (earlier : List Page) (page : Page) :
    (pageUpsert apiId contributor).matched entries earlier page =
      match entries.find? fun entry => page.apiId == apiId && page.name == entry.name with
      | some entry =>
        if earlier.any fun page => page.apiId == apiId && page.name == entry.name then page
        else { page with name := entry.name, body := entry.body, lastContributor := contributor }
      | none => page := by
  have hlookup : (entries.find? fun entry => page.apiId == apiId && page.name == entry.name) =
      entries.find? ((pageUpsert apiId contributor).isAbout · page) := rfl
  rw [Upsert.matched, hlookup]
  cases entries.find? ((pageUpsert apiId contributor).isAbout · page) <;> rfl

/-- A plan as the entries of a definition leave it, by the plans before it. Closed plans do not
count. -/
theorem matched_plan (apiId : String) (entries : List PlanEntry) (earlier : List Plan)
    (plan : Plan) :
    (planUpsert apiId).matched entries earlier plan =
      match entries.find? fun entry =>
        plan.apiId == apiId && (plan.isOpen && plan.key == entry.key) with
      | some entry =>
        if earlier.any fun plan => plan.apiId == apiId && (plan.isOpen && plan.key == entry.key)
        then plan
        else { plan with name := entry.name, terms := entry.terms }
      | none => plan := by
  have hlookup : (entries.find? fun entry =>
        plan.apiId == apiId && (plan.isOpen && plan.key == entry.key)) =
      entries.find? ((planUpsert apiId).isAbout · plan) := rfl
  rw [Upsert.matched, hlookup]
  cases entries.find? ((planUpsert apiId).isAbout · plan) <;> rfl

/-- An import updates as many pages and plans as there are keys that are carried, and creates as
many as there are other ones. -/
theorem Store.writes_imported (store : Store) (existing : Option Api) (definition : Definition)
    (actingUser : Option String) (members : List PlannedMember) :
    let pages := pageUpsert (store.targetId existing definition) actingUser
    let plans := planUpsert (store.targetId existing definition)
    let names := firsts PageEntry.name definition.pages
    let keys := firsts PlanEntry.key definition.plans
    let writes := (store.imported existing definition actingUser members).writes
    (writes.pageUpdates = store.writes.pageUpdates +
        (names.filter fun entry => store.pages.any (pages.isAbout entry)).length ∧
      writes.pageCreates = store.writes.pageCreates +
        (names.filter fun entry => !store.pages.any (pages.isAbout entry)).length) ∧
    (writes.planUpdates = store.writes.planUpdates +
        (keys.filter fun entry => store.plans.any (plans.isAbout entry)).length ∧
      writes.planCreates = store.writes.planCreates +
        (keys.filter fun entry => !store.plans.any (plans.isAbout entry)).length) := by
  intro pages plans names keys writes
  have hbefore := store.get_beforeMembers existing definition actingUser
  have hpageUpdates := hbefore .pageUpdate (by decide)
  have hpageCreates := hbefore .pageCreate (by decide)
  have hplanUpdates := hbefore .planUpdate (by decide)
  have hplanCreates := hbefore .planCreate (by decide)
  have hpages : (store.beforeMembers existing definition actingUser).pages = store.pages :=
    pages_beforeMembers
  have hplans : (store.beforeMembers existing definition actingUser).plans = store.plans :=
    plans_beforeMembers
  simp only [WriteCounts.get] at hpageUpdates hpageCreates hplanUpdates hplanCreates
  simp only [← List.countP_eq_length_filter, Upsert.any_eq_not_isNew, Bool.not_not]
  rw [← hpageUpdates, ← hpageCreates, ← hplanUpdates, ← hplanCreates, ← hpages, ← hplans]
  exact ⟨⟨rfl, rfl⟩, ⟨rfl, rfl⟩⟩

section Upserted

variable {c c' : Catalog} {apiId : Option String} {definition : Definition}
  {actingUser : Option String} {api : Api}

/-- A successful import leaves all pages as they were but for the first page of the API with each
name that the definition asks for, which takes over the first entry of that name. A page for each of
the other names is added at the end, in the order of the document. The updates and the new pages are
counted one by one. -/
theorem import_upserts_pages (hid : (c.store.pages.map (·.id)).Nodup)
    (hrun : (importParsed apiId (.ok definition) actingUser).runOn c = (.ok api, c')) :
    let carries (page : Page) (name : String) : Bool := page.apiId == api.id && page.name == name
    let asked := firsts PageEntry.name definition.pages
    let found := asked.filter fun entry => c.store.pages.any (carries · entry.name)
    let missing := asked.filter fun entry => !c.store.pages.any (carries · entry.name)
    api.id = apiId.getD c.store.freshApiId ∧
    (c'.store.pages.map (·.id)).Nodup ∧
    (∃ news : List Page,
      c'.store.pages = c.store.pages.mapIdx (fun i page =>
        match definition.pages.find? (carries page ·.name) with
        | some entry =>
          if (c.store.pages.take i).any (carries · entry.name) then page
          else { page with name := entry.name, body := entry.body, lastContributor := actingUser }
        | none => page) ++ news ∧
      List.Forall₂ (fun entry page => page =
        { page with
          apiId := api.id, name := entry.name, type := entry.type, body := entry.body
          lastContributor := actingUser }) missing news) ∧
    c'.store.writes.pageUpdates = c.store.writes.pageUpdates + found.length ∧
    c'.store.writes.pageCreates = c.store.writes.pageCreates + missing.length := by
  obtain ⟨existing, definition, members, hready, rfl, hstore⟩ := eq_imported_of_runOn hrun
  obtain rfl := Except.ok.inj hready.parsed_eq
  intro carries asked found missing
  let u := pageUpsert (c.store.targetId existing definition) actingUser
  have hids : (u.ids c.store.pages).Nodup := hid
  have habout : ∀ {entry entry' : PageEntry}, entry.name = entry'.name →
      u.isAbout entry = u.isAbout entry' := fun he => by
    funext page
    exact congrArg (carries page) he
  have hpages : c'.store.pages = u.run c.store.pages asked := by
    rw [hstore]
    exact Store.pages_imported
  obtain ⟨news, hrunEq, hnews⟩ := u.exists_run_firsts_eq hids habout definition.pages
  simp only [u, matched_page] at hrunEq
  refine ⟨hready.targetId_eq, ?_, ⟨news, hpages.trans hrunEq, hnews⟩, ?_⟩
  · rw [hpages]
    exact Upsert.nodup_ids_run hids (nodup_map_firsts PageEntry.name definition.pages)
  · rw [hstore]
    exact (c.store.writes_imported existing definition actingUser members).1

/-- Of three pages called Home the one of another API and the second one stay as they are. -/
theorem import_upserts_pages_home :
    let home (id apiId : String) : Page := ⟨id, apiId, "Home", .markdown, {}, none⟩
    let asked (name text : String) : PageEntry := { name, body := { content := some text } }
    let details : ApiDetails := { name := "Shop", version := "1" }
    let pages := [home "1" "bank", home "2" "shop", home "3" "shop"]
    let c : Catalog := { store := { Store.fresh with apis := [{ id := "shop", details }], pages } }
    let definition : Definition :=
      { details, pages := [asked "Home" "new", asked "Help" "other", asked "Home" "late"] }
    ∃ api c',
      (importParsed (some "shop") (.ok definition) (some "ann")).runOn c = (.ok api, c') ∧
      c'.store.pages.map (fun page => (page.name, page.body.content, page.lastContributor)) =
        [("Home", none, none), ("Home", some "new", some "ann"), ("Home", none, none),
          ("Help", some "other", some "ann")] := by
  intro home asked details pages c definition
  obtain ⟨api, c', hrun⟩ : ∃ api c',
      (importParsed (some "shop") (.ok definition) (some "ann")).runOn c = (.ok api, c') :=
    ⟨_, _, rfl⟩
  obtain ⟨hid, -, ⟨news, hpages, hnews⟩, -⟩ := import_upserts_pages (by decide) hrun
  have hshop : api.id = "shop" := hid
  simp only [hshop] at hpages hnews
  change List.Forall₂ _ [asked "Help" "other"] news at hnews
  cases hnews with
  | cons hnew hrest =>
    cases hrest
    refine ⟨api, c', hrun, ?_⟩
    rw [hpages, hnew]
    rfl

/-- A successful import leaves all plans as they were but for the first open plan of the API with
each key that the definition asks for, which takes over the name and the terms of the first entry of
that key and keeps its status. A plan for each of the other keys is added at the end, in the order
of the document and with the status asked for. The updates and the new plans are counted one by
one. -/
theorem import_upserts_plans (hid : (c.store.plans.map (·.id)).Nodup)
    (hrun : (importParsed apiId (.ok definition) actingUser).runOn c = (.ok api, c')) :
    let carries (plan : Plan) (key : PlanKey) : Bool :=
      plan.apiId == api.id && (plan.isOpen && plan.key == key)
    let asked := firsts PlanEntry.key definition.plans
    let found := asked.filter fun entry => c.store.plans.any (carries · entry.key)
    let missing := asked.filter fun entry => !c.store.plans.any (carries · entry.key)
    api.id = apiId.getD c.store.freshApiId ∧
    (c'.store.plans.map (·.id)).Nodup ∧
    (∃ news : List Plan,
      c'.store.plans = c.store.plans.mapIdx (fun i plan =>
        match definition.plans.find? (carries plan ·.key) with
        | some entry =>
          if (c.store.plans.take i).any (carries · entry.key) then plan
          else { plan with name := entry.name, terms := entry.terms }
        | none => plan) ++ news ∧
      List.Forall₂ (fun entry plan => plan =
        { plan with
          apiId := api.id, name := entry.name, security := entry.security, status := entry.status
          terms := entry.terms }) missing news) ∧
    c'.store.writes.planUpdates = c.store.writes.planUpdates + found.length ∧
    c'.store.writes.planCreates = c.store.writes.planCreates + missing.length := by
  obtain ⟨existing, definition, members, hready, rfl, hstore⟩ := eq_imported_of_runOn hrun
  obtain rfl := Except.ok.inj hready.parsed_eq
  intro carries asked found missing
  let u := planUpsert (c.store.targetId existing definition)
  have hids : (u.ids c.store.plans).Nodup := hid
  have habout : ∀ {entry entry' : PlanEntry}, entry.key = entry'.key →
      u.isAbout entry = u.isAbout entry' := fun he => by
    funext plan
    exact congrArg (carries plan) he
  have hplans : c'.store.plans = u.run c.store.plans asked := by
    rw [hstore]
    exact Store.plans_imported
  obtain ⟨news, hrunEq, hnews⟩ := u.exists_run_firsts_eq hids habout definition.plans
  simp only [u, matched_plan] at hrunEq
  refine ⟨hready.targetId_eq, ?_, ⟨news, hplans.trans hrunEq, hnews⟩, ?_⟩
  · rw [hplans]
    exact Upsert.nodup_ids_run hids (nodup_map_firsts PlanEntry.key definition.plans)
  · rw [hstore]
    exact (c.store.writes_imported existing definition actingUser members).2

/-- Of four plans called Gold the closed one, the one of another API and the second open one stay
as they are, and a key with other security gets a plan that is closed from the start. -/
theorem import_upserts_plans_gold :
    let gold (id apiId : String) (status : PlanStatus) : Plan :=
      ⟨id, apiId, "Gold", .apiKey, status, {}⟩
    let asked (security : PlanSecurity) (text : String) : PlanEntry :=
      { name := "Gold", security, status := .closed, terms := { description := some text } }
    let details : ApiDetails := { name := "Shop", version := "1" }
    let plans := [gold "1" "shop" .closed, gold "2" "bank" .published, gold "3" "shop" .staging,
      gold "4" "shop" .published]
    let c : Catalog := { store := { Store.fresh with apis := [{ id := "shop", details }], plans } }
    let definition : Definition :=
      { details, plans := [asked .apiKey "new", asked .jwt "other", asked .apiKey "late"] }
    ∃ api c',
      (importParsed (some "shop") (.ok definition) none).runOn c = (.ok api, c') ∧
      c'.store.plans.map (fun plan => (plan.status, plan.terms.description)) =
        [(.closed, none), (.published, none), (.staging, some "new"), (.published, none),
          (.closed, some "other")] := by
  intro gold asked details plans c definition
  obtain ⟨api, c', hrun⟩ : ∃ api c',
      (importParsed (some "shop") (.ok definition) none).runOn c = (.ok api, c') := ⟨_, _, rfl⟩
  obtain ⟨hid, -, ⟨news, hplans, hnews⟩, -⟩ := import_upserts_plans (by decide) hrun
  have hshop : api.id = "shop" := hid
  simp only [hshop] at hplans hnews
  change List.Forall₂ _ [asked .jwt "other"] news at hnews
  cases hnews with
  | cons hnew hrest =>
    cases hrest
    refine ⟨api, c', hrun, ?_⟩
    rw [hplans, hnew]
    rfl

end Upserted

end ApiCatalog
