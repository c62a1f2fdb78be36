import ApiCatalog.Proofs.Import.Holdings

/-! # Rearranged definitions

The order in which a definition lists members, pages and groups does not matter to any document, as
long as no two entries have one key. Plans are listed by place and name, so that the order of two
new plans shows where they have the same place and the same name, and differ in security.
-/

namespace ApiCatalog

section Sorting

variable {α : Type} {le : α → α → Bool} {xs ys : List α}
  (htrans : ∀ x y z, le x y = true → le y z = true → le x z = true)
  (htotal : ∀ x y, (le x y || le y x) = true)
include htrans htotal

/-- A further element at the front is put where the sorted rest tells. -/
theorem mergeSort_cons_congr (h : xs.mergeSort le = ys.mergeSort le) (x : α) :
    (x :: xs).mergeSort le = (x :: ys).mergeSort le := by
  have hsplit : ∀ zs : List α, (x :: zs).mergeSort le =
      (zs.mergeSort le).takeWhile (!le x ·) ++ x :: (zs.mergeSort le).dropWhile (!le x ·) := by
    intro zs
    obtain ⟨front, back, hcons, hrest, hfront⟩ := List.mergeSort_cons htrans htotal x zs
    have hsorted := List.pairwise_mergeSort htrans htotal (x :: zs)
    rw [hcons] at hsorted
    have hback := (List.pairwise_cons.mp (List.pairwise_append.mp hsorted).2.1).1
    have htake : back.takeWhile (!le x ·) = [] := by
      cases back with
      | nil => rfl
      | cons y back => simp [hback y List.mem_cons_self]
    have hdrop : back.dropWhile (!le x ·) = back := by
      cases back with
      | nil => rfl
      | cons y back => simp [hback y List.mem_cons_self]
    rw [hcons, hrest, List.takeWhile_append_of_pos hfront, List.dropWhile_append_of_pos hfront,
      htake, hdrop, List.append_nil]
  rw [hsplit, hsplit, h]

theorem mergeSort_append_congr (h : xs.mergeSort le = ys.mergeSort le) (zs : List α) :
    (zs ++ xs).mergeSort le = (zs ++ ys).mergeSort le := by
  induction zs with
  | nil => exact h
  | cons z zs ih => exact mergeSort_cons_congr htrans htotal ih z

end Sorting

/-- Elements of which each has a place and a name of its own have one order among each other, behind
whatever else is sorted with them. -/
theorem mergeSort_append_eq_of_perm {α : Type} {place : α → Int} {name : α → String}
    {xs ys : List α} (hperm : xs.Perm ys) (h : (xs.map fun x => (place x, name x)).Nodup)
    (zs : List α) :
    (zs ++ xs).mergeSort (placeOrder place name) =
      (zs ++ ys).mergeSort (placeOrder place name) := by
  have htrans := placeOrder_trans place name
  have htotal := placeOrder_total place name
  refine mergeSort_append_congr htrans htotal ?_ zs
  refine List.Perm.eq_of_pairwise (fun x y hx hy hxy hyx => ?_)
    (List.pairwise_mergeSort htrans htotal xs) (List.pairwise_mergeSort htrans htotal ys)
    (((List.mergeSort_perm _ _).trans hperm).trans (List.mergeSort_perm _ _).symm)
  refine List.inj_on_of_nodup_map h (List.mem_mergeSort.mp hx)
    (hperm.symm.subset (List.mem_mergeSort.mp hy)) ?_
  rw [placeOrder_iff] at hxy hyx
  rcases hxy with hlt | ⟨hplace, hname⟩
  · omega
  · rcases hyx with hlt | ⟨-, hname'⟩
    · omega
    · exact Prod.ext hplace (String.le_antisymm hname hname')

theorem replaceFirst_comm {α : Type} {p q : α → Bool} {f g : α → α}
    (hpq : ∀ x, p x = true → q x = false) (hf : ∀ x, p x = true → q (f x) = false)
    (hg : ∀ x, q x = true → p (g x) = false) (xs : List α) :
    replaceFirst p f (replaceFirst q g xs) = replaceFirst q g (replaceFirst p f xs) := by
  induction xs with
  | nil => rfl
  | cons x xs ih =>
    cases hp : p x with
    | true => simp [replaceFirst, hp, hpq x hp, hf x hp]
    | false =>
      cases hq : q x with
      | true => simp [replaceFirst, hp, hq, hg x hq]
      | false => simp [replaceFirst, hp, hq, ih]

theorem foldl_replaceFirst_eq_of_perm {ε κ : Type} {isAbout : ε → ε → Bool} {revise : ε → ε → ε}
    {key : ε → κ} (hkey : ∀ {e e' x}, isAbout e x = true → isAbout e' x = true → key e = key e')
    (hrevise : ∀ {e x} e', isAbout e x = true → isAbout e' (revise e x) = isAbout e' x)
    {es es' : List ε} (hperm : es.Perm es') (hdistinct : (es.map key).Nodup) (xs : List ε) :
    es.foldl (fun xs e => replaceFirst (isAbout e) (revise e) xs) xs =
      es'.foldl (fun xs e => replaceFirst (isAbout e) (revise e) xs) xs := by
  refine hperm.foldl_eq' (fun e he e' he' xs => ?_) xs
  by_cases hsame : key e = key e'
  · rw [List.inj_on_of_nodup_map hdistinct he he' hsame]
  · have hapart : ∀ x, isAbout e' x = true → isAbout e x = false := fun x hx =>
      Bool.eq_false_iff.mpr fun hx' => hsame (hkey hx' hx)
    have hapart' : ∀ x, isAbout e x = true → isAbout e' x = false := fun x hx =>
      Bool.eq_false_iff.mpr fun hx' => hsame (hkey hx hx')
    exact replaceFirst_comm hapart (fun x hx => (hrevise e hx).trans (hapart x hx))
      (fun x hx => (hrevise e' hx).trans (hapart' x hx)) xs

theorem foldl_pageEntries_eq_of_perm {entries entries' : List PageEntry}
    (hperm : entries.Perm entries') (h : (entries.map PageEntry.name).Nodup)
    (pages : List PageEntry) :
    entries.foldl (fun pages entry => replaceFirst entry.isAbout entry.revise pages) pages =
      entries'.foldl (fun pages entry => replaceFirst entry.isAbout entry.revise pages) pages := by
  refine foldl_replaceFirst_eq_of_perm (fun h h' => ?_) (fun entry' h => ?_) hperm h pages
  · exact (beq_iff_eq.mp h).symm.trans (beq_iff_eq.mp h')
  · simp only [PageEntry.isAbout, PageEntry.revise] at h ⊢
    rw [beq_iff_eq.mp h]

theorem foldl_planEntries_eq_of_perm {entries entries' : List PlanEntry}
    (hperm : entries.Perm entries') (h : (entries.map PlanEntry.key).Nodup)
    (plans : List PlanEntry) :
    entries.foldl (fun plans entry => replaceFirst entry.isAbout entry.revise plans) plans =
      entries'.foldl (fun plans entry => replaceFirst entry.isAbout entry.revise plans) plans := by
  refine foldl_replaceFirst_eq_of_perm (fun h h' => ?_) (fun entry' h => ?_) hperm h plans
  · rw [PlanEntry.isAbout, Bool.and_eq_true, beq_iff_eq] at h h'
    exact h.2.symm.trans h'.2
  · rw [PlanEntry.isAbout, Bool.and_eq_true, beq_iff_eq] at h
    have hname := congrArg PlanKey.name h.2
    simp only [PlanEntry.key] at hname
    simp [PlanEntry.isAbout, PlanEntry.revise, PlanEntry.isOpen, PlanEntry.key, hname]

namespace MemberStep

variable {held : String → Option String} {owned : Bool} {ms ms' : List PlannedMember}

variable (held) in
/-- Whether there is an owner matters only to those who are to become owners. -/
theorem plan_of_no_owner (h : ms.countP (·.isOwner) = 0) (owned owned' : Bool) :
    plan held owned ms = plan held owned' ms := by
  induction ms with
  | nil => rfl
  | cons m ms ih =>
    rw [List.countP_cons] at h
    have hm : m.role.name ≠ Role.primaryOwner := fun he => by simp [PlannedMember.isOwner, he] at h
    rw [plan, plan, ih (by omega)]
    simp only [if_neg hm]

/-- Where at most one member is to become an owner, each member is planned for as if alone. -/
theorem plan_eq_flatMap (h : ms.countP (·.isOwner) ≤ 1) :
    plan held owned ms = ms.flatMap fun m => plan held owned [m] := by
  induction ms with
  | nil => rfl
  | cons m ms ih =>
    rw [List.countP_cons] at h
    rw [List.flatMap_cons, ← ih (by omega)]
    by_cases hm : m.role.name = Role.primaryOwner
    · have hrest : ms.countP (·.isOwner) = 0 := by
        simp only [PlannedMember.isOwner, hm, beq_self_eq_true, if_true] at h
        exact Nat.le_zero.mp (Nat.le_of_succ_le_succ h)
      have hflag := plan_of_no_owner held hrest true owned
      simp only [plan, hflag, if_pos hm]
      cases held m.user.id with
      | none => split_ifs <;> rfl
      | some role => simp only; split_ifs <;> rfl
    · simp only [plan, if_neg hm]
      cases held m.user.id with
      | none => rfl
      | some role => simp only; split_ifs <;> rfl

variable (held owned) in
theorem foldl_plan_singleton (m : PlannedMember) :
    (∀ holders, (plan held owned [m]).foldl Holders.after holders = holders) ∨
      ∀ holders, (plan held owned [m]).foldl Holders.after holders =
        Holders.give holders m.user m.role := by
  rcases plan_cons_cases held owned m [] with
    ⟨_, he⟩ | ⟨_, _, he⟩ | ⟨_, _, _, _, he⟩ | ⟨_, _, _, _, he⟩ <;> rw [he]
  · exact Or.inl fun _ => rfl
  · exact Or.inl fun _ => rfl
  · exact Or.inr fun _ => rfl
  · exact Or.inr fun _ => rfl

end MemberStep

namespace Holders

theorem give_comm {user user' : Member} (h : user.id ≠ user'.id) (role role' : RoleName)
    (holders : List (String × Holder)) :
    give (give holders user role) user' role' = give (give holders user' role') user role := by
  simp only [give, Fields.lookup_insert, if_neg h, if_neg h.symm]
  exact Fields.insert_comm h.symm _ _ _

theorem imported_eq_of_perm {members members' : List PlannedMember}
    (hperm : members.Perm members') (hids : (members.map (·.user.id)).Nodup)
    (howners : members.countP (·.isOwner) ≤ 1) (holders : List (String × Holder)) :
    imported holders members = imported holders members' := by
  have hids' : (members'.map (·.user.id)).Nodup := (hperm.map _).nodup_iff.mp hids
  have howners' : members'.countP (·.isOwner) ≤ 1 := hperm.countP_eq _ ▸ howners
  rw [imported, imported, steps, steps, firsts_eq_self hids, firsts_eq_self hids',
    MemberStep.plan_eq_flatMap howners, MemberStep.plan_eq_flatMap howners', List.foldl_flatMap,
    List.foldl_flatMap]
  refine hperm.foldl_eq' (fun m hm m' hm' table => ?_) _
  by_cases hsame : m.user.id = m'.user.id
  · rw [List.inj_on_of_nodup_map hids hm hm' hsame]
  · have hsteps := MemberStep.foldl_plan_singleton (roleOf? holders) (hasOwner holders)
    rcases hsteps m with h | h <;> rcases hsteps m' with h' | h' <;> simp only [h, h']
    exact give_comm hsame _ _ _

end Holders

/-- Definitions that differ at most in the order in which they list what they ask for. -/
structure Definition.Rearranged (definition definition' : Definition) : Prop where
  details : definition'.details = definition.details
  members : definition.members.Perm definition'.members
  pages : definition.pages.Perm definition'.pages
  plans : definition.plans.Perm definition'.plans
  groups : definition.groups.Perm definition'.groups

/-- No two entries of a definition are about the same user, page or plan, and at most one member is
to become the owner. -/
structure Definition.Unambiguous (identities : Identities) (definition : Definition) : Prop where
  members : ((definition.members.filterMap (·.member? identities)).map (·.user.id)).Nodup
  owners : definition.members.countP (·.role == Role.primaryOwner) ≤ 1
  pages : (definition.pages.map PageEntry.name).Nodup
  plans : (definition.plans.map PlanEntry.key).Nodup

theorem exists_planMembers_of_perm {c : Catalog} {entries entries' : List MemberEntry}
    {members : List PlannedMember} (hperm : entries.Perm entries')
    (h : planMembers c entries = .ok members) :
    ∃ members', planMembers c entries' = .ok members' ∧ members.Perm members' := by
  obtain ⟨hall, hroles⟩ := planMembers_eq_ok_iff.mp h
  obtain ⟨members', hall', hperm'⟩ := List.perm_comp_forall₂ hperm.symm hall
  exact ⟨members', planMembers_eq_ok_iff.mpr
    ⟨hall', fun m hm => hroles m (hperm'.subset hm)⟩, hperm'.symm⟩

theorem countP_isOwner {identities : Identities} {entries : List MemberEntry}
    {members : List PlannedMember}
    (h : List.Forall₂ (fun entry m => entry.resolve identities = .ok m) entries members) :
    members.countP (·.isOwner) = entries.countP (·.role == Role.primaryOwner) := by
  induction h with
  | nil => rfl
  | @cons entry m entries members hresolve _ ih =>
    have hrole : m.role.name = entry.role := by
      unfold MemberEntry.resolve at hresolve
      split at hresolve
      · cases hresolve
        rfl
      · cases hresolve
    rw [List.countP_cons, List.countP_cons, ih, PlannedMember.isOwner, hrole]

/-- Two definitions, each with the members that are planned for it, of which the one rearranges the
other and no key occurs twice. -/
structure Rearrangement (definition definition' : Definition)
    (members members' : List PlannedMember) : Prop where
  rearranged : definition.Rearranged definition'
  planned : members.Perm members'
  userIds_nodup : (members.map (·.user.id)).Nodup
  owners_le : members.countP (·.isOwner) ≤ 1
  pageNames_nodup : (definition.pages.map PageEntry.name).Nodup
  planKeys_nodup : (definition.plans.map PlanEntry.key).Nodup

theorem Definition.Rearranged.rearrangement {c : Catalog} {definition definition' : Definition}
    (h : definition.Rearranged definition') (hdistinct : definition.Unambiguous c.identities)
    {members members' : List PlannedMember}
    (hplanned : planMembers c definition.members = .ok members) (hperm : members.Perm members') :
    Rearrangement definition definition' members members' where
  rearranged := h
  planned := hperm
  userIds_nodup := by
    have hids := hdistinct.members
    rw [← PlannedMember.map_shown (planMembers_eq_ok_iff.mp hplanned).1, List.map_map] at hids
    exact hids
  owners_le := countP_isOwner (planMembers_eq_ok_iff.mp hplanned).1 ▸ hdistinct.owners
  pageNames_nodup := hdistinct.pages
  planKeys_nodup := hdistinct.plans

def PlanEntry.place (entry : PlanEntry) : Int × String := (entry.terms.order, entry.name)

/-- Whether an entry is about none of the open plans and creates one. -/
def Holdings.opens (holdings : Holdings) (entry : PlanEntry) : Bool :=
  entry.isOpen && !holdings.plans.any entry.isAbout

namespace Rearrangement

variable {definition definition' : Definition} {members members' : List PlannedMember}
  (h : Rearrangement definition definition' members members') (holdings : Holdings)
  (owner : Option String)
include h

theorem listedPages_eq :
    (holdings.imported definition owner members).listedPages =
      (holdings.imported definition' owner members').listedPages := by
  have hnames : (definition'.pages.map PageEntry.name).Nodup :=
    (h.rearranged.pages.map _).nodup_iff.mp h.pageNames_nodup
  simp only [Holdings.listedPages, Holdings.imported, Upsert.broughtInto,
    firsts_eq_self h.pageNames_nodup, firsts_eq_self hnames,
    foldl_pageEntries_eq_of_perm h.rearranged.pages h.pageNames_nodup]
  refine mergeSort_append_eq_of_perm (h.rearranged.pages.filter _) ?_ _
  refine List.Nodup.of_map Prod.snd ?_
  rw [List.map_map]
  exact h.pageNames_nodup.sublist (List.filter_sublist.map PageEntry.name)

/-- The plans are the old ones, revised, and new ones, which may come in another order. -/
theorem plans_eq :
    ∃ old new new', (holdings.imported definition owner members).plans = old ++ new ∧
      (holdings.imported definition' owner members').plans = old ++ new' ∧ new.Perm new' ∧
      new.filter (·.isOpen) = definition.plans.filter holdings.opens := by
  have hkeys : (definition'.plans.map PlanEntry.key).Nodup :=
    (h.rearranged.plans.map _).nodup_iff.mp h.planKeys_nodup
  rw [Holdings.imported, Holdings.imported, Upsert.broughtInto, Upsert.broughtInto,
    firsts_eq_self h.planKeys_nodup, firsts_eq_self hkeys,
    foldl_planEntries_eq_of_perm h.rearranged.plans h.planKeys_nodup]
  exact ⟨_, _, _, rfl, rfl, h.rearranged.plans.filter _, List.filter_filter ..⟩

theorem listedPlans_perm :
    (holdings.imported definition owner members).listedPlans.Perm
      (holdings.imported definition' owner members').listedPlans := by
  obtain ⟨old, new, new', hplans, hplans', hperm, -⟩ := h.plans_eq holdings owner
  rw [Holdings.listedPlans, Holdings.listedPlans, hplans, hplans']
  exact (List.mergeSort_perm _ _).trans
    (((hperm.append_left old).filter _).trans (List.mergeSort_perm _ _).symm)

theorem listedPlans_eq
    (hplaces : ((definition.plans.filter holdings.opens).map PlanEntry.place).Nodup) :
    (holdings.imported definition owner members).listedPlans =
      (holdings.imported definition' owner members').listedPlans := by
  obtain ⟨old, new, new', hplans, hplans', hperm, hnew⟩ := h.plans_eq holdings owner
  rw [← hnew] at hplaces
  rw [Holdings.listedPlans, Holdings.listedPlans, hplans, hplans', List.filter_append,
    List.filter_append]
  exact mergeSort_append_eq_of_perm (hperm.filter _) hplaces _

/-- What is imported in another order can be told by the plans at most. -/
theorem content_eq (hgroups : Names.Sorted holdings.groups) (version : ExportVersion)
    (part : ExportSection) (hpart : part ≠ .plans) :
    (holdings.imported definition owner members).content version part =
      (holdings.imported definition' owner members').content version part := by
  cases part with
  | plans => exact absurd rfl hpart
  | pages => simp only [Holdings.content, h.listedPages_eq]
  | members =>
    simp only [Holdings.content, Holdings.listedMembers, Holdings.imported,
      Holders.imported_eq_of_perm h.planned h.userIds_nodup h.owners_le]
  | groups =>
    have hsame : Names.insertAll definition.groups holdings.groups =
        Names.insertAll definition'.groups holdings.groups := by
      refine Names.eq_of_mem_iff (Names.sorted_insertAll hgroups _)
        (Names.sorted_insertAll hgroups _) fun name => ?_
      rw [Names.mem_insertAll, Names.mem_insertAll, h.rearranged.groups.mem_iff]
    simp only [Holdings.content, Holdings.imported, hsame]

theorem document_eq (hgroups : Names.Sorted holdings.groups) (version : ExportVersion)
    (excluded : List ExportSection)
    (hplans : .plans ∈ excluded ∨
      ((definition.plans.filter holdings.opens).map PlanEntry.place).Nodup) :
    (holdings.imported definition owner members).document version excluded =
      (holdings.imported definition' owner members').document version excluded := by
  refine Holdings.document_congr h.rearranged.details.symm fun part hpart => ?_
  by_cases hsection : part = .plans
  · subst hsection
    rw [Holdings.content, Holdings.content, h.listedPlans_eq holdings owner
      (hplans.resolve_left hpart)]
  · exact h.content_eq holdings owner hgroups version part hsection

end Rearrangement

def Store.opensPlan (store : Store) (apiId : String) (entry : PlanEntry) : Bool :=
  entry.isOpen && !(store.plansOf apiId).any fun plan => plan.isOpen && plan.key == entry.key

theorem Store.opens_holdings (store : Store) (api : Api) :
    (store.holdings api).opens = store.opensPlan api.id := by
  funext entry
  rw [Holdings.opens, opensPlan, holdings, List.any_map]
  rfl

open CatalogM

theorem Importable.rearranged {c : Catalog} {apiId : Option String}
    {existing : Option Api} {definition definition' : Definition} {members : List PlannedMember}
    (h : Importable c apiId (.ok definition) existing definition members)
    (hrearranged : definition.Rearranged definition') :
    ∃ members', Importable c apiId (.ok definition') existing definition' members' ∧
      members.Perm members' := by
  obtain ⟨members', hmembers', hperm⟩ :=
    exists_planMembers_of_perm hrearranged.members h.members_eq
  exact ⟨members', ⟨h.existing_eq, rfl, hmembers'⟩, hperm⟩

theorem Definition.Rearranged.symm {definition definition' : Definition}
    (h : definition.Rearranged definition') : definition'.Rearranged definition :=
  ⟨h.details.symm, h.members.symm, h.pages.symm, h.plans.symm, h.groups.symm⟩

/-- A definition and a rearranged one, in which no key occurs twice, are both refused, or they are
both imported into one API and differ in the order of its plans at most. No document shows a
difference that leaves out the plans, and none at all if the plans that are opened differ in place
or name. -/
theorem import_rearranged (identities : Identities) (steps : List (Event ⊕ StoreWrite))
    (apiId : Option String) (definition definition' : Definition) (actingUser : Option String) :
    let before := (Catalog.start identities).afterSteps steps
    let target := apiId.getD before.store.freshApiId
    let outcome := (importParsed apiId (.ok definition) actingUser).runOn before
    let outcome' := (importParsed apiId (.ok definition') actingUser).runOn before
    definition.Rearranged definition' → definition.Unambiguous before.identities →
      (∃ e e', outcome.1 = .error e ∧ outcome'.1 = .error e') ∨
      ∃ api api', outcome.1 = .ok api ∧ outcome'.1 = .ok api' ∧
        api.id = target ∧ api'.id = target ∧
        (∀ version excluded,
          .plans ∈ excluded ∨
            ((definition.plans.filter (before.store.opensPlan target)).map PlanEntry.place).Nodup →
          ∃ document,
            ((exportAs ExportVersion.registered version excluded api).runOn outcome.2).1 =
              .ok document ∧
            ((exportAs ExportVersion.registered version excluded api').runOn outcome'.2).1 =
              .ok document) ∧
        ∀ version, ∃ plans plans',
          ExportSection.plans.content outcome.2.store version api = .arr plans ∧
          ExportSection.plans.content outcome'.2.store version api' = .arr plans' ∧
          plans.Perm plans' := by
  intro before target outcome outcome' hrearranged hdistinct
  have hbefore : before.store.Consistent :=
    Catalog.consistent_afterSteps (Catalog.consistent_start identities) steps
  have hafter : outcome.2.store.Consistent :=
    moves_importParsed moving_consistent apiId (.ok definition) actingUser before hbefore
  have hafter' : outcome'.2.store.Consistent :=
    moves_importParsed moving_consistent apiId (.ok definition') actingUser before hbefore
  rcases runOn_importParsed hbefore.seeded_owner apiId (.ok definition) actingUser with
    ⟨e, metrics, he⟩ | ⟨existing, found, members, metrics, hi, he⟩
  · rcases runOn_importParsed hbefore.seeded_owner apiId (.ok definition') actingUser with
      ⟨e', metrics', he'⟩ | ⟨existing, found, members', metrics', hi', -⟩
    · exact Or.inl ⟨e, e', congrArg Prod.fst he, congrArg Prod.fst he'⟩
    · obtain rfl : definition' = found := Except.ok.inj hi'.parsed_eq
      obtain ⟨members, hi, -⟩ := hi'.rearranged hrearranged.symm
      obtain ⟨_, hok⟩ := runOn_importParsed_of_importable hbefore.seeded_owner hi actingUser
      rw [he] at hok
      cases hok
  · obtain rfl : definition = found := Except.ok.inj hi.parsed_eq
    obtain ⟨members', hi', hperm⟩ := hi.rearranged hrearranged
    obtain ⟨metrics', he'⟩ := runOn_importParsed_of_importable hbefore.seeded_owner hi' actingUser
    have hrearrangement := hrearranged.rearrangement hdistinct hi.members_eq hperm
    have hstart : before.store.startingApi existing definition' =
        before.store.startingApi existing definition := by
      rw [Store.startingApi, hrearranged.details, Store.startingApi]
    have hid : (before.store.startingApi existing definition).id = target := by
      rw [Store.id_startingApi, hi.targetId_eq]
    have hholdings := hi.holdings_imported hbefore actingUser
    have hholdings' := hi'.holdings_imported hbefore actingUser
    rw [hstart] at hholdings'
    have hopens := before.store.opens_holdings (before.store.startingApi existing definition)
    rw [hid] at hopens
    have houtcome : outcome = _ := he
    have houtcome' : outcome' = _ := he'
    rw [houtcome] at hafter ⊢
    rw [houtcome'] at hafter' ⊢
    refine Or.inr ⟨_, _, rfl, rfl, hi.targetId_eq, hi'.targetId_eq,
      fun version excluded hplans => ⟨_, result_exportAs hafter version excluded _, ?_⟩,
      fun version => ?_⟩
    · rw [result_exportAs hafter', hholdings, hholdings', hrearrangement.document_eq _ _
        (Names.sorted_ofList _) version excluded (hopens ▸ hplans)]
    · have hlisted := hrearrangement.listedPlans_perm
        (before.store.holdings (before.store.startingApi existing definition))
        (Store.newOwner existing actingUser)
      rw [← hholdings, ← hholdings'] at hlisted
      exact ⟨_, _, Store.content_holdings hafter version .plans,
        Store.content_holdings hafter' version .plans, hlisted.map _⟩

/-- A shop whose members, pages, plans and groups are listed the other way round. -/
theorem import_rearranged_shop :
    let ada : User := { id := "ada", reference := "ada", source := "memory", displayName := "Ada" }
    let bob : User := { id := "bob", reference := "bob", source := "memory", displayName := "Bob" }
    let before := Catalog.start ⟨[.accounts ⟨"memory", [("ada", ada), ("bob", bob)]⟩], []⟩
    let definition : Definition := {
      details := { name := "Shop", version := "1" }
      members := [⟨"bob", none, "USER"⟩, ⟨"ada", none, "PRIMARY_OWNER"⟩]
      pages := [{ name := "Home" }, { name := "Terms" }]
      plans := [{ name := "Gold", security := .apiKey }, { name := "Free" }]
      groups := ["Partners", "Friends"] }
    let definition' : Definition := {
      definition with
      members := definition.members.reverse
      pages := definition.pages.reverse
      plans := definition.plans.reverse
      groups := definition.groups.reverse }
    let outcome := (importParsed none (.ok definition) none).runOn before
    let outcome' := (importParsed none (.ok definition') none).runOn before
    definition.Rearranged definition' ∧ definition.Unambiguous before.identities ∧
      ∃ api api' document, outcome.1 = .ok api ∧ outcome'.1 = .ok api' ∧
        ((exportAs ExportVersion.registered .default [] api).runOn outcome.2).1 = .ok document ∧
        ((exportAs ExportVersion.registered .default [] api').runOn outcome'.2).1 =
          .ok document := by
  intro ada bob before definition definition' outcome outcome'
  have hrearranged : definition.Rearranged definition' :=
    ⟨rfl, (List.reverse_perm _).symm, (List.reverse_perm _).symm, (List.reverse_perm _).symm,
      (List.reverse_perm _).symm⟩
  have hdistinct : definition.Unambiguous before.identities :=
    ⟨by decide +kernel, by decide, by decide, by decide⟩
  have hplaces : ((definition.plans.filter (before.store.opensPlan before.store.freshApiId)).map
      PlanEntry.place).Nodup := by
    decide +kernel
  have hok : outcome.1.toOption.isSome = true := by decide +kernel
  refine ⟨hrearranged, hdistinct, ?_⟩
  rcases import_rearranged _ [] none definition definition' none hrearranged hdistinct with
    ⟨e, e', he, -⟩ | ⟨api, api', hapi, hapi', -, -, hexport, -⟩
  · have houtcome : outcome.1 = .error e := he
    rw [houtcome] at hok
    cases hok
  · obtain ⟨document, hdocument, hdocument'⟩ := hexport .default [] (Or.inr hplaces)
    exact ⟨api, api', document, hapi, hapi', hdocument, hdocument'⟩

def Json.firstPlanSecurity? (document : Json) : Option String :=
  match document.field? "plans" with
  | some (.arr (plan :: _)) =>
    match plan.field? "security" with
    | some (.str security) => some security
    | _ => none
  | _ => none

/-- Two new plans of one place and one name are listed as the definition lists them. -/
theorem import_rearranged_gold :
    let gold (security : PlanSecurity) : PlanEntry := { name := "Gold", security }
    let definition : Definition := {
      details := { name := "Shop", version := "1" }
      plans := [gold .keyLess, gold .apiKey] }
    let definition' : Definition := { definition with plans := [gold .apiKey, gold .keyLess] }
    let before := Catalog.start {}
    let outcome := (importParsed none (.ok definition) none).runOn before
    let outcome' := (importParsed none (.ok definition') none).runOn before
    definition.Rearranged definition' ∧ definition.Unambiguous before.identities ∧
      ∃ api api' document document', outcome.1 = .ok api ∧ outcome'.1 = .ok api' ∧
        ((exportAs ExportVersion.registered .default [] api).runOn outcome.2).1 = .ok document ∧
        ((exportAs ExportVersion.registered .default [] api').runOn outcome'.2).1 =
          .ok document' ∧
        document ≠ document' := by
  intro gold definition definition' before outcome outcome'
  refine ⟨⟨rfl, .refl _, .refl _, .swap _ _ _, .refl _⟩,
    ⟨by decide, by decide, by decide, by decide⟩, _, _, _, _, rfl, rfl, rfl, rfl, fun he => ?_⟩
  have hfirst : some "KEY_LESS" = some "API_KEY" := by
    refine (Eq.symm ?_).trans ((congrArg Json.firstPlanSecurity? he).trans ?_) <;> cbv
  exact absurd hfirst (by decide)

end ApiCatalog
