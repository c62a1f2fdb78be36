import ApiCatalog.Proofs.Integrity
import ApiCatalog.Proofs.NormalForm

/-! # The holdings of an API

What the documents of an API are made of, without the ids of groups, pages and plans and without the
records of other APIs. All documents of an API are functions of its holdings.
-/

namespace ApiCatalog

/-- A user with the roles held on one reference. -/
structure Holder where
  user : Member
  roles : HeldRoles
  deriving DecidableEq, Repr

namespace Holder

def member? (holder : Holder) : Option ScopedMember :=
  (holder.roles.get? .api).map fun role => ⟨holder.user, role, .user⟩

end Holder

def Membership.holder (m : Membership) : Holder := ⟨m.user, m.roles⟩

/-- What the documents of an API are made of. Groups are sorted by name and members by the ids of
the users, and pages and plans are in the order in which they were created. -/
structure Holdings where
  details : ApiDetails
  groups : List String := []
  members : List (String × Holder) := []
  pages : List PageEntry := []
  plans : List PlanEntry := []

namespace Holdings

def listedMembers (holdings : Holdings) : List ScopedMember :=
  (holdings.members.filterMap (·.2.member?)).mergeSort ScopedMember.exportOrder

def listedPages (holdings : Holdings) : List PageEntry :=
  holdings.pages.mergeSort PageEntry.exportOrder

def listedPlans (holdings : Holdings) : List PlanEntry :=
  (holdings.plans.filter (·.isOpen)).mergeSort PlanEntry.exportOrder

def content (holdings : Holdings) (version : ExportVersion) : ExportSection → Json
  | .groups => .ofStrings holdings.groups
  | .members => .arr (holdings.listedMembers.map fun m => .ofPresent m.exportFields)
  | .pages => .arr (holdings.listedPages.map fun entry => .ofPresent entry.exportFields)
  | .plans =>
    .arr (holdings.listedPlans.map fun entry =>
      .ofPresent (dropFields version.unknownPlanFields entry.exportFields))

def document (holdings : Holdings) (version : ExportVersion) (excluded : List ExportSection) :
    Json :=
  let sections := ExportSection.all.filter fun part => !excluded.contains part
  .ofPresent <|
    dropFields version.unknownApiFields holdings.details.fields ++
      sections.map fun part => (part.name, holdings.content version part)

theorem document_congr {holdings holdings' : Holdings} {version : ExportVersion}
    {excluded : List ExportSection} (hdetails : holdings.details = holdings'.details)
    (hcontent : ∀ part, part ∉ excluded →
      holdings.content version part = holdings'.content version part) :
    holdings.document version excluded = holdings'.document version excluded := by
  have hsections : (ExportSection.all.filter fun part => !excluded.contains part).map
      (fun part => (part.name, holdings.content version part)) =
        (ExportSection.all.filter fun part => !excluded.contains part).map
          fun part => (part.name, holdings'.content version part) := by
    refine List.map_congr_left fun part hpart => ?_
    have hlisted : part ∉ excluded := by simpa using (List.mem_filter.mp hpart).2
    rw [hcontent part hlisted]
  rw [document, document, hdetails, hsections]

end Holdings

namespace Store

/-- Everyone with a membership on an API, sorted by the ids of the users. -/
def holders (store : Store) (apiId : String) : List (String × Holder) :=
  Fields.ofList ((store.memberships.filter (·.reference == .api apiId)).map fun m =>
    (m.user.id, m.holder))

variable {store : Store} {apiId : String}

theorem nodup_userIds (h : (store.memberships.map Membership.key).Nodup) (reference : Reference) :
    ((store.memberships.filter (·.reference == reference)).map (·.user.id)).Nodup :=
  nodup_map_filter h reference

theorem lookup_holders (h : (store.memberships.map Membership.key).Nodup) (userId : String) :
    (store.holders apiId).lookup userId =
      (store.membership? (.api apiId) userId).map Membership.holder := by
  have hids : (((store.memberships.filter (·.reference == .api apiId)).map fun m =>
      (m.user.id, m.holder)).map (·.1)).Nodup := by
    rw [List.map_map]
    exact nodup_userIds h _
  rw [holders, Fields.lookup_ofList hids, membership?]
  generalize store.memberships = ms
  induction ms with
  | nil => rfl
  | cons m ms ih =>
    by_cases href : m.reference = .api apiId
    · by_cases hid : m.user.id = userId
      · simp [href, hid]
      · simp [href, hid, List.lookup_cons, beq_false_of_ne (Ne.symm hid), ih]
    · simp [href, ih]

theorem roleOf?_eq_lookup (h : (store.memberships.map Membership.key).Nodup) (userId : String) :
    store.roleOf? (.api apiId) .api userId =
      ((store.holders apiId).lookup userId).bind fun holder => holder.roles.get? .api := by
  rw [lookup_holders h, roleOf?, Option.bind_map]
  rfl

theorem map_membershipsOf (h : (store.memberships.map Membership.key).Nodup) (apiId : String) :
    (store.membershipsOf (.api apiId)).map (fun m => (m.user.id, m.holder)) =
      store.holders apiId := by
  have hids := nodup_userIds h (.api apiId)
  have hperm : (store.membershipsOf (.api apiId)).Perm
      (store.memberships.filter (·.reference == .api apiId)) := List.mergeSort_perm _ _
  have hids' : ((store.membershipsOf (.api apiId)).map (·.user.id)).Nodup :=
    (hperm.map _).nodup_iff.mpr hids
  have hle : (store.membershipsOf (.api apiId)).Pairwise
      fun m m' => decide (m.user.id ≤ m'.user.id) = true := by
    refine List.pairwise_mergeSort (fun _ _ _ hle hle' => ?_) (fun m m' => ?_) _
    · exact decide_eq_true (String.le_trans (of_decide_eq_true hle) (of_decide_eq_true hle'))
    · simpa using String.le_total m.user.id m'.user.id
  have hne : (store.membershipsOf (.api apiId)).Pairwise fun m m' => m.user.id ≠ m'.user.id :=
    List.pairwise_map.mp hids'
  have hsorted : Fields.Sorted
      ((store.membershipsOf (.api apiId)).map fun m => (m.user.id, m.holder)) := by
    refine List.pairwise_map.mpr ((hle.and hne).imp fun hboth => ?_)
    exact Std.lt_of_le_of_ne (of_decide_eq_true hboth.1) hboth.2
  rw [holders, ← Fields.ofList_eq_self hsorted]
  refine Fields.ofList_eq_of_perm (hperm.map _) ?_
  rw [List.map_map]
  exact hids'

theorem members_eq_filterMap (h : (store.memberships.map Membership.key).Nodup) (apiId : String) :
    store.members (.api apiId) .api = (store.holders apiId).filterMap (·.2.member?) := by
  rw [← map_membershipsOf h, List.filterMap_map]
  rfl

def holdings (store : Store) (api : Api) : Holdings where
  details := api.details
  groups := Names.ofList ((store.groupsWithIds api.groups).map (·.name))
  members := store.holders api.id
  pages := (store.pagesOf api.id).map Page.entry
  plans := (store.plansOf api.id).map Plan.toEntry

variable {api : Api}

theorem listedPages_holdings :
    (store.holdings api).listedPages =
      ((store.pagesOf api.id).mergeSort Page.exportOrder).map Page.entry :=
  (List.map_mergeSort (f := Page.entry) fun _ _ _ _ => rfl).symm

theorem listedPlans_holdings :
    (store.holdings api).listedPlans =
      (((store.plansOf api.id).filter (·.isOpen)).mergeSort Plan.exportOrder).map
        Plan.toEntry := by
  rw [Holdings.listedPlans, holdings, List.filter_map]
  exact (List.map_mergeSort (f := Plan.toEntry) fun _ _ _ _ => rfl).symm

theorem content_holdings (h : store.Consistent) (version : ExportVersion)
    (part : ExportSection) :
    part.content store version api = (store.holdings api).content version part := by
  cases part with
  | groups => rfl
  | members =>
    rw [ExportSection.content, members_eq_filterMap h.memberKeys_nodup]
    rfl
  | pages =>
    rw [Holdings.content, listedPages_holdings, List.map_map, ExportSection.content,
      fetchedPages_eq h.pageIds_nodup]
    rfl
  | plans =>
    rw [Holdings.content, listedPlans_holdings, List.map_map]
    rfl

theorem exportDocument_eq_document (h : store.Consistent) (version : ExportVersion)
    (excluded : List ExportSection) (api : Api) :
    exportDocument store version excluded api =
      (store.holdings api).document version excluded := by
  simp only [exportDocument, content_holdings h]
  rfl

end Store

open CatalogM

theorem result_exportAs {c : Catalog} (h : c.store.Consistent) (version : ExportVersion)
    (excluded : List ExportSection) (api : Api) :
    ((exportAs ExportVersion.registered version excluded api).runOn c).1 =
      .ok ((c.store.holdings api).document version excluded) := by
  obtain ⟨metrics, hrun⟩ := runOn_exportAs c version excluded api
  rw [hrun, Store.exportDocument_eq_document h]

end ApiCatalog
