import ApiCatalog.Store.Writes
import Mathlib.Data.List.Nodup

/-! # What writes leave

Every operation on the store either refuses and leaves the store as it is, or leaves a store that
is given here as a function of the one before.
-/

namespace ApiCatalog

theorem nodup_append_singleton {α : Type} {xs : List α} {x : α} (h : xs.Nodup) (hx : x ∉ xs) :
    (xs ++ [x]).Nodup := by
  rw [← List.concat_eq_append]
  exact h.concat hx

section ReplaceFirst

variable {α β κ : Type} {p : α → Bool} {f : α → α} {xs : List α}

theorem replaceFirst_const {x : α} (h : xs.find? p = some x) :
    replaceFirst p (fun _ => f x) xs = replaceFirst p f xs := by
  induction xs with
  | nil => rfl
  | cons y xs ih =>
    rw [List.find?_cons] at h
    cases hy : p y with
    | true =>
      obtain rfl : y = x := by simpa [hy] using h
      simp [replaceFirst, hy]
    | false => simp [replaceFirst, hy, ih (by simpa [hy] using h)]

theorem map_replaceFirst {g : α → β} (xs : List α) (hg : ∀ x, p x = true → g (f x) = g x) :
    (replaceFirst p f xs).map g = xs.map g := by
  induction xs with
  | nil => rfl
  | cons x xs ih => cases hx : p x <;> simp [replaceFirst, hx, hg, ih]

theorem mem_of_mem_replaceFirst {x : α} (h : x ∈ replaceFirst p f xs) :
    x ∈ xs ∨ ∃ y ∈ xs, x = f y := by
  induction xs with
  | nil => exact Or.inl h
  | cons y xs ih =>
    rw [replaceFirst] at h
    split at h
    · rcases List.mem_cons.mp h with rfl | h
      · exact Or.inr ⟨y, List.mem_cons_self, rfl⟩
      · exact Or.inl (List.mem_cons_of_mem _ h)
    · rcases List.mem_cons.mp h with rfl | h
      · exact Or.inl List.mem_cons_self
      · rcases ih h with h | ⟨z, hz, rfl⟩
        · exact Or.inl (List.mem_cons_of_mem _ h)
        · exact Or.inr ⟨z, List.mem_cons_of_mem _ hz, rfl⟩

theorem replaceFirst_eq_self {x : α} (h : xs.find? p = some x) (hf : f x = x) :
    replaceFirst p f xs = xs := by
  induction xs with
  | nil => rfl
  | cons y xs ih =>
    rw [List.find?_cons] at h
    cases hy : p y with
    | true =>
      obtain rfl : y = x := by simpa [hy] using h
      simp [replaceFirst, hy, hf]
    | false => simp [replaceFirst, hy, ih (by simpa [hy] using h)]

theorem find?_replaceFirst {x : α} (h : xs.find? p = some x) (hf : p (f x) = true) :
    (replaceFirst p f xs).find? p = some (f x) := by
  induction xs with
  | nil => cases h
  | cons y xs ih =>
    rw [List.find?_cons] at h
    cases hy : p y with
    | true =>
      obtain rfl : y = x := by simpa [hy] using h
      simp [replaceFirst, hy, hf]
    | false => simp [replaceFirst, hy, ih (by simpa [hy] using h)]

theorem find?_replaceFirst_of_not {q : α → Bool}
    (h : ∀ x, p x = true → q x = false ∧ q (f x) = false) :
    (replaceFirst p f xs).find? q = xs.find? q := by
  induction xs with
  | nil => rfl
  | cons x xs ih =>
    cases hx : p x with
    | true =>
      obtain ⟨hq, hf⟩ := h x hx
      simp [replaceFirst, hx, hq, hf]
    | false => simp [replaceFirst, hx, List.find?_cons, ih]

theorem replaceFirst_of_find?_eq_none (h : xs.find? p = none) : replaceFirst p f xs = xs := by
  induction xs with
  | nil => rfl
  | cons y xs ih =>
    rw [List.find?_cons] at h
    cases hy : p y with
    | true => simp [hy] at h
    | false => simp [replaceFirst, hy, ih (by simpa [hy] using h)]

variable [DecidableEq κ]

/-- Where keys are distinct, the first element that is found is told by its key. -/
theorem replaceFirst_key_of_find? {x : α} (key : α → κ) (h : (xs.map key).Nodup)
    (hx : xs.find? p = some x) : replaceFirst (key · == key x) f xs = replaceFirst p f xs := by
  induction xs with
  | nil => rfl
  | cons y xs ih =>
    rw [List.map_cons, List.nodup_cons] at h
    rw [List.find?_cons] at hx
    cases hy : p y with
    | true =>
      obtain rfl : y = x := by simpa [hy] using hx
      simp [replaceFirst, hy]
    | false =>
      have hrest : xs.find? p = some x := by simpa [hy] using hx
      have hne : key y ≠ key x := fun he =>
        h.1 (he ▸ List.mem_map_of_mem (List.mem_of_find?_eq_some hrest))
      simp [replaceFirst, hy, hne, ih h.2 hrest]

theorem replaceFirst_eq_map (key : α → κ) (h : (xs.map key).Nodup) (k : κ) :
    replaceFirst (key · == k) f xs = xs.map fun x => if key x = k then f x else x := by
  induction xs with
  | nil => rfl
  | cons x xs ih =>
    rw [List.map_cons, List.nodup_cons] at h
    by_cases hx : key x = k
    · have hne : ∀ y ∈ xs, key y ≠ k := fun y hy he =>
        h.1 (hx ▸ he ▸ List.mem_map_of_mem hy)
      have hid : (xs.map fun y => if key y = k then f y else y) = xs :=
        (List.map_congr_left fun y hy => if_neg (hne y hy)).trans (List.map_id xs)
      simp [replaceFirst, hx, hid]
    · simp [replaceFirst, hx, ih h.2]

end ReplaceFirst

def Membership.key (m : Membership) : Reference × String := (m.reference, m.user.id)

@[simp] theorem Membership.key_grant (m : Membership) (user : Member) (role : RoleName) :
    (m.grant user role).key = m.key := rfl

namespace Store

section PutMembership

variable {m n : Membership} {ms : List Membership}

theorem map_key_putMembership :
    (putMembership m ms).map Membership.key =
      if m.key ∈ ms.map Membership.key then ms.map Membership.key
      else ms.map Membership.key ++ [m.key] := by
  induction ms with
  | nil => rfl
  | cons n ms ih =>
    have hiff : (n.reference = m.reference ∧ n.user.id = m.user.id) ↔ m.key = n.key := by
      simp [Membership.key, eq_comm]
    by_cases h : m.key = n.key
    · simp [putMembership, hiff, h]
    · by_cases hm : m.key ∈ ms.map Membership.key
      · simp [putMembership, hiff, h, ih, hm]
      · simp [putMembership, hiff, h, ih, hm]

theorem nodup_key_putMembership (h : (ms.map Membership.key).Nodup) :
    ((putMembership m ms).map Membership.key).Nodup := by
  rw [map_key_putMembership]
  split
  · exact h
  · rename_i hm
    exact nodup_append_singleton h hm

theorem mem_of_mem_putMembership (h : n ∈ putMembership m ms) : n = m ∨ n ∈ ms := by
  induction ms with
  | nil => exact Or.inl (List.mem_singleton.mp h)
  | cons n' ms ih =>
    rw [putMembership] at h
    split at h
    · exact (List.mem_cons.mp h).imp_right (List.mem_cons_of_mem _)
    · rcases List.mem_cons.mp h with rfl | h
      · exact Or.inr List.mem_cons_self
      · exact (ih h).imp_right (List.mem_cons_of_mem _)

theorem find?_putMembership (m : Membership) (ms : List Membership) (reference : Reference)
    (userId : String) :
    ((putMembership m ms).find? fun n => n.reference == reference && n.user.id == userId) =
      if m.key = (reference, userId) then some m
      else ms.find? fun n => n.reference == reference && n.user.id == userId := by
  induction ms with
  | nil =>
    by_cases hk : m.reference = reference ∧ m.user.id = userId
    · simp [putMembership, Membership.key, hk]
    · simp only [putMembership, Membership.key, Prod.mk.injEq, if_neg hk, List.find?_nil]
      simpa using hk
  | cons n ms ih =>
    by_cases hn : n.reference = m.reference ∧ n.user.id = m.user.id
    · by_cases hk : m.reference = reference ∧ m.user.id = userId
      · simp [putMembership, hn, Membership.key, hk]
      · simp only [putMembership, List.find?_cons, Membership.key, Prod.mk.injEq,
          if_neg hk, hn.1, hn.2]
        have hb : (m.reference == reference && m.user.id == userId) = false := by simpa using hk
        simp [hb]
    · rw [putMembership, if_neg hn, List.find?_cons, ih, List.find?_cons]
      by_cases hk : m.key = (reference, userId)
      · obtain ⟨rfl, rfl⟩ := Prod.mk.inj hk
        have hb : (n.reference == m.reference && n.user.id == m.user.id) = false := by
          simpa using hn
        simp [hb]
      · simp [hk]

theorem putMembership_of_find?_eq_none
    (h : (ms.find? fun n => n.reference == m.reference && n.user.id == m.user.id) = none) :
    putMembership m ms = ms ++ [m] := by
  induction ms with
  | nil => rfl
  | cons n ms ih =>
    rw [List.find?_cons] at h
    split at h
    · cases h
    · rename_i hn
      rw [putMembership, if_neg (by simpa using hn), ih h]
      rfl

end PutMembership

end Store

def Page.ofEntry (id apiId : String) (contributor : Option String) (entry : PageEntry) : Page :=
  ⟨id, apiId, entry.name, entry.type, entry.body, contributor⟩

def Page.revise (page : Page) (name : String) (body : PageBody) (contributor : Option String) :
    Page :=
  { page with name, body, lastContributor := contributor }

def Plan.ofEntry (id apiId : String) (entry : PlanEntry) : Plan :=
  ⟨id, apiId, entry.name, entry.security, entry.status, entry.terms⟩

def Plan.revise (plan : Plan) (name : String) (terms : PlanTerms) : Plan :=
  { plan with name, terms }

namespace Store

def granted (store : Store) (reference : Reference) (user : Member) (role : RoleName) :
    Membership :=
  ((store.membership? reference user.id).getD (.empty reference user.id)).grant user role

def withGrant (store : Store) (reference : Reference) (user : Member) (role : RoleName) : Store :=
  { store with memberships := putMembership (store.granted reference user role) store.memberships
    }.countWrite fun n => { n with memberUpserts := n.memberUpserts + 1 }

def withNewApi (store : Store) (api : Api) : Store :=
  { store with apis := store.apis ++ [api] }.countWrite fun n =>
    { n with apiCreates := n.apiCreates + 1 }

def withApi (store : Store) (api : Api) : Store :=
  { store with
    apis := replaceFirst (·.id == api.id) (fun stored => { api with createdAt := stored.createdAt })
      store.apis }.countWrite fun n => { n with apiUpdates := n.apiUpdates + 1 }

def withNewPage (store : Store) (apiId : String) (entry : PageEntry)
    (contributor : Option String) : Store :=
  { store with
    pages := store.pages ++ [Page.ofEntry store.freshPageId apiId contributor entry] }.countWrite
    fun n => { n with pageCreates := n.pageCreates + 1 }

def withPage (store : Store) (id name : String) (body : PageBody) (contributor : Option String) :
    Store :=
  { store with
    pages := replaceFirst (·.id == id) (·.revise name body contributor) store.pages }.countWrite
    fun n => { n with pageUpdates := n.pageUpdates + 1 }

def withNewPlan (store : Store) (apiId : String) (entry : PlanEntry) : Store :=
  { store with
    plans := store.plans ++ [Plan.ofEntry store.freshPlanId apiId entry] }.countWrite fun n =>
    { n with planCreates := n.planCreates + 1 }

def withPlan (store : Store) (id name : String) (terms : PlanTerms) : Store :=
  { store with
    plans := replaceFirst (·.id == id) (·.revise name terms) store.plans }.countWrite fun n =>
    { n with planUpdates := n.planUpdates + 1 }

def withNewGroup (store : Store) (name : String) : Store :=
  { store with groups := store.groups ++ [Group.mk store.freshGroupId name] }.countWrite fun n =>
    { n with groupCreates := n.groupCreates + 1 }

theorem pageIds_withPage (store : Store) (id name : String) (body : PageBody)
    (contributor : Option String) :
    (store.withPage id name body contributor).pages.map (·.id) = store.pages.map (·.id) :=
  map_replaceFirst store.pages fun _ _ => rfl

theorem planIds_withPlan (store : Store) (id name : String) (terms : PlanTerms) :
    (store.withPlan id name terms).plans.map (·.id) = store.plans.map (·.id) :=
  map_replaceFirst store.plans fun _ _ => rfl

theorem discard_eq {α : Type} (operation : StoreM α) (store : Store) :
    (discard operation : StoreM Unit) store =
      ((operation store).1.map fun _ => (), (operation store).2) := by
  have h : (discard operation : StoreM Unit) store =
      (ExceptT.bindCont (fun _ => pure ()) (operation store).1 :
        StateM Store (Except Error Unit)) (operation store).2 := rfl
  rw [h]
  rcases operation store with ⟨e | x, store'⟩ <;> rfl

/-- A membership never loses the role that it is just given. -/
theorem ofMembership?_granted (store : Store) (reference : Reference) (user : Member)
    (role : RoleName) :
    ScopedMember.ofMembership? role.scope (store.granted reference user role) =
      some ⟨(store.granted reference user role).user, role.name, .user⟩ := by
  have hheld : (store.granted reference user role).role? role.scope = some role.name := by
    rw [Membership.role?, granted, Membership.grant, HeldRoles.get?_give, if_pos rfl]
  rw [ScopedMember.ofMembership?, hheld, Option.map_some]

theorem giveRole_eq (reference : Reference) (user : Member) (role : RoleName) (store : Store) :
    giveRole reference user role store =
      if store.hasRole role then
        (.ok ⟨(store.granted reference user role).user, role.name, .user⟩,
          store.withGrant reference user role)
      else (.error (.missingRole role), store) := by
  have hmember := store.ofMembership?_granted reference user role
  rw [granted] at hmember
  unfold giveRole
  change (if (!store.hasRole role) = true then _ else _ : StoreM ScopedMember) store = _
  cases store.hasRole role with
  | false => rfl
  | true =>
    -- the check after the write finds the role, which was part of what was written
    simp only [hmember]
    rfl

theorem createApi_eq (api : Api) (store : Store) :
    createApi api store =
      if (store.api? api.id).isSome then
        (.error (.repository "create_api" s!"API {api.id} already exists"), store)
      else (.ok api, store.withNewApi api) := by
  change (if (store.api? api.id).isSome = true then _ else _ : StoreM Api) store = _
  cases (store.api? api.id).isSome <;> rfl

theorem updateApi_eq (api : Api) (store : Store) :
    updateApi api store =
      match store.api? api.id with
      | none => (.error (.apiNotFound api.id), store)
      | some stored => (.ok { api with createdAt := stored.createdAt }, store.withApi api) := by
  change (match store.api? api.id with | none => _ | some stored => _ : StoreM Api) store = _
  cases h : store.api? api.id with
  | none => rfl
  | some stored =>
    rw [withApi, ← replaceFirst_const h]
    rfl

theorem createPage_eq (apiId : String) (entry : PageEntry) (contributor : Option String)
    (store : Store) :
    createPage apiId entry contributor store =
      (.ok (.ofEntry store.freshPageId apiId contributor entry),
        store.withNewPage apiId entry contributor) := rfl

theorem updatePage_eq (id name : String) (body : PageBody) (contributor : Option String)
    (store : Store) :
    updatePage id name body contributor store =
      match store.page? id with
      | none => (.error (.repository "update_page" s!"page {id} not found"), store)
      | some page =>
        (.ok (page.revise name body contributor), store.withPage id name body contributor) := by
  change (match store.page? id with | none => _ | some page => _ : StoreM Page) store = _
  cases h : store.page? id with
  | none => rfl
  | some page =>
    rw [withPage, ← replaceFirst_const h]
    rfl

theorem createPlan_eq (apiId : String) (entry : PlanEntry) (store : Store) :
    createPlan apiId entry store =
      (.ok (.ofEntry store.freshPlanId apiId entry), store.withNewPlan apiId entry) := rfl

theorem updatePlan_eq (id name : String) (terms : PlanTerms) (store : Store) :
    updatePlan id name terms store =
      match store.plan? id with
      | none => (.error (.repository "update_plan" s!"plan {id} not found"), store)
      | some plan => (.ok (plan.revise name terms), store.withPlan id name terms) := by
  change (match store.plan? id with | none => _ | some plan => _ : StoreM Plan) store = _
  cases h : store.plan? id with
  | none => rfl
  | some plan =>
    rw [withPlan, ← replaceFirst_const h]
    rfl

end Store

end ApiCatalog
