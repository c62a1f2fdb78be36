import ApiCatalog.Proofs.Store.Fresh
import ApiCatalog.Proofs.Store.Writes
import Mathlib.Data.List.Induction

/-! # Upserts by entries

How a list of entries is brought into a list of records: an entry revises the first record that it
is about, or creates a new record at the end. What records an entry is about is looked up before
the first change. The outcome is given in one piece, and a second run with the same entries changes
nothing but what the first could not find again.
-/

namespace ApiCatalog

structure Upsert (α ε κ : Type) where
  id : α → String
  mark : String
  key : ε → κ
  isAbout : ε → α → Bool
  revise : ε → α → α
  create : String → ε → α
  id_revise (e x) : id (revise e x) = id x
  id_create (i e) : id (create i e) = i
  isAbout_revise {e x} (e') : isAbout e x = true → isAbout e' (revise e x) = isAbout e' x
  key_eq {e e' x} : isAbout e x = true → isAbout e' x = true → key e = key e'
  key_eq_create {e e' i} : isAbout e (create i e') = true → key e = key e'
  revise_revise (e x) : revise e (revise e x) = revise e x
  revise_create (e i) : revise e (create i e) = create i e

namespace Upsert

variable {α ε κ : Type} (u : Upsert α ε κ)

def ids (xs : List α) : List String := xs.map u.id

def step (old xs : List α) (e : ε) : List α :=
  match old.find? (u.isAbout e) with
  | some x => replaceFirst (u.id · == u.id x) (u.revise e) xs
  | none => xs ++ [u.create (freshId u.mark (u.ids xs)) e]

/-- All entries, whose records are looked up in the list as it is at the start. -/
def run (xs : List α) (es : List ε) : List α := es.foldl (u.step xs) xs

def isNew (xs : List α) (e : ε) : Bool := (xs.find? (u.isAbout e)).isNone

def entryOf? (xs : List α) (es : List ε) (x : α) : Option ε :=
  es.find? fun e => (xs.find? (u.isAbout e)).map u.id == some (u.id x)

def revised (xs : List α) (es : List ε) (x : α) : α :=
  match u.entryOf? xs es x with
  | some e => u.revise e x
  | none => x

/-- The records that entries create beside records with the given ids. -/
def created (used : List String) : List ε → List α
  | [] => []
  | e :: es =>
    u.create (freshId u.mark used) e :: created (used ++ [freshId u.mark used]) es

theorem created_append (used : List String) (es es' : List ε) :
    u.created used (es ++ es') =
      u.created used es ++ u.created (used ++ u.ids (u.created used es)) es' := by
  induction es generalizing used with
  | nil => simp [created, ids]
  | cons e es ih => simp [created, ids, ih, u.id_create]

theorem mem_created {used : List String} {es : List ε} {x : α} (h : x ∈ u.created used es) :
    ∃ e ∈ es, ∃ i, x = u.create i e := by
  induction es generalizing used with
  | nil => exact absurd h List.not_mem_nil
  | cons e es ih =>
    rcases List.mem_cons.mp h with rfl | h
    · exact ⟨e, List.mem_cons_self, _, rfl⟩
    · obtain ⟨e', he', hx⟩ := ih h
      exact ⟨e', List.mem_cons_of_mem _ he', hx⟩

theorem exists_create_mem_created {e : ε} {es : List ε} (h : e ∈ es) (used : List String) :
    ∃ i, u.create i e ∈ u.created used es := by
  induction es generalizing used with
  | nil => exact absurd h List.not_mem_nil
  | cons e' es ih =>
    rcases List.mem_cons.mp h with rfl | h
    · exact ⟨_, List.mem_cons_self⟩
    · obtain ⟨i, hi⟩ := ih h (used ++ [freshId u.mark used])
      exact ⟨i, List.mem_cons_of_mem _ hi⟩

theorem length_created (used : List String) (es : List ε) :
    (u.created used es).length = es.length := by
  induction es generalizing used with
  | nil => rfl
  | cons e es ih => simp [created, ih]

theorem map_created {β : Type} {f : α → β} {g : ε → β} (h : ∀ i e, f (u.create i e) = g e)
    (used : List String) (es : List ε) : (u.created used es).map f = es.map g := by
  induction es generalizing used with
  | nil => rfl
  | cons e es ih => simp [created, h, ih]

theorem nodup_append_ids_created {used : List String} (h : used.Nodup) (es : List ε) :
    (used ++ u.ids (u.created used es)).Nodup := by
  induction es generalizing used with
  | nil => simpa [created, ids] using h
  | cons e es ih =>
    have hfresh := nodup_append_singleton h (freshId_not_mem u.mark used)
    simpa [created, ids, u.id_create] using ih hfresh

theorem id_revised (xs : List α) (es : List ε) (x : α) : u.id (u.revised xs es x) = u.id x := by
  unfold revised
  split
  · exact u.id_revise _ _
  · rfl

theorem ids_map_revised (xs ys : List α) (es : List ε) :
    u.ids (ys.map (u.revised xs es)) = u.ids ys := by
  rw [ids, ids, List.map_map]
  exact List.map_congr_left fun x _ => u.id_revised xs es x

theorem entryOf?_eq_some {xs : List α} {es : List ε} {x : α} {e : ε} (hid : (u.ids xs).Nodup)
    (hx : x ∈ xs) (h : u.entryOf? xs es x = some e) :
    e ∈ es ∧ xs.find? (u.isAbout e) = some x := by
  have hp := List.find?_some h
  refine ⟨List.mem_of_find?_eq_some h, ?_⟩
  obtain ⟨y, hy, hyx⟩ := Option.map_eq_some_iff.mp (beq_iff_eq.mp hp)
  rw [hy, List.inj_on_of_nodup_map hid (List.mem_of_find?_eq_some hy) hx hyx]

theorem entryOf?_of_find? {xs : List α} {es : List ε} {x : α} {e : ε} (hid : (u.ids xs).Nodup)
    (hkey : (es.map u.key).Nodup) (he : e ∈ es) (h : xs.find? (u.isAbout e) = some x) :
    u.entryOf? xs es x = some e := by
  have hx := List.mem_of_find?_eq_some h
  obtain ⟨e', he'⟩ : ∃ e', u.entryOf? xs es x = some e' :=
    Option.isSome_iff_exists.mp (List.find?_isSome.mpr ⟨e, he, by rw [h]; exact beq_self_eq_true _⟩)
  obtain ⟨hmem, hfind⟩ := u.entryOf?_eq_some hid hx he'
  have hk := u.key_eq (List.find?_some hfind) (List.find?_some h)
  rw [he', List.inj_on_of_nodup_map hkey hmem he hk]

theorem revised_of_find? {xs : List α} {es : List ε} {x : α} {e : ε} (hid : (u.ids xs).Nodup)
    (hkey : (es.map u.key).Nodup) (he : e ∈ es) (h : xs.find? (u.isAbout e) = some x) :
    u.revised xs es x = u.revise e x := by
  rw [revised, u.entryOf?_of_find? hid hkey he h]

theorem isAbout_revised {xs : List α} {es : List ε} {x : α} (hid : (u.ids xs).Nodup) (hx : x ∈ xs)
    (e : ε) : u.isAbout e (u.revised xs es x) = u.isAbout e x := by
  unfold revised
  cases h : u.entryOf? xs es x with
  | none => rfl
  | some e' => exact u.isAbout_revise e (List.find?_some (u.entryOf?_eq_some hid hx h).2)

theorem find?_map_revised {xs : List α} (hid : (u.ids xs).Nodup) (es : List ε) (e : ε) :
    (xs.map (u.revised xs es)).find? (u.isAbout e) =
      (xs.find? (u.isAbout e)).map (u.revised xs es) := by
  rw [List.find?_map]
  congr 1
  rw [← List.head?_filter, ← List.head?_filter]
  exact congrArg _ (List.filter_congr fun x hx => u.isAbout_revised hid hx e)

theorem revised_append_of_ne {xs : List α} {es : List ε} {x : α} {e : ε}
    (h : (xs.find? (u.isAbout e)).map u.id ≠ some (u.id x)) :
    u.revised xs (es ++ [e]) x = u.revised xs es x := by
  have he : u.entryOf? xs (es ++ [e]) x = u.entryOf? xs es x := by
    rw [entryOf?, List.find?_append, List.find?_singleton, if_neg (by simpa using h),
      Option.or_none, entryOf?]
  rw [revised, he, revised]

/-- What the earlier entries leave, revised by a further one. -/
theorem revise_map_revised {xs : List α} {es : List ε} {x : α} {e : ε} (hid : (u.ids xs).Nodup)
    (hkey : ((es ++ [e]).map u.key).Nodup) (h : xs.find? (u.isAbout e) = some x) :
    (xs.map (u.revised xs es)).map (fun y => if u.id y = u.id x then u.revise e y else y) =
      xs.map (u.revised xs (es ++ [e])) := by
  rw [List.map_map]
  refine List.map_congr_left fun y hy => ?_
  rw [Function.comp_apply, u.id_revised]
  by_cases hyx : u.id y = u.id x
  · obtain rfl : y = x := List.inj_on_of_nodup_map hid hy (List.mem_of_find?_eq_some h) hyx
    have hnone : u.entryOf? xs es y = none := by
      by_contra hne
      obtain ⟨e', he'⟩ := Option.ne_none_iff_exists'.mp hne
      obtain ⟨hmem, hfind⟩ := u.entryOf?_eq_some hid hy he'
      have hk := u.key_eq (List.find?_some hfind) (List.find?_some h)
      rw [List.map_append, List.map_singleton] at hkey
      exact (List.nodup_append.mp hkey).2.2 _ (List.mem_map_of_mem hmem) _
        (List.mem_singleton_self _) hk
    have hself : u.revised xs es y = y := by rw [revised, hnone]
    rw [if_pos rfl, hself, u.revised_of_find? hid hkey (by simp) h]
  · rw [if_neg hyx, u.revised_append_of_ne]
    rw [h, Option.map_some, ne_eq, Option.some.injEq]
    exact fun he => hyx he.symm

theorem ids_map_revised_append (xs : List α) (es es' : List ε) :
    u.ids (xs.map (u.revised xs es) ++ u.created (u.ids xs) es') =
      u.ids xs ++ u.ids (u.created (u.ids xs) es') := by
  rw [ids, List.map_append, ← ids, ← ids, u.ids_map_revised]

/-- What is created has ids of its own, so that the revision of an old record passes over it. -/
theorem map_created_of_mem {xs : List α} {x : α} (hid : (u.ids xs).Nodup) (hx : x ∈ xs)
    (revise : α → α) (es : List ε) :
    (u.created (u.ids xs) es).map (fun y => if u.id y = u.id x then revise y else y) =
      u.created (u.ids xs) es := by
  have hne : ∀ y ∈ u.created (u.ids xs) es, u.id y ≠ u.id x := fun y hy hyx =>
    (List.nodup_append.mp (u.nodup_append_ids_created hid es)).2.2 (u.id x)
      (List.mem_map_of_mem hx) (u.id y) (List.mem_map_of_mem hy) hyx.symm
  exact (List.map_congr_left fun y hy => if_neg (hne y hy)).trans (List.map_id' _)

/-- The outcome of a run: every record as the entries leave it, and then the new ones. -/
theorem run_eq {xs : List α} {es : List ε} (hid : (u.ids xs).Nodup)
    (hkey : (es.map u.key).Nodup) :
    u.run xs es =
      xs.map (u.revised xs es) ++ u.created (u.ids xs) (es.filter (u.isNew xs)) := by
  -- from the right, since a step is taken on what the earlier entries have left
  induction es using List.reverseRecOn with
  | nil =>
    have hself : xs.map (u.revised xs []) = xs := List.map_id xs
    simp [run, created, hself]
  | append_singleton es e ih =>
    have ih := ih (List.map_append ▸ hkey).of_append_left
    rw [run, List.foldl_append, ← run, ih, List.foldl_cons, List.foldl_nil, step,
      List.filter_append]
    cases h : xs.find? (u.isAbout e) with
    | some x =>
      have hold : [e].filter (u.isNew xs) = [] := by simp [isNew, h]
      have hnodup : (u.ids (xs.map (u.revised xs es) ++
          u.created (u.ids xs) (es.filter (u.isNew xs)))).Nodup := by
        rw [ids_map_revised_append]
        exact u.nodup_append_ids_created hid _
      rw [hold, List.append_nil]
      simp only
      rw [replaceFirst_eq_map u.id hnodup, List.map_append, u.revise_map_revised hid hkey h,
        u.map_created_of_mem hid (List.mem_of_find?_eq_some h)]
    | none =>
      have hnew : [e].filter (u.isNew xs) = [e] := by simp [isNew, h]
      have hsame : xs.map (u.revised xs (es ++ [e])) = xs.map (u.revised xs es) :=
        List.map_congr_left fun y _ => u.revised_append_of_ne (by simp [h])
      simp only
      rw [hnew, hsame, created_append, ids_map_revised_append, List.append_assoc]
      rfl

theorem map_revised_eq_foldl {xs : List α} {es : List ε} (hid : (u.ids xs).Nodup)
    (hkey : (es.map u.key).Nodup) :
    xs.map (u.revised xs es) =
      es.foldl (fun ys e => replaceFirst (u.isAbout e) (u.revise e) ys) xs := by
  induction es using List.reverseRecOn with
  | nil => exact List.map_id xs
  | append_singleton es e ih =>
    have ih := ih (List.map_append ▸ hkey).of_append_left
    have hids : (u.ids (xs.map (u.revised xs es))).Nodup := by
      rw [u.ids_map_revised]
      exact hid
    have hfind := u.find?_map_revised hid es e
    rw [List.foldl_append, ← ih, List.foldl_cons, List.foldl_nil]
    cases h : xs.find? (u.isAbout e) with
    | some x =>
      rw [h, Option.map_some] at hfind
      rw [← u.revise_map_revised hid hkey h, ← replaceFirst_eq_map u.id hids,
        ← u.id_revised xs es x, replaceFirst_key_of_find? u.id hids hfind]
    | none =>
      rw [h, Option.map_none] at hfind
      rw [replaceFirst_of_find?_eq_none hfind]
      exact List.map_congr_left fun y _ => u.revised_append_of_ne (by simp [h])

section Again

variable {u} {xs : List α} {es : List ε} (hid : (u.ids xs).Nodup) (hkey : (es.map u.key).Nodup)
include hid hkey

theorem ids_run :
    u.ids (u.run xs es) = u.ids xs ++ u.ids (u.created (u.ids xs) (es.filter (u.isNew xs))) := by
  rw [u.run_eq hid hkey, ids_map_revised_append]

theorem nodup_ids_run : (u.ids (u.run xs es)).Nodup := by
  rw [ids_run hid hkey]
  exact u.nodup_append_ids_created hid _

theorem revise_of_find?_run {e : ε} {x : α} (he : e ∈ es)
    (h : (u.run xs es).find? (u.isAbout e) = some x) : u.revise e x = x := by
  rw [u.run_eq hid hkey, List.find?_append, u.find?_map_revised hid] at h
  cases hx : xs.find? (u.isAbout e) with
  | some y =>
    rw [hx, Option.map_some, Option.some_or, u.revised_of_find? hid hkey he hx] at h
    obtain rfl := Option.some.inj h
    exact u.revise_revise e y
  | none =>
    rw [hx, Option.map_none, Option.none_or] at h
    obtain ⟨e', he', i, rfl⟩ := u.mem_created (List.mem_of_find?_eq_some h)
    have hk := u.key_eq_create (List.find?_some h)
    rw [List.inj_on_of_nodup_map hkey he (List.mem_filter.mp he').1 hk]
    exact u.revise_create e' i

/-- An entry that finds no record after a run has created one that it is not about. -/
theorem not_isAbout_create_of_isNew_run {e : ε} (he : e ∈ es)
    (h : u.isNew (u.run xs es) e = true) : ∃ i, u.isAbout e (u.create i e) = false := by
  rw [isNew, u.run_eq hid hkey, List.find?_append, u.find?_map_revised hid] at h
  simp only [Option.isNone_iff_eq_none, Option.or_eq_none_iff, Option.map_eq_none_iff] at h
  have hnew : e ∈ es.filter (u.isNew xs) :=
    List.mem_filter.mpr ⟨he, by rw [isNew, h.1]; rfl⟩
  obtain ⟨i, hi⟩ := u.exists_create_mem_created hnew (u.ids xs)
  exact ⟨i, by simpa using List.find?_eq_none.mp h.2 _ hi⟩

/-- A second run with the same entries only creates what the first left without a record. -/
theorem run_run :
    u.run (u.run xs es) es =
      u.run xs es ++
        u.created (u.ids (u.run xs es)) (es.filter (u.isNew (u.run xs es))) := by
  have hid' := nodup_ids_run hid hkey
  rw [u.run_eq hid' hkey]
  congr 1
  refine (List.map_congr_left fun x hx => ?_).trans (List.map_id _)
  unfold revised
  cases h : u.entryOf? (u.run xs es) es x with
  | none => rfl
  | some e =>
    obtain ⟨he, hfind⟩ := u.entryOf?_eq_some hid' hx h
    exact revise_of_find?_run hid hkey he hfind

/-- Where entries are about the records that they create, a second run finds them all. -/
theorem isNew_run (hcreate : ∀ i e, u.isAbout e (u.create i e) = true) {e : ε} (he : e ∈ es) :
    u.isNew (u.run xs es) e = false := by
  by_contra hnew
  obtain ⟨i, hi⟩ := not_isAbout_create_of_isNew_run hid hkey he (by simpa using hnew)
  exact absurd (hcreate i e) (by simp [hi])

theorem run_run_of_isAbout_create (hcreate : ∀ i e, u.isAbout e (u.create i e) = true) :
    u.run (u.run xs es) es = u.run xs es := by
  have hnone : es.filter (u.isNew (u.run xs es)) = [] :=
    List.filter_eq_nil_iff.mpr fun e he => by simp [isNew_run hid hkey hcreate he]
  rw [run_run hid hkey, hnone, created, List.append_nil]

end Again

theorem revised_cases {xs : List α} {x : α} (hid : (u.ids xs).Nodup) (hx : x ∈ xs) (es : List ε) :
    u.revised xs es x = x ∨
      ∃ e ∈ es, u.isAbout e x = true ∧ u.revised xs es x = u.revise e x := by
  unfold revised
  cases h : u.entryOf? xs es x with
  | none => exact Or.inl rfl
  | some e =>
    obtain ⟨he, hfind⟩ := u.entryOf?_eq_some hid hx h
    exact Or.inr ⟨e, he, List.find?_some hfind, rfl⟩

theorem forall_mem_run {P : α → Prop} {xs : List α} {es : List ε} (hid : (u.ids xs).Nodup)
    (hkey : (es.map u.key).Nodup) (h : ∀ x ∈ xs, P x)
    (hrevise : ∀ e ∈ es, ∀ x, P x → P (u.revise e x)) (hcreate : ∀ e ∈ es, ∀ i, P (u.create i e)) :
    ∀ x ∈ u.run xs es, P x := by
  intro x hx
  rw [u.run_eq hid hkey] at hx
  rcases List.mem_append.mp hx with hx | hx
  · obtain ⟨y, hy, rfl⟩ := List.mem_map.mp hx
    rcases u.revised_cases hid hy es with he | ⟨e, he, -, hrevised⟩
    · rw [he]
      exact h y hy
    · rw [hrevised]
      exact hrevise e he y (h y hy)
  · obtain ⟨e, he, i, rfl⟩ := u.mem_created hx
    exact hcreate e (List.mem_of_mem_filter he) i

theorem run_of_new {xs : List α} {es : List ε} (hid : (u.ids xs).Nodup)
    (hkey : (es.map u.key).Nodup) (hnew : ∀ e ∈ es, ∀ x ∈ xs, u.isAbout e x = false) :
    u.run xs es = xs ++ u.created (u.ids xs) es := by
  have hnone : ∀ e ∈ es, u.isNew xs e = true := fun e he => by
    rw [isNew, List.find?_eq_none.mpr fun x hx => by simp [hnew e he x hx]]
    rfl
  have hsame : xs.map (u.revised xs es) = xs := by
    refine (List.map_congr_left fun x hx => ?_).trans (List.map_id xs)
    rcases u.revised_cases hid hx es with he | ⟨e, he, habout, -⟩
    · exact he
    · exact absurd habout (by simp [hnew e he x hx])
  rw [u.run_eq hid hkey, hsame, List.filter_eq_self.mpr hnone]

theorem filter_created {here : α → Bool} (hcreate : ∀ i e, here (u.create i e) = true)
    (ids : List String) (es : List ε) :
    (u.created ids es).filter here = u.created ids es := by
  refine List.filter_eq_self.mpr fun x hx => ?_
  obtain ⟨e, -, i, rfl⟩ := u.mem_created hx
  exact hcreate i e

/-- Where there were no records of a kind that entries are about, there are the new ones. -/
theorem filter_run_of_new {here : α → Bool} {xs : List α} {es : List ε} (hid : (u.ids xs).Nodup)
    (hkey : (es.map u.key).Nodup) (hold : ∀ x ∈ xs, here x = false)
    (habout : ∀ e x, u.isAbout e x = true → here x = true)
    (hcreate : ∀ i e, here (u.create i e) = true) :
    (u.run xs es).filter here = u.created (u.ids xs) es := by
  have hnew : ∀ e ∈ es, ∀ x ∈ xs, u.isAbout e x = false := fun e _ x hx =>
    Bool.eq_false_iff.mpr fun h => Bool.eq_false_iff.mp (hold x hx) (habout e x h)
  have hnone : xs.filter here = [] :=
    List.filter_eq_nil_iff.mpr fun x hx => Bool.eq_false_iff.mp (hold x hx)
  rw [u.run_of_new hid hkey hnew, List.filter_append, hnone, u.filter_created hcreate,
    List.nil_append]

/-- The records that entries are about are open ones with the key of the entry. -/
structure Keyed {ι : Type} (isOpen : α → Bool) (keyOf : α → ι) (keyOfEntry : ε → ι) : Prop where
  isAbout_iff (e x) : u.isAbout e x = true ↔ isOpen x = true ∧ keyOf x = keyOfEntry e
  keyOf_create (i e) : keyOf (u.create i e) = keyOfEntry e
  key_eq_iff {e e'} : u.key e = u.key e' ↔ keyOfEntry e = keyOfEntry e'

namespace Keyed

variable {u} {ι : Type} {isOpen : α → Bool} {keyOf : α → ι} {keyOfEntry : ε → ι} {xs : List α}
  {es : List ε}

theorem find?_isAbout (h : u.Keyed isOpen keyOf keyOfEntry)
    (hkeys : ((xs.filter isOpen).map keyOf).Nodup) {e : ε} {x : α} (hx : x ∈ xs)
    (hopen : isOpen x = true) (he : keyOf x = keyOfEntry e) :
    xs.find? (u.isAbout e) = some x := by
  obtain ⟨y, hy⟩ : ∃ y, xs.find? (u.isAbout e) = some y :=
    Option.isSome_iff_exists.mp
      (List.find?_isSome.mpr ⟨x, hx, (h.isAbout_iff e x).mpr ⟨hopen, he⟩⟩)
  obtain ⟨hyopen, hye⟩ := (h.isAbout_iff e y).mp (List.find?_some hy)
  have hyx : y = x := List.inj_on_of_nodup_map hkeys
    (List.mem_filter.mpr ⟨List.mem_of_find?_eq_some hy, hyopen⟩)
    (List.mem_filter.mpr ⟨hx, hopen⟩) (hye.trans he.symm)
  rw [hy, hyx]

theorem filter_isAbout (h : u.Keyed isOpen keyOf keyOfEntry)
    (hkeys : ((xs.filter isOpen).map keyOf).Nodup) {e : ε} {x : α} (hx : x ∈ xs)
    (habout : u.isAbout e x = true) : xs.filter (u.isAbout e) = [x] := by
  have hopen : (xs.filter (u.isAbout e)).Sublist (xs.filter isOpen) :=
    List.monotone_filter_right xs fun y hy => ((h.isAbout_iff e y).mp hy).1
  have hdistinct : ((xs.filter (u.isAbout e)).map keyOf).Nodup := hkeys.sublist (hopen.map keyOf)
  have hmem : x ∈ xs.filter (u.isAbout e) := List.mem_filter.mpr ⟨hx, habout⟩
  have honly : ∀ y ∈ xs.filter (u.isAbout e), y = x := fun y hy =>
    List.inj_on_of_nodup_map hdistinct hy hmem <|
      ((h.isAbout_iff e y).mp (List.mem_filter.mp hy).2).2.trans
        ((h.isAbout_iff e x).mp habout).2.symm
  have hperm : (xs.filter (u.isAbout e)).Perm [x] :=
    (List.perm_ext_iff_of_nodup (List.Nodup.of_map keyOf hdistinct) (List.nodup_singleton x)).mpr
      fun y => ⟨fun hy => List.mem_singleton.mpr (honly y hy),
        fun hy => List.mem_singleton.mp hy ▸ hmem⟩
  exact List.perm_singleton.mp hperm

theorem revised_eq (h : u.Keyed isOpen keyOf keyOfEntry) (hid : (u.ids xs).Nodup) {x : α}
    (hx : x ∈ xs) (es : List ε) :
    isOpen (u.revised xs es x) = isOpen x ∧ keyOf (u.revised xs es x) = keyOf x := by
  rcases u.revised_cases hid hx es with he | ⟨e, -, habout, he⟩
  · rw [he]
    exact ⟨rfl, rfl⟩
  · obtain ⟨hopen, hkey⟩ := (h.isAbout_iff e x).mp habout
    obtain ⟨hopen', hkey'⟩ :=
      (h.isAbout_iff e _).mp ((u.isAbout_revise e habout).trans habout)
    rw [he, hopen, hopen', hkey, hkey']
    exact ⟨rfl, rfl⟩

theorem nodup_run (h : u.Keyed isOpen keyOf keyOfEntry) (hid : (u.ids xs).Nodup)
    (hkey : (es.map u.key).Nodup) (hkeys : ((xs.filter isOpen).map keyOf).Nodup) :
    (((u.run xs es).filter isOpen).map keyOf).Nodup := by
  have hold : ((xs.map (u.revised xs es)).filter isOpen).map keyOf =
      (xs.filter isOpen).map keyOf := by
    rw [List.filter_map, List.map_map]
    have hfilter : xs.filter (isOpen ∘ u.revised xs es) = xs.filter isOpen :=
      List.filter_congr fun x hx => (h.revised_eq hid hx es).1
    rw [hfilter]
    exact List.map_congr_left fun x hx =>
      (h.revised_eq hid (List.mem_of_mem_filter hx) es).2
  have hnew : ((u.created (u.ids xs) (es.filter (u.isNew xs))).map keyOf).Nodup := by
    rw [u.map_created h.keyOf_create]
    have hdistinct := hkey.sublist ((List.filter_sublist (p := u.isNew xs)).map u.key)
    exact List.pairwise_map.mpr <| (List.pairwise_map.mp hdistinct).imp fun hne he =>
      hne (h.key_eq_iff.mpr he)
  rw [u.run_eq hid hkey, List.filter_append, List.map_append, hold]
  refine List.nodup_append.mpr ⟨hkeys, hnew.sublist (List.filter_sublist.map _), ?_⟩
  rintro k hk k' hk' rfl
  obtain ⟨x, hx, rfl⟩ := List.mem_map.mp hk
  obtain ⟨y, hy, hyx⟩ := List.mem_map.mp hk'
  obtain ⟨e, he, i, rfl⟩ := u.mem_created (List.mem_of_mem_filter hy)
  obtain ⟨hxs, hopen⟩ := List.mem_filter.mp hx
  have hfree := (List.mem_filter.mp he).2
  rw [isNew, Option.isNone_iff_eq_none, List.find?_eq_none] at hfree
  rw [h.keyOf_create] at hyx
  exact hfree x hxs ((h.isAbout_iff e x).mpr ⟨hopen, hyx.symm⟩)

/-- A run leaves one record for an entry: the one that was there, revised, or else a new one. -/
theorem filter_isAbout_run (h : u.Keyed isOpen keyOf keyOfEntry) (hid : (u.ids xs).Nodup)
    (hkey : (es.map u.key).Nodup) (hkeys : ((xs.filter isOpen).map keyOf).Nodup)
    (hcreate : ∀ i e, u.isAbout e (u.create i e) = true) {e : ε} (he : e ∈ es) :
    ∃ y, (u.run xs es).filter (u.isAbout e) = [y] ∧
      ((∃ x, xs.find? (u.isAbout e) = some x ∧ y = u.revise e x) ∨
        xs.find? (u.isAbout e) = none ∧ ∃ i, y = u.create i e) := by
  have honly : ∀ {y}, y ∈ u.run xs es → u.isAbout e y = true →
      (u.run xs es).filter (u.isAbout e) = [y] := fun hy habout =>
    h.filter_isAbout (h.nodup_run hid hkey hkeys) hy habout
  rw [u.run_eq hid hkey] at honly ⊢
  cases hfind : xs.find? (u.isAbout e) with
  | some x =>
    have habout : u.isAbout e (u.revise e x) = true :=
      (u.isAbout_revise e (List.find?_some hfind)).trans (List.find?_some hfind)
    have hmem : u.revise e x ∈ xs.map (u.revised xs es) :=
      u.revised_of_find? hid hkey he hfind ▸ List.mem_map_of_mem (List.mem_of_find?_eq_some hfind)
    exact ⟨_, honly (List.mem_append_left _ hmem) habout, Or.inl ⟨x, rfl, rfl⟩⟩
  | none =>
    have hnew : e ∈ es.filter (u.isNew xs) := List.mem_filter.mpr ⟨he, by rw [isNew, hfind]; rfl⟩
    obtain ⟨i, hi⟩ := u.exists_create_mem_created hnew (u.ids xs)
    exact ⟨_, honly (List.mem_append_right _ hi) (hcreate i e), Or.inr ⟨rfl, i, rfl⟩⟩

section Listed

variable {toEntry : α → ε} {listed : α → Bool} {ys : List α}
  (h : u.Keyed isOpen keyOf keyOfEntry) (hid : (u.ids xs).Nodup)
  (hkeys : ((xs.filter isOpen).map keyOf).Nodup) (hys : ys.Perm (xs.filter listed))
  (hentry : ∀ y ∈ ys, isOpen y = true ∧ keyOfEntry (toEntry y) = keyOf y)
include h hkeys hys hentry

theorem find?_toEntry {y : α} (hy : y ∈ ys) : xs.find? (u.isAbout (toEntry y)) = some y :=
  h.find?_isAbout hkeys (List.mem_of_mem_filter (hys.subset hy)) (hentry y hy).1
    (hentry y hy).2.symm

theorem isNew_toEntry {e : ε} (he : e ∈ ys.map toEntry) : u.isNew xs e = false := by
  obtain ⟨y, hy, rfl⟩ := List.mem_map.mp he
  rw [isNew, h.find?_toEntry hkeys hys hentry hy]
  rfl

theorem countP_isNew_toEntry :
    (ys.map toEntry).countP (u.isNew xs) = 0 ∧
      (ys.map toEntry).countP (!u.isNew xs ·) = ys.length := by
  have hold : ∀ e ∈ ys.map toEntry, u.isNew xs e = false := fun _ he =>
    h.isNew_toEntry hkeys hys hentry he
  rw [← List.length_map (f := toEntry), List.countP_eq_length, List.countP_eq_zero]
  exact ⟨fun e he => by simp [hold e he], fun e he => by simp [hold e he]⟩

include hid

theorem nodup_keys_toEntry : ((ys.map toEntry).map u.key).Nodup := by
  have hnodup : ys.Nodup := hys.nodup_iff.mpr ((List.Nodup.of_map u.id hid).filter _)
  rw [List.map_map]
  refine hnodup.map_on fun y hy y' hy' he => ?_
  have hkey : keyOf y = keyOf y' :=
    (hentry y hy).2.symm.trans ((h.key_eq_iff.mp he).trans (hentry y' hy').2)
  exact List.inj_on_of_nodup_map hkeys
    (List.mem_filter.mpr ⟨List.mem_of_mem_filter (hys.subset hy), (hentry y hy).1⟩)
    (List.mem_filter.mpr ⟨List.mem_of_mem_filter (hys.subset hy'), (hentry y' hy').1⟩) hkey

/-- Bringing records back that are listed only revises each of them by its own entry. -/
theorem run_map_toEntry :
    u.run xs (ys.map toEntry) = xs.map fun x => if listed x then u.revise (toEntry x) x else x := by
  have hkey := h.nodup_keys_toEntry hid hkeys hys hentry
  have hnone : (ys.map toEntry).filter (u.isNew xs) = [] :=
    List.filter_eq_nil_iff.mpr fun e he => by simp [h.isNew_toEntry hkeys hys hentry he]
  rw [u.run_eq hid hkey, hnone, created, List.append_nil]
  refine List.map_congr_left fun x hx => ?_
  cases hl : listed x with
  | true =>
    have hy : x ∈ ys := hys.mem_iff.mpr (List.mem_filter.mpr ⟨hx, hl⟩)
    rw [u.revised_of_find? hid hkey (List.mem_map_of_mem hy) (h.find?_toEntry hkeys hys hentry hy)]
    rfl
  | false =>
    have hno : u.entryOf? xs (ys.map toEntry) x = none := by
      by_contra hne
      obtain ⟨e, he⟩ := Option.ne_none_iff_exists'.mp hne
      obtain ⟨hmem, hfind⟩ := u.entryOf?_eq_some hid hx he
      obtain ⟨y, hy, rfl⟩ := List.mem_map.mp hmem
      rw [h.find?_toEntry hkeys hys hentry hy] at hfind
      have hly := (List.mem_filter.mp (hys.subset hy)).2
      rw [Option.some.inj hfind, hl] at hly
      cases hly
    rw [revised, hno]
    rfl

end Listed

end Keyed

/-- Bring entries into others. An entry revises the first one that it is about at the time; entries
that were about none at the start are added at the end. -/
def broughtInto (isAbout : ε → ε → Bool) (reviseEntry : ε → ε → ε) (es ys : List ε) : List ε :=
  es.foldl (fun ys e => replaceFirst (isAbout e) (reviseEntry e) ys) ys ++
    es.filter fun e => !ys.any (isAbout e)

/-- An upsert of records of which some belong `here`, where it can be told by the entries that the
records amount to. -/
structure Seen (here : α → Bool) (view : α → ε) (isAbout : ε → ε → Bool)
    (reviseEntry : ε → ε → ε) : Prop where
  isAbout_eq (e x) : u.isAbout e x = (here x && isAbout e (view x))
  here_revise (e x) : here (u.revise e x) = here x
  view_revise (e x) : view (u.revise e x) = reviseEntry e (view x)
  here_create (i e) : here (u.create i e) = true
  view_create (i e) : view (u.create i e) = e

namespace Seen

variable {u} {here : α → Bool} {view : α → ε} {isAbout : ε → ε → Bool} {reviseEntry : ε → ε → ε}
  {xs : List α} {es : List ε} (h : u.Seen here view isAbout reviseEntry)
include h

theorem map_filter_replaceFirst (e : ε) (xs : List α) :
    ((replaceFirst (u.isAbout e) (u.revise e) xs).filter here).map view =
      replaceFirst (isAbout e) (reviseEntry e) ((xs.filter here).map view) := by
  induction xs with
  | nil => rfl
  | cons x xs ih =>
    rw [replaceFirst, h.isAbout_eq]
    cases hx : here x with
    | false => simp [hx, ih]
    | true =>
      cases habout : isAbout e (view x) with
      | false => simp [hx, habout, replaceFirst, ih]
      | true => simp [hx, habout, replaceFirst, h.here_revise, h.view_revise]

theorem isNew_eq (xs : List α) (e : ε) :
    u.isNew xs e = !((xs.filter here).map view).any (isAbout e) := by
  rw [isNew, Bool.eq_iff_iff, Option.isNone_iff_eq_none, List.find?_eq_none]
  simp [h.isAbout_eq]

/-- What belongs here after a run can be told by what belonged here before. -/
theorem map_filter_run (hid : (u.ids xs).Nodup) (hkey : (es.map u.key).Nodup) :
    ((u.run xs es).filter here).map view =
      broughtInto isAbout reviseEntry es ((xs.filter here).map view) := by
  have hrevised : ∀ xs : List α,
      ((es.foldl (fun ys e => replaceFirst (u.isAbout e) (u.revise e) ys) xs).filter
          here).map view =
        es.foldl (fun ys e => replaceFirst (isAbout e) (reviseEntry e) ys)
          ((xs.filter here).map view) := by
    intro xs
    clear hid hkey
    induction es generalizing xs with
    | nil => rfl
    | cons e es ih => rw [List.foldl_cons, ih, h.map_filter_replaceFirst, List.foldl_cons]
  have hcreated : ∀ es : List ε, ((u.created (u.ids xs) es).filter here).map view = es := by
    intro es
    rw [u.filter_created h.here_create, u.map_created h.view_create, List.map_id']
  rw [u.run_eq hid hkey, u.map_revised_eq_foldl hid hkey, List.filter_append, List.map_append,
    hrevised, hcreated, broughtInto]
  exact congrArg _ (List.filter_congr fun e _ => h.isNew_eq xs e)

end Seen

end Upsert

end ApiCatalog
