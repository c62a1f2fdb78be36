import ApiCatalog.Ordered
import Mathlib.Data.Finset.Card

/-! # Sorted names and first elements

What sorted names and fields hold, and that putting in once more what was put in changes nothing,
whether the list is sorted or not.
-/

namespace ApiCatalog

namespace Names

variable {a b : String} {names set : List String}

theorem mem_insert : a ∈ insert b set ↔ a = b ∨ a ∈ set := by
  induction set with
  | nil => simp [insert]
  | cons n rest ih =>
    by_cases h : b < n
    · simp [insert, h]
    · by_cases he : b = n
      · subst he
        simp [insert]
      · simp only [insert, if_neg h, if_neg he, List.mem_cons, ih]
        exact or_left_comm

theorem mem_insertAll : a ∈ insertAll names set ↔ a ∈ names ∨ a ∈ set := by
  induction names generalizing set with
  | nil => simp [insertAll]
  | cons n names ih =>
    have h : insertAll (n :: names) set = insertAll names (insert n set) := rfl
    rw [h, ih, mem_insert, List.mem_cons, or_assoc, or_left_comm]

theorem mem_ofList : a ∈ ofList names ↔ a ∈ names := by
  simp [ofList, mem_insertAll]

theorem insert_insert_self (a : String) (set : List String) :
    insert a (insert a set) = insert a set := by
  induction set with
  | nil => simp [insert]
  | cons n rest ih =>
    by_cases h : a < n
    · simp [insert, h]
    · by_cases he : a = n
      · simp [insert, he]
      · simp [insert, h, he, ih]

/-- A name that is in its place stays there when others are put in. -/
theorem insert_insert_of_settled (h : insert a set = set) :
    insert a (insert b set) = insert b set := by
  induction set with
  | nil => exact absurd h (by simp [insert])
  | cons n rest ih =>
    have hlt : ¬a < n := by
      intro hlt
      simp [insert, hlt] at h
    by_cases he : a = n
    · subst he
      by_cases hb : b < a
      · have hba : ¬a < b := String.lt_asymm hb
        have hne : a ≠ b := fun e => String.lt_irrefl b (e ▸ hb)
        simp [insert, hb, hba, hne]
      · by_cases hbe : b = a
        · simp [insert, hbe]
        · simp [insert, hb, hbe]
    · have hrest : insert a rest = rest := by simpa [insert, hlt, he] using h
      by_cases hb : b < n
      · have hba : ¬a < b := fun hab => hlt (String.lt_trans hab hb)
        have hne : a ≠ b := fun e => hlt (e ▸ hb)
        simp [insert, hb, hba, hne, hlt, he, hrest]
      · by_cases hbe : b = n
        · subst hbe
          simp [insert, hlt, he, hrest]
        · simp [insert, hb, hbe, hlt, he, ih hrest]

theorem insert_insertAll_of_settled (h : insert a set = set) (names : List String) :
    insert a (insertAll names set) = insertAll names set := by
  induction names generalizing set with
  | nil => exact h
  | cons n names ih => exact ih (insert_insert_of_settled h)

theorem insertAll_eq_self (h : ∀ a ∈ names, insert a set = set) : insertAll names set = set := by
  induction names with
  | nil => rfl
  | cons n names ih =>
    change insertAll names (insert n set) = set
    rw [h n List.mem_cons_self]
    exact ih fun a ha => h a (List.mem_cons_of_mem _ ha)

theorem insert_insertAll_of_mem (h : a ∈ names) (set : List String) :
    insert a (insertAll names set) = insertAll names set := by
  induction names generalizing set with
  | nil => exact absurd h List.not_mem_nil
  | cons n names ih =>
    rcases List.mem_cons.mp h with rfl | h
    · exact insert_insertAll_of_settled (insert_insert_self a set) names
    · exact ih h (insert n set)

theorem insertAll_insertAll (names set : List String) :
    insertAll names (insertAll names set) = insertAll names set :=
  insertAll_eq_self fun _ h => insert_insertAll_of_mem h set

def Sorted (names : List String) : Prop := names.Pairwise (· < ·)

theorem sorted_insert (h : Sorted set) (a : String) : Sorted (insert a set) := by
  induction set with
  | nil => exact List.pairwise_singleton _ a
  | cons n rest ih =>
    obtain ⟨hn, hrest⟩ := List.pairwise_cons.mp h
    rw [insert]
    split
    · rename_i han
      refine List.pairwise_cons.mpr ⟨?_, h⟩
      rintro m (_ | ⟨_, hm⟩)
      · exact han
      · exact String.lt_trans han (hn m hm)
    · rename_i han
      split
      · exact h
      · rename_i hne
        refine List.pairwise_cons.mpr ⟨fun m hm => ?_, ih hrest⟩
        rcases mem_insert.mp hm with rfl | hm
        · exact (Std.lt_trichotomy m n).resolve_left han |>.resolve_left hne
        · exact hn m hm

theorem sorted_insertAll (h : Sorted set) (names : List String) : Sorted (insertAll names set) := by
  induction names generalizing set with
  | nil => exact h
  | cons n names ih => exact ih (sorted_insert h n)

theorem sorted_ofList (names : List String) : Sorted (ofList names) :=
  sorted_insertAll List.Pairwise.nil names

theorem insert_eq_self (h : Sorted set) (ha : a ∈ set) : insert a set = set := by
  induction set with
  | nil => exact absurd ha List.not_mem_nil
  | cons n rest ih =>
    obtain ⟨hn, hrest⟩ := List.pairwise_cons.mp h
    rcases List.mem_cons.mp ha with rfl | ha
    · simp only [insert, if_neg (String.lt_irrefl a), if_pos]
    · have hlt := hn a ha
      have hne : ¬a = n := fun he => String.lt_irrefl n (he ▸ hlt)
      simp only [insert, if_neg (String.lt_asymm hlt), if_neg hne, ih hrest ha]

theorem insert_eq_append (h : ∀ n ∈ set, n < a) : insert a set = set ++ [a] := by
  induction set with
  | nil => rfl
  | cons n rest ih =>
    have hlt := h n List.mem_cons_self
    have hne : ¬a = n := fun he => String.lt_irrefl n (he ▸ hlt)
    simp only [insert, if_neg (String.lt_asymm hlt), if_neg hne, List.cons_append,
      ih fun m hm => h m (List.mem_cons_of_mem _ hm)]

theorem insertAll_eq_append (h : Sorted (set ++ names)) : insertAll names set = set ++ names := by
  induction names generalizing set with
  | nil => exact (List.append_nil set).symm
  | cons n names ih =>
    have hn := insert_eq_append fun m hm =>
      (List.pairwise_append.mp h).2.2 m hm n List.mem_cons_self
    rw [List.append_cons, ← hn] at h ⊢
    exact ih h

theorem ofList_eq_self (h : Sorted names) : ofList names = names := insertAll_eq_append h

theorem Sorted.nodup {names : List String} (h : Sorted names) : names.Nodup := by
  refine h.imp ?_
  rintro name _ hlt rfl
  exact String.lt_irrefl name hlt

theorem eq_of_mem_iff {names names' : List String} (hsorted : Sorted names)
    (hsorted' : Sorted names') (h : ∀ n, n ∈ names ↔ n ∈ names') : names = names' := by
  have hperm : names.Perm names' :=
    (List.perm_ext_iff_of_nodup hsorted.nodup hsorted'.nodup).mpr h
  exact hperm.eq_of_pairwise (fun _ _ _ _ hlt hlt' => absurd hlt' (String.lt_asymm hlt)) hsorted
    hsorted'

theorem ofList_congr {names names' : List String} (h : ∀ n, n ∈ names ↔ n ∈ names') :
    ofList names = ofList names' :=
  eq_of_mem_iff (sorted_ofList names) (sorted_ofList names') fun n => by
    rw [mem_ofList, mem_ofList, h]

end Names

namespace Fields

variable {α : Type} {k : String} {v : α} {fields : List (String × α)}

theorem insert_insert_self (k : String) (v : α) (fields : List (String × α)) :
    insert k v (insert k v fields) = insert k v fields := by
  induction fields with
  | nil => simp [insert]
  | cons field rest ih =>
    rcases field with ⟨k', v'⟩
    by_cases h : k < k'
    · simp [insert, h]
    · by_cases he : k = k'
      · simp [insert, he]
      · simp [insert, h, he, ih]

theorem mem_of_mem_insert {field : String × α} (h : field ∈ insert k v fields) :
    field = (k, v) ∨ field ∈ fields := by
  induction fields with
  | nil => exact Or.inl (List.mem_singleton.mp h)
  | cons f rest ih =>
    rw [insert] at h
    split at h
    · exact List.mem_cons.mp h
    · split at h
      · exact (List.mem_cons.mp h).imp_right (List.mem_cons_of_mem _)
      · rcases List.mem_cons.mp h with rfl | h
        · exact Or.inr List.mem_cons_self
        · exact (ih h).imp_right (List.mem_cons_of_mem _)

def insertAll (entries fields : List (String × α)) : List (String × α) :=
  entries.foldl (fun fields entry => insert entry.1 entry.2 fields) fields

theorem insertAll_cons (entry : String × α) (entries fields : List (String × α)) :
    insertAll (entry :: entries) fields = insertAll entries (insert entry.1 entry.2 fields) := rfl

theorem ofList_eq_insertAll (entries : List (String × α)) : ofList entries = insertAll entries [] :=
  rfl

theorem mem_of_mem_insertAll {field : String × α} {entries : List (String × α)}
    (h : field ∈ insertAll entries fields) : field ∈ fields ∨ field ∈ entries := by
  induction entries generalizing fields with
  | nil => exact Or.inl h
  | cons entry entries ih =>
    rcases ih h with h | h
    · rcases mem_of_mem_insert h with rfl | h
      · exact Or.inr List.mem_cons_self
      · exact Or.inl h
    · exact Or.inr (List.mem_cons_of_mem _ h)

theorem mem_of_mem_ofList {field : String × α} (h : field ∈ ofList fields) : field ∈ fields :=
  (mem_of_mem_insertAll h).resolve_left List.not_mem_nil

theorem lookup_insert (k k' : String) (v : α) (fields : List (String × α)) :
    (insert k v fields).lookup k' = if k' = k then some v else fields.lookup k' := by
  induction fields with
  | nil => by_cases h : k' = k <;> simp [insert, List.lookup_cons, h, beq_false_of_ne]
  | cons field rest ih =>
    rcases field with ⟨n, x⟩
    by_cases hk : k' = k
    · subst hk
      by_cases h : k' < n
      · simp [insert, h]
      · by_cases he : k' = n
        · simp [insert, he]
        · simp [insert, h, he, List.lookup_cons, ih, beq_false_of_ne he]
    · by_cases h : k < n
      · simp [insert, h, List.lookup_cons, hk, beq_false_of_ne hk]
      · by_cases he : k = n
        · subst he
          simp [insert, List.lookup_cons, hk, beq_false_of_ne hk]
        · simp [insert, h, he, List.lookup_cons, ih, hk]

/-- Of fields with distinct keys, those that are put in come before those that are there. -/
theorem lookup_insertAll {entries : List (String × α)} (h : (entries.map (·.1)).Nodup)
    (fields : List (String × α)) (k : String) :
    (insertAll entries fields).lookup k = (entries.lookup k).or (fields.lookup k) := by
  induction entries generalizing fields with
  | nil => rfl
  | cons entry entries ih =>
    rcases entry with ⟨n, x⟩
    rw [List.map_cons, List.nodup_cons] at h
    rw [insertAll_cons, ih h.2, lookup_insert, List.lookup_cons]
    by_cases hk : k = n
    · subst hk
      have hnone : entries.lookup k = none := by
        rw [List.lookup_eq_none_iff]
        intro p hp
        rw [bne_iff_ne]
        rintro rfl
        exact h.1 (List.mem_map.mpr ⟨p, hp, rfl⟩)
      simp [hnone]
    · simp [hk, beq_false_of_ne hk]

theorem lookup_ofList (h : (fields.map (·.1)).Nodup) (k : String) :
    (ofList fields).lookup k = fields.lookup k := by
  rw [ofList_eq_insertAll, lookup_insertAll h, List.lookup_nil, Option.or_none]

def Sorted (fields : List (String × α)) : Prop := fields.Pairwise fun f f' => f.1 < f'.1

theorem sorted_insert (h : Sorted fields) (k : String) (v : α) : Sorted (insert k v fields) := by
  induction fields with
  | nil => exact List.pairwise_singleton _ (k, v)
  | cons field rest ih =>
    rcases field with ⟨n, x⟩
    obtain ⟨hn, hrest⟩ := List.pairwise_cons.mp h
    rw [insert]
    split
    · rename_i hkn
      refine List.pairwise_cons.mpr ⟨?_, h⟩
      rintro f (_ | ⟨_, hf⟩)
      · exact hkn
      · exact String.lt_trans hkn (hn f hf)
    · rename_i hkn
      split
      · rename_i he
        exact List.pairwise_cons.mpr ⟨he ▸ hn, hrest⟩
      · rename_i hne
        refine List.pairwise_cons.mpr ⟨fun f hf => ?_, ih hrest⟩
        rcases mem_of_mem_insert hf with rfl | hf
        · exact (Std.lt_trichotomy k n).resolve_left hkn |>.resolve_left hne
        · exact hn f hf

theorem sorted_insertAll (h : Sorted fields) (entries : List (String × α)) :
    Sorted (insertAll entries fields) := by
  induction entries generalizing fields with
  | nil => exact h
  | cons entry entries ih => exact ih (sorted_insert h entry.1 entry.2)

theorem sorted_ofList (fields : List (String × α)) : Sorted (ofList fields) :=
  sorted_insertAll List.Pairwise.nil fields

theorem insert_eq_append (h : ∀ f ∈ fields, f.1 < k) : insert k v fields = fields ++ [(k, v)] := by
  induction fields with
  | nil => rfl
  | cons field rest ih =>
    have hlt := h field List.mem_cons_self
    have hne : ¬k = field.1 := fun he => String.lt_irrefl k (he ▸ hlt)
    rw [insert, if_neg (String.lt_asymm hlt), if_neg hne,
      ih fun f hf => h f (List.mem_cons_of_mem _ hf), List.cons_append]

theorem insertAll_eq_append {entries : List (String × α)} (h : Sorted (fields ++ entries)) :
    insertAll entries fields = fields ++ entries := by
  induction entries generalizing fields with
  | nil => exact (List.append_nil fields).symm
  | cons entry entries ih =>
    have hlast : insert entry.1 entry.2 fields = fields ++ [entry] := insert_eq_append fun f hf =>
      (List.pairwise_append.mp h).2.2 f hf entry List.mem_cons_self
    rw [List.append_cons] at h ⊢
    rw [insertAll_cons, hlast, ih h]

theorem ofList_eq_self (h : Sorted fields) : ofList fields = fields := insertAll_eq_append h

theorem nodup_keys (h : Sorted fields) : (fields.map (·.1)).Nodup := by
  refine List.pairwise_map.mpr (h.imp ?_)
  intro f f' hlt he
  exact String.lt_irrefl f'.1 (he ▸ hlt)

theorem lookup_eq_some_iff (h : (fields.map (·.1)).Nodup) :
    fields.lookup k = some v ↔ (k, v) ∈ fields := by
  induction fields with
  | nil => simp
  | cons field rest ih =>
    rcases field with ⟨n, x⟩
    rw [List.map_cons, List.nodup_cons] at h
    rw [List.lookup_cons, List.mem_cons, Prod.mk.injEq]
    by_cases hk : k = n
    · subst hk
      have hrest : (k, v) ∉ rest := fun hmem => h.1 (List.mem_map.mpr ⟨_, hmem, rfl⟩)
      simp [hrest, eq_comm]
    · simp [hk, beq_false_of_ne hk, ih h.2]

theorem eq_of_lookup_eq {fields fields' : List (String × α)} (hsorted : Sorted fields)
    (hsorted' : Sorted fields') (h : ∀ k, fields.lookup k = fields'.lookup k) :
    fields = fields' := by
  have hmem : ∀ field, field ∈ fields ↔ field ∈ fields' := by
    rintro ⟨k, v⟩
    rw [← lookup_eq_some_iff (nodup_keys hsorted), h, lookup_eq_some_iff (nodup_keys hsorted')]
  have hperm : fields.Perm fields' :=
    (List.perm_ext_iff_of_nodup (List.Nodup.of_map _ (nodup_keys hsorted))
      (List.Nodup.of_map _ (nodup_keys hsorted'))).mpr hmem
  exact hperm.eq_of_pairwise (fun _ _ _ _ hlt hlt' => absurd hlt' (String.lt_asymm hlt)) hsorted
    hsorted'

theorem ofList_eq_of_perm {fields fields' : List (String × α)} (hperm : fields.Perm fields')
    (h : (fields.map (·.1)).Nodup) : ofList fields = ofList fields' := by
  have h' : (fields'.map (·.1)).Nodup := (hperm.map _).nodup_iff.mp h
  refine eq_of_lookup_eq (sorted_ofList fields) (sorted_ofList fields') fun k => ?_
  rw [lookup_ofList h, lookup_ofList h']
  ext v
  rw [lookup_eq_some_iff h, lookup_eq_some_iff h', hperm.mem_iff]

theorem insert_comm_of_lt {k' : String} (h : k < k') (v v' : α) (fields : List (String × α)) :
    insert k v (insert k' v' fields) = insert k' v' (insert k v fields) := by
  have hnot : ¬k' < k := String.lt_asymm h
  have hne : ¬k' = k := fun he => String.lt_irrefl k (he ▸ h)
  induction fields with
  | nil => simp [insert, h, hnot, hne]
  | cons field rest ih =>
    rcases field with ⟨n, x⟩
    by_cases hk : k < n
    · by_cases hk' : k' < n
      · simp [insert, hk, hk', h, hnot, hne]
      · by_cases he : k' = n
        · subst he
          simp [insert, h, hnot, hne]
        · simp [insert, hk, hk', he, hnot, hne]
    · by_cases he : k = n
      · subst he
        simp [insert, hnot, hne]
      · have hlt : n < k := (Std.lt_trichotomy k n).resolve_left hk |>.resolve_left he
        have hk' : ¬k' < n := String.lt_asymm (String.lt_trans hlt h)
        have he' : ¬k' = n := fun e => String.lt_irrefl n (String.lt_trans hlt (e ▸ h))
        simp [insert, hk, he, hk', he', ih]

theorem insert_comm {k' : String} (h : k ≠ k') (v v' : α) (fields : List (String × α)) :
    insert k v (insert k' v' fields) = insert k' v' (insert k v fields) := by
  rcases Std.lt_trichotomy k k' with hlt | he | hlt
  · exact insert_comm_of_lt hlt v v' fields
  · exact absurd he h
  · exact (insert_comm_of_lt hlt v' v fields).symm

theorem map_insert {β : Type} (f : String → α → β) (k : String) (v : α)
    (fields : List (String × α)) :
    (insert k v fields).map (fun (k, v) => (k, f k v)) =
      insert k (f k v) (fields.map fun (k, v) => (k, f k v)) := by
  induction fields with
  | nil => rfl
  | cons field rest ih =>
    rcases field with ⟨n, x⟩
    by_cases hk : k < n
    · simp [insert, hk]
    · by_cases he : k = n
      · simp [insert, he]
      · simp [insert, hk, he, ih]

theorem map_ofList {β : Type} (f : String → α → β) (fields : List (String × α)) :
    (ofList fields).map (fun (k, v) => (k, f k v)) =
      ofList (fields.map fun (k, v) => (k, f k v)) := by
  have hall : ∀ start : List (String × α),
      (insertAll fields start).map (fun (k, v) => (k, f k v)) =
        insertAll (fields.map fun (k, v) => (k, f k v)) (start.map fun (k, v) => (k, f k v)) := by
    induction fields with
    | nil => exact fun _ => rfl
    | cons field fields ih =>
      intro start
      rw [insertAll_cons, ih, List.map_cons, insertAll_cons, map_insert]
  exact hall []

end Fields

section Firsts

variable {α κ : Type} [DecidableEq κ] {key : α → κ} {seen : List κ} {xs : List α}

theorem firstsFrom_sublist : (firstsFrom key seen xs).Sublist xs := by
  induction xs generalizing seen with
  | nil => exact List.Sublist.refl []
  | cons x xs ih =>
    rw [firstsFrom]
    split
    · exact ih.cons x
    · exact ih.cons_cons x

theorem mem_map_firstsFrom {k : κ} :
    k ∈ (firstsFrom key seen xs).map key ↔ k ∉ seen ∧ k ∈ xs.map key := by
  induction xs generalizing seen with
  | nil => simp [firstsFrom]
  | cons x xs ih =>
    rw [firstsFrom]
    split
    · rename_i hx
      rw [ih, List.map_cons, List.mem_cons]
      exact and_congr_right fun hk => ⟨Or.inr, fun h => h.resolve_left fun he => hk (he ▸ hx)⟩
    · rename_i hx
      rw [List.map_cons, List.mem_cons, ih, List.map_cons, List.mem_cons, List.mem_cons]
      by_cases hk : k = key x
      · simp [hk, hx]
      · simp [hk]

theorem nodup_map_firstsFrom : ((firstsFrom key seen xs).map key).Nodup := by
  induction xs generalizing seen with
  | nil => exact List.nodup_nil
  | cons x xs ih =>
    rw [firstsFrom]
    split
    · exact ih
    · refine List.nodup_cons.mpr ⟨fun h => ?_, ih⟩
      exact (mem_map_firstsFrom.mp h).1 List.mem_cons_self

theorem nodup_map_firsts (key : α → κ) (xs : List α) : ((firsts key xs).map key).Nodup :=
  nodup_map_firstsFrom

theorem mem_map_firsts (key : α → κ) (xs : List α) {k : κ} :
    k ∈ (firsts key xs).map key ↔ k ∈ xs.map key := by
  rw [firsts, mem_map_firstsFrom]
  exact and_iff_right List.not_mem_nil

theorem mem_of_mem_firsts {x : α} (h : x ∈ firsts key xs) : x ∈ xs := firstsFrom_sublist.subset h

theorem length_firsts (key : α → κ) (xs : List α) :
    (firsts key xs).length = (xs.map key).toFinset.card := by
  have h : ((firsts key xs).map key).toFinset = (xs.map key).toFinset :=
    Finset.ext fun k => by rw [List.mem_toFinset, List.mem_toFinset, mem_map_firsts]
  rw [← h, List.toFinset_card_of_nodup (nodup_map_firsts key xs), List.length_map]

theorem find?_of_mem_firstsFrom {x : α} (h : x ∈ firstsFrom key seen xs) :
    xs.find? (key · == key x) = some x := by
  induction xs generalizing seen with
  | nil => exact absurd h List.not_mem_nil
  | cons y xs ih =>
    have hnew : key x ∉ seen := (mem_map_firstsFrom.mp (List.mem_map_of_mem h)).1
    rw [firstsFrom] at h
    split at h
    · rename_i hy
      have hne : ¬key y = key x := fun he => hnew (he ▸ hy)
      rw [List.find?_cons_of_neg (by simpa using hne)]
      exact ih h
    · rcases List.mem_cons.mp h with rfl | h
      · exact List.find?_cons_of_pos (by simp)
      · have hrest := mem_map_firstsFrom.mp (List.mem_map_of_mem h)
        have hne : ¬key y = key x := fun he => hrest.1 (he ▸ List.mem_cons_self)
        rw [List.find?_cons_of_neg (by simpa using hne)]
        exact ih h

theorem mem_firsts_iff {x : α} : x ∈ firsts key xs ↔ xs.find? (key · == key x) = some x := by
  constructor
  · exact find?_of_mem_firstsFrom
  · intro h
    have hk : key x ∈ xs.map key := List.mem_map_of_mem (List.mem_of_find?_eq_some h)
    obtain ⟨y, hy, he⟩ := List.mem_map.mp ((mem_map_firsts key xs).mpr hk)
    have hfirst := find?_of_mem_firstsFrom hy
    rw [he, h] at hfirst
    exact Option.some.inj hfirst ▸ hy

theorem find?_firstsFrom {p : α → Bool} (hp : ∀ x y, key x = key y → p x = p y)
    (hseen : ∀ x, key x ∈ seen → p x = false) : (firstsFrom key seen xs).find? p = xs.find? p := by
  induction xs generalizing seen with
  | nil => rfl
  | cons x xs ih =>
    rw [firstsFrom]
    split
    · rename_i hx
      rw [ih hseen, List.find?_cons_of_neg (by simp [hseen x hx])]
    · rw [List.find?_cons, List.find?_cons]
      cases hx : p x with
      | true => rfl
      | false =>
        refine ih fun y hy => ?_
        rcases List.mem_cons.mp hy with he | hy
        · rw [hp y x he, hx]
        · exact hseen y hy

theorem find?_firsts {p : α → Bool} (hp : ∀ x y, key x = key y → p x = p y) :
    (firsts key xs).find? p = xs.find? p :=
  find?_firstsFrom hp fun _ hx => absurd hx List.not_mem_nil

theorem firstsFrom_eq_self (hseen : ∀ x ∈ xs, key x ∉ seen) (h : (xs.map key).Nodup) :
    firstsFrom key seen xs = xs := by
  induction xs generalizing seen with
  | nil => rfl
  | cons x xs ih =>
    rw [List.map_cons, List.nodup_cons] at h
    rw [firstsFrom, if_neg (hseen x List.mem_cons_self)]
    congr 1
    refine ih (fun y hy hmem => ?_) h.2
    rcases List.mem_cons.mp hmem with he | hmem
    · exact h.1 (he ▸ List.mem_map_of_mem hy)
    · exact hseen y (List.mem_cons_of_mem _ hy) hmem

theorem firsts_eq_self (h : (xs.map key).Nodup) : firsts key xs = xs :=
  firstsFrom_eq_self (fun _ _ => List.not_mem_nil) h

/-- Only which keys have been seen matters. -/
theorem firstsFrom_congr {seen' : List κ} (h : ∀ k, k ∈ seen ↔ k ∈ seen') (xs : List α) :
    firstsFrom key seen xs = firstsFrom key seen' xs := by
  induction xs generalizing seen seen' with
  | nil => rfl
  | cons x xs ih =>
    have hcons : ∀ k, k ∈ key x :: seen ↔ k ∈ key x :: seen' := fun k => by
      rw [List.mem_cons, List.mem_cons, h k]
    rw [firstsFrom, firstsFrom, ih h, ih hcons]
    simp only [h]

/-- Elements whose keys have been seen may be left out beforehand. -/
theorem firstsFrom_append (seen seen' : List κ) (xs : List α) :
    firstsFrom key (seen ++ seen') xs = firstsFrom key seen (xs.filter (key · ∉ seen')) := by
  induction xs generalizing seen with
  | nil => rfl
  | cons x xs ih =>
    have hcons := ih (key x :: seen)
    rw [List.cons_append] at hcons
    by_cases hx : key x ∈ seen'
    · rw [firstsFrom, if_pos (List.mem_append_right _ hx),
        List.filter_cons_of_neg (by simpa using hx), ih]
    · rw [List.filter_cons_of_pos (by simpa using hx), firstsFrom, firstsFrom, ih, hcons]
      simp only [List.mem_append, hx, or_false]

end Firsts

theorem firstsFrom_map {α β κ : Type} [DecidableEq κ] (key : β → κ) (f : α → β) (seen : List κ)
    (xs : List α) : firstsFrom key seen (xs.map f) = (firstsFrom (key ∘ f) seen xs).map f := by
  induction xs generalizing seen with
  | nil => rfl
  | cons x xs ih =>
    rw [List.map_cons, firstsFrom, firstsFrom]
    by_cases h : key (f x) ∈ seen
    · simp [h, ih]
    · simp [h, ih]

theorem firsts_map {α β κ : Type} [DecidableEq κ] (key : β → κ) (f : α → β) (xs : List α) :
    firsts key (xs.map f) = (firsts (key ∘ f) xs).map f := firstsFrom_map key f [] xs

section Distinct

variable {α : Type} [DecidableEq α]

theorem distinct_eq_firsts (xs : List α) : distinct xs = firsts id xs := by
  have h : ∀ seen : List α,
      xs.foldl (fun seen x => if x ∈ seen then seen else seen ++ [x]) seen =
        seen ++ firstsFrom id seen xs := by
    induction xs with
    | nil => exact fun seen => (List.append_nil seen).symm
    | cons x xs ih =>
      intro seen
      have hcons : firstsFrom id (seen ++ [x]) xs = firstsFrom id (x :: seen) xs :=
        firstsFrom_congr (fun k => by simp [or_comm]) xs
      rw [List.foldl_cons, ih, firstsFrom, id]
      split
      · rfl
      · rw [List.append_assoc, List.singleton_append, hcons]
  exact h []

theorem find?_distinct (p : α → Bool) (xs : List α) : (distinct xs).find? p = xs.find? p := by
  rw [distinct_eq_firsts]
  exact find?_firsts fun _ _ h => congrArg p h

theorem mem_distinct {x : α} {xs : List α} : x ∈ distinct xs ↔ x ∈ xs := by
  simpa [distinct_eq_firsts] using mem_map_firsts id xs (k := x)

theorem nodup_distinct (xs : List α) : (distinct xs).Nodup := by
  simpa [distinct_eq_firsts] using nodup_map_firsts id xs

end Distinct

end ApiCatalog
