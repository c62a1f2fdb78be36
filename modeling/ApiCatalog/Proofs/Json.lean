import ApiCatalog.Document.Tree
import ApiCatalog.Proofs.Ordered

/-! # Values as trees

Free JSON values have their fields sorted at every level. Such a value is what its tree is read as
again, given room for its depth, and every value that is read from a tree is of this kind.
-/

namespace ApiCatalog

namespace Json

mutual

def Sorted : Json → Prop
  | arr items => SortedItems items
  | obj fields => Fields.Sorted fields ∧ SortedFields fields
  | _ => True

def SortedItems : List Json → Prop
  | [] => True
  | item :: items => Sorted item ∧ SortedItems items

def SortedFields : List (String × Json) → Prop
  | [] => True
  | (_, value) :: fields => Sorted value ∧ SortedFields fields

end

theorem sortedItems_iff {items : List Json} : SortedItems items ↔ ∀ item ∈ items, item.Sorted := by
  induction items with
  | nil => simp [SortedItems]
  | cons item items ih => rw [SortedItems, ih, List.forall_mem_cons]

theorem sortedFields_iff {fields : List (String × Json)} :
    SortedFields fields ↔ ∀ field ∈ fields, field.2.Sorted := by
  induction fields with
  | nil => simp [SortedFields]
  | cons field fields ih => rw [SortedFields, ih, List.forall_mem_cons]

theorem depthOfItems_le_iff {items : List Json} {room : Nat} :
    depthOfItems items ≤ room ↔ ∀ item ∈ items, item.depth ≤ room := by
  induction items with
  | nil => simp [depthOfItems]
  | cons item items ih => rw [depthOfItems, Nat.max_le, ih, List.forall_mem_cons]

theorem depthOfFields_le_iff {fields : List (String × Json)} {room : Nat} :
    depthOfFields fields ≤ room ↔ ∀ field ∈ fields, field.2.depth ≤ room := by
  induction fields with
  | nil => simp [depthOfFields]
  | cons field fields ih => rw [depthOfFields, Nat.max_le, ih, List.forall_mem_cons]

theorem sorted_ofFields {fields : List (String × Json)} (h : ∀ field ∈ fields, field.2.Sorted) :
    (ofFields fields).Sorted :=
  ⟨Fields.sorted_ofList fields,
    sortedFields_iff.mpr fun field hf => h field (Fields.mem_of_mem_ofList hf)⟩

end Json

namespace Tree

theorem ofItems_eq_map (items : List Json) : ofItems items = items.map ofJson := by
  induction items with
  | nil => rfl
  | cons item items ih => rw [ofItems, ih, List.map_cons]

mutual

theorem json?_ofJson : ∀ (value : Json) (room : Nat), value.Sorted → value.depth ≤ room →
    json? room (ofJson value) = some value
  | .null, _, _, _ => rfl
  | .bool _, _, _, _ => rfl
  | .num _, _, _, _ => rfl
  | .str _, _, _, _ => rfl
  | .arr items, room, hs, hd => by
    obtain ⟨room, rfl⟩ : ∃ r, room = r + 1 :=
      Nat.exists_eq_add_one.mpr (Nat.lt_of_lt_of_le (Nat.succ_pos _) hd)
    rw [ofJson, json?, jsonItems?_ofItems items room hs (Nat.le_of_succ_le_succ hd)]
    rfl
  | .obj fields, room, hs, hd => by
    obtain ⟨room, rfl⟩ : ∃ r, room = r + 1 :=
      Nat.exists_eq_add_one.mpr (Nat.lt_of_lt_of_le (Nat.succ_pos _) hd)
    rw [ofJson, json?, jsonFields?_ofFields fields room hs.2 (Nat.le_of_succ_le_succ hd),
      Option.map_some, Json.ofFields, Fields.ofList_eq_self hs.1]

theorem jsonItems?_ofItems : ∀ (items : List Json) (room : Nat), Json.SortedItems items →
    Json.depthOfItems items ≤ room → jsonItems? room (ofItems items) = some items
  | [], _, _, _ => rfl
  | item :: items, room, hs, hd => by
    obtain ⟨hd, hd'⟩ := Nat.max_le.mp hd
    rw [ofItems, jsonItems?, json?_ofJson item room hs.1 hd, jsonItems?_ofItems items room hs.2 hd']
    rfl

theorem jsonFields?_ofFields : ∀ (fields : List (String × Json)) (room : Nat),
    Json.SortedFields fields → Json.depthOfFields fields ≤ room →
      jsonFields? room (ofFields fields) = some fields
  | [], _, _, _ => rfl
  | (key, value) :: fields, room, hs, hd => by
    obtain ⟨hd, hd'⟩ := Nat.max_le.mp hd
    rw [ofFields, jsonFields?, json?_ofJson value room hs.1 hd,
      jsonFields?_ofFields fields room hs.2 hd']
    rfl

end

theorem sorted_floatJson (x : Option Double) : (CoreSchema.floatJson x).Sorted := by
  cases x <;> exact trivial

theorem sorted_of_plain {content : String} {value : Json}
    (h : CoreSchema.json? content = some value) : value.Sorted := by
  unfold CoreSchema.json? at h
  split at h
  · cases h
    exact trivial
  · split at h
    · cases h
      exact trivial
    · split at h
      · obtain ⟨n, _, rfl⟩ := Option.map_eq_some_iff.mp h
        exact trivial
      · split at h
        · cases h
          exact trivial
        · split at h
          · cases h
            exact sorted_floatJson _
          · cases h
            exact trivial

theorem sorted_of_scalar {s : Scalar} {value : Json} (h : s.json? = some value) :
    value.Sorted := by
  unfold Scalar.json? at h
  split at h
  · cases h
    exact trivial
  · cases h
    exact trivial
  · cases h
    exact trivial
  · cases h
    exact trivial
  · cases h
  · exact sorted_of_plain h
  · obtain ⟨b, _, rfl⟩ := Option.map_eq_some_iff.mp h
    exact trivial
  · obtain ⟨n, _, h⟩ := Option.bind_eq_some_iff.mp h
    obtain ⟨m, _, rfl⟩ := Option.map_eq_some_iff.mp h
    exact trivial
  · obtain ⟨x, _, rfl⟩ := Option.map_eq_some_iff.mp h
    exact sorted_floatJson x
  · split at h
    · cases h
      exact trivial
    · cases h
  · cases h
    exact trivial

mutual

theorem sorted_of_json? : ∀ (t : Tree) (room : Nat) (value : Json), json? room t = some value →
    value.Sorted
  | scalar s, _, _, h => sorted_of_scalar h
  | tagged _ _, _, _, h => nomatch h
  | list _ items, room, value, h => by
    cases room with
    | zero => cases h
    | succ room =>
      obtain ⟨values, hvalues, rfl⟩ := Option.map_eq_some_iff.mp h
      exact Json.sortedItems_iff.mpr (sorted_of_jsonItems? items room values hvalues)
  | map entries, room, value, h => by
    cases room with
    | zero => cases h
    | succ room =>
      obtain ⟨fields, hfields, rfl⟩ := Option.map_eq_some_iff.mp h
      exact Json.sorted_ofFields (sorted_of_jsonFields? entries room fields hfields)

theorem sorted_of_jsonItems? : ∀ (items : List Tree) (room : Nat) (values : List Json),
    jsonItems? room items = some values → ∀ value ∈ values, value.Sorted
  | [], _, _, h => by
    cases h
    exact fun _ hm => absurd hm List.not_mem_nil
  | item :: items, room, values, h => by
    obtain ⟨value, hvalue, h⟩ := Option.bind_eq_some_iff.mp h
    obtain ⟨rest, hrest, h⟩ := Option.bind_eq_some_iff.mp h
    cases h
    exact List.forall_mem_cons.mpr
      ⟨sorted_of_json? item room value hvalue, sorted_of_jsonItems? items room rest hrest⟩

theorem sorted_of_jsonFields? : ∀ (entries : List (Tree × Tree)) (room : Nat)
    (fields : List (String × Json)), jsonFields? room entries = some fields →
      ∀ field ∈ fields, field.2.Sorted
  | [], _, _, h => by
    cases h
    exact fun _ hm => absurd hm List.not_mem_nil
  | (key, value) :: entries, room, fields, h => by
    obtain ⟨name, _, h⟩ := Option.bind_eq_some_iff.mp h
    obtain ⟨read, hread, h⟩ := Option.bind_eq_some_iff.mp h
    obtain ⟨rest, hrest, h⟩ := Option.bind_eq_some_iff.mp h
    cases h
    exact List.forall_mem_cons.mpr
      ⟨sorted_of_json? value room read hread, sorted_of_jsonFields? entries room rest hrest⟩

end

end Tree

end ApiCatalog
