import ApiCatalog.Document.Record
import ApiCatalog.Export.Document
import ApiCatalog.Proofs.Json

/-! # Records as written

An object that is written without its empty fields is read as a record that shows every field with
its value, where an absent field stands for an empty value.
-/

namespace ApiCatalog

class LawfulWire (α : Type) [Wire α] : Prop where
  ofName?_name : ∀ x : α, Wire.ofName? (Wire.name x) = some x

instance : LawfulWire Visibility := ⟨fun x => by cases x <;> rfl⟩

instance : LawfulWire PageType := ⟨fun x => by cases x <;> rfl⟩

instance : LawfulWire PlanStatus := ⟨fun x => by cases x <;> rfl⟩

instance : LawfulWire PlanSecurity := ⟨fun x => by cases x <;> rfl⟩

instance : LawfulWire PlanValidation := ⟨fun x => by cases x <;> rfl⟩

section Lookup

variable {α β : Type} {fields : List (String × α)}

theorem lookup_map (f : α → β) (name : String) :
    (fields.map fun (key, value) => (key, f value)).lookup name = (fields.lookup name).map f := by
  induction fields with
  | nil => rfl
  | cons field fields ih =>
    rcases field with ⟨k, v⟩
    by_cases h : name = k
    · simp [h]
    · simp [List.lookup_cons, beq_false_of_ne h, ih]

theorem lookup_eq_none_of_not_mem {name : String} (h : name ∉ fields.map (·.1)) :
    fields.lookup name = none := by
  rw [List.lookup_eq_none_iff]
  intro field hf
  rw [bne_iff_ne]
  rintro rfl
  exact h (List.mem_map.mpr ⟨field, hf, rfl⟩)

theorem lookup_filter (h : (fields.map (·.1)).Nodup) (p : α → Bool) (name : String) :
    (fields.filter fun field => p field.2).lookup name = (fields.lookup name).filter p := by
  induction fields with
  | nil => rfl
  | cons field fields ih =>
    rcases field with ⟨k, v⟩
    rw [List.map_cons, List.nodup_cons] at h
    by_cases hk : name = k
    · subst hk
      have hrest : (fields.filter fun field => p field.2).lookup name = none :=
        lookup_eq_none_of_not_mem fun hm => h.1 (List.filter_sublist.map _ |>.subset hm)
      cases hp : p v <;> simp [hp, hrest, Option.filter]
    · cases hp : p v <;> simp [List.lookup_cons, beq_false_of_ne hk, hp, ih h.2]

theorem lookup_filter_key {p : String → Bool} {name : String} (h : p name = true) :
    (fields.filter fun field => p field.1).lookup name = fields.lookup name := by
  induction fields with
  | nil => rfl
  | cons field fields ih =>
    rcases field with ⟨k, v⟩
    by_cases hk : name = k
    · subst hk
      simp [h]
    · cases hp : p k <;> simp [List.lookup_cons, beq_false_of_ne hk, hp, ih]

theorem mem_of_lookup_eq_some {name : String} {value : α} (h : fields.lookup name = some value) :
    (name, value) ∈ fields := by
  induction fields with
  | nil => cases h
  | cons field fields ih =>
    rcases field with ⟨k, v⟩
    by_cases hk : name = k
    · subst hk
      rw [List.lookup_cons, beq_self_eq_true] at h
      cases h
      exact List.mem_cons_self
    · rw [List.lookup_cons, beq_false_of_ne hk] at h
      exact List.mem_cons_of_mem _ (ih h)

end Lookup

def IsInt32 (n : Int) : Prop := -(wordSize 31 : Int) ≤ n ∧ n < wordSize 31

namespace Record

/-- A record shows a field with a value, below a depth, unless the value is empty. -/
structure Shows (record : Record) (limit : Nat) (name : String) (value : Json) : Prop where
  lookup_eq : record.lookup name = if value.isVoid then none else some (Tree.ofJson value)
  depth_lt : value.isVoid = false → value.depth < limit

section Known

variable {specs : List FieldSpec} {fields : List (String × Tree)}

def ownOf? (specs : List FieldSpec) (key : String) : Option String :=
  (specs.find? (·.names.contains key)).map (·.own)

def known (specs : List FieldSpec) (fields : List (String × Tree)) : Record :=
  fields.filterMap fun (key, value) => (ownOf? specs key).map (·, value)

/-- No known field occurs twice, under whichever of its names. -/
def NamedOnce (specs : List FieldSpec) (fields : List (String × Tree)) : Prop :=
  ((known specs fields).map (·.1)).Nodup

instance (specs : List FieldSpec) (fields : List (String × Tree)) :
    Decidable (NamedOnce specs fields) :=
  inferInstanceAs (Decidable (List.Nodup _))

theorem known_cons_of_none {key : String} (h : ownOf? specs key = none) (value : Tree)
    (fields : List (String × Tree)) :
    known specs ((key, value) :: fields) = known specs fields := by
  simp [known, h]

theorem known_cons_of_some {key own : String} (h : ownOf? specs key = some own) (value : Tree)
    (fields : List (String × Tree)) :
    known specs ((key, value) :: fields) = (own, value) :: known specs fields := by
  simp [known, h]

/-- An object that names no field twice is read as a record of all known fields. -/
theorem ofEntries?_eq_known (h : NamedOnce specs fields) :
    ofEntries? specs (fields.map fun (key, value) => (.scalar (.str key), value)) =
      some (known specs fields) := by
  induction fields with
  | nil => rfl
  | cons field fields ih =>
    obtain ⟨key, value⟩ := field
    have hfield : fieldOfKey? specs (.scalar (.str key)) =
        some (specs.find? (·.names.contains key)) := rfl
    rw [List.map_cons, ofEntries?, hfield]
    cases hspec : specs.find? (·.names.contains key) with
    | none =>
      have hnone : ownOf? specs key = none := by rw [ownOf?, hspec]; rfl
      rw [NamedOnce, known_cons_of_none hnone] at h
      rw [ih h, known_cons_of_none hnone]
      rfl
    | some spec =>
      have hsome : ownOf? specs key = some spec.own := by rw [ownOf?, hspec]; rfl
      rw [NamedOnce, known_cons_of_some hsome, List.map_cons, List.nodup_cons] at h
      simp only [ih h.2, Option.bind_eq_bind, Option.bind_some, lookup_eq_none_of_not_mem h.1,
        Option.isSome_none, Bool.false_eq_true, if_false, known_cons_of_some hsome]

end Known

def isKnown (specs : List FieldSpec) (key : String) : Bool :=
  (specs.find? (·.names.contains key)).isSome

/-- No key occurs twice, and the known ones stand for the fields of their names. -/
def Knows (specs : List FieldSpec) (keys : List String) : Prop :=
  keys.Nodup ∧ ∀ key ∈ keys, ∀ spec ∈ specs.find? (·.names.contains key), spec.own = key

instance (specs : List FieldSpec) (keys : List String) : Decidable (Knows specs keys) :=
  inferInstanceAs (Decidable (_ ∧ _))

theorem Knows.sublist {specs : List FieldSpec} {keys keys' : List String} (h : Knows specs keys)
    (hsub : keys'.Sublist keys) : Knows specs keys' :=
  ⟨h.1.sublist hsub, fun key hkey => h.2 key (hsub.subset hkey)⟩

theorem known_ofJson {specs : List FieldSpec} {fields : List (String × Json)}
    (h : Knows specs (fields.map (·.1))) :
    known specs (fields.map fun (key, value) => (key, Tree.ofJson value)) =
      (fields.filter fun field => isKnown specs field.1).map fun (key, value) =>
        (key, Tree.ofJson value) := by
  induction fields with
  | nil => rfl
  | cons field fields ih =>
    rcases field with ⟨key, value⟩
    have hrest := ih (h.sublist (List.sublist_cons_self _ _))
    rw [List.map_cons, List.filter_cons, isKnown]
    cases hspec : specs.find? (·.names.contains key) with
    | none =>
      have hnone : ownOf? specs key = none := by
        rw [ownOf?, hspec, Option.map_none]
      rw [known_cons_of_none hnone, hrest]
      rfl
    | some spec =>
      have hown : ownOf? specs key = some key := by
        rw [ownOf?, hspec, Option.map_some, h.2 key List.mem_cons_self spec hspec]
      rw [known_cons_of_some hown, hrest]
      rfl

theorem ofEntries?_ofFields {specs : List FieldSpec} {fields : List (String × Json)}
    (h : Knows specs (fields.map (·.1))) :
    ofEntries? specs (Tree.ofFields fields) =
      some ((fields.filter fun field => isKnown specs field.1).map fun (key, value) =>
        (key, Tree.ofJson value)) := by
  have honce : NamedOnce specs (fields.map fun (key, value) => (key, Tree.ofJson value)) := by
    rw [NamedOnce, known_ofJson h, List.map_map]
    exact h.1.sublist (List.filter_sublist.map _)
  have hentries : Tree.ofFields fields =
      (fields.map fun (key, value) => (key, Tree.ofJson value)).map fun (key, value) =>
        (Tree.scalar (.str key), value) := by
    clear h honce
    induction fields with
    | nil => rfl
    | cons field fields ih => rw [Tree.ofFields, ih]; rfl
  rw [hentries, ofEntries?_eq_known honce, known_ofJson h]

/-- Every known field that is written shows in the record that is read. -/
theorem record?_ofPresent {specs : List FieldSpec} (fields : List (String × Json))
    (h : Knows specs (fields.map (·.1))) :
    ∃ record, (Tree.ofJson (Json.ofPresent fields)).record? specs = some record ∧
      ∀ name value, fields.lookup name = some value → isKnown specs name = true →
        record.Shows (Json.ofPresent fields).depth name value := by
  have hpresent := h.sublist ((List.filter_sublist (p := fun field => !field.2.isVoid)).map _)
  have hsorted := Fields.sorted_ofList (fields.filter fun field => !field.2.isVoid)
  have hkeys : Knows specs
      ((Fields.ofList (fields.filter fun field => !field.2.isVoid)).map (·.1)) := by
    refine ⟨Fields.nodup_keys hsorted, fun key hkey => ?_⟩
    obtain ⟨field, hfield, rfl⟩ := List.mem_map.mp hkey
    exact hpresent.2 _ (List.mem_map_of_mem (Fields.mem_of_mem_ofList hfield))
  have hlookup : ∀ name, (Fields.ofList (fields.filter fun field => !field.2.isVoid)).lookup name =
      (fields.lookup name).filter (!·.isVoid) := fun name => by
    rw [Fields.lookup_ofList hpresent.1, lookup_filter h.1 (!·.isVoid)]
  refine ⟨_, ofEntries?_ofFields hkeys, fun name value hvalue hknown => ⟨?_, fun hv => ?_⟩⟩
  · rw [lookup_map, lookup_filter_key hknown, hlookup, hvalue]
    cases hv : value.isVoid <;> simp [Option.filter, hv]
  · have hpresent : (fields.lookup name).filter (!·.isVoid) = some value := by
      simp [hvalue, Option.filter, hv]
    have hmem := mem_of_lookup_eq_some ((hlookup name).trans hpresent)
    exact Nat.lt_succ_of_le (Json.depthOfFields_le_iff.mp le_rfl _ hmem)

section Fields

variable {α : Type} {record : Record} {limit room : Nat} {name : String} {value : Json}
  {read : Tree → Option α}

theorem optional?_of_void (h : record.Shows limit name value) (hvoid : value.isVoid = true) :
    record.optional? name read = some none := by
  rw [optional?, h.lookup_eq, if_pos hvoid]

theorem optional?_of_read (h : record.Shows limit name value) (hvoid : value.isVoid = false)
    {x : α} (hread : read (Tree.ofJson value) = some x) :
    record.optional? name read = some (some x) := by
  have hpresent : (Tree.ofJson value).isPresent? = some true := by
    cases value <;> first | rfl | cases hvoid
  rw [optional?, h.lookup_eq, hvoid]
  simp only [Bool.false_eq_true, if_false, hpresent, hread, Option.map_some]

theorem nullable?_of_read (h : record.Shows limit name value) {x default : α}
    (hvoid : value.isVoid = true → x = default)
    (hread : value.isVoid = false → read (Tree.ofJson value) = some x) :
    record.nullable? name read default = some x := by
  rw [nullable?]
  cases hv : value.isVoid with
  | true => rw [optional?_of_void h hv, Option.map_some, Option.getD_none, hvoid hv]
  | false => rw [optional?_of_read h hv (hread hv), Option.map_some, Option.getD_some]

theorem optional?_text {text : String} (h : record.Shows limit name (.str text)) :
    record.optional? name Tree.string? = some (some text) :=
  optional?_of_read h rfl rfl

theorem optional?_string {text : Option String} (h : record.Shows limit name (.ofString? text)) :
    record.optional? name Tree.string? = some text := by
  cases text with
  | none => exact optional?_of_void h rfl
  | some text => exact optional?_text h

theorem optional?_wire [Wire α] [LawfulWire α] {x : α}
    (h : record.Shows limit name (Wire.toJson x)) :
    record.optional? name Tree.wire? = some (some x) :=
  optional?_of_read h rfl (LawfulWire.ofName?_name x)

theorem optional?_json {free : Option Json} (h : record.Shows limit name (.orNull free))
    (hfree : (Json.orNull free).Sorted) (hroom : limit ≤ room + 1) :
    record.optional? name (Tree.json? room) = some (free.filter (!·.isVoid)) := by
  cases free with
  | none => exact optional?_of_void h rfl
  | some j =>
    cases hv : j.isVoid with
    | true => simpa [hv, Option.filter] using optional?_of_void h hv
    | false =>
      have hdepth := Nat.le_of_lt_succ (Nat.lt_of_lt_of_le (h.depth_lt hv) hroom)
      simpa [hv, Option.filter] using
        optional?_of_read h hv (Tree.json?_ofJson j room hfree hdepth)

theorem nullable?_bool {b : Bool} (h : record.Shows limit name (.bool b)) :
    record.nullable? name Tree.bool? false = some b :=
  nullable?_of_read h (fun hv => nomatch hv) fun _ => rfl

theorem nullable?_int32 {n : Int} (h : record.Shows limit name (.int n)) (hn : IsInt32 n) :
    record.nullable? name Tree.int32? 0 = some n := by
  refine nullable?_of_read h (fun hv => nomatch hv) fun _ => ?_
  have hn64 : n < wordSize 63 := Int.lt_of_lt_of_le hn.2 (by decide)
  have hscalar : (Scalar.num (.int n)).int? = some n := if_pos hn64
  rw [IsInt32] at hn
  exact (congrArg (Option.filter _) hscalar).trans (if_pos (decide_eq_true_iff.mpr hn))

variable {β : Type} {f : β → Json} {g : β → α}

theorem listOf?_ofJson {ys : List β} (hread : ∀ y ∈ ys, read (Tree.ofJson (f y)) = some (g y)) :
    Tree.listOf? read (Tree.ofJson (.arr (ys.map f))) = some (ys.map g) := by
  have hitems : (Tree.ofJson (.arr (ys.map f))).items? = some ((ys.map f).map Tree.ofJson) :=
    congrArg some (Tree.ofItems_eq_map _)
  rw [Tree.listOf?, hitems, Option.bind_some]
  clear hitems
  induction ys with
  | nil => rfl
  | cons y ys ih =>
    obtain ⟨hy, hys⟩ := List.forall_mem_cons.mp hread
    rw [List.map_cons, List.map_cons, List.mapM_cons, hy, ih hys]
    rfl

theorem depth_item_lt {items : List Json} {item : Json} (hitem : item ∈ items)
    (h : (Json.arr items).depth < limit) : item.depth + 1 < limit :=
  Nat.lt_of_le_of_lt (Nat.succ_le_succ (Json.depthOfItems_le_iff.mp le_rfl item hitem)) h

theorem depth_field_lt {fields : List (String × Json)} {field : String × Json}
    (hfield : field ∈ fields) (h : (Json.obj fields).depth < limit) : field.2.depth + 1 < limit :=
  Nat.lt_of_le_of_lt (Nat.succ_le_succ (Json.depthOfFields_le_iff.mp le_rfl field hfield)) h

theorem nullable?_list {ys : List β} (h : record.Shows limit name (.arr (ys.map f)))
    (hread : ∀ y ∈ ys, (f y).depth + 1 < limit → read (Tree.ofJson (f y)) = some (g y)) :
    record.nullable? name (Tree.listOf? read) [] = some (ys.map g) := by
  refine nullable?_of_read h (fun hv => ?_) fun hv => ?_
  · rw [List.map_eq_nil_iff, ← List.map_eq_nil_iff (f := f)]
    exact List.isEmpty_iff.mp hv
  · exact listOf?_ofJson fun y hy =>
      hread y hy (depth_item_lt (List.mem_map_of_mem hy) (h.depth_lt hv))

theorem nullable?_strings {texts : List String} (h : record.Shows limit name (.ofStrings texts)) :
    record.nullable? name Tree.strings? [] = some texts := by
  have hlist : record.nullable? name (Tree.listOf? Tree.string?) [] = some (texts.map id) :=
    nullable?_list h fun _ _ _ => rfl
  rw [List.map_id] at hlist
  exact hlist

theorem nullable?_names {names : List String} (h : record.Shows limit name (.ofStrings names))
    (hsorted : Names.Sorted names) : record.nullable? name Tree.names? [] = some names := by
  refine nullable?_of_read h (fun hv => ?_) fun _ => ?_
  · exact List.map_eq_nil_iff.mp (List.isEmpty_iff.mp hv)
  · have hstrings : Tree.strings? (Tree.ofJson (.ofStrings names)) = some (names.map id) :=
      listOf?_ofJson fun _ _ => rfl
    rw [Tree.names?, hstrings, List.map_id, Option.map_some, Names.ofList_eq_self hsorted]

theorem mapM_entries {f : α → Json} {fields : List (String × α)}
    (hread : ∀ field ∈ fields, read (Tree.ofJson (f field.2)) = some field.2) :
    (Tree.ofFields (fields.map fun (key, x) => (key, f x))).mapM
        (fun (key, value) => do return (← key.string?, ← read value)) = some fields := by
  induction fields with
  | nil => rfl
  | cons field fields ih =>
    obtain ⟨hfield, hfields⟩ := List.forall_mem_cons.mp hread
    rw [List.map_cons, Tree.ofFields, List.mapM_cons, ih hfields]
    simp only [hfield]
    rfl

theorem nullable?_fields {f : α → Json} {fields : List (String × α)}
    (h : record.Shows limit name (.obj (fields.map fun (key, x) => (key, f x))))
    (hsorted : Fields.Sorted fields)
    (hread : ∀ field ∈ fields, (f field.2).depth + 1 < limit →
      read (Tree.ofJson (f field.2)) = some field.2) :
    record.nullable? name (Tree.fieldsOf? read) [] = some fields := by
  refine nullable?_of_read h (fun hv => ?_) fun hv => ?_
  · exact List.map_eq_nil_iff.mp (List.isEmpty_iff.mp hv)
  · have hentries := mapM_entries fun field hfield => hread field hfield
      (depth_field_lt (List.mem_map_of_mem hfield) (h.depth_lt hv))
    rw [Tree.fieldsOf?, Tree.ofJson]
    refine (congrArg (Option.bind · _) hentries).trans ?_
    exact congrArg some (Fields.ofList_eq_self hsorted)

theorem nullable?_free {fields : List (String × Json)}
    (h : record.Shows limit name (.obj fields)) (hfields : (Json.obj fields).Sorted)
    (hroom : limit ≤ room + 2) :
    record.nullable? name (Tree.fieldsOf? (Tree.json? room)) [] = some fields := by
  have hid : fields.map (fun field => (field.1, id field.2)) = fields := List.map_id _
  refine nullable?_fields (f := id) (hid.symm ▸ h) hfields.1 fun field hfield hdepth => ?_
  exact Tree.json?_ofJson field.2 room (Json.sortedFields_iff.mp hfields.2 field hfield)
    (Nat.le_of_lt_succ (Nat.lt_of_succ_lt_succ (Nat.lt_of_lt_of_le hdepth hroom)))

theorem nullable?_frees {items : List Json} (h : record.Shows limit name (.arr items))
    (hitems : (Json.arr items).Sorted) (hroom : limit ≤ room + 2) :
    record.nullable? name (Tree.listOf? (Tree.json? room)) [] = some items := by
  have hid : items.map id = items := List.map_id _
  have hlist : record.nullable? name (Tree.listOf? (Tree.json? room)) [] = some (items.map id) := by
    refine nullable?_list (f := id) (hid.symm ▸ h) fun item hitem hdepth => ?_
    exact Tree.json?_ofJson item room (Json.sortedItems_iff.mp hitems item hitem)
      (Nat.le_of_lt_succ (Nat.lt_of_succ_lt_succ (Nat.lt_of_lt_of_le hdepth hroom)))
  rwa [hid] at hlist

end Fields

end Record

end ApiCatalog
