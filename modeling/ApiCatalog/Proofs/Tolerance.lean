import ApiCatalog.Definition.Reader
import ApiCatalog.Proofs.Record
import ApiCatalog.Proofs.Text.Blank

/-! # What definitions tolerate

An object may leave a field out or give it the value null, may hold fields that no one knows, and
may name a field by any of its names. Objects that differ in nothing else describe the same
definition.
-/

namespace ApiCatalog

namespace Record

variable {specs : List FieldSpec} {fields fields' : List (String × Tree)}

/-- Objects that say the same: known fields that have values on both sides have values that say the
same, under any of their names. All others are null or are not there. -/
inductive SaysSame (specs : List FieldSpec) (same : String → Tree → Tree → Prop) :
    List (String × Tree) → List (String × Tree) → Prop
  | nil : SaysSame specs same [] []
  | field {own key key' : String} {value value' : Tree} {fields fields' : List (String × Tree)} :
      ownOf? specs key = some own → ownOf? specs key' = some own → same own value value' →
      SaysSame specs same fields fields' →
      SaysSame specs same ((key, value) :: fields) ((key', value') :: fields')
  | nullLeft {key own : String} {fields fields' : List (String × Tree)} :
      ownOf? specs key = some own → SaysSame specs same fields fields' →
      SaysSame specs same ((key, .scalar .null) :: fields) fields'
  | nullRight {key own : String} {fields fields' : List (String × Tree)} :
      ownOf? specs key = some own → SaysSame specs same fields fields' →
      SaysSame specs same fields ((key, .scalar .null) :: fields')
  | unknownLeft {key : String} {value : Tree} {fields fields' : List (String × Tree)} :
      ownOf? specs key = none → SaysSame specs same fields fields' →
      SaysSame specs same ((key, value) :: fields) fields'
  | unknownRight {key : String} {value : Tree} {fields fields' : List (String × Tree)} :
      ownOf? specs key = none → SaysSame specs same fields fields' →
      SaysSame specs same fields ((key, value) :: fields')

/-- What is found on both sides says the same, where what is null is taken as absent. -/
inductive FindsSame (same : Tree → Tree → Prop) : Option Tree → Option Tree → Prop
  | absent {found found' : Option Tree} : found = none ∨ found = some (.scalar .null) →
      found' = none ∨ found' = some (.scalar .null) → FindsSame same found found'
  | present {value value' : Tree} : same value value' →
      FindsSame same (some value) (some value')

section Finds

variable {same : Tree → Tree → Prop} {found found' : Option Tree} {record : Record}
  {own name : String}

theorem FindsSame.swap (h : FindsSame same found found') :
    FindsSame (fun value value' => same value' value) found' found := by
  cases h with
  | absent h h' => exact .absent h' h
  | present h => exact .present h

theorem FindsSame.cons_null (h : FindsSame same (record.lookup name) found)
    (hown : own ∉ record.map (·.1)) :
    FindsSame same (((own, .scalar .null) :: record).lookup name) found := by
  by_cases hname : name = own
  · subst hname
    rw [lookup_eq_none_of_not_mem hown] at h
    rw [List.lookup_cons_self]
    cases h with
    | absent _ h => exact .absent (.inr rfl) h
  · rwa [List.lookup_cons, beq_false_of_ne hname]

end Finds

theorem SaysSame.findsSame {same : String → Tree → Tree → Prop}
    (h : SaysSame specs same fields fields') (honce : NamedOnce specs fields)
    (honce' : NamedOnce specs fields') (name : String) :
    FindsSame (same name) ((known specs fields).lookup name)
      ((known specs fields').lookup name) := by
  induction h with
  | nil => exact .absent (.inl rfl) (.inl rfl)
  | field hsome hsome' hsame _ ih =>
    rw [NamedOnce, known_cons_of_some hsome, List.map_cons, List.nodup_cons] at honce
    rw [NamedOnce, known_cons_of_some hsome', List.map_cons, List.nodup_cons] at honce'
    rw [known_cons_of_some hsome, known_cons_of_some hsome', List.lookup_cons, List.lookup_cons]
    split
    · rename_i hname
      exact .present (beq_iff_eq.mp hname ▸ hsame)
    · exact ih honce.2 honce'.2
  | nullLeft hsome _ ih =>
    rw [NamedOnce, known_cons_of_some hsome, List.map_cons, List.nodup_cons] at honce
    rw [known_cons_of_some hsome]
    exact (ih honce.2 honce').cons_null honce.1
  | nullRight hsome _ ih =>
    rw [NamedOnce, known_cons_of_some hsome, List.map_cons, List.nodup_cons] at honce'
    rw [known_cons_of_some hsome]
    exact ((ih honce honce'.2).swap.cons_null honce'.1).swap
  | unknownLeft hnone _ ih =>
    rw [NamedOnce, known_cons_of_none hnone] at honce
    rw [known_cons_of_none hnone]
    exact ih honce honce'
  | unknownRight hnone _ ih =>
    rw [NamedOnce, known_cons_of_none hnone] at honce'
    rw [known_cons_of_none hnone]
    exact ih honce honce'

section Read

variable {α : Type} {record record' : Record} {name : String} {same : Tree → Tree → Prop}

theorem optional?_congr {read read' : Tree → Option α}
    (h : FindsSame same (record.lookup name) (record'.lookup name))
    (hsame : ∀ value value', same value value' →
      value.isPresent? = value'.isPresent? ∧ read value = read' value') :
    record.optional? name read = record'.optional? name read' := by
  have habsent : ∀ {record : Record} {read : Tree → Option α},
      record.lookup name = none ∨ record.lookup name = some (.scalar .null) →
        record.optional? name read = some none := by
    rintro record read (h | h)
    · rw [optional?, h]
    · rw [optional?, h]
      rfl
  generalize hfound : record.lookup name = found at h
  generalize hfound' : record'.lookup name = found' at h
  cases h with
  | absent h h' => rw [habsent (hfound ▸ h), habsent (hfound' ▸ h')]
  | @present value value' h =>
    obtain ⟨hpresent, hread⟩ := hsame value value' h
    rw [optional?, optional?, hfound, hfound']
    simp only [hpresent, hread]

end Read

end Record

namespace Tree

def object (fields : List (String × Tree)) : Tree :=
  .map (fields.map fun (key, value) => (.scalar (.str key), value))

inductive SaysSame (specs : List FieldSpec) (same : String → Tree → Tree → Prop) :
    Tree → Tree → Prop
  | object {fields fields' : List (String × Tree)} : Record.NamedOnce specs fields →
      Record.NamedOnce specs fields' → Record.SaysSame specs same fields fields' →
      SaysSame specs same (object fields) (object fields')

variable {specs : List FieldSpec} {same : String → Tree → Tree → Prop} {t t' : Tree}

theorem SaysSame.exists_record (h : SaysSame specs same t t') : ∃ record record',
    t.record? specs = some record ∧ t'.record? specs = some record' ∧
      ∀ name, Record.FindsSame (same name) (record.lookup name) (record'.lookup name) := by
  obtain ⟨honce, honce', hsame⟩ := h
  exact ⟨_, _, Record.ofEntries?_eq_known honce, Record.ofEntries?_eq_known honce',
    fun name => hsame.findsSame honce honce' name⟩

/-- Objects whose values are equal but for what is null are read alike. -/
theorem SaysSame.exists_record_of_eq (h : SaysSame specs (fun _ => Eq) t t') :
    ∃ record record', t.record? specs = some record ∧ t'.record? specs = some record' ∧
      ∀ {α : Type} (name : String) (read : Tree → Option α),
        record.optional? name read = record'.optional? name read := by
  obtain ⟨record, record', hrecord, hrecord', hfinds⟩ := h.exists_record
  refine ⟨record, record', hrecord, hrecord', fun name read => ?_⟩
  exact Record.optional?_congr (hfinds name) fun value value' he => he ▸ ⟨rfl, rfl⟩

end Tree

section Entries

variable {room : Nat} {t t' : Tree}

theorem MemberDraft.ofTree?_congr (h : t.SaysSame fields (fun _ => Eq) t') :
    ofTree? t = ofTree? t' := by
  obtain ⟨record, record', hrecord, hrecord', hoptional⟩ := h.exists_record_of_eq
  rw [ofTree?, ofTree?, hrecord, hrecord', Option.bind_eq_bind, Option.bind_some, Option.bind_some]
  simp only [hoptional]

theorem PageDraft.ofTree?_congr (h : t.SaysSame fields (fun _ => Eq) t') :
    ofTree? room t = ofTree? room t' := by
  obtain ⟨record, record', hrecord, hrecord', hoptional⟩ := h.exists_record_of_eq
  rw [ofTree?, ofTree?, hrecord, hrecord', Option.bind_eq_bind, Option.bind_some, Option.bind_some]
  simp only [Record.nullable?, hoptional]

theorem PlanDraft.ofTree?_congr (h : t.SaysSame fields (fun _ => Eq) t') :
    ofTree? room t = ofTree? room t' := by
  obtain ⟨record, record', hrecord, hrecord', hoptional⟩ := h.exists_record_of_eq
  rw [ofTree?, ofTree?, hrecord, hrecord', Option.bind_eq_bind, Option.bind_some, Option.bind_some]
  simp only [Record.nullable?, hoptional]

end Entries

theorem mapM_congr {α β : Type} {r : α → α → Prop} {read : α → Option β}
    (hread : ∀ x y, r x y → read x = read y) {xs ys : List α} (h : List.Forall₂ r xs ys) :
    xs.mapM read = ys.mapM read := by
  induction h with
  | nil => rfl
  | cons hxy _ ih => rw [List.mapM_cons, List.mapM_cons, hread _ _ hxy, ih]

namespace DefinitionDraft

def sections : List (String × List FieldSpec) :=
  [("members", MemberDraft.fields), ("pages", PageDraft.fields), ("plans", PlanDraft.fields)]

/-- Values of a field of a definition that say the same: they are equal, or lists of objects that
say the same. -/
inductive SaysSame : String → Tree → Tree → Prop
  | equal (name : String) (value : Tree) : SaysSame name value value
  | entries {name : String} {specs : List FieldSpec} {positional : Bool}
      {items items' : List Tree} : (name, specs) ∈ sections →
      List.Forall₂ (Tree.SaysSame specs fun _ => Eq) items items' →
      SaysSame name (.list positional items) (.list positional items')

variable {name : String} {value value' : Tree}

theorem SaysSame.eq_of_notMem (h : SaysSame name value value')
    (hname : name ∉ sections.map (·.1)) : value = value' := by
  cases h with
  | equal => rfl
  | entries hmem => exact absurd (List.mem_map_of_mem hmem) hname

/-- Where a field holds entries, these are read alike if objects that say the same are. -/
theorem SaysSame.listOf?_eq {α : Type} {specs : List FieldSpec} {read : Tree → Option α}
    (h : SaysSame name value value')
    (hspecs : ∀ specs', (name, specs') ∈ sections → specs' = specs)
    (hread : ∀ t t', Tree.SaysSame specs (fun _ => Eq) t t' → read t = read t') :
    value.isPresent? = value'.isPresent? ∧
      Tree.listOf? read value = Tree.listOf? read value' := by
  cases h with
  | equal => exact ⟨rfl, rfl⟩
  | entries hmem hitems =>
    obtain rfl := hspecs _ hmem
    exact ⟨rfl, mapM_congr hread hitems⟩

theorem ofTree?_congr {limit : Nat} {t t' : Tree} (h : t.SaysSame fields SaysSame t') :
    ofTree? limit t = ofTree? limit t' := by
  obtain ⟨record, record', hrecord, hrecord', hfinds⟩ := h.exists_record
  have hplain : ∀ {α : Type} (name : String) (read : Tree → Option α),
      name ∉ sections.map (·.1) → record.optional? name read = record'.optional? name read :=
    fun name read hname => Record.optional?_congr (hfinds name) fun value value' hsame =>
      hsame.eq_of_notMem hname ▸ ⟨rfl, rfl⟩
  have hmembers : record.optional? "members" (Tree.listOf? MemberDraft.ofTree?) =
      record'.optional? "members" (Tree.listOf? MemberDraft.ofTree?) :=
    Record.optional?_congr (hfinds _) fun _ _ hsame =>
      hsame.listOf?_eq (by simp [sections]) fun _ _ => MemberDraft.ofTree?_congr
  have hpages : record.optional? "pages" (Tree.listOf? (PageDraft.ofTree? (limit - 3))) =
      record'.optional? "pages" (Tree.listOf? (PageDraft.ofTree? (limit - 3))) :=
    Record.optional?_congr (hfinds _) fun _ _ hsame =>
      hsame.listOf?_eq (by simp [sections]) fun _ _ => PageDraft.ofTree?_congr
  have hplans : record.optional? "plans" (Tree.listOf? (PlanDraft.ofTree? (limit - 3))) =
      record'.optional? "plans" (Tree.listOf? (PlanDraft.ofTree? (limit - 3))) :=
    Record.optional?_congr (hfinds _) fun _ _ hsame =>
      hsame.listOf?_eq (by simp [sections]) fun _ _ => PlanDraft.ofTree?_congr
  rw [ofTree?, ofTree?, hrecord, hrecord', Option.bind_eq_bind, Option.bind_some, Option.bind_some]
  simp (disch := decide) only [Record.nullable?, hmembers, hpages, hplans, hplain]

end DefinitionDraft

namespace Json.Reader

theorem exists_of_value_eq_map {fuel : Nat} {cs rest : List Char} {entries : List (Tree × Tree)}
    (h : value fuel cs = some (.map entries, rest)) : ∃ tail, dropSpace cs = '\x7b' :: tail := by
  cases fuel with
  | zero => cases h
  | succ fuel =>
    rw [value] at h
    split at h
    case h_3 tail hdrop => exact ⟨tail, hdrop⟩
    case h_2 =>
      split at h
      · cases h
      · obtain ⟨_, -, he⟩ := Option.map_eq_some_iff.mp h
        cases he
    all_goals
      obtain ⟨_, -, he⟩ := Option.map_eq_some_iff.mp h
      cases he

theorem isBlank_of_isSpace {c : Char} (h : isSpace c = true) : Text.isBlank c = true := by
  simp only [isSpace, Bool.or_eq_true, beq_iff_eq] at h
  rcases h with ((rfl | rfl) | rfl) | rfl <;> rfl

end Json.Reader

namespace Definition

variable {bytes bytes' : List UInt8} {cs cs' : List Char} {t t' : Tree}

theorem exists_dropBlank_of_tree? {entries : List (Tree × Tree)}
    (h : Json.tree? (Text.dropBlank cs) = some (.map entries)) :
    ∃ tail, Text.dropBlank cs = '\x7b' :: tail := by
  obtain ⟨⟨t, rest⟩, hvalue, hend⟩ := Option.bind_eq_some_iff.mp h
  obtain ⟨-, hmap⟩ := Option.ite_none_right_eq_some.mp hend
  rw [Option.some.inj hmap] at hvalue
  obtain ⟨tail, hdrop⟩ := Json.Reader.exists_of_value_eq_map hvalue
  refine ⟨tail, ?_⟩
  generalize htext : Text.dropBlank cs = text at hdrop
  cases text with
  | nil => cases hdrop
  | cons c text =>
    have hspace : Json.Reader.isSpace c = false := by
      rw [Bool.eq_false_iff]
      intro hspace
      have hblank : Text.isBlank c = false := Text.head_dropBlank (by rw [htext]; rfl)
      rw [Json.Reader.isBlank_of_isSpace hspace] at hblank
      cases hblank
    rwa [Json.Reader.dropSpace, List.dropWhile_cons_of_neg (by simp [hspace])] at hdrop

theorem parse_of_tree? {entries : List (Tree × Tree)} (hbytes : Text.decodeUtf8 bytes = .ok cs)
    (htree : Json.tree? (Text.dropBlank cs) = some (.map entries)) :
    parse bytes =
      match DefinitionDraft.ofTree? Json.depthLimit (.map entries) with
      | some draft => draft.complete
      | none => .error .unreadable := by
  obtain ⟨tail, htext⟩ := exists_dropBlank_of_tree? htree
  rw [htext] at htree
  cases hread : DefinitionDraft.ofTree? Json.depthLimit (.map entries) <;>
    simp only [parse, hbytes, ofText, htext, draft?, htree, Option.bind_some, hread]

/-- Objects that say the same are texts of one definition, or of none. -/
theorem parse_congr (hbytes : Text.decodeUtf8 bytes = .ok cs)
    (hbytes' : Text.decodeUtf8 bytes' = .ok cs') (htree : Json.tree? (Text.dropBlank cs) = some t)
    (htree' : Json.tree? (Text.dropBlank cs') = some t')
    (h : t.SaysSame DefinitionDraft.fields DefinitionDraft.SaysSame t') :
    parse bytes = parse bytes' := by
  have hdraft : ∀ limit, DefinitionDraft.ofTree? limit t = DefinitionDraft.ofTree? limit t' :=
    fun limit => DefinitionDraft.ofTree?_congr h
  cases h with
  | object => rw [parse_of_tree? hbytes htree, parse_of_tree? hbytes' htree', ← Tree.object,
      ← Tree.object, hdraft]

/-- A reference under another name, with null and unknown fields on either side. -/
theorem parse_congr_username :
    let text := "\x7b\"name\":\"a\",\"version\":\"1\",\"tags\":null,\"x\":[]," ++
      "\"members\":[\x7b\"username\":\"ada\",\"source\":null,\"role\":\"USER\"\x7d]\x7d"
    let text' := "\x7b\"name\":\"a\",\"version\":\"1\",\"plans\":null," ++
      "\"members\":[\x7b\"reference\":\"ada\",\"y\":\x7b\x7d,\"role\":\"USER\"\x7d]\x7d"
    parse (Text.encodeUtf8 text) = parse (Text.encodeUtf8 text') ∧
      (parse (Text.encodeUtf8 text)).toOption.isSome = true := by
  intro text text'
  have htree : Json.tree? (Text.dropBlank text.toList) = some (.object
      [("name", .scalar (.str "a")), ("version", .scalar (.str "1")), ("tags", .scalar .null),
        ("x", .list true []), ("members", .list true [.object
          [("username", .scalar (.str "ada")), ("source", .scalar .null),
            ("role", .scalar (.str "USER"))]])]) := by
    simp only [text, String.reduceAppend, String.reduceToList]
    rfl
  have htree' : Json.tree? (Text.dropBlank text'.toList) = some (.object
      [("name", .scalar (.str "a")), ("version", .scalar (.str "1")), ("plans", .scalar .null),
        ("members", .list true [.object
          [("reference", .scalar (.str "ada")), ("y", .map []),
            ("role", .scalar (.str "USER"))]])]) := by
    simp only [text', String.reduceAppend, String.reduceToList]
    rfl
  have hmember : Tree.SaysSame MemberDraft.fields (fun _ => Eq)
      (.object [("username", .scalar (.str "ada")), ("source", .scalar .null),
        ("role", .scalar (.str "USER"))])
      (.object [("reference", .scalar (.str "ada")), ("y", .map []),
        ("role", .scalar (.str "USER"))]) :=
    .object (by decide +kernel) (by decide +kernel) <|
      .field rfl rfl rfl <| .nullLeft rfl <| .unknownRight rfl <| .field rfl rfl rfl .nil
  refine ⟨parse_congr (by decide +kernel) (by decide +kernel) htree htree' <|
    .object (by decide +kernel) (by decide +kernel) ?_, by decide +kernel⟩
  exact .field rfl rfl (.equal "name" _) <| .field rfl rfl (.equal "version" _) <|
    .nullLeft rfl <| .nullRight rfl <| .unknownLeft rfl <|
    .field rfl rfl (.entries List.mem_cons_self (.cons hmember .nil)) .nil

end Definition

end ApiCatalog
