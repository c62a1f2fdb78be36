import ApiCatalog.Proofs.SearchFilter.Parse

/-! # Filters for users

The filter for the users that a query is about has one structure for all queries. It is well formed
exactly if the name of the attribute it looks up is plain, whatever the query is.
-/

namespace ApiCatalog.SearchFilter

variable {objectclass name query rest : List Char}

theorem isName_objectclass : IsName "objectclass".toList := ⟨by decide, by decide, by simp [isMeta]⟩

theorem isName_cn : IsName "cn".toList := ⟨by decide, by decide, by simp [isMeta]⟩

theorem wellFormed_objectclass :
    (test "objectclass".toList ['='] (escape objectclass)).WellFormed :=
  .test isName_objectclass (isLiteral_escape _).1

theorem wellFormed_cn : (test "cn".toList ['='] (wordPattern query)).WellFormed :=
  .test isName_cn (isPattern_wordPattern _)

theorem text_forUsers : (forUsers objectclass name query).text =
    '(' :: '&' :: ((test "objectclass".toList ['='] (escape objectclass)).text ++
      '(' :: '|' :: ((test "cn".toList ['='] (wordPattern query)).text ++
        ((test name ['='] (escape (Text.trimChars query))).text ++ [')', ')']))) := by
  simp [forUsers, text, texts]

theorem wellFormed_forUsers (h : IsName name) : (forUsers objectclass name query).WellFormed := by
  have hname : (test name ['='] (escape (Text.trimChars query))).WellFormed :=
    .test h (isLiteral_escape _).1
  refine .all nofun fun part hpart => ?_
  simp only [List.mem_cons, List.not_mem_nil, or_false] at hpart
  rcases hpart with rfl | rfl
  · exact wellFormed_objectclass
  · refine .any nofun fun part hpart => ?_
    simp only [List.mem_cons, List.not_mem_nil, or_false] at hpart
    rcases hpart with rfl | rfl
    · exact wellFormed_cn
    · exact hname

theorem count_forUsers (c : Char) (h : c = '(' ∨ c = ')') :
    (forUsers objectclass name query).text.count c = name.count c + 5 := by
  have hvalue : ∀ {value : List Char}, IsPattern value → value.count c = 0 := fun hpattern => by
    obtain ⟨hopen, hclose⟩ := hpattern.count_eq_zero
    rcases h with rfl | rfl
    · exact hopen
    · exact hclose
  have hclass := hvalue (isLiteral_escape objectclass).1
  have hcn := hvalue (isPattern_wordPattern query)
  have hquery := hvalue (isLiteral_escape (Text.trimChars query)).1
  rw [text_forUsers]
  rcases h with rfl | rfl <;> simp [text, List.count_append, hclass, hcn, hquery]

theorem exists_reads_forUsers_iff (hne : name ≠ []) (hequals : '=' ∉ name) :
    (∃ f, Reads (forUsers objectclass name query).text f) ↔ ∀ c ∈ name, isMeta c = false := by
  constructor
  · rintro ⟨f, hf, htext⟩
    have hbalanced : name.count '(' = name.count ')' := by
      have hcount := hf.count_open
      rw [htext, count_forUsers _ (.inl rfl), count_forUsers _ (.inr rfl)] at hcount
      omega
    rw [text_forUsers, ← List.append_nil f.text] at htext
    obtain ⟨parts, hparts, hrest⟩ := hf.exists_parts (.inl rfl) htext
    obtain ⟨parts, hparts, hrest⟩ := wellFormed_objectclass.exists_rest hparts hrest
    obtain ⟨part, parts, hpart, -, hrest⟩ := exists_part hparts hrest
    obtain ⟨parts, hparts, hrest⟩ := hpart.exists_parts (.inr rfl) hrest
    obtain ⟨parts, hparts, hrest⟩ := wellFormed_cn.exists_rest hparts hrest
    rw [text, List.cons_append] at hrest
    obtain ⟨part, parts, hpart, -, hrest⟩ := exists_part hparts hrest
    simp only [List.append_assoc, List.cons_append, List.nil_append] at hrest
    exact (hpart.isName_of_text_eq hequals hbalanced hrest).2.2
  · intro hmeta
    exact ⟨_, wellFormed_forUsers ⟨hne, hequals, hmeta⟩, rfl⟩

theorem isName_of_attribute? (h : attribute? name = some (name, [])) : IsName name := by
  refine ⟨?_, (stops_attribute?.eq_append h).2⟩
  rintro rfl
  cases h

theorem filterAt_text (h : IsName name) (value rest : List Char) (fuel : Nat) :
    filterAt (fuel + 1) ((test name ['='] value).text ++ rest) =
      (test? (name ++ '=' :: (value ++ ')' :: rest))).bind fun (f, rest) => match rest with
        | ')' :: rest' => some (f, rest')
        | _ => none := by
  obtain ⟨c, cs, rfl, hand, hor, hnot, -⟩ := h.exists_cons
  have htext : (test (c :: cs) ['='] value).text ++ rest =
      '(' :: (c :: cs ++ '=' :: (value ++ ')' :: rest)) := by
    simp [text]
  rw [htext]
  exact filterAt_test (by simpa using hand) (by simpa using hor) (by simpa using hnot)

/-- A test is read up to the parenthesis that closes it, if it is read at all. -/
theorem filterAt_text_of_isLiteral {value : List Char} (h : IsName name) (hvalue : IsLiteral value)
    (rest : List Char) (fuel : Nat) :
    filterAt (fuel + 1) ((test name ['='] value).text ++ rest) =
      ((test? (name ++ '=' :: (value ++ ')' :: rest))).map Prod.fst).map fun f => (f, rest) := by
  rw [filterAt_text h]
  cases hread : test? (name ++ '=' :: (value ++ ')' :: rest)) with
  | none => rfl
  | some found =>
    obtain ⟨f, rest'⟩ := found
    obtain ⟨rfl, -⟩ := eq_test_of_test? h.2.1 hvalue.1 hvalue.2 hread
    rfl

theorem filterAt_text_of_attribute? {value : List Char} (h : attribute? name = some (name, []))
    (hvalue : IsPattern value) (rest : List Char) (fuel : Nat) :
    filterAt (fuel + 1) ((test name ['='] value).text ++ rest) =
      some (test name ['='] value, rest) := by
  have hname := isName_of_attribute? h
  rw [filterAt_text hname, (test?_eq_iff hname.2.1 hvalue).mpr h]
  rfl

/-- A directory reads the filter as it is meant, but for the name of the attribute, which may go
over into the operator. -/
theorem parse?_forUsers (h : IsName name) :
    parse? (forUsers objectclass name query).text =
      ((test? (name ++ '=' :: (escape (Text.trimChars query) ++ [')', ')', ')']))).map
        Prod.fst).map fun f => .all [.test "objectclass".toList ['='] (escape objectclass),
          .any [.test "cn".toList ['='] (wordPattern query), f]] := by
  have hclass : attribute? "objectclass".toList = some ("objectclass".toList, []) := by decide
  have hcn : attribute? "cn".toList = some ("cn".toList, []) := by decide
  obtain ⟨fuel, hfuel⟩ : ∃ fuel,
      2 * (forUsers objectclass name query).text.length + 2 = fuel + 8 := by
    refine ⟨2 * (forUsers objectclass name query).text.length - 6, ?_⟩
    rw [text_forUsers]
    simp only [List.length_cons, List.length_append]
    omega
  have hname := filterAt_text_of_isLiteral h (isLiteral_escape (Text.trimChars query))
    [')', ')'] (fuel + 1)
  generalize (test? (name ++ '=' :: (escape (Text.trimChars query) ++ [')', ')', ')']))).map
    Prod.fst = found at hname ⊢
  have hany : filterAt (fuel + 5) ('(' :: '|' ::
      ((test "cn".toList ['='] (wordPattern query)).text ++
        ((test name ['='] (escape (Text.trimChars query))).text ++ [')', ')']))) =
      (found.map fun f => .any [.test "cn".toList ['='] (wordPattern query), f]).map
        fun g => (g, [')']) := by
    rw [Option.map_map]
    exact filterAt_any_pair
      (filterAt_text_of_attribute? hcn (isPattern_wordPattern query) _ _) hname
  rw [parse?, hfuel, text_forUsers, filterAt_all_pair
    (filterAt_text_of_attribute? hclass (isLiteral_escape objectclass).1 _ _) hany]
  cases found <;> rfl

theorem exists_of_parse?_forUsers {f : SearchFilter} (h : IsName name)
    (hread : parse? (forUsers objectclass name query).text = some f) :
    ∃ name' operator, name' ++ operator = name ++ ['='] ∧
      f = .all [.test "objectclass".toList ['='] (escape objectclass),
        .any [.test "cn".toList ['='] (wordPattern query),
          .test name' operator (escape (Text.trimChars query))]] := by
  have hvalue := isLiteral_escape (Text.trimChars query)
  rw [parse?_forUsers h] at hread
  obtain ⟨_, hpart, rfl⟩ := Option.map_eq_some_iff.mp hread
  obtain ⟨⟨part, rest⟩, htest, rfl⟩ := Option.map_eq_some_iff.mp hpart
  obtain ⟨-, name', operator, hsplit, rfl⟩ := eq_test_of_test? h.2.1 hvalue.1 hvalue.2 htest
  exact ⟨name', operator, hsplit, rfl⟩

theorem parse?_text_forUsers_iff (h : IsName name) :
    parse? (forUsers objectclass name query).text = some (forUsers objectclass name query) ↔
      attribute? name = some (name, []) := by
  have hvalue := isLiteral_escape (Text.trimChars query)
  have hiff : test? (name ++ '=' :: (escape (Text.trimChars query) ++ [')', ')', ')'])) =
      some (.test name ['='] (escape (Text.trimChars query)), [')', ')', ')']) ↔
        attribute? name = some (name, []) := test?_eq_iff h.2.1 hvalue.1
  rw [parse?_forUsers h, ← hiff]
  constructor
  · intro hread
    obtain ⟨_, hmap, hpart⟩ := Option.map_eq_some_iff.mp hread
    obtain ⟨⟨part, rest⟩, htest, rfl⟩ := Option.map_eq_some_iff.mp hmap
    obtain ⟨rfl, -⟩ := eq_test_of_test? h.2.1 hvalue.1 hvalue.2 htest
    simp only [forUsers, all.injEq, List.cons.injEq, any.injEq, and_true, true_and] at hpart
    rw [htest, hpart]
  · intro htest
    rw [htest]
    rfl

end ApiCatalog.SearchFilter
