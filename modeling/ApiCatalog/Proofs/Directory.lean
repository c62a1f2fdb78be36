import ApiCatalog.Identity.Directory
import ApiCatalog.Proofs.SearchFilter.Users
import ApiCatalog.Proofs.Validation

/-! # Searches of a directory

The filter of a search keeps its structure for all queries, provided the attribute that identifies
the users has a plain name. A configuration that is not refused says which attribute that is, but
not that its name is plain.
-/

namespace ApiCatalog

open SearchFilter (IsLiteral IsName IsPattern Reads attribute? escape isMeta unescape? wordPattern)

namespace DirectoryConfig

variable {config : DirectoryConfig} {query : String}

/-- The name of an attribute within the text in front of an equals sign, which may begin with
parentheses and have blank characters around it and them. -/
inductive Names (before : List Char) : List Char → Prop
  | named {front parens gap name back : List Char} :
      before = front ++ (parens ++ (gap ++ (name ++ back))) → front.all Text.isBlank = true →
      (∀ c ∈ parens, c = '(') → gap.all Text.isBlank = true → name ≠ [] →
      back.all Text.isBlank = true → Names before name
  | unnamed : (∀ c ∈ before, c = '(' ∨ Text.isBlank c = true) → Names before "uid".toList

theorem Names.ne_nil {before name : List Char} (h : Names before name) : name ≠ [] := by
  cases h with
  | named _ _ _ _ hne => exact hne
  | unnamed => decide

theorem Names.notMem {before name : List Char} (h : Names before name) (hbefore : '=' ∉ before) :
    '=' ∉ name := by
  cases h with
  | named htext =>
    refine fun hmem => hbefore ?_
    rw [htext]
    simp [hmem]
  | unnamed => decide

/-- The attribute is named in front of the first equals sign, or is `uid`. -/
theorem names_identifier (config : DirectoryConfig) :
    Names (config.userSearchFilter.toList.takeWhile (· != '=')) config.identifier.toList := by
  generalize hbefore : config.userSearchFilter.toList.takeWhile (· != '=') = before
  obtain ⟨front, back, hfront, hback, hsplit, -⟩ := Text.exists_trimChars before
  obtain ⟨gap, back', hgap, hback', hrest, -⟩ :=
    Text.exists_trimChars ((Text.trimChars before).dropWhile (· == '('))
  have hparens : ∀ c ∈ (Text.trimChars before).takeWhile (· == '('), c = '(' := fun c hc =>
    beq_iff_eq.mp (List.all_eq_true.mp List.all_takeWhile c hc)
  have hcut := List.takeWhile_append_dropWhile (p := (· == '(')) (l := Text.trimChars before)
  rw [identifier, hbefore]
  generalize (Text.trimChars before).takeWhile (· == '(') = parens at hparens hcut
  generalize (Text.trimChars before).dropWhile (· == '(') = rest at hrest hcut ⊢
  generalize Text.trimChars rest = name at hrest ⊢
  rw [← hcut, hrest] at hsplit
  cases name with
  | nil =>
    refine .unnamed fun c hc => ?_
    simp only [hsplit, List.nil_append, List.mem_append] at hc
    rcases hc with hc | ((hc | hc | hc) | hc)
    · exact .inr (List.all_eq_true.mp hfront c hc)
    · exact .inl (hparens c hc)
    · exact .inr (List.all_eq_true.mp hgap c hc)
    · exact .inr (List.all_eq_true.mp hback' c hc)
    · exact .inr (List.all_eq_true.mp hback c hc)
  | cons c name =>
    have hback : (back' ++ back).all Text.isBlank = true := by
      rw [List.all_append, hback', hback]
      rfl
    rw [List.isEmpty_cons, if_neg Bool.false_ne_true, String.toList_ofList]
    exact .named (by simpa using hsplit) hfront hparens hgap (List.cons_ne_nil c name) hback

theorem identifier_ne (config : DirectoryConfig) : config.identifier.toList ≠ [] :=
  (names_identifier config).ne_nil

theorem notMem_identifier (config : DirectoryConfig) : '=' ∉ config.identifier.toList := by
  refine (names_identifier config).notMem fun hmem => ?_
  have hne := List.all_eq_true.mp List.all_takeWhile _ hmem
  revert hne
  decide

theorem isName_identifier (h : ∀ c ∈ config.identifier.toList, isMeta c = false) :
    IsName config.identifier.toList :=
  ⟨identifier_ne config, notMem_identifier config, h⟩

/-- Every query gives a filter of the same structure, whose values stand for the query and for its
words. A directory that reads the filter at all reads it so, but may take the end of the name for a
part of the operator. -/
theorem searchFilter_reads (config : DirectoryConfig)
    (hplain : ∀ c ∈ config.identifier.toList, isMeta c = false) (query : String) :
    ∃ objectclass pattern value,
      (∀ filter, Reads (config.searchFilter query).text filter ↔
        filter = .all [.test "objectclass".toList ['='] objectclass,
          .any [.test "cn".toList ['='] pattern,
            .test config.identifier.toList ['='] value]]) ∧
      (IsLiteral objectclass ∧
        unescape? objectclass = some (Text.encodeUtf8 config.userSearchObjectclass)) ∧
      (IsLiteral value ∧ unescape? value = some (Text.encodeUtf8 (Text.trim query))) ∧
      (IsPattern pattern ∧
        pattern = '*' :: (Text.words query).flatMap (fun word => escape word.toList ++ ['*']) ∧
        pattern.count '*' = (Text.words query).length + 1 ∧
        (pattern.splitOn '*').map unescape? =
          some [] :: (Text.words query).map (fun word => some (Text.encodeUtf8 word)) ++
            [some []]) ∧
      (∀ filter, SearchFilter.parse? (config.searchFilter query).text = some filter →
        ∃ name operator, name ++ operator = config.identifier.toList ++ ['='] ∧
          filter = .all [.test "objectclass".toList ['='] objectclass,
            .any [.test "cn".toList ['='] pattern, .test name operator value]]) ∧
      (attribute? config.identifier.toList = some (config.identifier.toList, []) →
        SearchFilter.parse? (config.searchFilter query).text =
          some (config.searchFilter query)) := by
  have hname := isName_identifier hplain
  refine ⟨escape config.userSearchObjectclass.toList, wordPattern query.toList,
    escape (Text.trimChars query.toList),
    fun filter => (SearchFilter.wellFormed_forUsers hname).reads_text_iff,
    ⟨SearchFilter.isLiteral_escape _, ?_⟩, ⟨SearchFilter.isLiteral_escape _, ?_⟩,
    ⟨SearchFilter.isPattern_wordPattern _, SearchFilter.wordPattern_eq query,
      SearchFilter.count_wordPattern query, SearchFilter.splitOn_wordPattern query⟩,
    fun filter hread => ?_, (SearchFilter.parse?_text_forUsers_iff hname).mpr⟩
  · rw [SearchFilter.unescape?_escape, Text.encodeUtf8_eq]
  · rw [SearchFilter.unescape?_escape, Text.trim, Text.encodeUtf8_ofList]
  · exact SearchFilter.exists_of_parse?_forUsers hname hread

/-- The query cannot end the value that it stands in. -/
theorem searchFilter_reads_parentheses :
    let config : DirectoryConfig := {}
    let query := " j*)(uid=* doe"
    (∃ objectclass pattern value, unescape? value = some (Text.encodeUtf8 "j*)(uid=* doe") ∧
      ∀ filter, Reads (config.searchFilter query).text filter ↔
        filter = .all [.test "objectclass".toList ['='] objectclass,
          .any [.test "cn".toList ['='] pattern, .test "uid".toList ['='] value]]) ∧
      String.ofList (config.searchFilter query).text =
        "(&(objectclass=person)(|(cn=*j\\2a\\29\\28uid=\\2a*doe*)" ++
          "(uid=j\\2a\\29\\28uid=\\2a doe)))" := by
  intro config query
  have hidentifier : config.identifier = "uid" := by decide +kernel
  have htrim : Text.trim query = "j*)(uid=* doe" := by decide +kernel
  obtain ⟨objectclass, pattern, value, hreads, -, ⟨-, hvalue⟩, -⟩ :=
    searchFilter_reads config (by simp [hidentifier, isMeta]) query
  rw [htrim] at hvalue
  rw [hidentifier] at hreads
  exact ⟨⟨objectclass, pattern, value, hvalue, hreads⟩, by decide +kernel⟩

theorem identifier_of_name {name after : List Char} (hname : IsName name)
    (htrimmed : Text.Trimmed name)
    (hfilter : config.userSearchFilter.toList = name ++ '=' :: after ∨
      config.userSearchFilter.toList = '(' :: (name ++ '=' :: after)) :
    config.identifier.toList = name := by
  obtain ⟨c, cs, rfl, -, -, -, hopen, -⟩ := hname.exists_cons
  have hopened : Text.Trimmed ('(' :: c :: cs) := by
    refine ⟨by rintro _ ⟨⟩; rfl, fun d hd => htrimmed.last d ?_⟩
    rwa [List.getLast?_cons_cons] at hd
  have hname' : Text.trimChars ((c :: cs).dropWhile (· == '(')) = c :: cs := by
    rw [List.dropWhile_cons_of_neg (by simp [hopen]), htrimmed.trimChars_eq]
  rw [identifier]
  rcases hfilter with hfilter | hfilter
  · rw [hfilter, Text.takeWhile_append_cons hname.2.1, htrimmed.trimChars_eq, hname']
    exact String.toList_ofList
  · have hequals : '=' ∉ '(' :: c :: cs := by simpa using hname.2.1
    rw [hfilter, ← List.cons_append, Text.takeWhile_append_cons hequals, hopened.trimChars_eq,
      List.dropWhile_cons_of_pos (by rfl), hname']
    exact String.toList_ofList

theorem parse?_userQuery (config : DirectoryConfig) (query : String) :
    SearchFilter.parse? (config.userQuery query).filter.toList =
      SearchFilter.parse? (config.searchFilter query).text := by
  rw [userQuery, String.toList_ofList]

theorem search_of_parse?_eq_none (h : SearchFilter.parse? (config.searchFilter query).text = none)
    (network : Directory.Network) : config.search network query = [] := by
  rw [search, ask, parse?_userQuery, h, Option.isSome_none, if_neg Bool.false_ne_true,
    List.map_nil, ite_self]

/-- A query is sent as it is to a server that lets the caller in, if the attribute that identifies
the users is one. -/
theorem search_of_attribute (h : attribute? config.identifier.toList =
      some (config.identifier.toList, [])) (network : Directory.Network)
    (hquery : Text.isBlankText query = false) :
    config.search network query =
      ((config.server? network).map fun server =>
        (server.ask config.caller (config.userQuery query)).map config.user).getD [] := by
  have hread : SearchFilter.parse? (config.searchFilter query).text =
      some (config.searchFilter query) :=
    (SearchFilter.parse?_text_forUsers_iff (SearchFilter.isName_of_attribute? h)).mpr h
  rw [search, hquery, if_neg Bool.false_ne_true, ask, parse?_userQuery, hread,
    Option.isSome_some, if_pos rfl]
  cases config.server? network with
  | none => rfl
  | some server => rfl

end DirectoryConfig

namespace Config

variable {config : Config}

theorem contains_of_validate (h : config.validate = .ok ()) {directory : DirectoryConfig}
    (hdirectory : .directory directory ∈ config.providers) :
    '=' ∈ directory.userSearchFilter.toList := by
  by_contra hnone
  obtain ⟨index, hsubset⟩ := exists_problems_subset hdirectory
  have hmem : .invalidSearchFilter index ∈ config.problems := hsubset <| by
    simp [ProviderConfig.problems, DirectoryConfig.problems, ConfigProblem.when, hnone]
  rw [problems_eq_nil_of_validate h] at hmem
  cases hmem

end Config

/-- A configuration that is not refused names an attribute, by which users are found if it is plain.
If it is not, no query gives a filter that is well formed. -/
theorem validate_searches (config : Config) (h : config.validate = .ok ())
    (directory : DirectoryConfig) (hdirectory : .directory directory ∈ config.providers) :
    (∃ before after, directory.userSearchFilter.toList = before ++ '=' :: after ∧ '=' ∉ before ∧
      DirectoryConfig.Names before directory.identifier.toList) ∧
    directory.identifier ≠ "" ∧ '=' ∉ directory.identifier.toList ∧
    (∀ query, (∃ filter, Reads (directory.searchFilter query).text filter) ↔
      ∀ c ∈ directory.identifier.toList, isMeta c = false) ∧
    ((∀ c ∈ directory.identifier.toList, isMeta c = false) → ∀ query,
      Reads (directory.searchFilter query).text (directory.searchFilter query) ∧
      (SearchFilter.parse? (directory.searchFilter query).text =
          some (directory.searchFilter query) ↔
        attribute? directory.identifier.toList = some (directory.identifier.toList, []))) ∧
    (attribute? directory.identifier.toList = some (directory.identifier.toList, []) →
      ∀ network query, Text.isBlankText query = false →
        directory.search network query =
          ((directory.server? network).map fun server =>
            (server.ask directory.caller (directory.userQuery query)).map directory.user).getD
              []) ∧
    ∀ name after, IsName name → Text.Trimmed name →
      (directory.userSearchFilter.toList = name ++ '=' :: after ∨
        directory.userSearchFilter.toList = '(' :: (name ++ '=' :: after)) →
      directory.identifier.toList = name := by
  have hne := DirectoryConfig.identifier_ne directory
  have hequals := DirectoryConfig.notMem_identifier directory
  obtain ⟨before, after, hsplit, hbefore⟩ :=
    List.eq_append_cons_of_mem (Config.contains_of_validate h hdirectory)
  have hfront : directory.userSearchFilter.toList.takeWhile (· != '=') = before := by
    rw [hsplit, Text.takeWhile_append_cons hbefore]
  refine ⟨⟨before, after, hsplit, hbefore, hfront ▸ DirectoryConfig.names_identifier directory⟩,
    fun he => hne (by rw [he]; rfl), hequals,
    fun query => SearchFilter.exists_reads_forUsers_iff hne hequals,
    fun hplain query => ⟨⟨SearchFilter.wellFormed_forUsers
        (DirectoryConfig.isName_identifier hplain), rfl⟩,
      SearchFilter.parse?_text_forUsers_iff (DirectoryConfig.isName_identifier hplain)⟩,
    fun hattribute network _ hquery =>
      DirectoryConfig.search_of_attribute hattribute network hquery,
    fun _ _ => DirectoryConfig.identifier_of_name⟩

/-- A compound filter is let through, and what stands in front of its first equals sign is taken for
the name of an attribute. Nobody is found by what comes of it. -/
theorem validate_searches_compound :
    let directory : DirectoryConfig := {
      contextSourceBase := "dc=example"
      userSearchFilter := "(&(objectClass=person)(uid=\x7b0\x7d))" }
    let config : Config := { providers := [.directory directory] }
    config.validate = .ok () ∧ directory.identifier = "&(objectClass" ∧
      String.ofList (directory.searchFilter "doe").text =
        "(&(objectclass=person)(|(cn=*doe*)(&(objectClass=doe)))" ∧
      (∀ query, ¬∃ filter, Reads (directory.searchFilter query).text filter) ∧
      ∀ network, directory.search network "doe" = [] := by
  intro directory config
  have hvalid : config.validate = .ok () := by decide +kernel
  have hidentifier : directory.identifier = "&(objectClass" := by decide +kernel
  obtain ⟨-, -, -, hreads, -⟩ :=
    validate_searches config hvalid directory List.mem_cons_self
  refine ⟨hvalid, hidentifier, by decide +kernel, fun query hread => ?_, fun network => ?_⟩
  · have hmeta := (hreads query).mp hread '&' (by simp [hidentifier])
    revert hmeta
    decide
  · have hnone : (SearchFilter.parse? (directory.searchFilter "doe").text).isNone = true := by
      decide +kernel
    exact DirectoryConfig.search_of_parse?_eq_none (Option.isNone_iff_eq_none.mp hnone) network

end ApiCatalog
