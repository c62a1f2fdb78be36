import ApiCatalog.Proofs.Identity

/-! # Whom a reference stands for

A reference to a member is resolved to a user of the source that is asked for, and to the user named
exactly wherever a provider that is asked lists one, also if the provider comes after others or the
user after similar ones. White space around a reference makes a difference only there: with it no
account is named exactly any more.
-/

namespace ApiCatalog

namespace Identities

/-- The providers that are asked for a reference: those of its source, or all. -/
def consulted (identities : Identities) : Option String → List Resolver
  | none => identities.resolvers
  | some source => identities.resolvers.filter (·.handles source)

/-- The users found for a reference, provider by provider. -/
def candidates (identities : Identities) (reference : String) (source : Option String) :
    List User :=
  (identities.consulted source).flatMap (·.search identities.network reference)

/-- The user whom the first provider of the source knows by a reference. -/
def retrieved? (identities : Identities) (reference : String) (source : Option String) :
    Option User :=
  source.bind fun source => identities.retrieve? source reference

variable {identities : Identities} {reference : String} {source : Option String} {user : User}

theorem resolve?_eq (identities : Identities) (reference : String) (source : Option String) :
    identities.resolve? reference source =
      (identities.retrieved? reference source).or
        (pick? reference (identities.candidates reference source)) := by
  cases source <;> rfl

section Pick

variable {found : List User}

theorem pick?_eq_none_iff : pick? reference found = none ↔ found = [] := by
  rw [pick?, Option.or_eq_none_iff, List.head?_eq_none_iff]
  constructor
  · exact And.right
  · rintro rfl
    exact ⟨rfl, rfl⟩

theorem mem_of_pick? (h : pick? reference found = some user) : user ∈ found := by
  rcases Option.or_eq_some_iff.mp h with hfind | ⟨-, hhead⟩
  · exact List.mem_of_find?_eq_some hfind
  · exact List.mem_of_mem_head? hhead

theorem exists_pick? (h : ∃ user ∈ found, user.isExactly reference = true) :
    ∃ user, pick? reference found = some user ∧ user.isExactly reference = true := by
  obtain ⟨user, hfind⟩ := Option.isSome_iff_exists.mp (List.find?_isSome.mpr h)
  have huser := List.find?_some hfind
  exact ⟨user, by rw [pick?, hfind, Option.some_or], huser⟩

theorem pick?_eq_head? (h : ∀ user ∈ found, user.isExactly reference = false) :
    pick? reference found = found.head? := by
  have hnone : found.find? (·.isExactly reference) = none :=
    List.find?_eq_none.mpr fun user huser => by simp [h user huser]
  rw [pick?, hnone, Option.none_or]

theorem pick?_eq_head?_iff :
    pick? reference found = found.head? ↔
      ((∃ user ∈ found, user.isExactly reference = true) →
        ∃ user ∈ found.head?, user.isExactly reference = true) := by
  constructor
  · intro h hexact
    rw [← h]
    exact exists_pick? hexact
  · intro h
    by_cases hexact : ∃ user ∈ found, user.isExactly reference = true
    · obtain ⟨user, hhead, huser⟩ := h hexact
      obtain ⟨rest, rfl⟩ := List.head?_eq_some_iff.mp hhead
      simp [pick?, huser]
    · exact pick?_eq_head? fun user hmem =>
        Bool.eq_false_iff.mpr fun huser => hexact ⟨user, hmem, huser⟩

end Pick

theorem mem_resolvers_of_mem_consulted {resolver : Resolver}
    (h : resolver ∈ identities.consulted source) : resolver ∈ identities.resolvers := by
  cases source with
  | none => exact h
  | some source => exact List.mem_of_mem_filter h

theorem exists_of_retrieved? (h : identities.retrieved? reference source = some user) :
    ∃ resolver ∈ identities.consulted source,
      resolver.retrieve? identities.network reference = some user := by
  obtain ⟨source, rfl, hsource⟩ := Option.bind_eq_some_iff.mp h
  rw [retrieve?] at hsource
  obtain ⟨resolver, hfind, hretrieve⟩ := Option.bind_eq_some_iff.mp hsource
  have hhandles := List.find?_some hfind
  have hmem : resolver ∈ identities.consulted (some source) :=
    List.mem_filter.mpr ⟨List.mem_of_find?_eq_some hfind, hhandles⟩
  exact ⟨resolver, hmem, hretrieve⟩

theorem Sound.source_of_resolve? (h : identities.Sound)
    (hresolve : identities.resolve? reference source = some user) :
    ∃ resolver ∈ identities.consulted source, user.source = resolver.source := by
  rw [resolve?_eq] at hresolve
  rcases Option.or_eq_some_iff.mp hresolve with hretrieved | ⟨-, hpick⟩
  · obtain ⟨resolver, hresolver, hretrieve⟩ := exists_of_retrieved? hretrieved
    have hsound := h resolver (mem_resolvers_of_mem_consulted hresolver)
    exact ⟨resolver, hresolver, hsound.source_of_retrieve? hretrieve⟩
  · obtain ⟨resolver, hresolver, hfound⟩ := List.mem_flatMap.mp (mem_of_pick? hpick)
    have hsound := h resolver (mem_resolvers_of_mem_consulted hresolver)
    exact ⟨resolver, hresolver, hsound.source_of_mem_search hfound⟩

theorem Sound.isExactly_of_retrieved? (h : identities.Sound)
    (hnetwork : identities.network.LooksUp reference) (htrim : Text.trim reference = reference)
    (hretrieved : identities.retrieved? reference source = some user) :
    user.isExactly reference = true := by
  obtain ⟨resolver, hresolver, hretrieve⟩ := exists_of_retrieved? hretrieved
  exact (h resolver (mem_resolvers_of_mem_consulted hresolver)).isExactly_of_retrieve? hnetwork
    htrim hretrieve

/-- A reference stands for the user named exactly if somebody is found who is. -/
theorem Sound.exists_resolve? (h : identities.Sound)
    (hnetwork : identities.network.LooksUp reference) (htrim : Text.trim reference = reference)
    (hexact : ∃ user ∈ identities.candidates reference source, user.isExactly reference = true) :
    ∃ user, identities.resolve? reference source = some user ∧
      user.isExactly reference = true := by
  rw [resolve?_eq]
  cases hretrieved : identities.retrieved? reference source with
  | some user => exact ⟨user, rfl, h.isExactly_of_retrieved? hnetwork htrim hretrieved⟩
  | none => exact exists_pick? hexact

theorem resolve?_eq_none_iff :
    identities.resolve? reference source = none ↔
      identities.retrieved? reference source = none ∧
        ∀ resolver ∈ identities.consulted source,
          resolver.search identities.network reference = [] := by
  rw [resolve?_eq, Option.or_eq_none_iff, pick?_eq_none_iff, candidates, List.flatMap_eq_nil_iff]

/-- In every catalog with a history, whatever the directories answer, a reference without white
space around it stands for a user of the source that is asked for, and for nobody if and only if
nobody is retrieved or found. Every roster finds its users in the order of their ids. Provided that
no directory takes the reference for the name of another entry, it stands for the user named exactly
if a roster that is asked lists the user, and for the first one found if nobody is named exactly. -/
theorem resolve?_prefers_exact (htrim : Text.trim reference = reference)
    (hblank : Text.isBlankText reference = false) (providers : List ProviderConfig)
    (network network' : Directory.Network) (history : List Event) (source : Option String) :
    let identities : Identities :=
      { ((Catalog.start (ofConfig providers network)).after history).identities with
        network := network' }
    let answer := identities.resolve? reference source
    let found := identities.candidates reference source
    (∀ user, answer = some user →
        ∀ name, source = some name → Text.sameIgnoringAsciiCase name user.source = true) ∧
      (network'.LooksUp reference →
        (∃ resolver ∈ identities.consulted source, ∃ roster, resolver.roster? = some roster ∧
          ∃ user ∈ roster.listed, user.id = reference) →
        ∃ user, answer = some user ∧ (user.id = reference ∨ user.reference = reference)) ∧
      (network'.LooksUp reference →
        (∀ user, identities.retrieved? reference source = some user ∨ user ∈ found →
          user.id ≠ reference ∧ user.reference ≠ reference) →
        answer = found.head?) ∧
      (∀ resolver ∈ identities.consulted source, resolver.roster?.isSome = true →
        (resolver.search network' reference).Pairwise fun user user' => user.id < user'.id) ∧
      (answer = none ↔
        identities.retrieved? reference source = none ∧
          ∀ resolver ∈ identities.consulted source, resolver.search network' reference = []) := by
  intro identities answer found
  have hsound : identities.Sound :=
    Catalog.sound_after (sound_ofConfig providers network) history
  have hroster : ∀ {resolver roster}, resolver ∈ identities.consulted source →
      resolver.roster? = some roster → roster.Sound := fun hresolver hsome =>
    hsound _ (mem_resolvers_of_mem_consulted hresolver) _ hsome
  refine ⟨?source, ?exact, ?first, ?order, resolve?_eq_none_iff⟩
  case source =>
    rintro user hanswer name rfl
    obtain ⟨resolver, hresolver, hsource⟩ := hsound.source_of_resolve? hanswer
    rw [hsource]
    exact (List.mem_filter.mp hresolver).2
  case exact =>
    rintro hnetwork ⟨resolver, hresolver, roster, hsome, user, huser, rfl⟩
    have hsearch : user ∈ resolver.search network' user.id := by
      rw [Resolver.search_of_roster? hsome]
      exact Roster.mem_search_id htrim hblank huser
    have hfound : user ∈ found := List.mem_flatMap.mpr ⟨resolver, hresolver, hsearch⟩
    obtain ⟨user', hanswer, hexact⟩ := hsound.exists_resolve? hnetwork htrim
      ⟨user, hfound, User.isExactly_iff.mpr (Or.inl rfl)⟩
    exact ⟨user', hanswer, User.isExactly_iff.mp hexact⟩
  case first =>
    intro hnetwork hnobody
    have hother : ∀ user, identities.retrieved? reference source = some user ∨ user ∈ found →
        user.isExactly reference = false := fun user huser =>
      Bool.eq_false_iff.mpr fun hexact =>
        (User.isExactly_iff.mp hexact).elim (hnobody user huser).1 (hnobody user huser).2
    have hnone : identities.retrieved? reference source = none := by
      refine Option.eq_none_iff_forall_ne_some.mpr fun user hretrieved => ?_
      have hexact := hsound.isExactly_of_retrieved? hnetwork htrim hretrieved
      rw [hother user (Or.inl hretrieved)] at hexact
      cases hexact
    have hanswer : answer = _ := resolve?_eq identities reference source
    rw [hanswer, hnone, Option.none_or]
    exact pick?_eq_head? fun user huser => hother user (Or.inr huser)
  case order =>
    intro resolver hresolver hsome
    obtain ⟨roster, hsome⟩ := Option.isSome_iff_exists.mp hsome
    rw [Resolver.search_of_roster? hsome]
    exact (hroster hresolver hsome).pairwise_listed.sublist (roster.search_sublist reference)

/-- Who has logged in as 42 is taken neither for Agent 42, whom the directory finds first, nor for
the account 142, although they are users of the same source and come before. -/
theorem resolve?_prefers_exact_login :
    let directory : Directory :=
      { entries := [⟨"cn=Agent 42,dc=example", [("uid", ["agent"]), ("sn", ["Doe"])]⟩] }
    let network : Directory.Network := [("ldap://directory.example", directory)]
    let providers : List ProviderConfig :=
      [.directory {
          source := "staff"
          url := "ldap://directory.example"
          contextSourceBase := "dc=example" },
        .accounts { source := "Staff", users := [{ username := "142" }] },
        .logins { source := "STAFF" }]
    let login : Event :=
      .loggedIn ⟨"staff", {}, ⟨[], []⟩⟩
        (.answered 200 "\x7b\"sub\": \"42\", \"email\": \"jane@example.com\"\x7d")
    let identities : Identities :=
      { ((Catalog.start (ofConfig providers [])).after [login]).identities with
        network := network }
    Text.trim "42" = "42" ∧ Text.isBlankText "42" = false ∧ network.LooksUp "42" ∧
      (identities.candidates "42" (some "staff")).map (·.id) = ["agent", "142", "42"] ∧
      (identities.retrieved? "cn=Agent 42,dc=example" (some "staff")).map (·.id) = some "agent" ∧
      ∃ user, identities.resolve? "42" (some "staff") = some user ∧
        (user.id = "42" ∨ user.reference = "42") := by
  intro directory network providers login identities
  have htrim : Text.trim "42" = "42" := by decide
  have hblank : Text.isBlankText "42" = false := by decide
  have hnetwork : network.LooksUp "42" := by
    rintro url server hserver
    obtain ⟨-, rfl⟩ := Prod.mk.inj (List.mem_singleton.mp hserver)
    exact directory.looksUp_server "42"
  have hlisted : ((identities.consulted (some "staff")).any fun resolver =>
      resolver.roster?.any fun roster => roster.listed.any (·.id == "42")) = true := by
    decide +kernel
  simp only [List.any_eq_true, Option.any_eq_true, beq_iff_eq] at hlisted
  obtain ⟨-, hexact, -⟩ :=
    resolve?_prefers_exact htrim hblank providers [] network [login] (some "staff")
  exact ⟨htrim, hblank, hnetwork, by decide +kernel, by decide +kernel, hexact hnetwork hlisted⟩

def AccountsOnly (identities : Identities) : Prop :=
  ∀ resolver ∈ identities.resolvers, ∃ config : AccountListConfig,
    resolver = .accounts config.roster

theorem accountsOnly_ofConfig (lists : List AccountListConfig) (network : Directory.Network) :
    (ofConfig (lists.map .accounts) network).AccountsOnly := by
  intro resolver hresolver
  obtain ⟨provider, hprovider, rfl⟩ := List.mem_map.mp hresolver
  obtain ⟨config, -, rfl⟩ := List.mem_map.mp hprovider
  exact ⟨config, rfl⟩

theorem AccountsOnly.candidates_trim (h : identities.AccountsOnly) (reference : String)
    (source : Option String) :
    identities.candidates (Text.trim reference) source =
      identities.candidates reference source := by
  refine List.flatMap_congr fun resolver hresolver => ?_
  obtain ⟨config, rfl⟩ := h resolver (mem_resolvers_of_mem_consulted hresolver)
  exact config.roster.search_trim reference

theorem AccountsOnly.retrieved?_trim (h : identities.AccountsOnly) (reference : String)
    (source : Option String) :
    identities.retrieved? (Text.trim reference) source =
      identities.retrieved? reference source := by
  cases source with
  | none => simp only [retrieved?, Option.bind_none]
  | some name =>
    simp only [retrieved?, retrieve?, Option.bind_some]
    cases hfind : identities.resolvers.find? (·.handles name) with
    | none => simp only [Option.bind_none]
    | some resolver =>
      obtain ⟨config, rfl⟩ := h resolver (List.mem_of_find?_eq_some hfind)
      simp only [Option.bind_some, Resolver.retrieve?, Text.trim_trim]

theorem AccountsOnly.isExactly_eq_false (h : identities.AccountsOnly)
    (htrim : Text.trim reference ≠ reference)
    (hfound : user ∈ identities.candidates reference source) :
    user.isExactly reference = false := by
  obtain ⟨resolver, hresolver, hsearch⟩ := List.mem_flatMap.mp hfound
  obtain ⟨config, rfl⟩ := h resolver (mem_resolvers_of_mem_consulted hresolver)
  have hlisted : user ∈ config.roster.listed :=
    (config.roster.search_sublist reference).subset hsearch
  obtain ⟨hreference, hid⟩ := AccountListConfig.reference_of_mem_roster hlisted
  rw [Bool.eq_false_iff, Ne, User.isExactly_iff, hreference, or_self]
  rintro rfl
  exact htrim hid

/-- In a chain of accounts white space around a reference never decides whether it stands for
somebody. It can decide for whom: a reference with white space around it stands for the first user
found unless one is retrieved, so that it stands for another user than without if there is an exact
one and a similar one comes first. -/
theorem resolve?_eq_trim_iff (lists : List AccountListConfig) (network : Directory.Network)
    (reference : String) (source : Option String) :
    let identities := ofConfig (lists.map .accounts) network
    let trimmed := Text.trim reference
    let retrieved := identities.retrieved? trimmed source
    let found := identities.candidates trimmed source
    (identities.resolve? reference source = none ↔ identities.resolve? trimmed source = none) ∧
      (reference ≠ trimmed → identities.resolve? reference source = retrieved.or found.head?) ∧
      (identities.resolve? reference source = identities.resolve? trimmed source ↔
        reference = trimmed ∨ retrieved.isSome = true ∨
          ((∃ user ∈ found, user.isExactly trimmed = true) →
            ∃ user ∈ found.head?, user.isExactly trimmed = true)) := by
  intro identities trimmed retrieved found
  have haccounts : identities.AccountsOnly := accountsOnly_ofConfig lists network
  have htrimmed : identities.resolve? trimmed source = retrieved.or (pick? trimmed found) :=
    resolve?_eq identities trimmed source
  have hreference : identities.resolve? reference source =
      retrieved.or (pick? reference found) := by
    rw [resolve?_eq, ← haccounts.retrieved?_trim, ← haccounts.candidates_trim]
  have hfirst : reference ≠ trimmed →
      identities.resolve? reference source = retrieved.or found.head? := fun hne => by
    have hfound : found = identities.candidates reference source :=
      haccounts.candidates_trim reference source
    have hnobody : ∀ user ∈ found, user.isExactly reference = false := fun user huser =>
      haccounts.isExactly_eq_false hne.symm (hfound ▸ huser)
    rw [hreference, pick?_eq_head? hnobody]
  refine ⟨?none, hfirst, ?same⟩
  case none =>
    rw [hreference, htrimmed, Option.or_eq_none_iff, Option.or_eq_none_iff, pick?_eq_none_iff,
      pick?_eq_none_iff]
  case same =>
    by_cases he : reference = trimmed
    · exact iff_of_true (by rw [← he]) (Or.inl he)
    · rw [hfirst he, htrimmed, or_iff_right he]
      cases retrieved with
      | some user => simp
      | none =>
        rw [Option.none_or, Option.none_or, eq_comm, pick?_eq_head?_iff]
        simp

/-- With spaces around it, jane stands for anna.jane, who is found first. -/
theorem resolve?_eq_trim_iff_jane :
    let lists : List AccountListConfig :=
      [{ users := [{ username := "anna.jane" }, { username := "jane" }] }]
    let identities := ofConfig (lists.map .accounts) []
    (identities.resolve? " jane " none).map (·.id) = some "anna.jane" ∧
      (identities.resolve? "jane" none).map (·.id) = some "jane" ∧
      identities.resolve? " jane " none ≠ identities.resolve? (Text.trim " jane ") none := by
  intro lists identities
  obtain ⟨-, -, hsame⟩ := resolve?_eq_trim_iff lists [] " jane " none
  refine ⟨by decide +kernel, by decide +kernel, fun h => ?_⟩
  rcases hsame.mp h with htrim | hretrieved | hfirst
  · exact absurd htrim (by decide +kernel)
  · exact absurd hretrieved (by decide +kernel)
  · exact absurd hfirst (by decide +kernel)

end Identities

end ApiCatalog
