import ApiCatalog.Proofs.History
import ApiCatalog.Proofs.Ordered
import ApiCatalog.Proofs.Record
import ApiCatalog.Proofs.Text.Case

/-! # What identity providers know

A roster lists every user under the user's own id, as a user of its source, in the order of the
ids. So does every roster of a chain of providers, whatever has happened since it was set up. What
the providers answer is therefore of their source, and to a reference it is exactly the user named.
-/

namespace ApiCatalog

namespace Text

theorem occursIn_self (needle : List Char) : occursIn needle needle = true := by
  cases needle with
  | nil => rfl
  | cons c cs => simp [occursIn]

theorem needle_eq_nil_iff {query : String} : needle query = [] ↔ isBlankText query = true := by
  rw [needle, toLower, String.toList_ofList, Case.lowerFrom_eq_nil_iff, trim,
    String.toList_ofList, trimChars_eq_nil_iff, isBlankText]

theorem needle_trim (query : String) : needle (trim query) = needle query := by
  rw [needle, needle, trim_trim]

end Text

theorem User.isFoundBy_id (user : User) : user.isFoundBy (Text.toLower user.id).toList = true := by
  simp [isFoundBy, searchTexts, Text.occursIn_self]

theorem User.isExactly_iff {user : User} {reference : String} :
    user.isExactly reference = true ↔ user.id = reference ∨ user.reference = reference := by
  rw [isExactly, Bool.or_eq_true, beq_iff_eq, beq_iff_eq]

namespace Roster

def listed (roster : Roster) : List User := roster.users.map (·.2)

/-- Every user is listed under the user's own id and from the source of the roster, and the users
are sorted. -/
structure Sound (roster : Roster) : Prop where
  sorted : Fields.Sorted roster.users
  id_eq : ∀ entry ∈ roster.users, entry.2.id = entry.1
  source_eq : ∀ entry ∈ roster.users, entry.2.source = roster.source

variable {roster : Roster} {query id : String} {user : User}

theorem sound_nil (source : String) : Sound ⟨source, []⟩ where
  sorted := List.Pairwise.nil
  id_eq _ h := absurd h List.not_mem_nil
  source_eq _ h := absurd h List.not_mem_nil

theorem Sound.register (h : roster.Sound) (user : User) : (roster.register user).Sound where
  sorted := Fields.sorted_insert h.sorted user.id _
  id_eq entry hentry := by
    rcases Fields.mem_of_mem_insert hentry with rfl | hentry
    · rfl
    · exact h.id_eq entry hentry
  source_eq entry hentry := by
    rcases Fields.mem_of_mem_insert hentry with rfl | hentry
    · rfl
    · exact h.source_eq entry hentry

theorem Sound.find?_eq_some_iff (h : roster.Sound) :
    roster.find? id = some user ↔ user ∈ roster.listed ∧ user.id = id := by
  rw [find?, Fields.lookup_eq_some_iff (Fields.nodup_keys h.sorted), listed, List.mem_map]
  constructor
  · intro hmem
    exact ⟨⟨_, hmem, rfl⟩, h.id_eq _ hmem⟩
  · rintro ⟨⟨⟨key, user⟩, hmem, rfl⟩, rfl⟩
    have hkey : user.id = key := h.id_eq _ hmem
    rwa [hkey]

theorem Sound.source_of_mem (h : roster.Sound) (hmem : user ∈ roster.listed) :
    user.source = roster.source := by
  obtain ⟨entry, hentry, rfl⟩ := List.mem_map.mp hmem
  exact h.source_eq entry hentry

theorem Sound.pairwise_listed (h : roster.Sound) :
    roster.listed.Pairwise fun user user' => user.id < user'.id := by
  refine List.pairwise_map.mpr (h.sorted.imp_of_mem fun hentry hentry' hlt => ?_)
  rwa [h.id_eq _ hentry, h.id_eq _ hentry']

theorem search_sublist (roster : Roster) (query : String) :
    (roster.search query).Sublist roster.listed := by
  rw [search]
  split
  · exact List.nil_sublist _
  · exact List.filter_sublist

theorem mem_search_iff (hquery : Text.isBlankText query = false) :
    user ∈ roster.search query ↔ user ∈ roster.listed ∧ user.isFoundBy (Text.needle query) := by
  have hneedle : (Text.needle query).isEmpty = false := by
    rw [List.isEmpty_eq_false_iff, Ne, Text.needle_eq_nil_iff, hquery]
    exact Bool.false_ne_true
  rw [search, if_neg (by simp [hneedle]), List.mem_filter, listed]

theorem search_trim (roster : Roster) (query : String) :
    roster.search (Text.trim query) = roster.search query := by
  rw [search, search, Text.needle_trim]

theorem mem_search_id (htrim : Text.trim user.id = user.id)
    (hblank : Text.isBlankText user.id = false) (h : user ∈ roster.listed) :
    user ∈ roster.search user.id := by
  refine (mem_search_iff hblank).mpr ⟨h, ?_⟩
  rw [Text.needle, htrim]
  exact user.isFoundBy_id

end Roster

namespace AccountListConfig

theorem roster_induction {P : Roster → Prop} (config : AccountListConfig)
    (hnil : P ⟨config.source, []⟩)
    (hregister : ∀ roster, P roster → ∀ account ∈ config.users,
      P (roster.register (account.user config.source))) : P config.roster := by
  refine List.foldlRecOn _ _ hnil fun roster hroster account haccount => ?_
  exact hregister roster hroster account (List.mem_of_mem_filter haccount)

theorem sound_roster (config : AccountListConfig) : config.roster.Sound :=
  config.roster_induction (Roster.sound_nil _) fun _ h account _ =>
    h.register (account.user config.source)

/-- Accounts are known by their names without white space around them. -/
theorem reference_of_mem_roster {config : AccountListConfig} {user : User}
    (h : user ∈ config.roster.listed) :
    user.reference = user.id ∧ Text.trim user.id = user.id := by
  obtain ⟨entry, hentry, rfl⟩ := List.mem_map.mp h
  refine config.roster_induction
    (P := fun roster => ∀ entry ∈ roster.users,
      entry.2.reference = entry.2.id ∧ Text.trim entry.2.id = entry.2.id)
    (fun _ h => absurd h List.not_mem_nil) (fun roster hroster account _ entry hentry => ?_)
    entry hentry
  rcases Fields.mem_of_mem_insert hentry with rfl | hentry
  · exact ⟨rfl, Text.trim_trim account.username⟩
  · exact hroster entry hentry

end AccountListConfig

/-- Whether who is looked up by a name is found under this name and no other. -/
def DirectoryServer.LooksUp (server : DirectoryServer) (dn : String) : Prop :=
  ∀ caller query, query.base = dn → query.scope = .base →
    ∀ entry ∈ server.ask caller query, entry.dn = dn

def Directory.Network.LooksUp (network : Directory.Network) (dn : String) : Prop :=
  ∀ url server, (url, server) ∈ network → server.LooksUp dn

theorem Directory.looksUp_server (directory : Directory) (dn : String) :
    directory.server.LooksUp dn := by
  rintro caller query rfl hscope entry hentry
  simp only [DirectoryServer.ask, server, hscope, Option.map_some, Option.getD_some] at hentry
  rw [lookUp] at hentry
  cases hfind : directory.entries.find? (·.dn == query.base) with
  | none => simp [hfind, DirectoryAnswer.found] at hentry
  | some found =>
    have hdn : found.dn = query.base := by simpa using List.find?_some hfind
    simp only [hfind, DirectoryAnswer.found] at hentry
    split at hentry
    · obtain rfl := List.mem_singleton.mp hentry
      exact hdn
    · cases hentry

namespace DirectoryConfig

variable {config : DirectoryConfig} {network : Directory.Network} {user : User}

theorem exists_of_mem_ask {query : DirectoryQuery} {entry : DirectoryEntry}
    (h : entry ∈ config.ask network query) :
    ∃ server, (config.url, server) ∈ network ∧ entry ∈ server.ask config.caller query := by
  rw [ask] at h
  split at h
  · cases hserver : config.server? network with
    | none => simp [hserver] at h
    | some server =>
      rw [hserver] at h
      have hlookup := (Option.filter_eq_some_iff.mp hserver).1
      exact ⟨server, mem_of_lookup_eq_some hlookup, h⟩
  · cases h

theorem exists_of_retrieve? {dn : String} (h : config.retrieve? network dn = some user) :
    ∃ entry ∈ config.ask network (config.entryQuery dn), user = config.user entry := by
  obtain ⟨entry, hentry, rfl⟩ := Option.map_eq_some_iff.mp h
  exact ⟨entry, List.mem_of_mem_head? hentry, rfl⟩

theorem source_of_retrieve? {dn : String} (h : config.retrieve? network dn = some user) :
    user.source = config.source := by
  obtain ⟨entry, -, rfl⟩ := exists_of_retrieve? h
  rfl

theorem reference_of_retrieve? {dn : String} (hnetwork : network.LooksUp dn)
    (h : config.retrieve? network dn = some user) : user.reference = dn := by
  obtain ⟨entry, hentry, rfl⟩ := exists_of_retrieve? h
  obtain ⟨server, hserver, hask⟩ := exists_of_mem_ask hentry
  exact hnetwork config.url server hserver config.caller (config.entryQuery dn) rfl rfl entry hask

theorem source_of_mem_search {query : String} (h : user ∈ config.search network query) :
    user.source = config.source := by
  rw [search] at h
  split at h
  · cases h
  · obtain ⟨entry, -, rfl⟩ := List.mem_map.mp h
    rfl

end DirectoryConfig

namespace Resolver

def roster? : Resolver → Option Roster
  | accounts roster => some roster
  | directory _ => none
  | logins roster => some roster

def Sound (resolver : Resolver) : Prop := ∀ roster, resolver.roster? = some roster → roster.Sound

variable {resolver : Resolver} {network : Directory.Network} {query reference : String}
  {roster : Roster} {user : User}

theorem sound_ofConfig (config : ProviderConfig) : (ofConfig config).Sound := by
  intro roster hroster
  cases config with
  | accounts config =>
    obtain rfl := Option.some.inj hroster
    exact config.sound_roster
  | directory config => cases hroster
  | logins config =>
    obtain rfl := Option.some.inj hroster
    exact Roster.sound_nil _

theorem search_of_roster? (h : resolver.roster? = some roster) (network : Directory.Network)
    (query : String) : resolver.search network query = roster.search query := by
  cases resolver with
  | accounts r =>
    obtain rfl := Option.some.inj h
    rfl
  | directory config => cases h
  | logins r =>
    obtain rfl := Option.some.inj h
    rfl

theorem Sound.source_of_mem_search (h : resolver.Sound)
    (hmem : user ∈ resolver.search network query) : user.source = resolver.source := by
  cases resolver with
  | accounts roster => exact (h _ rfl).source_of_mem ((roster.search_sublist query).subset hmem)
  | directory config => exact DirectoryConfig.source_of_mem_search hmem
  | logins roster => exact (h _ rfl).source_of_mem ((roster.search_sublist query).subset hmem)

theorem Sound.source_of_retrieve? (h : resolver.Sound)
    (hretrieve : resolver.retrieve? network reference = some user) :
    user.source = resolver.source := by
  cases resolver with
  | accounts roster =>
    exact (h _ rfl).source_of_mem ((h _ rfl).find?_eq_some_iff.mp hretrieve).1
  | directory config => exact DirectoryConfig.source_of_retrieve? hretrieve
  | logins roster =>
    exact (h _ rfl).source_of_mem ((h _ rfl).find?_eq_some_iff.mp hretrieve).1

/-- Who is retrieved by a reference without white space around it is exactly the user named. -/
theorem Sound.isExactly_of_retrieve? (h : resolver.Sound) (hnetwork : network.LooksUp reference)
    (htrim : Text.trim reference = reference)
    (hretrieve : resolver.retrieve? network reference = some user) :
    user.isExactly reference = true := by
  rw [User.isExactly_iff]
  cases resolver with
  | accounts roster =>
    rw [retrieve?, htrim] at hretrieve
    exact Or.inl ((h _ rfl).find?_eq_some_iff.mp hretrieve).2
  | directory config => exact Or.inr (DirectoryConfig.reference_of_retrieve? hnetwork hretrieve)
  | logins roster => exact Or.inl ((h _ rfl).find?_eq_some_iff.mp hretrieve).2

end Resolver

namespace Identities

def Sound (identities : Identities) : Prop := ∀ resolver ∈ identities.resolvers, resolver.Sound

variable {identities : Identities}

theorem sound_ofConfig (providers : List ProviderConfig) (network : Directory.Network) :
    (ofConfig providers network).Sound := by
  intro resolver hresolver
  obtain ⟨config, -, rfl⟩ := List.mem_map.mp hresolver
  exact Resolver.sound_ofConfig config

/-- A provider of an updated chain was there before, or it is the registry that was updated. -/
theorem mem_of_mem_updateRegistry {source : String} {f : Roster → Roster}
    {resolvers : List Resolver} {resolver : Resolver}
    (h : resolver ∈ updateRegistry source f resolvers) :
    resolver ∈ resolvers ∨
      ∃ roster, .logins roster ∈ resolvers ∧ resolver = .logins (f roster) := by
  fun_induction updateRegistry source f resolvers with
  | case1 => cases h
  | case2 roster resolvers hsource =>
    rcases List.mem_cons.mp h with rfl | h
    · exact Or.inr ⟨roster, List.mem_cons_self, rfl⟩
    · exact Or.inl (List.mem_cons_of_mem _ h)
  | case3 roster resolvers hsource ih =>
    rcases List.mem_cons.mp h with rfl | h
    · exact Or.inl List.mem_cons_self
    · exact (ih h).imp (List.mem_cons_of_mem _) fun ⟨roster, hroster, he⟩ =>
        ⟨roster, List.mem_cons_of_mem _ hroster, he⟩
  | case4 resolver resolvers hother ih =>
    rcases List.mem_cons.mp h with rfl | h
    · exact Or.inl List.mem_cons_self
    · exact (ih h).imp (List.mem_cons_of_mem _) fun ⟨roster, hroster, he⟩ =>
        ⟨roster, List.mem_cons_of_mem _ hroster, he⟩

theorem Sound.register (h : identities.Sound) (source : String) (user : User) :
    (identities.register source user).Sound := by
  intro resolver hresolver
  rcases mem_of_mem_updateRegistry hresolver with hold | ⟨roster, hroster, rfl⟩
  · exact h resolver hold
  · intro registry hregistry
    obtain rfl := Option.some.inj hregistry
    exact (h _ hroster roster rfl).register user

end Identities

theorem moving_sound : Moving fun c c' => c.identities.Sound → c'.identities.Sound where
  refl _ h := h
  trans _ _ _ h h' := h' ∘ h
  write _ _ h := h
  count _ _ h := h

namespace Catalog

theorem sound_afterEvent {c : Catalog} (h : c.identities.Sound) (event : Event) :
    (c.afterEvent event).identities.Sound := by
  cases event with
  | imported apiId parsed actingUser => exact moves_importParsed moving_sound _ _ _ c h
  | loggedIn authenticator reply =>
    refine moves_connect_of_register moving_sound (fun user => ?_) reply c h
    exact moves_register (fun _ h => h) fun _ h => h.register _ user
  | roleAdded role => exact h
  | groupInserted group => exact h

theorem sound_after {c : Catalog} (h : c.identities.Sound) (history : List Event) :
    (c.after history).identities.Sound :=
  after_induction (P := (·.identities.Sound)) (fun _ event h => sound_afterEvent h event) h history

end Catalog

end ApiCatalog
