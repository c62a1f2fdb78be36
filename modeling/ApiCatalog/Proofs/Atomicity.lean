import ApiCatalog.Proofs.History
import ApiCatalog.Proofs.Import.Outcome
import ApiCatalog.Proofs.Login
import ApiCatalog.Server

/-! # Requests are all or nothing

A request that is not answered with success has written nothing to the store. Who is known can
change in such a request only by a login whose profile was there and made its claims.
-/

namespace ApiCatalog

/-- A catalog in which nothing but counters has changed. -/
structure Untouched (c c' : Catalog) : Prop where
  store_eq : c'.store = c.store
  identities_eq : c'.identities = c.identities

namespace Untouched

theorem counted (c : Catalog) (metrics : Metrics) : Untouched c { c with metrics } := ⟨rfl, rfl⟩

instance : Std.Refl Untouched := ⟨fun _ => ⟨rfl, rfl⟩⟩

instance : IsTrans Catalog Untouched :=
  ⟨fun _ _ _ h h' => ⟨h'.1.trans h.1, h'.2.trans h.2⟩⟩

end Untouched

open CatalogM

/-- Whether a reply of the userinfo endpoint is a success whose profile makes its claims. -/
def UserinfoReply.Vouches (reply : UserinfoReply) (names : ClaimNames) : Prop :=
  ∃ status body profile, reply = .answered status body ∧ Status.isSuccess status = true ∧
    Json.parse? body = some profile ∧ names.Made profile

theorem UserinfoReply.vouches_of_profile {reply : UserinfoReply} {names : ClaimNames}
    {profile : Json} (h : reply.profile = .ok profile) (hmade : names.Made profile) :
    reply.Vouches names := by
  cases reply with
  | unreachable => cases h
  | answered status body =>
    rw [UserinfoReply.profile] at h
    cases hstatus : Status.isSuccess status with
    | false =>
      rw [hstatus] at h
      cases h
    | true =>
      simp only [hstatus, Bool.not_true, Bool.false_eq_true, if_false] at h
      by_cases hempty : status == Status.noContent
      · rw [if_pos hempty] at h
        cases h
      · rw [if_neg hempty] at h
        cases hparsed : Json.parse? body with
        | none =>
          rw [hparsed] at h
          cases h
        | some found =>
          rw [hparsed] at h
          cases h
          exact ⟨status, body, _, rfl, hstatus, hparsed, hmade⟩

section Refused

variable {c c' : Catalog} {e : Error}

/-- No import fails after its first write. -/
theorem untouched_of_import_refused (h : c.store.Consistent) {apiId : Option String}
    {parsed : Except DefinitionFault Definition} {actingUser : Option String}
    (hrun : (importParsed apiId parsed actingUser).runOn c = (.error e, c')) : Untouched c c' := by
  rcases runOn_importParsed h.seeded_owner apiId parsed actingUser with
    ⟨e', metrics, he⟩ | ⟨existing, definition, members, metrics, _, he⟩
  · rw [he] at hrun
    cases hrun
    exact Untouched.counted c metrics
  · rw [he] at hrun
    cases hrun

/-- No mapping is refused after its first write. -/
theorem eq_of_mapping_refused {mapping : Mapping} {user : Member} {profile : Json}
    (hrun : (mapping.apply user profile).runOn c = (.error e, c')) : c' = c := by
  rcases mapping.runOn_apply user profile c with ⟨e', he⟩ | ⟨groups, -, he⟩
  · rw [he] at hrun
    cases hrun
    rfl
  · rw [he] at hrun
    cases hrun

theorem untouched_of_login_refused {authenticator : Authenticator} {reply : UserinfoReply}
    (hrun : (authenticator.connect reply).runOn c = (.error e, c')) :
    c'.store = c.store ∧
      (c'.identities ≠ c.identities → reply.Vouches authenticator.claims) := by
  obtain ⟨identities, hids, ⟨e', he⟩ | ⟨profile, user, groups, -, -, he⟩⟩ :=
    authenticator.runOn_connect reply c <;> rw [he] at hrun <;> cases hrun
  refine ⟨rfl, fun hne => ?_⟩
  obtain ⟨profile, hprofile, hmade⟩ := hids hne
  exact UserinfoReply.vouches_of_profile hprofile hmade

end Refused

namespace Server

variable {server : Server} {c c' : Catalog} {request : Request}

theorem error_of_answer {status : Nat} (hstatus : Status.isSuccess status = true)
    {task : CatalogM Json} (h : (answer status task c).1.isSuccess = false) :
    ∃ e, task.runOn c = (.error e, (answer status task c).2) := by
  have hanswer : answer status task c =
      (Response.ofResult status (task.runOn c).1, (task.runOn c).2) := rfl
  rw [hanswer] at h ⊢
  rcases htask : task.runOn c with ⟨e | value, c'⟩ <;> rw [htask] at h
  · exact ⟨e, rfl⟩
  · exact absurd (h.symm.trans hstatus) Bool.false_ne_true

theorem error_of_map_error {α : Type} {task : CatalogM α} {f : α → Json} {e : Error}
    (h : (task >>= fun x => pure (f x)).runOn c = (.error e, c')) :
    task.runOn c = (.error e, c') := by
  rcases error_of_bind_error h with h | ⟨x, c'', _, h⟩
  · exact h
  · cases h

theorem moves_findApi (id : String) : Moves Untouched (findApi id) := by
  refine (Moves.fromStore _).bind fun found => ?_
  cases found with
  | some api => exact Moves.pure api
  | none => exact Moves.throw _

theorem moves_exportNoted (registered : List ExportVersion) (excluded : List ExportSection)
    (api : Api) : Moves Untouched (exportNoted registered excluded api) := by
  refine (Moves.ofResult _).bind fun version => (Moves.fromStore _).bind fun document => ?_
  exact Moves.bind (fun c => Untouched.counted c _) fun _ => Moves.pure _

theorem moves_exportPreferring (registered : List ExportVersion) (version : ExportVersion)
    (excluded : List ExportSection) (api : Api) :
    Moves Untouched (exportPreferring registered version excluded api) := by
  unfold exportPreferring
  split
  · exact moves_exportNoted _ _ _
  · exact moves_exportNoted _ _ _

theorem moves_exportApi (server : Server) (id : String) (parameters : ExportParameters) :
    Moves Untouched (server.exportApi id parameters) := by
  refine (moves_findApi id).bind fun api => ?_
  cases parameters.version with
  | some version => exact (Moves.ofResult _).bind fun version => moves_exportNoted _ _ _
  | none => exact moves_exportPreferring _ _ _ _

def Refused (server : Server) (request : Request) (c c' : Catalog) : Prop :=
  c'.store = c.store ∧
    (c'.identities ≠ c.identities →
      ∃ part source authenticator, Route.ofPath? request.path = some (.connect part) ∧
        Url.pathPart? part = some source ∧
        server.authenticators.lookup (Text.toLower source) = some authenticator ∧
        request.userinfo.Vouches authenticator.claims)

theorem Refused.of_untouched (h : Untouched c c') : Refused server request c c' :=
  ⟨h.store_eq, fun hne => absurd h.identities_eq hne⟩

theorem refused_withPart {name : String} {part : List Char}
    {next : String → Catalog → Response × Catalog}
    (h : ∀ text, Url.pathPart? part = some text → (next text c).1.isSuccess = false →
      Refused server request c (next text c).2)
    (hfailed : (withPart name part next c).1.isSuccess = false) :
    Refused server request c (withPart name part next c).2 := by
  unfold withPart at hfailed ⊢
  cases hpart : Url.pathPart? part with
  | some text =>
    simp only [hpart] at hfailed ⊢
    exact h text hpart hfailed
  | none => exact Refused.of_untouched (refl_of Untouched c)

theorem refused_import (h : c.store.Consistent) {status : Nat}
    (hstatus : Status.isSuccess status = true) {apiId : Option String}
    (hfailed : (answer status (do
      return (← importDefinition apiId request.body request.actingUser?).toJson) c).1.isSuccess =
        false) :
    Refused server request c (answer status (do
      return (← importDefinition apiId request.body request.actingUser?).toJson) c).2 := by
  obtain ⟨e, he⟩ := error_of_answer hstatus hfailed
  exact Refused.of_untouched (untouched_of_import_refused h (error_of_map_error he))

theorem refused_of_moves {status : Nat} {task : CatalogM Json} (h : Moves Untouched task) :
    Refused server request c (answer status task c).2 :=
  Refused.of_untouched (h c)

/-- A login fails with an unknown provider, without a token, or at the provider. -/
theorem error_of_connect {source : String} {e : Error}
    (h : (server.connect source request).runOn c = (.error e, c')) :
    c' = c ∨ ∃ authenticator,
      server.authenticators.lookup (Text.toLower source) = some authenticator ∧
      (authenticator.connect request.userinfo).runOn c = (.error e, c') := by
  unfold connect at h
  split at h
  · cases h
    exact Or.inl rfl
  · rename_i authenticator hlookup
    cases htoken : request.hasToken with
    | false =>
      rw [htoken] at h
      cases h
      exact Or.inl rfl
    | true =>
      rw [htoken] at h
      exact Or.inr ⟨authenticator, hlookup, error_of_map_error h⟩

theorem refused_answerRoute (h : c.store.Consistent) {route : Route}
    (hroute : Route.ofPath? request.path = some route)
    (hfailed : (server.answerRoute request route c).1.isSuccess = false) :
    Refused server request c (server.answerRoute request route c).2 := by
  cases route with
  | health => exact Refused.of_untouched (refl_of Untouched c)
  | newApi => exact refused_import h rfl hfailed
  | api id =>
    refine refused_withPart (fun text _ _ => refused_of_moves ?_) hfailed
    exact (moves_findApi text).bind fun api => Moves.pure _
  | apiImport id => exact refused_withPart (fun text _ => refused_import h rfl) hfailed
  | apiExport id =>
    refine refused_withPart (fun text _ _ => ?_) hfailed
    cases ExportParameters.ofQuery request.query with
    | ok parameters => exact refused_of_moves (moves_exportApi server text parameters)
    | error name => exact Refused.of_untouched (refl_of Untouched c)
  | connect part =>
    refine refused_withPart (fun text htext hfailed => ?_) hfailed
    obtain ⟨e, he⟩ := error_of_answer rfl hfailed
    rcases error_of_connect he with hsame | ⟨authenticator, hlookup, hlogin⟩
    · rw [hsame]
      exact Refused.of_untouched (refl_of Untouched c)
    · obtain ⟨hstore, hids⟩ := untouched_of_login_refused hlogin
      exact ⟨hstore, fun hne =>
        ⟨part, text, authenticator, hroute, htext, hlookup, hids hne⟩⟩

theorem refused_respond (h : c.store.Consistent)
    (hfailed : (server.respond request c).1.isSuccess = false) :
    Refused server request c (server.respond request c).2 := by
  unfold respond at hfailed ⊢
  cases hroute : Route.ofPath? request.path with
  | none => exact Refused.of_untouched (refl_of Untouched c)
  | some route =>
    simp only [hroute] at hfailed ⊢
    cases hmethod : route.admits request.method with
    | false => exact Refused.of_untouched (refl_of Untouched c)
    | true =>
      simp only [hmethod, Bool.not_true, Bool.false_eq_true, if_false] at hfailed ⊢
      refine refused_answerRoute h hroute ?_
      split at hfailed
      · exact hfailed
      · exact hfailed

/-- In a catalog with any history, a request that is not answered with success has written nothing,
and neither has an import or a mapping that fails. -/
theorem all_or_nothing (server : Server) (identities : Identities) (history : List Event)
    (request : Request) :
    let before := (Catalog.start identities).after history
    let answered := server.respond request before
    (answered.1.isSuccess = false →
      answered.2.store = before.store ∧
        (answered.2.identities ≠ before.identities →
          ∃ part source authenticator, Route.ofPath? request.path = some (.connect part) ∧
            Url.pathPart? part = some source ∧
            server.authenticators.lookup (Text.toLower source) = some authenticator ∧
            request.userinfo.Vouches authenticator.claims)) ∧
      (∀ apiId parsed actingUser e failed,
        (importParsed apiId parsed actingUser).runOn before = (.error e, failed) →
          failed.store = before.store ∧ failed.identities = before.identities) ∧
      ∀ (mapping : Mapping) user profile e failed,
        (mapping.apply user profile).runOn before = (.error e, failed) → failed = before := by
  intro before answered
  have hbefore : before.store.Consistent :=
    Catalog.consistent_after (Catalog.consistent_start identities) history
  refine ⟨fun hfailed => refused_respond hbefore hfailed, ?_, ?_⟩
  · intro apiId parsed actingUser e failed hrun
    have huntouched := untouched_of_import_refused hbefore hrun
    exact ⟨huntouched.store_eq, huntouched.identities_eq⟩
  · exact fun mapping user profile e failed hrun => eq_of_mapping_refused hrun

/-- An import into a stored API that asks for a new group and for a member whom nobody knows writes
nothing, and neither does a mapping to a group that is there and a role that is not. -/
theorem all_or_nothing_of_unknown_member :
    let shop : Definition := {
      details := { name := "Shop", version := "1" }
      groups := ["sellers"] }
    let history : List Event := [.imported none (.ok shop) (some "ann")]
    let before := (Catalog.start {}).after history
    let next : Definition := {
      details := { name := "Store", version := "2" }
      groups := ["buyers"]
      members := [{ reference := "nobody", role := "USER" }] }
    let request : Request := {
      method := "PUT"
      target := "/apis/api~1/import".toList
      body := Text.encodeUtf8 ("\x7b\"name\": \"Store\", \"version\": \"2\", " ++
        "\"groups\": [\"buyers\"], \"members\": [\x7b\"reference\": \"nobody\"\x7d]\x7d") }
    let anyone : Condition := ⟨"true", .holds (.literal (.bool true))⟩
    let mapping : Mapping := ⟨[⟨anyone, ["sellers"]⟩], [⟨anyone, [⟨.management, "ROOT"⟩]⟩]⟩
    before.store.apis.map (fun api => (api.id, api.groups.length)) = [("api~1", 1)] ∧
      (respond {} request before).1.isSuccess = false ∧
      (respond {} request before).2.store = before.store ∧
      (∃ failed, (importParsed (some "api~1") (.ok next) (some "ann")).runOn before =
        (.error (.unresolvableMember "nobody"), failed) ∧ failed.store = before.store) ∧
      ∃ failed, (mapping.apply { id := "jane" } .null).runOn before =
        (.error (.roleNotFound "MANAGEMENT" "ROOT"), failed) ∧ failed = before := by
  intro shop history before next request anyone mapping
  obtain ⟨hrequest, himport, hmapping⟩ := all_or_nothing {} {} history request
  have hfailed : (respond {} request before).1.isSuccess = false := by decide +kernel
  refine ⟨by decide +kernel, hfailed, (hrequest hfailed).1, ⟨_, rfl, ?_⟩, ⟨_, rfl, ?_⟩⟩
  · exact (himport (some "api~1") (.ok next) (some "ann") _ _ rfl).1
  · exact hmapping mapping { id := "jane" } .null _ _ rfl

end Server

end ApiCatalog
