import GatewayPolicy.Proofs.Server.Refusal

/-!
# Requests with the token

Whoever shows the configured token after the scheme should be let in.  A token
may be any text that is not blank, but a header is read only if all of it is
printable ASCII or a tab.  So a token opens the administration exactly if it is
written in ASCII; any other token locks it for everybody.
-/

set_option autoImplicit false

namespace GatewayPolicy

/-- The text can be sent in a header: it has no control character but the
tab. -/
def AdminToken.IsSendable (token : String) : Prop :=
  ∀ c ∈ token.toList, c = '\t' ∨ ' ' ≤ c ∧ c ≠ '\x7f'

def AdminToken.IsAscii (token : String) : Prop :=
  ∀ c ∈ token.toList, c.toNat < 128

instance (token : String) : Decidable (AdminToken.IsSendable token) :=
  List.decidableBAll _ _

instance (token : String) : Decidable (AdminToken.IsAscii token) :=
  List.decidableBAll _ _

/-- The request has one authorization header, and this is its value. -/
def Request.Authorizes (request : Request) (value : String) : Prop :=
  ∃ name, request.headers.filter
    (fun header => Text.eqIgnoringAsciiCase header.1 "authorization") =
      [(name, Text.utf8 value)]

theorem Request.Authorizes.header? {request : Request} {value : String}
    (authorizes : request.Authorizes value) :
    request.header? "authorization" = some (Text.utf8 value) := by
  obtain ⟨name, only⟩ := authorizes
  rw [Request.header?, ← List.head?_filter, only]
  rfl

namespace AdminToken

/-! ## Reading the header -/

theorem isHeaderChar_iff {c : Char} (sendable : c = '\t' ∨ ' ' ≤ c ∧ c ≠ '\x7f') :
    isHeaderChar c = true ↔ c.toNat < 128 := by
  simp only [isHeaderChar, Bool.or_eq_true, beq_iff_eq, Bool.and_eq_true,
    decide_eq_true_eq, Char.le_def, UInt32.le_iff_toNat_le]
  constructor
  · rintro (rfl | ⟨_, high⟩)
    · decide
    · exact Nat.lt_of_le_of_lt high (by decide)
  · intro ascii
    rcases sendable with tab | ⟨low, other⟩
    · exact Or.inl tab
    · have delete : c.toNat ≠ 127 := fun same =>
        other (Char.toNat_inj.mp same)
      have below : c.toNat ≤ 126 := by omega
      exact Or.inr ⟨low, below⟩

theorem all_isHeaderChar_iff {token : String} (sendable : IsSendable token) :
    token.toList.all isHeaderChar = true ↔ IsAscii token := by
  rw [List.all_eq_true]
  exact forall₂_congr fun c member => isHeaderChar_iff (sendable c member)

theorem ofHeader?_bearer {token : String}
    (visible : Text.isBlank token = false) :
    ofHeader? (Text.utf8 ("Bearer " ++ token)) =
      if token.toList.all isHeaderChar then some (Text.trim token)
      else none := by
  have scheme : "Bearer ".toList.all isHeaderChar = true := by decide
  have rest : afterScheme? ("Bearer ".toList ++ token.toList) =
      some token.toList := by
    rw [afterScheme?, Scanner.orElse, Scanner.word_append]
    rfl
  rw [ofHeader?, headerText?_utf8, String.toList_append, List.all_append,
    scheme, Bool.true_and]
  split
  · rw [Option.bind_eq_bind, Option.bind_some, rest, Option.bind_some,
      String.ofList_toList, Text.trimmed?_eq, visible]
    rfl
  · rfl

/-- The configured token is admitted exactly if it is written in ASCII. -/
theorem admits_bearer_iff {token : String} {request : Request}
    (visible : Text.isBlank token = false) (sendable : IsSendable token)
    (shown : request.Authorizes ("Bearer " ++ token)) :
    admits (some token) request = true ↔ IsAscii token := by
  rw [← all_isHeaderChar_iff sendable, admits, ofRequest?, shown.header?,
    Option.bind_some, ofHeader?_bearer visible]
  split
  · next ascii => simp [ascii]
  · next other => simp [other]

end AdminToken

/-! ## What the token opens -/

theorem Settings.isBlank_of_adminToken {settings : Settings} {token : String}
    (configured : settings.adminToken = some token) :
    Text.isBlank token = false := by
  unfold Settings.adminToken Text.nonBlank? at configured
  split at configured
  · cases configured
  · next visible =>
      rw [← Option.some.inj configured]
      exact Bool.eq_false_iff.mpr visible

namespace Server

variable {m : Type → Type} [Monad m] [LawfulMonad m]

theorem handle_of_found {endpoint : Endpoint} {request : Request}
    (found : Endpoint.ofPath? request.path = some endpoint)
    (environment : Environment m) (server : Server) :
    ∃ finish : Response → Response,
      (∀ response, (finish response).status = response.status) ∧
      (handle environment request).run server =
        (fun done => (done.1.map finish, done.2)) <$>
          (answer environment endpoint request).run server := by
  cases cut : request.isHead && endpoint.accepts request with
  | false => exact ⟨id, fun _ => rfl, by simp [handle, found, cut]⟩
  | true => exact ⟨.headOnly, fun _ => rfl, by simp [handle, found, cut]⟩

theorem handle_of_mayAccess {server : Server} {endpoint : Endpoint}
    {request : Request}
    (found : Endpoint.ofPath? request.path = some endpoint)
    (allowed : server.mayAccess endpoint request = true)
    (environment : Environment m) :
    (endpoint.accepts request = true →
      ∃ respond : Json → Response, (∀ json, (respond json).status = 200) ∧
        (handle environment request).run server =
          (fun performed => (performed.1.map respond, performed.2)) <$>
            (perform environment endpoint).run server) ∧
    (endpoint.accepts request = false →
      ∃ response : Response, response.status = 405 ∧
        (handle environment request).run server =
          pure (some response, server)) := by
  obtain ⟨finish, status, handled⟩ := handle_of_found found environment server
  refine ⟨fun accepted => ?_, fun rejected => ?_⟩
  · refine ⟨fun json => finish (.ofJson 200 json), fun _ => status _, ?_⟩
    rw [handled]
    simp [answer, allowed, accepted, Function.comp_def]
  · refine ⟨finish
      { Response.withoutBody 405 with allow := endpoint.allowance request },
      status _, ?_⟩
    rw [handled]
    simp [answer, allowed, rejected]

theorem handle_of_locked {server : Server} {endpoint : Endpoint}
    {request : Request}
    (found : Endpoint.ofPath? request.path = some endpoint)
    (locked : server.mayAccess endpoint request = false)
    (environment : Environment m) :
    ∃ response : Response, response.status = 401 ∧
      (handle environment request).run server =
        pure (some response, server) := by
  obtain ⟨finish, status, handled⟩ := handle_of_found found environment server
  refine ⟨finish
    { Response.ofJson unauthorized.status unauthorized.toJson with
      allow := endpoint.allowance request }, status _, ?_⟩
  rw [handled]
  simp [answer, locked]

/-- Whoever shows the configured token on the way to the administration is let
in exactly if the token is written in ASCII.  Then the endpoint acts, where it
accepts the method; any other token is refused, and nothing happens. -/
theorem token_opens_administration_iff (environment : Environment m)
    (server : Server) (token : String) (request : Request)
    (endpoint : Endpoint)
    (configured : server.configuration.settings.adminToken = some token)
    (sendable : AdminToken.IsSendable token)
    (found : Endpoint.ofPath? request.path = some endpoint)
    (guarded : endpoint.isProtected = true)
    (shown : request.Authorizes ("Bearer " ++ token)) :
    (server.mayAccess endpoint request = true ↔ AdminToken.IsAscii token) ∧
    (AdminToken.IsAscii token →
      (endpoint.accepts request = true →
        ∃ respond : Json → Response, (∀ json, (respond json).status = 200) ∧
          (handle environment request).run server =
            (fun performed => (performed.1.map respond, performed.2)) <$>
              (perform environment endpoint).run server) ∧
      (endpoint.accepts request = false →
        ∃ response : Response, response.status = 405 ∧
          (handle environment request).run server =
            pure (some response, server))) ∧
    (¬AdminToken.IsAscii token →
      ∃ response : Response, response.status = 401 ∧
        (handle environment request).run server =
          pure (some response, server)) := by
  have visible := Settings.isBlank_of_adminToken configured
  have allowed : server.mayAccess endpoint request = true ↔
      AdminToken.IsAscii token := by
    rw [mayAccess, guarded, configured, Bool.not_true, Bool.false_or]
    exact AdminToken.admits_bearer_iff visible sendable shown
  refine ⟨allowed, fun ascii => ?_, fun other => ?_⟩
  · exact handle_of_mayAccess found (allowed.mpr ascii) environment
  · have locked : server.mayAccess endpoint request = false :=
      Bool.eq_false_iff.mpr fun open_ => other (allowed.mp open_)
    exact handle_of_locked found locked environment

/-- A token that begins like a scheme and has blanks within and around it. -/
theorem token_like_a_scheme_opens_routes :
    let environment : Environment Id :=
      .still (fun _ => .ok []) { wallMs := 0, steadyMs := 0 }
    let settings : Settings :=
      { values := [("security.admin_token", " Bearer s3 cret\t")] }
    let server : Server :=
      .new { path := "a.toml", content := "", settings }
    let request : Request :=
      { method := "GET", target := "/api/routes"
        headers :=
          [("Authorization", Text.utf8 "Bearer  Bearer s3 cret\t")]
        body := [] }
    settings.adminToken = some " Bearer s3 cret\t" ∧
    AdminToken.IsSendable " Bearer s3 cret\t" ∧
    Endpoint.ofPath? request.path = some .routes ∧
    Endpoint.routes.isProtected = true ∧
    request.Authorizes ("Bearer " ++ " Bearer s3 cret\t") ∧
    ((handle environment request).run server).1.map Response.status =
      some 200 := by
  intro environment settings server request
  have configured : settings.adminToken = some " Bearer s3 cret\t" := by decide
  have sendable : AdminToken.IsSendable " Bearer s3 cret\t" := by decide
  have ascii : AdminToken.IsAscii " Bearer s3 cret\t" := by decide
  have found : Endpoint.ofPath? request.path = some .routes := by decide
  have shown : request.Authorizes ("Bearer " ++ " Bearer s3 cret\t") :=
    ⟨"Authorization", by decide⟩
  obtain ⟨_, opened, _⟩ :=
    token_opens_administration_iff environment server " Bearer s3 cret\t"
      request .routes configured sendable found rfl shown
  obtain ⟨respond, ok, handled⟩ := (opened ascii).1 (by decide)
  refine ⟨configured, sendable, found, rfl, shown, ?_⟩
  rw [handled]
  exact congrArg some (ok _)

/-- A token with an accent can be configured and sent, and is refused. -/
theorem accented_token_is_refused :
    let environment : Environment Id :=
      .still (fun _ => .ok []) { wallMs := 0, steadyMs := 0 }
    let settings : Settings := { values := [("security.admin_token", "clé")] }
    let server : Server :=
      .new { path := "a.toml", content := "", settings }
    let request : Request :=
      { method := "GET", target := "/api/routes"
        headers := [("Authorization", Text.utf8 "Bearer clé")]
        body := [] }
    settings.adminToken = some "clé" ∧
    AdminToken.IsSendable "clé" ∧
    Endpoint.ofPath? request.path = some .routes ∧
    Endpoint.routes.isProtected = true ∧
    request.Authorizes ("Bearer " ++ "clé") ∧
    server.mayAccess .routes request = false ∧
    ((handle environment request).run server).1.map Response.status =
      some 401 := by
  intro environment settings server request
  have found : Endpoint.ofPath? request.path = some .routes := by decide
  have locked : server.mayAccess .routes request = false := by decide
  obtain ⟨response, refused, handled⟩ :=
    handle_of_locked found locked environment
  refine ⟨by decide, by decide, found, rfl, ⟨"Authorization", by decide⟩,
    locked, ?_⟩
  rw [handled]
  exact congrArg some refused

end Server

end GatewayPolicy
