import GatewayPolicy.Proofs.Server.Headers
import GatewayPolicy.Proofs.Text.Scanning
import GatewayPolicy.Proofs.Text.Trimming
import GatewayPolicy.Server.Basic

/-!
# Requests without the token

A server with a token answers whoever does not show it from the request alone,
except that the health check tells the generation as well.  `toStranger` is this
answer: it has no access to the store, to what is published, to the change
channel or to the configuration.  The main statement is that the server gives
no other answer, and that it is the same server afterwards.
-/

set_option autoImplicit false

namespace GatewayPolicy

/-! ## Showing the token -/

/-- The first authorization header is the token after a spelling of the scheme,
each perhaps with blanks around it. -/
def Request.Shows (request : Request) (token : String) : Prop :=
  ∃ scheme ∈ ["Bearer ", "bearer "], ∃ shown : String,
    request.header? "authorization" = some (Text.utf8 (scheme ++ shown)) ∧
      Text.trim shown = Text.trim token

namespace AdminToken

theorem scheme_of_afterScheme? {value : String} {rest : List Char}
    (found : afterScheme? value.toList = some rest) :
    ∃ scheme ∈ ["Bearer ", "bearer "], value = scheme ++ String.ofList rest := by
  obtain ⟨⟨_, _⟩, scanned, rfl⟩ := Option.map_eq_some_iff.mp found
  rcases Option.or_eq_some_iff.mp scanned with upper | ⟨_, lower⟩
  · exact ⟨"Bearer ", by simp, Scanner.eq_append_of_word upper⟩
  · exact ⟨"bearer ", by simp, Scanner.eq_append_of_word lower⟩

theorem shows_of_admits {token : String} {request : Request}
    (admitted : admits (some token) request = true) : request.Shows token := by
  have shown : ofRequest? request = some (Text.trim token) :=
    beq_iff_eq.mp admitted
  obtain ⟨value, header, read⟩ := Option.bind_eq_some_iff.mp shown
  obtain ⟨cs, text, read⟩ := Option.bind_eq_some_iff.mp read
  obtain ⟨rest, found, usable⟩ := Option.bind_eq_some_iff.mp read
  rw [← String.toList_ofList (l := cs)] at found
  obtain ⟨scheme, known, written⟩ := scheme_of_afterScheme? found
  rw [eq_utf8_of_headerText? text, written] at header
  refine ⟨scheme, known, String.ofList rest, header, ?_⟩
  rw [Text.trimmed?_eq] at usable
  split at usable
  · cases usable
  · exact Option.some.inj usable

theorem not_admits {token : String} {request : Request}
    (unshown : ¬request.Shows token) :
    admits (some token) request = false :=
  Bool.eq_false_iff.mpr fun admitted => unshown (shows_of_admits admitted)

end AdminToken

/-! ## What a stranger is answered -/

def Endpoint.answerStranger (endpoint : Endpoint) (generation : UInt64)
    (request : Request) : Response :=
  if endpoint.isProtected then
    { Response.ofJson Server.unauthorized.status
        Server.unauthorized.toJson with allow := endpoint.allowance request }
  else if endpoint.accepts request then
    .ofJson 200
      (.object
        [("generation", .ofUInt64 generation), ("status", .string "ok")])
  else { Response.withoutBody 405 with allow := endpoint.allowance request }

def Response.toStranger (generation : UInt64) (request : Request) : Response :=
  match Endpoint.ofPath? request.path with
  | none => .withoutBody 404
  | some endpoint =>
      let response := endpoint.answerStranger generation request
      if request.isHead && endpoint.accepts request then response.headOnly
      else response

theorem Endpoint.answerStranger_of_ne_health {endpoint : Endpoint}
    (other : endpoint ≠ .health) (generation generation' : UInt64)
    (request : Request) :
    endpoint.answerStranger generation request =
      endpoint.answerStranger generation' request := by
  have guarded : endpoint.isProtected = true := by
    rw [Endpoint.isProtected_eq]
    exact bne_iff_ne.mpr other
  simp only [answerStranger, guarded, if_true]

theorem Response.toStranger_of_ne_health {request : Request}
    (other : Endpoint.ofPath? request.path ≠ some .health)
    (generation generation' : UInt64) :
    toStranger generation request = toStranger generation' request := by
  unfold toStranger
  cases found : Endpoint.ofPath? request.path with
  | none => rfl
  | some endpoint =>
      have elsewhere : endpoint ≠ .health := fun same =>
        other (found.trans (congrArg some same))
      simp only [Endpoint.answerStranger_of_ne_health elsewhere generation
        generation' request]

namespace Server

variable {m : Type → Type} [Monad m] [LawfulMonad m]

theorem answer_of_not_admits {server : Server} {request : Request}
    (refused : AdminToken.admits server.configuration.settings.adminToken
      request = false) (environment : Environment m) (endpoint : Endpoint) :
    (answer environment endpoint request).run server =
      pure
        (some (endpoint.answerStranger server.coordinator.snapshot.generation
          request), server) := by
  by_cases health : endpoint = .health
  · subst health
    have open_ : server.mayAccess .health request = true := rfl
    cases accepted : Endpoint.health.accepts request <;>
      simp [answer, open_, Endpoint.answerStranger, Endpoint.isProtected_eq,
        accepted, perform, healthJson]
  · have guarded : endpoint.isProtected = true := by
      rw [Endpoint.isProtected_eq]
      exact bne_iff_ne.mpr health
    simp [answer, mayAccess, guarded, refused, Endpoint.answerStranger]

/-- The server answers from the request and the generation alone, stays as it
is and does nothing else. -/
theorem handle_of_not_admits {server : Server} {request : Request}
    (refused : AdminToken.admits server.configuration.settings.adminToken
      request = false) (environment : Environment m) :
    (handle environment request).run server =
      pure
        (some (.toStranger server.coordinator.snapshot.generation request),
          server) := by
  unfold handle Response.toStranger
  cases Endpoint.ofPath? request.path with
  | none => rfl
  | some endpoint =>
      simp only [StateT.run_bind, answer_of_not_admits refused, pure_bind]
      split <;> rfl

/-- Without the token a request gets the stranger's answer and changes nothing,
whatever is stored.  In no monad does it do anything else either, so that it
reads nothing of the store.  Any two servers with that token answer it alike if
they have published the same generation, and away from the health check also if
they have not: however much they differ in their stores and clocks, in what they
have published, in whether a refresh runs or is asked for, in subscriptions and
in configuration. -/
theorem stranger_learns_and_changes_nothing {m n : Type → Type} [Monad m]
    [LawfulMonad m] [Monad n] [LawfulMonad n] (environment : Environment m)
    (surroundings : Environment n) (server other : Server) (token : String)
    (request : Request)
    (configured : server.configuration.settings.adminToken = some token)
    (alike : other.configuration.settings.adminToken = some token)
    (unshown : ¬request.Shows token) :
    let response :=
      Response.toStranger server.coordinator.snapshot.generation request
    (handle environment request).run server = pure (some response, server) ∧
    (server.coordinator.snapshot.generation =
        other.coordinator.snapshot.generation →
      (handle surroundings request).run other =
        pure (some response, other)) ∧
    (Endpoint.ofPath? request.path ≠ some .health →
      (handle surroundings request).run other =
        pure (some response, other)) := by
  intro response
  have refused := AdminToken.not_admits unshown
  have here := handle_of_not_admits (configured ▸ refused) environment
  have there := handle_of_not_admits (alike ▸ refused) surroundings
  refine ⟨here, fun same => ?_, fun away => ?_⟩
  · rw [there, ← same]
  · rw [there, Response.toStranger_of_ne_health away]

/-- A wrong token on the way to the reload, at a server that has published
nothing and at one that is refreshing and protects a path.  Both keep a list of
their reads. -/
theorem wrong_token_is_answered_alike :
    let environment : Environment (StateM (List Category)) :=
      { read := fun category reads => (.ok [], reads ++ [category])
        now := pure { wallMs := 0, steadyMs := 0 } }
    let settings : Settings :=
      { values := [("security.admin_token", " s3cret ")] }
    let server : Server :=
      .new { path := "a.toml", content := "", settings }
    let other : Server :=
      { configuration := { path := "b.toml", content := "b", settings }
        coordinator :=
          { settings := { keyResolver := "path" }
            snapshot :=
              { Snapshot.empty with
                generation := 7, authorities := [("/svc/users", ["ROLE"])] }
            pending := true
            activity := .reading (.start .refresh 7) }
        times := { CycleTimes.unset with loadedAtMs := 1 }
        changes := .new }
    let request : Request :=
      { method := "POST", target := "/api/system/reload"
        headers := [("Authorization", Text.utf8 "Bearer wrong")]
        body := Text.utf8 "now" }
    ∃ response : Response, response.status = 401 ∧
      ((handle environment request).run server).run [] =
        ((some response, server), []) ∧
      ((handle environment request).run other).run [] =
        ((some response, other), []) := by
  intro environment settings server other request
  have configured : settings.adminToken = some " s3cret " := by decide
  have unshown : ¬request.Shows " s3cret " := by
    rintro ⟨scheme, known, shown, header, same⟩
    have value : "Bearer wrong" = scheme ++ shown :=
      AdminToken.eq_of_utf8_eq (by decide) (Option.some.inj header)
    simp only [List.mem_cons, List.not_mem_nil, or_false] at known
    rcases known with rfl | rfl
    · have rest : "wrong" = shown := (String.append_right_inj "Bearer ").mp value
      rw [← rest] at same
      exact absurd same (by decide)
    · have texts := congrArg String.toList value
      rw [String.toList_append] at texts
      exact absurd (List.head_eq_of_cons_eq texts) (by decide)
  have away : Endpoint.ofPath? request.path ≠ some .health := by decide
  obtain ⟨handled, _, answered⟩ :=
    stranger_learns_and_changes_nothing environment environment server other
      " s3cret " request configured configured unshown
  refine ⟨_, ?_, congrFun handled [], congrFun (answered away) []⟩
  decide

end Server

end GatewayPolicy
