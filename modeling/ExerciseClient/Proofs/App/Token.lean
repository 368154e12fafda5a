import ExerciseClient.Proofs.Config.Address
import ExerciseClient.Proofs.Session.Scripts

/-! One token everywhere. The application keeps the token in its settings, in the client that the
autosaver saves through, and in the connector that the channel connects with; what it got from a
log-in is in all of them before anything else is sent, and nothing changes it later. -/

namespace ExerciseClient

open Http (Request Exchange)

theorem Http.Exchange.unreachable_of_not_sent {x : Exchange} (h : x.isSent = false) :
    ∃ causes, x = .unreachable causes := by
  cases x with
  | unreachable causes => exact ⟨causes, rfl⟩
  | dropped | answered | redirected | misdirected => cases h

theorem Http.Exchange.isSent_of_answer? {x : Exchange} {r : Http.Response}
    (h : x.answer? = some r) : x.isSent = true := by
  cases x with
  | unreachable => cases h
  | dropped | answered | redirected | misdirected => rfl

namespace ApiClient

/-- A request to an endpoint reaches a peer. -/
structure Reaches (c : ApiClient) (segments : List String) (x : Exchange) (u : Url) : Prop where
  endpoint_eq : c.endpoint segments = .ok u
  noFault : c.fault? u = none
  sent : x.isSent = true

section

variable {α : Type} (c : ApiClient) (name method : String) (segments : List String)
  (body : Option Json.Value) (x : Exchange) (use : Url → Http.Response → Except ApiError α)

/-- A call sends its request once if it can be sent, and fails otherwise. -/
theorem call_cases :
    (∃ u, c.Reaches segments x u ∧
      (c.call name method segments body x use).requests = [c.request method u body]) ∨
    (∀ u, ¬ c.Reaches segments x u) ∧ (c.call name method segments body x use).requests = [] ∧
      ∃ e, (c.call name method segments body x use).result = .error e := by
  cases he : c.endpoint segments with
  | error e =>
      right
      refine ⟨?_, by simp [call, he], e, by simp [call, he]⟩
      intro u h
      have hu := h.endpoint_eq
      simp [he] at hu
  | ok u =>
      have hsame {u' : Url} (h : c.Reaches segments x u') : u' = u :=
        Except.ok.inj (h.endpoint_eq.symm.trans he)
      cases hf : c.fault? u with
      | some f =>
          right
          have herror : (c.call name method segments body x use).result =
              .error (.requestFailed u.text f) := by
            simp only [call, he, send, hf]
            rfl
          refine ⟨?_, by simp [call, he, send, hf], _, herror⟩
          intro u' h
          have hnone := hsame h ▸ h.noFault
          simp [hf] at hnone
      | none =>
          cases hsent : x.isSent with
          | true => exact .inl ⟨u, ⟨he, hf, hsent⟩, by simp [call, he, send, hf, hsent]⟩
          | false =>
              right
              obtain ⟨causes, rfl⟩ := Exchange.unreachable_of_not_sent hsent
              have herror : (c.call name method segments body (.unreachable causes) use).result =
                  .error (.requestFailed u.text (.unreachable u.withoutUserInfo.text causes)) := by
                simp only [call, he, send, hf]
                rfl
              exact ⟨fun u' h => Bool.noConfusion h.sent, by simp [call, he, send, hf, hsent], _,
                herror⟩

/-- What a call sends carries the client's token. -/
theorem call_carries : ∀ r ∈ (c.call name method segments body x use).requests,
    r.method = method ∧ r.cookie = c.token.map Http.authCookie := by
  rcases c.call_cases name method segments body x use with ⟨u, _, he⟩ | ⟨_, he, _⟩
  · rw [he]
    intro r hr
    obtain rfl := List.mem_singleton.mp hr
    exact ⟨rfl, rfl⟩
  · simp [he]

end

end ApiClient

/-- No request is a log-in, and all requests and handshakes carry a token if there is one. -/
structure Carries (token : Option String) (requests : List Request)
    (handshakes : List SeenHandshake) : Prop where
  requests : ∀ r ∈ requests, r.method ≠ "POST" ∧ r.cookie = token.map Http.authCookie
  handshakes : ∀ h ∈ handshakes, h.cookie = token.map Http.authCookie

namespace App

open Stage

/-! ### What carries the token -/

theorem seenFrom_carries (u : Url) (token : Option String) (journal : List (Nat × Happening))
    (line : Nat) (script : List Handshake) :
    ∀ h ∈ seenFrom u token journal line script, h.cookie = token.map Http.authCookie := by
  induction script generalizing line with
  | nil => simp [seenFrom]
  | cons handshake script ih =>
      rw [seenFrom]
      split
      · split
        · intro h hm
          rcases List.mem_cons.mp hm with rfl | hm
          · rfl
          · exact ih _ h hm
        · intro h hm
          rcases List.mem_cons.mp hm with rfl | hm
          · rfl
          · exact ih _ h hm
      · exact ih line

theorem saveRequests_carry (b : Backend) (client : ApiClient) (exercise : String)
    (saves : List SaveRequest) : ∀ r ∈ b.saveRequests client exercise saves,
    r.method = "PUT" ∧ r.cookie = client.token.map Http.authCookie := by
  intro r hr
  rw [Backend.saveRequests, List.mem_flatten] at hr
  obtain ⟨sent, hsent, hr⟩ := hr
  obtain ⟨save, _, rfl⟩ := List.mem_map.mp hsent
  exact client.call_carries _ _ _ _ _ _ r hr

/-- All copies of a token agree: the settings', the client's, the one in what the channel connects
with, and the one in what the autosaver saves to. -/
structure Copies (token : Option String) (exercise : String) (a : App) : Prop where
  config_eq : a.config.authToken = token
  client_eq : a.client.token = token
  spent : Spent
    (Connector.ofHandshakes a.url token a.backend.handshakes a.backend.laterHandshakes)
    (a.backend.store a.client exercise) exercise a.stage

/-- The copies agree, and some requests were sent before the channel was opened. -/
structure Agrees (token : Option String) (exercise : String) (first : List Request) (a : App) :
    Prop extends Copies token exercise a where
  first_eq : a.firstRequests = first

variable {token : Option String} {exercise : String} {first : List Request} {a : App}

theorem Agrees.carries (h : Agrees token exercise first a) {before rest : List Request}
    (hf : first = before ++ rest)
    (hr : ∀ r ∈ rest, r.method ≠ "POST" ∧ r.cookie = token.map Http.authCookie) :
    ∃ sent, a.requests = before ++ sent ∧ Carries token sent a.handshakes := by
  refine ⟨rest ++ a.backend.saveRequests a.client a.stage.session.exercise a.savesAsked, ?_, ?_, ?_⟩
  · rw [requests, h.first_eq, hf, List.append_assoc]
  · intro r hm
    rcases List.mem_append.mp hm with hm | hm
    · exact hr r hm
    · obtain ⟨hmethod, hcookie⟩ := saveRequests_carry _ _ _ _ r hm
      rw [hmethod, hcookie, h.client_eq]
      exact ⟨by decide, rfl⟩
  · rw [← h.config_eq]
    exact seenFrom_carries a.url _ _ _ _

theorem Agrees.withStage (h : Agrees token exercise first a) {stage : Stage}
    (hs : Spent (Connector.ofHandshakes a.url token a.backend.handshakes a.backend.laterHandshakes)
      (a.backend.store a.client exercise) exercise stage) :
    Agrees token exercise first { a with stage } :=
  ⟨⟨h.config_eq, h.client_eq, hs⟩, h.first_eq⟩

/-- To run a file changes nothing but the stage. -/
theorem Agrees.run (h : Agrees token exercise first a) (files : Files) (path : String) :
    Agrees token exercise first (a.run files path).2 := by
  have hlogged (line : LogLine) := h.spent.record (List.forall_mem_singleton.mpr
    (show (Happening.logged line).IsOwn from trivial))
  have hran (line : LogLine) (submission : Submission) (p : Party) (holds : Session → Bool)
      (fuel : Nat) := (steady_spent _ _ _).await
    (((hlogged line).edit submission).startRun submission) p holds fuel
  have hlines (lines : Log) : ∀ e ∈ lines.map Happening.logged, e.IsOwn := by
    simp [Happening.IsOwn]
  rw [App.run]
  split
  · exact h
  · simp only [Stage.startRun] at hran ⊢
    split
    · exact h.withStage ((hran ..).record (hlines _))
    · exact h.withStage (hran ..)
    · exact h.withStage (hran ..)

theorem Agrees.runAll (h : Agrees token exercise first a) (sources : List (Files × String)) :
    Agrees token exercise first (a.runAll sources).2 := by
  induction sources generalizing a with
  | nil => exact h
  | cons source sources ih => exact ih (h.run source.1 source.2)

theorem Agrees.shutdown (h : Agrees token exercise first a) :
    Agrees token exercise first a.shutdown :=
  h.withStage h.spent.finish

/-! ### The start -/

theorem logIn_of_none {c : Config} (h : c.loginCredentials = none) (client : ApiClient)
    (b : Backend) : logIn c client b = ⟨.ok (), [], [], client⟩ := by
  simp [logIn, h]

theorem logIn_of_some {c : Config} {email password : String}
    (h : c.loginCredentials = some (email, password)) (client : ApiClient) (b : Backend) :
    (logIn c client b).result = (client.login email password b.login).result.map (fun _ => ()) ∧
      (logIn c client b).requests = (client.login email password b.login).requests ∧
      (logIn c client b).client = (client.login email password b.login).client := by
  simp [logIn, h]

section

variable {c : Config} {b : Backend} {client : ApiClient} {requests : List Request}
  {handshakes : List SeenHandshake}

end

end App

end ExerciseClient
