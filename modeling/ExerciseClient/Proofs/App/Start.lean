import ExerciseClient.Proofs.App.Token
import ExerciseClient.Proofs.Session.Closing

/-! How the application starts. Only its addresses, the log-in and the connection can keep it from
starting; what the back end answers when it is asked for the progress and for the description
decides no more than the first draft and the kind of the exercise. A channel that did not stand in
time is closed for good before the start fails. -/

namespace ExerciseClient

open Http (Request)

namespace ApiClient

/-- An exchange brings a record: the request reaches a peer, and the answer that is given in the end
is a success whose body is the JSON text of the record. -/
def Brings {α : Type} (c : ApiClient) (segments : List String) (x : Http.Exchange)
    (d : Json.Decoder α) (v : α) : Prop :=
  ∃ u r cs, c.Reaches segments x u ∧ x.answer? = some r ∧ r.isSuccess = true ∧
    Text.Utf8.decode? r.body = some cs ∧ Json.decodeText d (String.ofList cs) = .ok v

/-- Wherever it was sent on to, a client is given the answer of an exchange. -/
theorem outcome_eq_ok_iff {x : Http.Exchange} {url : String} {r : Http.Response} :
    outcome url x = .ok r ↔ x.answer? = some r := by
  induction x generalizing url with
  | answered => simp [outcome, Http.Exchange.answer?]
  | redirected target rest ih => exact ih
  | unreachable | dropped | misdirected => simp [outcome, Http.Exchange.answer?]

section

variable {α : Type} (c : ApiClient) (name method : String) (segments : List String)
  (body : Option Json.Value) (x : Http.Exchange) (use : Url → Http.Response → Except ApiError α)

theorem call_client : (c.call name method segments body x use).client = c := by
  rw [call]
  split <;> rfl

/-- A call succeeds with what is made of an answer that is a success. -/
theorem call_ok_iff (v : α) : (c.call name method segments body x use).result = .ok v ↔
    ∃ u r, c.Reaches segments x u ∧ x.answer? = some r ∧ r.isSuccess = true ∧
      use u r = .ok v := by
  constructor
  · intro h
    cases he : c.endpoint segments with
    | error e => simp [call, he] at h
    | ok u =>
        cases hf : c.fault? u with
        | some f => simp [call, he, send, hf, Except.bind] at h
        | none =>
            cases ho : outcome u.withoutUserInfo.text x with
            | error f => simp [call, he, send, hf, ho, Except.bind] at h
            | ok r =>
                have hanswer := outcome_eq_ok_iff.mp ho
                refine ⟨u, r, ⟨he, hf, Http.Exchange.isSent_of_answer? hanswer⟩, hanswer, ?_⟩
                cases hr : r.isSuccess with
                | true => exact ⟨rfl, by simpa [call, he, send, hf, ho, hr, Except.bind] using h⟩
                | false => simp [call, he, send, hf, ho, hr, Except.bind] at h
  · rintro ⟨u, r, hu, hanswer, hr, hv⟩
    have ho : outcome u.withoutUserInfo.text x = .ok r := outcome_eq_ok_iff.mpr hanswer
    simp [call, hu.endpoint_eq, send, hu.noFault, ho, hr, Except.bind, hv]

theorem mapError_eq_ok_iff {ε ε' : Type} (f : ε → ε') (r : Except ε α) (v : α) :
    r.mapError f = .ok v ↔ r = .ok v := by
  cases r with
  | error e => exact ⟨nofun, nofun⟩
  | ok a =>
      exact ⟨fun h => congrArg _ (Except.ok.inj h), fun h => congrArg _ (Except.ok.inj h)⟩

theorem readBody_ok_iff (d : Json.Decoder α) (u : Url) (r : Http.Response) (v : α) :
    readBody d u r = .ok v ↔ ∃ cs, Text.Utf8.decode? r.body = some cs ∧
      Json.decodeText d (String.ofList cs) = .ok v := by
  rw [readBody, mapError_eq_ok_iff]
  cases Text.Utf8.decode? r.body with
  | none => simp
  | some cs => simp

/-- What a client reads is what an exchange brings. -/
theorem read_ok_iff (d : Json.Decoder α) (v : α) :
    (c.call name method segments body x (readBody d)).result = .ok v ↔
      c.Brings segments x d v := by
  rw [call_ok_iff]
  constructor
  · rintro ⟨u, r, hu, hx, hr, hv⟩
    obtain ⟨cs, hcs, hv⟩ := (readBody_ok_iff d u r v).mp hv
    exact ⟨u, r, cs, hu, hx, hr, hcs, hv⟩
  · rintro ⟨u, r, cs, hu, hx, hr, hcs, hv⟩
    exact ⟨u, r, hu, hx, hr, (readBody_ok_iff d u r v).mpr ⟨cs, hcs, hv⟩⟩

end

end ApiClient

namespace App

/-! ### The connection -/

/-- The wait for the channel of settings to stand: whether it does, and where that leaves it. -/
def connection (c : Config) (b : Backend) (u : Url) : Bool × Stage :=
  let connector := Connector.ofHandshakes u c.authToken b.handshakes b.laterHandshakes
  let timeout := c.connectTimeoutSecs * 1000
  (Stage.ofSession (.ofChannel
    (Channel.connect u.text connector c.backoff timeout))).waitConnected timeout

/-- A stage is left for good: its channel is torn down and makes no attempt any more, and nothing
else goes on. -/
structure Deserted (s : Stage) : Prop where
  tornDown : s.session.channel.state = .tornDown
  finished : s.session.channel.isFinished = true
  silent : ∀ events : List Channel.Event,
    let later := (Life.ofChannel s.now s.session.channel).run events
    later.channel.state = .tornDown ∧ ∀ m ∈ later.history, ∀ e, m.2 = .did e → ¬ e.IsActive
  unsaved : s.session.autosaver.isFinished = true
  runs_eq : s.session.runs = []

theorem coherent_connection (c : Config) (b : Backend) (u : Url) :
    (connection c b u).2.session.channel.Coherent :=
  (Stage.drifts_waitConnected ..).coherent (Channel.coherent_connect ..)

/-- Closing a channel tears it down for good. -/
theorem closed_for_good {s : Stage} (h : s.session.channel.Coherent) :
    s.closeChannel.session.channel.isFinished = true ∧ ∀ events : List Channel.Event,
      let later := (Life.ofChannel s.closeChannel.now s.closeChannel.session.channel).run events
      later.channel.state = .tornDown ∧ ∀ m ∈ later.history, ∀ e, m.2 = .did e → ¬ e.IsActive := by
  have htorn : s.tearDown.session.channel = s.session.channel.tearDown := by
    rw [Stage.tearDown, Stage.onChannel, Stage.call_session]
  have hdrift := s.drifts_closeChannel
  have hcoherent : s.closeChannel.session.channel.Coherent :=
    hdrift.coherent (htorn ▸ h.tearDown)
  have hstopping : s.closeChannel.session.channel.stopping = true := by
    rw [hdrift.stopping, htorn]
    rfl
  have hfinished := Stage.isFinished_closeChannel h
  refine ⟨hfinished, fun events => ?_⟩
  let reached := Life.ofChannel s.closeChannel.now s.closeChannel.session.channel
  have hfinal : Channel.Final reached (reached.run events) :=
    Channel.Final.run ⟨hcoherent, hstopping, ⟨rfl, rfl, rfl, .inl rfl⟩, [], rfl, by simp⟩ events
  refine ⟨hfinal.coherent.tornDown_iff.mpr (Channel.finished_run ?_ events), ?_⟩
  · exact (Channel.isFinished_iff _).mp hfinished
  · obtain ⟨later, hlater, hidle⟩ := hfinal.idle
    intro m hm e he
    have hd := hidle m (by rwa [hlater] at hm)
    rwa [he] at hd

/-- Nobody but the channel does anything on a stage that is only a channel. -/
theorem steady_idle : Stage.Steady fun s => s.session.autosaver.phase = .finished ∧
    s.session.runs = [] := by
  constructor
  · intro p rest s ⟨hsaver, hruns⟩
    refine ⟨Stage.steady_finished.act p rest s hsaver, ?_⟩
    rw [Stage.act_session]
    cases p with
    | channel | autosaver => exact hruns
    | run number => simp [Session.turn, hruns]
  · intro t s h
    rwa [Stage.moveTo_session]

theorem deserted_closeChannel (c : Config) (b : Backend) (u : Url) :
    Deserted (connection c b u).2.closeChannel := by
  obtain ⟨hfinished, hsilent⟩ := closed_for_good (coherent_connection c b u)
  have hidle : (connection c b u).2.closeChannel.session.autosaver.phase = .finished ∧
      (connection c b u).2.closeChannel.session.runs = [] := by
    have hconnection : (connection c b u).2.session.autosaver.phase = .finished ∧
        (connection c b u).2.session.runs = [] := steady_idle.waitConnected ⟨rfl, rfl⟩ _
    refine steady_idle.await ?_ ..
    rwa [Stage.tearDown, Stage.onChannel, Stage.call_session]
  exact ⟨(hsilent []).1, hfinished, hsilent, (Autosaver.isFinished_iff _).mpr hidle.1, hidle.2⟩

/-! ### What a start comes to -/

/-- What keeps the application from starting. -/
def fault? (c : Config) (b : Backend) : Option AppError :=
  match ApiClient.ofConfig c with
  | .error e => some (.config e)
  | .ok client =>
    match (logIn c client b).result with
    | .error e => some (.api e)
    | .ok _ =>
      match c.channelUrl with
      | .error e => some (.config e)
      | .ok u =>
        if (connection { c with authToken := (logIn c client b).client.token } b u).1 then none
        else some (.connectTimeout u.text c.connectTimeoutSecs)

/-- The progress that a client loads for a first draft. -/
def savedBy (client : ApiClient) (exercise : String) (b : Backend) : Option Submission :=
  (restore (client.progress exercise b.progress).result).1

/-- The kind of the exercise that a client asks about. -/
def kindBy (client : ApiClient) (exercise : String) (b : Backend) : ExerciseKind :=
  (kindOf (client.exercise exercise b.exercise).result (savedBy client exercise b)).1

/-- A start that fails, and what it leaves of the channel that it opened. -/
inductive Failure (c : Config) (b : Backend) (l : Launch) : AppError → Prop where
  | address {e} (he : ApiClient.ofConfig c = .error e) (hs : l.handshakes = []) :
      Failure c b l (.config e)
  | login {client email password e} (hc : ApiClient.ofConfig c = .ok client)
      (hl : c.loginCredentials = some (email, password))
      (he : (client.login email password b.login).result = .error e) (hs : l.handshakes = []) :
      Failure c b l (.api e)
  | channelAddress {e} (he : c.channelUrl = .error e) (hs : l.handshakes = []) :
      Failure c b l (.config e)
  | connection {client settings u left} (hc : ApiClient.ofConfig c = .ok client)
      (hl : (logIn c client b).result = .ok ())
      (hsettings : settings = { c with authToken := (logIn c client b).client.token })
      (hu : c.channelUrl = .ok u) (hn : (connection settings b u).1 = false)
      (hleft : left = (connection settings b u).2.closeChannel)
      (hlog : ∃ before, l.log = before ++ journalLog left)
      (hs : l.handshakes = handshakesSeen b u settings.authToken left) (hd : Deserted left) :
      Failure c b l (.connectTimeout u.text c.connectTimeoutSecs)

/-- What is logged before the channel is opened. -/
def openingLog (c : Config) (client : ApiClient) (exercise : String) (b : Backend) : Log :=
  let login := logIn c client b
  let progress := login.client.progress exercise b.progress
  let described := login.client.exercise exercise b.exercise
  c.banner exercise ++ login.log ++ progress.log ++ [(restore progress.result).2] ++
    described.log ++ [(kindOf described.result (savedBy login.client exercise b)).2]

/-- The requests that are sent before the channel is opened. -/
def openingRequests (c : Config) (client : ApiClient) (exercise : String) (b : Backend) :
    List Request :=
  let login := logIn c client b
  login.requests ++ (login.client.progress exercise b.progress).requests ++
    (login.client.exercise exercise b.exercise).requests

/-- An application as it starts. -/
structure Begun (c : Config) (exercise : String) (b : Backend) (a : App) : Prop where
  signedIn : ∃ client, ApiClient.ofConfig c = .ok client ∧ (logIn c client b).result = .ok () ∧
    a.client = (logIn c client b).client ∧ a.opening = openingLog c client exercise b ∧
    a.firstRequests = openingRequests c client exercise b
  config_eq : a.config = { c with authToken := a.client.token }
  backend_eq : a.backend = b
  url_eq : c.channelUrl = .ok a.url
  connected : (connection a.config b a.url).1 = true
  stage_eq : a.stage = Stage.call { (connection a.config b a.url).2 with
    session := .start a.config (connection a.config b a.url).2.session.channel
      (b.store a.client exercise) exercise (kindBy a.client exercise b)
      (savedBy a.client exercise b) } .autosaver

section

variable {c : Config} {exercise : String} {b : Backend} {a : App}

theorem Begun.now_eq (h : Begun c exercise b a) :
    a.stage.now = (connection a.config b a.url).2.now := by
  rw [h.stage_eq, Stage.call_now]

theorem Begun.session_eq (h : Begun c exercise b a) : a.stage.session =
    .start a.config (connection a.config b a.url).2.session.channel (b.store a.client exercise)
      exercise (kindBy a.client exercise b) (savedBy a.client exercise b) := by
  rw [h.stage_eq, Stage.call_session]

theorem Begun.runs_eq (h : Begun c exercise b a) : a.stage.session.runs = [] := by
  rw [h.session_eq]
  rfl

theorem Begun.coherent (h : Begun c exercise b a) : a.stage.session.channel.Coherent := by
  rw [h.session_eq]
  exact coherent_connection ..

end

theorem launch_of_address {c : Config} {e : AddressError} (he : ApiClient.ofConfig c = .error e)
    (exercise : String) (b : Backend) :
    launch c exercise b = ⟨.error (.config e), c.banner exercise, [], []⟩ := by
  simp [launch, he]

theorem launch_of_login {c : Config} {client : ApiClient} {b : Backend} {e : ApiError}
    (hc : ApiClient.ofConfig c = .ok client) (he : (logIn c client b).result = .error e)
    (exercise : String) : launch c exercise b = ⟨.error (.api e),
      c.banner exercise ++ (logIn c client b).log, (logIn c client b).requests, []⟩ := by
  simp [launch, hc, he]

/-- After the log-in comes the channel, with what was read meanwhile. -/
theorem launch_of_signedIn {c : Config} {client : ApiClient} {b : Backend}
    (hc : ApiClient.ofConfig c = .ok client) (hl : (logIn c client b).result = .ok ())
    (exercise : String) :
    let client' := (logIn c client b).client
    launch c exercise b =
      openSession { c with authToken := client'.token } client' exercise b
        (kindBy client' exercise b) (savedBy client' exercise b) (openingLog c client exercise b)
        (openingRequests c client exercise b) := by
  simp only [launch, hc, hl, kindBy, savedBy, openingLog, openingRequests]

/-- A log-in does not change what a client is for. -/
theorem logIn_base (c : Config) (client : ApiClient) (b : Backend) :
    (logIn c client b).client.base = client.base := by
  cases hs : c.loginCredentials with
  | none => rw [logIn_of_none hs]
  | some p =>
      rw [(logIn_of_some hs client b).2.2, ApiClient.login]
      split <;> simp only [ApiClient.call_client]

theorem login_of_error {c : Config} {client : ApiClient} {b : Backend} {e : ApiError}
    (he : (logIn c client b).result = .error e) : ∃ email password,
      c.loginCredentials = some (email, password) ∧
        (client.login email password b.login).result = .error e := by
  cases hs : c.loginCredentials with
  | none => simp [logIn_of_none hs] at he
  | some p =>
      obtain ⟨email, password⟩ := p
      refine ⟨email, password, rfl, ?_⟩
      rw [(logIn_of_some hs client b).1] at he
      cases hr : (client.login email password b.login).result with
      | ok token => simp [hr, Except.map] at he
      | error e' => simpa [hr, Except.map] using he

theorem openSession_of_address {c : Config} {e : AddressError} (he : c.channelUrl = .error e)
    (client : ApiClient) (exercise : String) (b : Backend) (kind : ExerciseKind)
    (saved : Option Submission) (log : Log) (requests : List Request) :
    openSession c client exercise b kind saved log requests =
      ⟨.error (.config e), log, requests, []⟩ := by
  simp only [openSession, he]

section

variable {c : Config} {b : Backend} {u : Url} (hu : c.channelUrl = .ok u) (client : ApiClient)
  (exercise : String) (kind : ExerciseKind) (saved : Option Submission) (log : Log)
  (requests : List Request)

include hu

/-- A channel that stands is the session's, and the autosaver begins. -/
theorem openSession_of_stands (h : (connection c b u).1 = true) :
    let stage := (connection c b u).2
    let session := Session.start c stage.session.channel (b.store client exercise) exercise kind
      saved
    let a : App := ⟨c, b, client, log, requests, u, { stage with session }.call .autosaver⟩
    openSession c client exercise b kind saved log requests =
      ⟨.ok a, a.log, requests, a.handshakes⟩ := by
  simp only [openSession, hu]
  exact if_pos h

/-- A channel that does not is closed. -/
theorem openSession_of_fails (h : (connection c b u).1 = false) :
    let left := (connection c b u).2.closeChannel
    openSession c client exercise b kind saved log requests =
      ⟨.error (.connectTimeout u.text c.connectTimeoutSecs), log ++ journalLog left, requests,
        handshakesSeen b u c.authToken left⟩ := by
  simp only [openSession, hu]
  exact if_neg (Bool.eq_false_iff.mp h)

end

/-- A start fails or it has begun. -/
theorem launch_ends (c : Config) (exercise : String) (b : Backend) :
    (∃ e, fault? c b = some e ∧ (launch c exercise b).outcome = .error e ∧
      Failure c b (launch c exercise b) e) ∨
    fault? c b = none ∧ ∃ a, (launch c exercise b).outcome = .ok a ∧ Begun c exercise b a := by
  cases hc : ApiClient.ofConfig c with
  | error e =>
      refine .inl ⟨.config e, by simp [fault?, hc], ?_⟩
      rw [launch_of_address hc]
      exact ⟨rfl, .address hc rfl⟩
  | ok client =>
      cases hl : (logIn c client b).result with
      | error e =>
          obtain ⟨email, password, hs, he⟩ := login_of_error hl
          refine .inl ⟨.api e, by simp [fault?, hc, hl], ?_⟩
          rw [launch_of_login hc hl]
          exact ⟨rfl, .login hc hs he rfl⟩
      | ok _ =>
          rw [launch_of_signedIn hc hl]
          generalize hsettings : { c with authToken := (logIn c client b).client.token } = settings
          have hsame : settings.channelUrl = c.channelUrl := by rw [← hsettings]; rfl
          cases hu : c.channelUrl with
          | error e =>
              refine .inl ⟨.config e, by simp [fault?, hc, hl, hu], ?_⟩
              rw [openSession_of_address (hsame.trans hu)]
              exact ⟨rfl, .channelAddress hu rfl⟩
          | ok u =>
              cases hn : (connection settings b u).1 with
              | true =>
                  refine .inr ⟨by simp [fault?, hc, hl, hu, hsettings, hn], ?_⟩
                  rw [openSession_of_stands (hsame.trans hu) _ _ _ _ _ _ hn]
                  refine ⟨_, rfl, ?_⟩
                  exact ⟨⟨client, hc, hl, rfl, rfl, rfl⟩, hsettings.symm, rfl, hu, hn, rfl⟩
              | false =>
                  have htimeout : settings.connectTimeoutSecs = c.connectTimeoutSecs := by
                    rw [← hsettings]
                  refine .inl ⟨.connectTimeout u.text c.connectTimeoutSecs,
                    by simp [fault?, hc, hl, hu, hsettings, hn], ?_⟩
                  rw [openSession_of_fails (hsame.trans hu) _ _ _ _ _ _ hn, htimeout]
                  exact ⟨rfl, .connection hc hl hsettings.symm hu hn rfl ⟨_, rfl⟩ rfl
                    (deserted_closeChannel settings b u)⟩

/-! ### What the answers decide -/

theorem savedBy_eq_some_iff (client : ApiClient) (exercise : String) (b : Backend)
    (s : Submission) : savedBy client exercise b = some s ↔
      ∃ p, client.Brings ["me", "exercises", exercise] b.progress Progress.decode p ∧
        p.savedSubmission = some s := by
  have hread (p : Progress) : (client.progress exercise b.progress).result = .ok p ↔
      client.Brings ["me", "exercises", exercise] b.progress Progress.decode p :=
    client.read_ok_iff ..
  rw [savedBy]
  cases hr : (client.progress exercise b.progress).result with
  | ok p =>
      constructor
      · intro h
        exact ⟨p, (hread p).mp hr, h⟩
      · rintro ⟨q, hq, h⟩
        obtain rfl := Except.ok.inj (hr.symm.trans ((hread q).mpr hq))
        exact h
  | error e =>
      have hnone : (restore (.error e)).1 = none := by
        rw [restore]
        split <;> rfl
      constructor
      · intro h
        rw [hnone] at h
        cases h
      · rintro ⟨q, hq, _⟩
        cases hr.symm.trans ((hread q).mpr hq)

theorem kindBy_cases (client : ApiClient) (exercise : String) (b : Backend) :
    (∀ d, client.Brings ["exercises", exercise] b.exercise Exercise.decode d →
      kindBy client exercise b = d.kind) ∧
    ((∀ d, ¬ client.Brings ["exercises", exercise] b.exercise Exercise.decode d) →
      kindBy client exercise b = ((savedBy client exercise b).map Submission.kind).getD .code) := by
  have hread (d : Exercise) : (client.exercise exercise b.exercise).result = .ok d ↔
      client.Brings ["exercises", exercise] b.exercise Exercise.decode d :=
    client.read_ok_iff ..
  rw [kindBy]
  cases hr : (client.exercise exercise b.exercise).result with
  | ok d =>
      refine ⟨fun d' hd => ?_, fun hn => absurd ((hread d).mp hr) (hn d)⟩
      obtain rfl := Except.ok.inj (hr.symm.trans ((hread d').mpr hd))
      rfl
  | error e =>
      refine ⟨fun d hd => ?_, fun _ => rfl⟩
      cases hr.symm.trans ((hread d).mpr hd)

/-- What a start makes of what the back end answers. -/
structure Tolerance (c : Config) (exercise : String) (b : Backend) : Prop where
  /-- Only an address, the log-in and the connection can be in the way. -/
  fails : ∀ e, (launch c exercise b).outcome = .error e → Failure c b (launch c exercise b) e
  tolerant : ∀ progress described e,
    (launch c exercise { b with progress, exercise := described }).outcome = .error e ↔
      (launch c exercise b).outcome = .error e
  begun : ∀ a, (launch c exercise b).outcome = .ok a → Begun c exercise b a
  draft_iff : ∀ a, (launch c exercise b).outcome = .ok a → ∀ s,
    a.stage.session.draft = some s ↔
      ∃ p, a.client.Brings ["me", "exercises", exercise] b.progress Progress.decode p ∧
        p.savedSubmission = some s
  described : ∀ a, (launch c exercise b).outcome = .ok a → ∀ d,
    a.client.Brings ["exercises", exercise] b.exercise Exercise.decode d →
      a.stage.session.kind = d.kind
  undescribed : ∀ a, (launch c exercise b).outcome = .ok a →
    (∀ d, ¬ a.client.Brings ["exercises", exercise] b.exercise Exercise.decode d) →
      a.stage.session.kind = (a.stage.session.draft.map Submission.kind).getD .code

theorem error_iff_fault (c : Config) (exercise : String) (b : Backend) (e : AppError) :
    (launch c exercise b).outcome = .error e ↔ fault? c b = some e := by
  rcases launch_ends c exercise b with ⟨e', hfault, he, _⟩ | ⟨hfault, a, he, _⟩ <;>
    simp [hfault, he]

theorem begun_of_ok {c : Config} {exercise : String} {b : Backend} {a : App}
    (h : (launch c exercise b).outcome = .ok a) : Begun c exercise b a := by
  rcases launch_ends c exercise b with ⟨e, _, he, _⟩ | ⟨_, a', he, hbegun⟩
  · cases h.symm.trans he
  · obtain rfl := Except.ok.inj (h.symm.trans he)
    exact hbegun

/-- Nothing that is answered about the progress and the exercise keeps the application from
starting, and a start that fails leaves nothing behind. -/
theorem start_tolerates_answers (c : Config) (exercise : String) (b : Backend) :
    Tolerance c exercise b := by
  constructor
  case fails =>
    intro e h
    rcases launch_ends c exercise b with ⟨e', _, he, hfailure⟩ | ⟨_, a, he, _⟩
    · obtain rfl := Except.error.inj (h.symm.trans he)
      exact hfailure
    · cases h.symm.trans he
  case tolerant =>
    intro progress described e
    have hsame : fault? c { b with progress, exercise := described } = fault? c b := rfl
    rw [error_iff_fault, error_iff_fault, hsame]
  case begun =>
    intro a h
    exact begun_of_ok h
  case draft_iff =>
    intro a h s
    rw [(begun_of_ok h).session_eq]
    exact savedBy_eq_some_iff a.client exercise b s
  case described =>
    intro a h d hd
    rw [(begun_of_ok h).session_eq]
    exact (kindBy_cases a.client exercise b).1 d hd
  case undescribed =>
    intro a h hn
    rw [(begun_of_ok h).session_eq]
    exact (kindBy_cases a.client exercise b).2 hn

/-- The second handshake is taken, after an answer that is an error and one from elsewhere that is
no JSON; without it there is no start. -/
example :
    let c : Config := { Config.standard with serverOrigin := "https://codim.dev" }
    let b : Backend := { Backend.unreachable with
      progress := .answered ⟨500, [], []⟩
      exercise := .redirected "https://codim.dev/new" (.answered ⟨200, [], [0x7B]⟩)
      handshakes := [.rejected 503, .accepted .plain] }
    fault? c b = none ∧ fault? c { b with handshakes := [] } =
      some (.connectTimeout "wss://codim.dev/ws" 10) := by
  decide +kernel

end App

end ExerciseClient
