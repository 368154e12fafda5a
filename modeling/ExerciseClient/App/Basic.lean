import ExerciseClient.App.Backend
import ExerciseClient.App.Error
import ExerciseClient.Config.Banner
import ExerciseClient.Session.Stage

/-!
The application: it logs in if need be, loads the progress on an exercise and its description, opens
the channel, runs source files, and at last saves the draft and closes the channel. Only a log-in
that fails and a channel that does not open keep it from starting.
-/

namespace ExerciseClient

open Http (Request)

/-- An application that has started. -/
structure App where
  config : Config
  backend : Backend
  client : ApiClient
  /-- What was logged before the channel was opened. -/
  opening : Log
  /-- The requests that were sent before the channel was opened. -/
  firstRequests : List Request
  url : Url
  stage : Stage

/-- A handshake as the back end saw it, and the frames that came on its line. -/
structure SeenHandshake where
  target : String
  cookie : Option String
  frames : List String
deriving DecidableEq, Repr

/-- What a start gives. -/
structure Launch where
  outcome : Except AppError App
  log : Log
  requests : List Request
  handshakes : List SeenHandshake

namespace App

/-- The frames that were sent on a line. -/
def framesOn (line : Nat) (journal : List (Nat × Happening)) : List String :=
  journal.filterMap fun h =>
    match h.2 with
    | .channel (.sent n text) => if n = line then some text else none
    | _ => none

/-- How many attempts were made to connect. -/
def attemptsIn (journal : List (Nat × Happening)) : Nat :=
  (journal.filter fun h =>
    match h.2 with
    | .channel .attempted => true
    | _ => false).length

/-- What the back end saw of handshakes, where `line` counts the lines set up before. -/
def seenFrom (u : Url) (token : Option String) (journal : List (Nat × Happening)) (line : Nat) :
    List Handshake → List SeenHandshake
  | [] => []
  | h :: rest =>
    if h.isSeen u token then
      let seen (frames : List String) : SeenHandshake :=
        ⟨Handshake.target u, token.map Http.authCookie, frames⟩
      match h with
      | .accepted _ => seen (framesOn line journal) :: seenFrom u token journal (line + 1) rest
      | _ => seen [] :: seenFrom u token journal line rest
    else seenFrom u token journal line rest

/-- The handshakes that the back end saw, in order. -/
def handshakesSeen (b : Backend) (u : Url) (token : Option String) (s : Stage) :
    List SeenHandshake :=
  let journal := s.journal.reverse
  seenFrom u token journal 0
    ((List.range (attemptsIn journal)).map fun i => b.handshakes[i]?.getD b.laterHandshakes)

/-- The saved submission that progress gives, and what is logged of it. -/
def restore (r : Except ApiError Progress) : Option Submission × LogLine :=
  match r with
  | .ok p =>
    let completed := if p.isCompleted then "，已完成" else ""
    (p.savedSubmission, info s!"✓ 已加载练习进度: 尝试 {p.attempts} 次{completed}")
  | .error e =>
    if e.status? = some 404 then (none, info "还没有保存过进度，从空白草稿开始")
    else (none, warn s!"获取练习进度失败，将从空白草稿开始: {e.message}")

/-- The kind of exercise: as described, else that of the saved submission, else code; and what is
logged of it. -/
def kindOf (r : Except ApiError Exercise) (saved : Option Submission) : ExerciseKind × LogLine :=
  match r with
  | .ok e => (e.kind, info s!"📚 练习: {e.title} ({e.kind.label})")
  | .error e =>
    let kind := (saved.map Submission.kind).getD .code
    (kind, warn s!"获取练习信息失败，按 {kind.label} 处理: {e.message}")

/-- The log lines of a journal. -/
def journalLog (s : Stage) : Log := s.journal.reverse.filterMap fun h => h.2.log?

/-- All that was logged. -/
def log (a : App) : Log := a.opening ++ journalLog a.stage

/-- The saves that were asked for. -/
def savesAsked (a : App) : List SaveRequest :=
  a.stage.journal.reverse.filterMap fun h =>
    match h.2 with
    | .autosaver (.requested r) => some r
    | _ => none

/-- All requests of the client that reached a peer. What its agent sends to follow a redirect is not
among them. -/
def requests (a : App) : List Request :=
  a.firstRequests ++ a.backend.saveRequests a.client a.stage.session.exercise a.savesAsked

/-- The handshakes that the back end saw. -/
def handshakes (a : App) : List SeenHandshake :=
  handshakesSeen a.backend a.url a.config.authToken a.stage

/-- Opens the channel and begins the session; the autosaver begins once the channel stands. -/
def openSession (c : Config) (client : ApiClient) (exercise : String) (b : Backend)
    (kind : ExerciseKind) (saved : Option Submission) (log : Log) (requests : List Request) :
    Launch :=
  match c.channelUrl with
  | .error e => ⟨.error (.config e), log, requests, []⟩
  | .ok u =>
    let connector := Connector.ofHandshakes u c.authToken b.handshakes b.laterHandshakes
    let timeout := c.connectTimeoutSecs * 1000
    let channel := Channel.connect u.text connector c.backoff timeout
    let (connected, stage) := (Stage.ofSession (.ofChannel channel)).waitConnected timeout
    if connected then
      let store := b.store client exercise
      let session := Session.start c stage.session.channel store exercise kind saved
      let a : App := ⟨c, b, client, log, requests, u, { stage with session }.call .autosaver⟩
      ⟨.ok a, a.log, requests, a.handshakes⟩
    else
      let stage := stage.closeChannel
      ⟨.error (.connectTimeout u.text c.connectTimeoutSecs), log ++ journalLog stage, requests,
        handshakesSeen b u c.authToken stage⟩

/-- Logs in if the settings ask for it. -/
def logIn (c : Config) (client : ApiClient) (b : Backend) : ApiCall Unit :=
  match c.loginCredentials with
  | none => ⟨.ok (), [], [], client⟩
  | some (email, password) =>
    let r := client.login email password b.login
    ⟨r.result.map fun _ => (), r.requests, r.log, r.client⟩

/-- Starts the application; from the log-in on, everything carries the client's token. -/
def launch (c : Config) (exercise : String) (b : Backend) : Launch :=
  let banner := c.banner exercise
  match ApiClient.ofConfig c with
  | .error e => ⟨.error (.config e), banner, [], []⟩
  | .ok client =>
    let login := logIn c client b
    let log := banner ++ login.log
    match login.result with
    | .error e => ⟨.error (.api e), log, login.requests, []⟩
    | .ok _ =>
      let client := login.client
      let progress := client.progress exercise b.progress
      let (saved, progressLine) := restore progress.result
      let described := client.exercise exercise b.exercise
      let (kind, kindLine) := kindOf described.result saved
      openSession { c with authToken := client.token } client exercise b kind saved
        (log ++ progress.log ++ [progressLine] ++ described.log ++ [kindLine])
        (login.requests ++ progress.requests ++ described.requests)

/-- A run has ended. -/
def runEnded (number : Nat) (s : Session) : Bool :=
  match s.runs[number]? with
  | some ⟨_, .ended _⟩ => true
  | _ => false

/-- Runs a source file. -/
def run (files : Files) (path : String) (a : App) : Except AppError Verdict × App :=
  match files.readText path with
  | .error e => (.error (.file path e), a)
  | .ok code =>
    let size := Text.Utf8.length code
    let line := info s!"📄 运行 {path} ({size} 字节, 语言: {a.config.language})"
    let submission := a.stage.session.codeOf code
    let stage := (a.stage.record [.logged line]).edit submission
    let (number, stage) := stage.startRun submission
    let stage := stage.await (.run number) (runEnded number) 1
    match stage.session.runs[number]? with
    | some ⟨_, .ended (.ok o)⟩ =>
      let lines := o.result.report ++ o.verdict.report
      (.ok o.verdict, { a with stage := stage.record (lines.map .logged) })
    | some ⟨_, .ended (.error e)⟩ => (.error (.run e), { a with stage })
    | _ => (.error (.run (.resultTimeout a.stage.session.exercise a.config.resultTimeoutSecs)),
        { a with stage })

/-- Saves the draft and closes the channel. -/
def shutdown (a : App) : App := { a with stage := a.stage.finish }

/-- Runs source files one after the other. -/
def runAll (a : App) : List (Files × String) → List (Except AppError Verdict) × App
  | [] => ([], a)
  | (files, path) :: rest =>
    let (r, a) := a.run files path
    let (rs, a) := a.runAll rest
    (r :: rs, a)

end App

end ExerciseClient
