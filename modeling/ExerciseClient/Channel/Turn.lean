import ExerciseClient.Channel.Basic

/-!
What a channel does by itself. It works in steps until it has to wait for an instant, for a frame
or for the server; `step?` is `none` when it has to wait. Being torn down comes before all else,
frames to send come before frames to read, and a line is closed for a second at most before
anything else happens.
-/

namespace ExerciseClient.Channel

/-- What a step gives. -/
abbrev Step := Channel × List ChannelEffect

/-- The time that the close of a line may take. -/
def closeTimeout : Nat := 1000

/-- The failures that are counted. -/
def failureLimit : Nat := 2 ^ 32 - 1

/-- Ends for good. -/
def finish (c : Channel) : Step :=
  ({ c with phase := .finished, state := .tornDown, slot := none },
    [.entered .tornDown, .logged (info s!"提交通道已关闭: {c.url}")])

/-- Makes an attempt. -/
def attempt (now : Nat) (c : Channel) : Step :=
  let (attempt, connector) := c.connector.next
  ({ c with phase := .connecting attempt now, state := .connecting, connector },
    [.entered .connecting, .logged (debug s!"正在连接执行后端: {c.url}"), .attempted])

/-- Begins, or begins again. -/
def enter (now : Nat) (c : Channel) : Step :=
  if c.stopping then c.finish else c.attempt now

/-- Waits for the next attempt. -/
def retry (now : Nat) (c : Channel) : Step :=
  let span := c.backoff.delay c.failures
  let failures := min (c.failures + 1) failureLimit
  ({ c with phase := .waiting (now + span), state := .closed span, failures },
    [.entered (.closed span), .logged (info s!"连接已断开，{span} ms 后第 {failures} 次重连")])

/-- Logs a line and waits for the next attempt. -/
def retryAfter (now : Nat) (l : LogLine) (c : Channel) : Step :=
  let (c, effects) := c.retry now
  (c, .logged l :: effects)

/-- Takes a line that was set up. -/
def take (l : Line) (log : Log) (c : Channel) : Step :=
  let n := c.lines.length
  ({ c with
      lines := c.lines ++ [l], phase := .pumping n [], state := .opened, failures := 0,
      slot := some n },
    log.map .logged ++ [.logged (info s!"✓ 已连接到执行后端: {c.url}"), .entered .opened])

/-- Looks at an attempt; an answer counts even at the last instant. -/
def await? (now : Nat) (attempt : Attempt) (start : Nat) (c : Channel) : Option Step :=
  match attempt with
  | .answered delay answer =>
    if start + delay ≤ now then
      match answer with
      | .accepted log line => some (c.take line log)
      | .refused e => some (c.retryAfter now (warn s!"连接执行后端失败: {e.message}"))
    else late?
  | .unanswered => late?
where
  /-- Gives an attempt up that took too long. -/
  late? : Option Step :=
    if start + c.connectTimeout ≤ now then
      let seconds := c.connectTimeout / 1000
      some (c.retryAfter now (warn s!"连接执行后端超时 ({seconds} 秒): {c.url}"))
    else none

/-- Lets go of a line and begins to close it. -/
def letGo (now : Nat) (line : Nat) (forGood : Bool) (c : Channel) : Step :=
  ({ c with
      lines := c.lines.modify line Line.release, phase := .closing line now forGood, slot := none },
    [.closeBegun line])

/-- Logs a line and lets go of the connection. -/
def loseAfter (now : Nat) (line : Nat) (l : LogLine) (c : Channel) : Step :=
  let (c, effects) := c.letGo now line false
  (c, .logged l :: effects)

/-- Classifies a text frame; only a result changes anything. -/
def dispatch (line : Nat) (text : String) (c : Channel) : Step :=
  match Frame.classify text with
  | .result r =>
    ({ c with last := some r, received := c.received + 1 },
      [.dispatched line text,
        .logged (info
          s!"📥 收到执行结果: job_id={r.jobId} passed={r.passed} exit_code={r.exitCode}")] ++
        (c.listener.map fun name => .called name r).toList)
  | .ignored => (c, [.dispatched line text, .logged (debug "忽略不含 job_id 的消息")])
  | .malformed reason =>
    (c, [.dispatched line text, .logged (warn s!"解析 WebSocket 消息失败: {reason}")])

/-- Sends and reads on a line. -/
def pump? (now : Nat) (n : Nat) (frames : List String) (c : Channel) : Option Step :=
  if c.stopping then some (c.letGo now n true)
  else
    match c.lines[n]? with
    | none => none
    | some l =>
      match frames, l.inbox with
      | f :: rest, _ =>
        match l.send with
        | .ok l =>
          some ({ c with lines := c.lines.set n l, phase := .pumping n rest }, [.sent n f])
        | .error e =>
          let (c, effects) := c.loseAfter now n (warn s!"发送提交失败: {e.message}")
          some (c, .unsent n f :: effects)
      | [], i :: inbox =>
        let c := { c with lines := c.lines.set n { l with inbox } }
        match i with
        | .text text => some (c.dispatch n text)
        | .notice line => some (c, [.logged line])
        | .broken e => some (c.loseAfter now n (warn s!"WebSocket 连接异常: {e.message}"))
        | .ended => some (c.loseAfter now n (info "服务端关闭了连接"))
      | [], [] => none

/-- Goes on after a line was closed. -/
def goOn (now : Nat) (forGood : Bool) (c : Channel) : Step :=
  if forGood then c.finish else c.retry now

/-- What shows when the close of a line is over; `none` while it goes on. -/
def closeEnd? (now : Nat) (n : Nat) (start : Nat) (c : Channel) : Option ChannelEffect :=
  let closing : Closing := ((c.lines[n]?).map (·.closing)).getD .succeeds
  match closing with
  | .succeeds => some (.closed n)
  | .fails e => some (.logged (debug s!"关闭连接时出错: {e.message}"))
  | .hangs => if start + closeTimeout ≤ now then some (.logged (debug "关闭连接超时")) else none

/-- Closes a line. -/
def close? (now : Nat) (n : Nat) (start : Nat) (forGood : Bool) (c : Channel) : Option Step :=
  (c.closeEnd? now n start).map fun e =>
    let (c, effects) := c.goOn now forGood
    (c, e :: effects)

/-- One step at an instant; `none` if the channel has to wait. -/
def step? (now : Nat) (c : Channel) : Option Step :=
  match c.phase with
  | .fresh => some (c.enter now)
  | .connecting attempt start =>
    if c.stopping then some c.finish else c.await? now attempt start
  | .pumping n frames => c.pump? now n frames
  | .closing n start forGood => c.close? now n start forGood
  | .waiting due =>
    if c.stopping then some c.finish
    else if due ≤ now then some (c.enter now)
    else none
  | .finished => none

/-- At most `fuel` steps at an instant. -/
def steps (now : Nat) : Nat → Channel → Step
  | 0, c => (c, [])
  | fuel + 1, c =>
    match c.step? now with
    | none => (c, [])
    | some (c, effects) =>
      let (c, more) := steps now fuel c
      (c, effects ++ more)

/-- No more steps than this are taken at one instant, unless a wait is zero without end: a base of
zero gives 32 waits of zero in a row, and the next one is the longest. -/
def work (c : Channel) : Nat :=
  c.phase.load + (c.lines.map Line.load).sum + 8 * (c.connector.load + 34)

/-- The channel works until it has to wait. -/
def turn (now : Nat) (c : Channel) : Step := c.steps now c.work

/-- The instant at which a wait ends. -/
def due (c : Channel) : Option Nat :=
  match c.phase with
  | .connecting .unanswered start => some (start + c.connectTimeout)
  | .connecting (.answered delay _) start => some (start + min delay c.connectTimeout)
  | .closing _ start _ => some (start + closeTimeout)
  | .waiting due => some due
  | _ => none

end ExerciseClient.Channel
