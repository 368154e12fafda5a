import ExerciseClient.Proofs.Channel.Reception

/-! Text frames that are no results, and what is left of a channel without them. To take them out of
all that has come in or is still to come commutes with every step but the one that reads such a
frame, and that step does nothing but log. -/

namespace ExerciseClient

/-- A text frame that is no result. -/
def Frame.isNoise (text : String) : Bool := (classify text).result?.isNone

def Inbound.isHeard : Inbound → Bool
  | .text s => !Frame.isNoise s
  | _ => true

def Line.denoise (l : Line) : Line where
  inbox := l.inbox.filter (·.isHeard)
  limit := l.limit
  closing := l.closing
  replies := l.replies.map (·.filter (·.isHeard))
  held := l.held
  hungUp := l.hungUp

def Answer.denoise : Answer → Answer
  | .refused e => .refused e
  | .accepted log line => .accepted log line.denoise

def Attempt.denoise : Attempt → Attempt
  | .unanswered => .unanswered
  | .answered delay answer => .answered delay answer.denoise

def Connector.denoise (c : Connector) : Connector :=
  ⟨c.script.map Attempt.denoise, c.afterwards.denoise⟩

def Phase.denoise : Phase → Phase
  | .connecting attempt start => .connecting attempt.denoise start
  | p => p

/-- A channel whose server never sent or sends noise. -/
def Channel.denoise (c : Channel) : Channel :=
  { c with
    connector := c.connector.denoise
    lines := c.lines.map Line.denoise
    phase := c.phase.denoise }

/-! ### The other side -/

theorem Connector.denoise_next (c : Connector) :
    c.denoise.next = (c.next.1.denoise, c.next.2.denoise) := by
  rcases c with ⟨_ | ⟨a, rest⟩, afterwards⟩ <;> rfl

theorem Line.denoise_send (l : Line) : l.denoise.send = l.send.map Line.denoise := by
  have hreplied : l.denoise.inbox ++ l.denoise.replies.head?.getD [] =
      (l.inbox ++ l.replies.head?.getD []).filter (·.isHeard) := by
    cases hr : l.replies <;> simp [denoise, hr]
  rw [send, send]
  rcases hl : l.limit with _ | ⟨_ | n, e⟩ <;>
    simp [denoise, hl, Except.map, List.map_tail] at hreplied ⊢ <;> exact hreplied

theorem Line.denoise_deliver (l : Line) {i : Inbound} (hi : i.isHeard = true) :
    l.denoise.deliver i = ((l.deliver i).1, (l.deliver i).2.denoise) := by
  rw [deliver, deliver, show (l.denoise.held && !l.denoise.hungUp) = (l.held && !l.hungUp) from rfl]
  split <;> simp [denoise, hi]

theorem Line.denoise_deliver_noise (l : Line) {i : Inbound} (hi : i.isHeard = false) :
    (l.deliver i).2.denoise = l.denoise := by
  rw [deliver]
  split <;> simp [denoise, hi]

theorem Line.denoise_hangUp (l : Line) :
    l.denoise.hangUp = (l.hangUp.1, l.hangUp.2.denoise) := by
  have hended : Inbound.isHeard .ended = true := rfl
  rw [hangUp, hangUp, show l.denoise.hungUp = l.hungUp from rfl]
  split <;> simp [denoise, hended]

namespace Channel

variable {now : Nat} {c : Channel}

def Step.denoise (s : Step) : Step := (s.1.denoise, s.2)

theorem getElem?_denoise (c : Channel) (n : Nat) :
    c.denoise.lines[n]? = (c.lines[n]?).map Line.denoise :=
  List.getElem?_map

theorem map_denoise_release (lines : List Line) (n : Nat) :
    (lines.modify n Line.release).map Line.denoise =
      (lines.map Line.denoise).modify n Line.release := by
  apply List.ext_getElem?
  intro m
  rw [List.getElem?_map, List.getElem?_modify, List.getElem?_modify, List.getElem?_map]
  cases lines[m]? with
  | none => rfl
  | some l =>
      by_cases hm : n = m
      · simp [hm, Line.denoise, Line.release]
      · simp [hm]

/-- A line may change by noise alone. -/
theorem denoise_setLine {n : Nat} {l l' : Line} (hl : c.lines[n]? = some l)
    (he : l'.denoise = l.denoise) : denoise { c with lines := c.lines.set n l' } = c.denoise := by
  have hsame : (c.lines.set n l').map Line.denoise = c.lines.map Line.denoise := by
    apply List.ext_getElem?
    intro m
    rw [List.map_set]
    by_cases hm : n = m
    · subst hm
      rw [List.getElem?_set_self (by simpa using (List.getElem?_eq_some_iff.mp hl).1),
        List.getElem?_map, hl, he, Option.map_some]
    · rw [List.getElem?_set_ne hm]
  exact congrArg (fun lines => { c.denoise with lines }) hsame

/-! ### What a channel does -/

theorem denoise_finish (c : Channel) : c.denoise.finish = Step.denoise c.finish := rfl

theorem denoise_attempt (now : Nat) (c : Channel) :
    c.denoise.attempt now = Step.denoise (c.attempt now) := by
  have hnext : c.denoise.connector.next = _ := c.connector.denoise_next
  simp only [attempt, hnext]
  rfl

theorem denoise_enter (now : Nat) (c : Channel) :
    c.denoise.enter now = Step.denoise (c.enter now) := by
  rw [enter, enter, apply_ite Step.denoise, ← denoise_finish, ← denoise_attempt]
  rfl

theorem denoise_take (l : Line) (log : Log) (c : Channel) :
    c.denoise.take l.denoise log = Step.denoise (c.take l log) := by
  simp [take, Step.denoise, denoise, Phase.denoise]

theorem denoise_letGo (now n : Nat) (forGood : Bool) (c : Channel) :
    c.denoise.letGo now n forGood = Step.denoise (c.letGo now n forGood) := by
  simp [letGo, Step.denoise, denoise, Phase.denoise, map_denoise_release]

theorem denoise_loseAfter (now n : Nat) (line : LogLine) (c : Channel) :
    c.denoise.loseAfter now n line = Step.denoise (c.loseAfter now n line) := by
  simp [loseAfter, denoise_letGo, Step.denoise]

theorem denoise_dispatch (n : Nat) (text : String) (c : Channel) :
    c.denoise.dispatch n text = Step.denoise (c.dispatch n text) := by
  rw [dispatch, dispatch]
  split <;> rfl

theorem denoise_late? (now start : Nat) (c : Channel) :
    await?.late? now start c.denoise = (await?.late? now start c).map Step.denoise := by
  rw [await?.late?, await?.late?, show c.denoise.connectTimeout = c.connectTimeout from rfl]
  split <;> rfl

theorem denoise_await? (now : Nat) (attempt : Attempt) (start : Nat) (c : Channel) :
    c.denoise.await? now attempt.denoise start =
      (c.await? now attempt start).map Step.denoise := by
  cases attempt with
  | unanswered => exact denoise_late? now start c
  | answered delay answer =>
      simp only [await?, Attempt.denoise]
      split
      · cases answer with
        | refused e => rfl
        | accepted log l => exact congrArg some (denoise_take l log c)
      · exact denoise_late? now start c

theorem denoise_closeEnd? (now n start : Nat) (c : Channel) :
    c.denoise.closeEnd? now n start = c.closeEnd? now n start := by
  have hclosing : (c.denoise.lines[n]?).map (·.closing) = (c.lines[n]?).map (·.closing) := by
    rw [getElem?_denoise, Option.map_map]
    rfl
  simp only [closeEnd?, hclosing]

theorem denoise_close? (now n start : Nat) (forGood : Bool) (c : Channel) :
    c.denoise.close? now n start forGood = (c.close? now n start forGood).map Step.denoise := by
  rw [close?, close?, denoise_closeEnd?, Option.map_map]
  cases forGood <;> rfl

/-- The next frame to read on a line is noise. -/
structure Hears (c : Channel) (n : Nat) (l : Line) (text : String) (inbox : List Inbound) :
    Prop where
  stopping : c.stopping = false
  phase : c.phase = .pumping n []
  line : c.lines[n]? = some l
  inbox_eq : l.inbox = .text text :: inbox
  noise : Frame.isNoise text = true

/-- What is read next, if anything, is no noise. -/
def IsClear (c : Channel) : Prop := ¬ ∃ n l text inbox, Hears c n l text inbox

/-- A channel that has read the first frame of a line. -/
def readFirst (n : Nat) (l : Line) (inbox : List Inbound) (c : Channel) : Channel :=
  { c with lines := c.lines.set n { l with inbox } }

theorem denoise_readFirst (n : Nat) (l : Line) (inbox : List Inbound) (c : Channel) :
    (c.readFirst n l inbox).denoise =
      c.denoise.readFirst n l.denoise (inbox.filter (·.isHeard)) := by
  rw [readFirst, denoise, List.map_set]
  rfl

theorem IsClear.isHeard {n : Nat} {l : Line} {i : Inbound} {inbox : List Inbound}
    (h : c.IsClear) (hs : c.stopping = false) (hp : c.phase = .pumping n [])
    (hl : c.lines[n]? = some l) (hi : l.inbox = i :: inbox) : i.isHeard = true := by
  cases i with
  | text text =>
      cases hn : Frame.isNoise text with
      | true => exact absurd ⟨n, l, text, inbox, hs, hp, hl, hi, hn⟩ h
      | false => simp [Inbound.isHeard, hn]
  | notice | broken | ended => rfl

theorem denoise_phase {n : Nat} {frames : List String} (hp : c.phase = .pumping n frames) :
    c.denoise.phase = .pumping n frames := by
  rw [denoise, hp]
  rfl

theorem denoise_line {n : Nat} {l : Line} (hl : c.lines[n]? = some l) :
    c.denoise.lines[n]? = some l.denoise := by
  rw [getElem?_denoise, hl, Option.map_some]

theorem step?_denoise_sending {n : Nat} {f : String} {frames : List String} {l : Line}
    (hs : c.stopping = false) (hp : c.phase = .pumping n (f :: frames))
    (hl : c.lines[n]? = some l) (now : Nat) :
    c.denoise.step? now = (c.step? now).map Step.denoise := by
  have hsend := l.denoise_send
  cases hf : l.send with
  | ok l' =>
      rw [hf] at hsend
      rw [(Move.send hs hp hl hf).execution,
        (Move.send (c := c.denoise) hs (denoise_phase hp) (denoise_line hl) hsend).execution]
      simp [Step.denoise, denoise, Phase.denoise]
  | error e =>
      rw [hf] at hsend
      rw [(Move.sendFailed hs hp hl hf _ rfl).execution,
        (Move.sendFailed (c := c.denoise) hs (denoise_phase hp) (denoise_line hl) hsend _
          rfl).execution, denoise_loseAfter]
      rfl

theorem step?_denoise_reading {n : Nat} {l : Line} {i : Inbound} {inbox : List Inbound}
    (hs : c.stopping = false) (hp : c.phase = .pumping n []) (hl : c.lines[n]? = some l)
    (hi : l.inbox = i :: inbox) (hheard : i.isHeard = true) (now : Nat) :
    c.denoise.step? now = (c.step? now).map Step.denoise := by
  have hp' := denoise_phase hp
  have hl' := denoise_line hl
  have hi' : l.denoise.inbox = i :: inbox.filter (·.isHeard) := by
    rw [Line.denoise, hi, List.filter_cons_of_pos hheard]
  have hread := c.denoise_readFirst n l inbox
  rw [readFirst, readFirst] at hread
  cases i with
  | text text =>
      rw [(Move.readText hs hp hl hi).execution,
        (Move.readText (c := c.denoise) hs hp' hl' hi').execution, ← hread, denoise_dispatch]
      rfl
  | notice line =>
      rw [(Move.readNotice hs hp hl hi).execution,
        (Move.readNotice (c := c.denoise) hs hp' hl' hi').execution, ← hread]
      rfl
  | broken e =>
      rw [(Move.readBroken hs hp hl hi _ rfl).execution,
        (Move.readBroken (c := c.denoise) hs hp' hl' hi' _ rfl).execution, ← hread,
        denoise_loseAfter]
      rfl
  | ended =>
      rw [(Move.readEnd hs hp hl hi).execution,
        (Move.readEnd (c := c.denoise) hs hp' hl' hi').execution, ← hread, denoise_loseAfter]
      rfl

theorem step?_denoise_pumping {n : Nat} {frames : List String}
    (hp : c.phase = .pumping n frames) (hc : c.IsClear) (now : Nat) :
    c.denoise.step? now = (c.step? now).map Step.denoise := by
  have hp' := denoise_phase hp
  cases hs : c.stopping with
  | true =>
      rw [(Move.leave hs hp).execution, (Move.leave (c := c.denoise) hs hp').execution]
      exact congrArg some (denoise_letGo now n true c)
  | false =>
      have hs' : c.denoise.stopping = false := hs
      cases hl : c.lines[n]? with
      | none =>
          have hl' : c.denoise.lines[n]? = none := by rw [getElem?_denoise, hl, Option.map_none]
          simp [step?, hp, hp', pump?, hs, hs', hl, hl']
      | some l =>
          cases frames with
          | cons f frames => exact step?_denoise_sending hs hp hl now
          | nil =>
              cases hi : l.inbox with
              | nil =>
                  have hi' : l.denoise.inbox = [] := by rw [Line.denoise, hi]; rfl
                  simp [step?, hp, hp', pump?, hs, hs', hl, denoise_line hl, hi, hi']
              | cons i inbox =>
                  exact step?_denoise_reading hs hp hl hi (hc.isHeard hs hp hl hi) now

/-- To take the noise out commutes with a step that reads none. -/
theorem step?_denoise (hc : c.IsClear) (now : Nat) :
    c.denoise.step? now = (c.step? now).map Step.denoise := by
  have hphase : c.denoise.phase = c.phase.denoise := rfl
  have hstopping : c.denoise.stopping = c.stopping := rfl
  cases hp : c.phase with
  | pumping n frames => exact step?_denoise_pumping hp hc now
  | fresh =>
      simp only [step?, hphase, hp, Phase.denoise]
      exact congrArg some (denoise_enter now c)
  | connecting attempt start =>
      simp only [step?, hphase, hp, Phase.denoise, hstopping]
      split
      · rfl
      · exact denoise_await? now attempt start c
  | closing n start forGood =>
      simp only [step?, hphase, hp, Phase.denoise]
      exact denoise_close? now n start forGood c
  | waiting due =>
      simp only [step?, hphase, hp, Phase.denoise, hstopping]
      split
      · rfl
      · split
        · exact congrArg some (denoise_enter now c)
        · rfl
  | finished => simp [step?, hphase, hp, Phase.denoise]

/-- A step that reads noise changes nothing else, and shows nothing but the frame and a log. -/
theorem Hears.step {n : Nat} {l : Line} {text : String} {inbox : List Inbound}
    (h : Hears c n l text inbox) (now : Nat) :
    ∃ line, c.step? now =
        some (c.readFirst n l inbox, [.dispatched n text, .logged line]) ∧
      (c.readFirst n l inbox).denoise = c.denoise := by
  have hmove : Move now c (dispatch n text (c.readFirst n l inbox)) :=
    .readText h.stopping h.phase h.line h.inbox_eq
  have hnoise := h.noise
  rw [Frame.isNoise, Option.isNone_iff_eq_none] at hnoise
  rcases dispatch_cases n text (c.readFirst n l inbox) with ⟨r, _, hr, _⟩ | ⟨_, line, he⟩
  · simp [hr, Frame.result?] at hnoise
  · refine ⟨line, hmove.execution.trans (congrArg some he), ?_⟩
    have hunheard : Inbound.isHeard (.text text) = false := by simp [Inbound.isHeard, h.noise]
    apply denoise_setLine h.line
    simp [Line.denoise, h.inbox_eq, hunheard]

/-! ### What its owner and the server do -/

theorem denoise_submit (exercise : String) (submission : Except String Json.Value)
    (c : Channel) : c.denoise.submit exercise submission =
      ((c.submit exercise submission).1, (c.submit exercise submission).2.1.denoise,
        (c.submit exercise submission).2.2) := by
  cases submission with
  | error reason => rfl
  | ok v =>
      have hslot : c.denoise.slot = c.slot := rfl
      have hphase : c.denoise.phase = c.phase.denoise := rfl
      simp only [submit, hslot, hphase]
      cases hs : c.slot with
      | none => rfl
      | some n =>
          cases hp : c.phase with
          | pumping m frames =>
              by_cases hn : n = m
              · simp only [Phase.denoise, hn, if_true]
                rfl
              · simp only [Phase.denoise, hn, if_false]
          | fresh | connecting | closing | waiting | finished => rfl

/-- What the server does can be heard of. -/
def ServerAction.isHeard : ServerAction → Bool
  | .deliver i => i.isHeard
  | .hangUp => true

theorem ServerAction.denoise_on {a : ServerAction} (ha : a.isHeard = true) (l : Line) :
    a.on l.denoise = ((a.on l).1, (a.on l).2.denoise) := by
  cases a with
  | deliver i => exact l.denoise_deliver ha
  | hangUp => exact l.denoise_hangUp

theorem denoise_serve {a : ServerAction} (ha : a.isHeard = true) (line : Option Nat)
    (c : Channel) :
    c.denoise.serve line a = ((c.serve line a).1, (c.serve line a).2.denoise) := by
  have hlength : c.denoise.lines.length = c.lines.length := List.length_map _
  simp only [serve, hlength, getElem?_denoise]
  cases c.lines[line.getD (c.lines.length - 1)]? with
  | none => rfl
  | some l =>
      simp only [Option.map_some, ServerAction.denoise_on ha, denoise, List.map_set]

theorem denoise_serve_noise {a : ServerAction} (ha : a.isHeard = false) (line : Option Nat)
    (c : Channel) : (c.serve line a).2.denoise = c.denoise := by
  cases a with
  | hangUp => cases ha
  | deliver i =>
      rcases serve_cases c line (.deliver i) with ⟨l, hl, he⟩ | he
      · rw [he]
        exact denoise_setLine hl (l.denoise_deliver_noise ha)
      · rw [he]

end Channel

end ExerciseClient
