import ExerciseClient.Proofs.Session.Drift

/-! Which submissions are taken. A channel takes one if it shows `opened`, unless it is still
closing a line that was lost: then it shows `opened` and takes nothing. It waits in such a state
only for a close that hangs, and for no longer than a close may take. -/

namespace ExerciseClient

/-- The line that is being closed. -/
def Phase.closing? : Phase → Option Nat
  | .closing n _ _ => some n
  | _ => none

namespace Channel

/-- What a channel that was not torn down answers to a submission. -/
structure Answers (c : Channel) : Prop where
  ok_iff : ∀ exercise v, (c.submit exercise (.ok v)).1 = .ok () ↔
    c.isConnected = true ∧ c.phase.closing? = none
  otherwise : ∀ exercise v, ¬ (c.isConnected = true ∧ c.phase.closing? = none) →
    (c.submit exercise (.ok v)).1 = .error (.notConnected exercise)

theorem Coherent.submit_eq {c : Channel} (h : Coherent c) (hs : c.stopping = false)
    (exercise : String) (v : Json.Value) :
    (c.submit exercise (.ok v)).1 =
      if c.isConnected = true ∧ c.phase.closing? = none then .ok ()
      else .error (.notConnected exercise) := by
  have hslot := h.slot_eq
  have hshows := h.shows
  rw [hs, if_neg Bool.false_ne_true] at hslot
  cases hp : c.phase with
  | pumping n frames =>
      rw [hp] at hslot hshows
      have hstate : c.state = .opened := hshows
      simp [Channel.submit, hslot, hp, Phase.pumped?, isConnected, hstate, Phase.closing?]
  | closing n start forGood =>
      rw [hp] at hslot
      simp [Channel.submit, hslot, Phase.pumped?, Phase.closing?]
  | waiting due =>
      rw [hp] at hslot hshows
      obtain ⟨span, hstate⟩ := hshows
      simp [Channel.submit, hslot, Phase.pumped?, isConnected, hstate]
  | fresh | connecting | finished =>
      rw [hp] at hslot hshows
      simp [Channel.submit, hslot, Phase.pumped?, isConnected, show c.state = _ from hshows]

theorem Coherent.answers {c : Channel} (h : Coherent c) (hs : c.stopping = false) :
    Answers c := by
  refine ⟨?_, ?_⟩
  · intro exercise v
    rw [h.submit_eq hs]
    split <;> rename_i hc
    · exact ⟨fun _ => hc, fun _ => rfl⟩
    · exact ⟨nofun, fun hc' => absurd hc' hc⟩
  · intro exercise v hn
    rw [h.submit_eq hs, if_neg hn]

/-- A close that a channel waits for hangs and may still go on. -/
theorem hangs_of_settled {c : Channel} {now n : Nat} (h : Coherent c)
    (hw : c.step? now = none) (hn : c.phase.closing? = some n) :
    ∃ l start forGood, c.phase = .closing n start forGood ∧ c.lines[n]? = some l ∧
      l.closing = .hangs ∧ now < start + closeTimeout := by
  cases hp : c.phase with
  | closing m start forGood =>
      obtain rfl : m = n := by simpa [hp, Phase.closing?] using hn
      have hlast := h.line_last m (by rw [hp]; rfl)
      obtain ⟨l, hl⟩ : ∃ l, c.lines[m]? = some l := ⟨_, List.getElem?_eq_getElem (by omega)⟩
      refine ⟨l, start, forGood, rfl, hl, ?_⟩
      simp only [step?, hp, close?, Option.map_eq_none_iff, closeEnd?, hl, Option.map_some,
        Option.getD_some] at hw
      split at hw
      · cases hw
      · cases hw
      · rename_i hc
        refine ⟨hc, Nat.lt_of_not_le fun hle => ?_⟩
        rw [if_pos hle] at hw
        cases hw
  | fresh | connecting | pumping | waiting | finished => simp [hp, Phase.closing?] at hn

/-- Which submissions are taken at a moment of a life, and after a wait for a connection. -/
structure Acceptance (s : Life) : Prop where
  answers : Answers s.channel
  hangs : s.IsSettled → ∀ n, s.channel.phase.closing? = some n →
    ∃ l start forGood, s.channel.phase = .closing n start forGood ∧
      s.channel.lines[n]? = some l ∧ l.closing = .hangs ∧ s.now < start + closeTimeout
  waited : ∀ (stage : Stage) (ms : Nat), stage.session.channel = s.channel →
    (stage.waitConnected ms).1 = (stage.waitConnected ms).2.session.channel.isConnected ∧
      Answers (stage.waitConnected ms).2.session.channel

/-- Before it is torn down a channel takes what is submitted exactly while it shows `opened` and no
lost line is being closed. -/
theorem submissions_accepted (now : Nat) (url : String) (connector : Connector)
    (backoff : Backoff) (connectTimeout : Nat) (events : List Event)
    (hlive : .tearDown ∉ events) :
    Acceptance
      ((Life.ofChannel now (connect url connector backoff connectTimeout)).run events) := by
  let start := Life.ofChannel now (connect url connector backoff connectTimeout)
  have hc : Coherent (start.run events).channel :=
    (coherent_connect url connector backoff connectTimeout).run (s := start) events
  have hs : (start.run events).channel.stopping = false := stopping_run (s := start) hlive
  refine ⟨hc.answers hs, fun hw n hn => hangs_of_settled hc hw hn, ?_⟩
  intro stage ms hstage
  have hdrift := stage.drifts_waitConnected ms
  refine ⟨rfl, (hdrift.coherent (hstage ▸ hc)).answers ?_⟩
  rw [hdrift.stopping, hstage, hs]

/-- A line is taken, ended by the server while its close hangs, and shown as `opened` still: the
channel has come to rest, yet a submission is refused, also when a wait has said that it is
connected. -/
theorem opened_channel_refuses :
    let connector : Connector :=
      ⟨[.answered 0 (.accepted [] { Line.plain with closing := .hangs })], .unanswered⟩
    let c := connect "" connector .standard 10000
    let s := (Life.ofChannel 0 c).run [.work, .work, .serve none .hangUp, .work]
    let stage := ((Stage.ofSession (.ofChannel c)).settle.serve none .hangUp).2.settle
    s.IsSettled ∧ s.channel.isConnected = true ∧
      (s.channel.submit "e" (.ok .null)).1 = .error (.notConnected "e") ∧
      stage.session.channel = s.channel ∧ (stage.waitConnected 5).1 = true ∧
      ((stage.waitConnected 5).2.submit "e" (.ok .null)).1 = .error (.notConnected "e") := by
  refine ⟨by decide, by decide, rfl, rfl, by decide, rfl⟩

/-- A connection that stands takes a submission. -/
theorem submissions_accepted_opened :
    let connector : Connector := ⟨[.answered 0 (.accepted [] .plain)], .unanswered⟩
    let s := (Life.ofChannel 0 (connect "" connector .standard 10000)).run [.work, .work]
    s.channel.isConnected = true ∧ s.channel.phase.closing? = none ∧ Acceptance s :=
  ⟨by decide, by decide, submissions_accepted 0 "" _ .standard 10000 _ (by simp)⟩

end Channel

end ExerciseClient
