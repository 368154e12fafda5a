import ExerciseClient.Proofs.Channel.Delivery

/-! The slot that submissions are put in. The channel fills it when it begins to send and read on a
line and empties it when it lets go of the line, and the owner empties it from outside by tearing
the channel down. Whatever the order of these, a line in the slot is one that still takes frames, so
the slot alone decides what becomes of a submission. -/

namespace ExerciseClient

namespace Channel

/-! ### A single submission -/

/-- What the slot alone makes of a submission. -/
def answerOf (slot : Option Nat) (exercise : String) :
    Except String Json.Value → Except SubmitError Unit
  | .error reason => .error (.encode reason)
  | .ok _ => if slot.isSome then .ok () else .error (.notConnected exercise)

/-- What is logged of a submission that is refused: nothing if it could not be encoded. -/
def refusalLog : SubmitError → Log
  | .notConnected exercise => [warn s!"WebSocket 未连接，提交已丢弃: {exercise}"]
  | .encode _ => []

/-- How a submission ends. One that is taken joins the queue of the line in the slot; one that is
refused changes nothing but the log. -/
inductive SubmitEnds (c : Channel) (exercise : String) :
    Except String Json.Value → Except SubmitError Unit × Channel × Log → Prop where
  | taken {n frames v} (hslot : c.slot = some n) (hp : c.phase = .pumping n frames) :
      SubmitEnds c exercise (.ok v)
        (.ok (), { c with phase := .pumping n (frames ++ [(envelope exercise v).text]) },
          [debug s!"📤 已发送提交: {exercise}"])
  | refused {submission error} (he : answerOf c.slot exercise submission = .error error) :
      SubmitEnds c exercise submission (.error error, c, refusalLog error)

theorem pumped?_eq_some_iff {p : Phase} {n : Nat} :
    p.pumped? = some n ↔ ∃ frames, p = .pumping n frames := by
  cases p <;> simp [Phase.pumped?]

theorem Coherent.slot_eq_some_iff {c : Channel} (h : Coherent c) {n : Nat} :
    c.slot = some n ↔ (∃ frames, c.phase = .pumping n frames) ∧ c.stopping = false := by
  rw [h.slot_eq, ← pumped?_eq_some_iff]
  cases c.stopping <;> simp

theorem Coherent.submit_ends {c : Channel} (h : Coherent c) (exercise : String)
    (submission : Except String Json.Value) :
    SubmitEnds c exercise submission (c.submit exercise submission) := by
  cases submission with
  | error reason => exact .refused rfl
  | ok v =>
      cases hslot : c.slot with
      | none =>
          have he : c.submit exercise (.ok v) =
              (.error (.notConnected exercise), c, refusalLog (.notConnected exercise)) := by
            simp [Channel.submit, hslot, refusalLog]
          rw [he]
          exact .refused (by simp [answerOf, hslot])
      | some n =>
          obtain ⟨⟨frames, hp⟩, -⟩ := h.slot_eq_some_iff.mp hslot
          have he : c.submit exercise (.ok v) =
              (.ok (), { c with phase := .pumping n (frames ++ [(envelope exercise v).text]) },
                [debug s!"📤 已发送提交: {exercise}"]) := by
            simp [Channel.submit, hslot, hp]
          rw [he]
          exact .taken hslot hp

section

variable {c : Channel} {exercise : String} {submission : Except String Json.Value}
  {r : Except SubmitError Unit × Channel × Log}

theorem SubmitEnds.answer_eq (h : SubmitEnds c exercise submission r) :
    r.1 = answerOf c.slot exercise submission := by
  cases h with
  | taken hslot => simp [answerOf, hslot]
  | refused he => exact he.symm

theorem SubmitEnds.eq_of_error (h : SubmitEnds c exercise submission r) {error : SubmitError}
    (he : r.1 = .error error) : r = (.error error, c, refusalLog error) := by
  cases h with
  | taken => cases he
  | refused => cases he; rfl

/-- What is put in a slot that is filled gets to the line. -/
theorem SubmitEnds.taken_of_slot {v : Json.Value} (h : SubmitEnds c exercise (.ok v) r) {n : Nat}
    (hslot : c.slot = some n) : ∃ frames, c.phase = .pumping n frames ∧ r =
      (.ok (), { c with phase := .pumping n (frames ++ [(envelope exercise v).text]) },
        [debug s!"📤 已发送提交: {exercise}"]) := by
  cases h with
  | taken hslot' hp =>
      obtain rfl := Option.some.inj (hslot.symm.trans hslot')
      exact ⟨_, hp, rfl⟩
  | refused he => simp [answerOf, hslot] at he

end

/-! ### The submissions of a history -/

/-- Every submission was answered as the slot had it at the time. -/
def Answered (s : Life) : Prop :=
  ∀ slot exercise submission answer,
    .submitted slot exercise submission answer ∈ s.history.deeds →
      answer = answerOf slot exercise submission

theorem Answered.record {s : Life} (h : Answered s) (c : Channel) {deeds : List Deed}
    (hd : ∀ slot exercise submission answer,
      .submitted slot exercise submission answer ∈ deeds →
        answer = answerOf slot exercise submission) : Answered (s.record c deeds) := by
  intro slot exercise submission answer hm
  rw [Life.deeds_record, List.mem_append] at hm
  rcases hm with hm | hm
  · exact h slot exercise submission answer hm
  · exact hd slot exercise submission answer hm

theorem Answered.next {s : Life} (h : Answered s) (hc : Coherent s.channel) (e : Event) :
    Answered (s.next e) := by
  cases e with
  | work =>
      rcases s.next_work with ⟨_, he⟩ | ⟨m, _, he⟩
      · rwa [he]
      · rw [he]
        exact h.record _ (by simp)
  | clock now => exact h
  | submit exercise submission =>
      rw [Life.next_submit]
      apply h.record
      intro slot exercise' submission' answer hm
      cases List.mem_singleton.mp hm
      exact (hc.submit_ends exercise submission).answer_eq
  | listen | serve | tearDown => exact h.record _ (by simp)

/-! ### The slot -/

/-- What holds of the slot at a moment of a life. -/
structure SlotKept (s : Life) : Prop where
  /-- It is filled exactly while the channel sends and reads on a line and was not torn down. -/
  filled_iff : s.channel.slot.isSome = true ↔
    (∃ n frames, s.channel.phase = .pumping n frames) ∧ .tornDown ∉ s.history.deeds
  /-- It is filled with the line at hand: the newest one, which is shown as open, takes frames, and
  whose close was not begun. -/
  current : ∀ n, s.channel.slot = some n → s.channel.state = .opened ∧
    n + 1 = s.channel.lines.length ∧ (∃ frames, s.channel.phase = .pumping n frames) ∧
      .did (.closeBegun n) ∉ s.history.deeds
  /-- So nothing is lost between a slot that is filled and the queue of the line. -/
  taken : ∀ n, s.channel.slot = some n → ∀ exercise v, ∃ frames,
    s.channel.phase = .pumping n frames ∧ s.channel.submit exercise (.ok v) =
      (.ok (), { s.channel with phase := .pumping n (frames ++ [(envelope exercise v).text]) },
        [debug s!"📤 已发送提交: {exercise}"])
  /-- All submissions before were answered as the slot had it, too. -/
  answered : Answered s
  /-- A submission that is refused changes nothing but the log. -/
  refused : ∀ exercise submission error,
    (s.channel.submit exercise submission).1 = .error error →
      s.channel.submit exercise submission = (.error error, s.channel, refusalLog error)

theorem slotKept_of {s : Life} (hc : Coherent s.channel) (ht : TellsTorn s) (ha : Attached s)
    (hanswered : Answered s) : SlotKept s := by
  constructor
  case filled_iff =>
    have htorn : .tornDown ∉ s.history.deeds ↔ s.channel.stopping = false := by
      rw [show _ ↔ _ from ht, Bool.not_eq_true]
    rw [Option.isSome_iff_exists, htorn]
    simp only [hc.slot_eq_some_iff, exists_and_right]
  case current =>
    intro n hslot
    obtain ⟨⟨frames, hp⟩, -⟩ := hc.slot_eq_some_iff.mp hslot
    have hpumped := pumped?_eq_some_iff.mpr ⟨frames, hp⟩
    have hshows := hc.shows
    rw [hp] at hshows
    refine ⟨hshows, hc.line_last n (Phase.line?_of_pumped? hpumped), ⟨frames, hp⟩, ?_⟩
    intro hbegun
    exact ((ha.begun n).mp hbegun).2 hpumped
  case taken =>
    intro n hslot exercise v
    exact (hc.submit_ends exercise (.ok v)).taken_of_slot hslot
  case answered => exact hanswered
  case refused =>
    intro exercise submission error he
    exact (hc.submit_ends exercise submission).eq_of_error he

/-- In every life the slot is filled exactly while a line takes frames, and with this line. -/
theorem slot_kept (now : Nat) (url : String) (connector : Connector) (backoff : Backoff)
    (connectTimeout : Nat) (events : List Event) :
    SlotKept ((Life.ofChannel now (connect url connector backoff connectTimeout)).run events) := by
  let start := Life.ofChannel now (connect url connector backoff connectTimeout)
  have hc : Coherent start.channel := coherent_connect url connector backoff connectTimeout
  have ht : TellsTorn start := tellsTorn_connect now url connector backoff connectTimeout
  have ha : Attached start := by
    refine ⟨?_, ?_, ?_⟩ <;> simp [start, Life.ofChannel, History.deeds, connect]
  have hanswered : Answered start := by simp [Answered, start, Life.ofChannel, History.deeds]
  obtain ⟨hc, ht, ha, hanswered⟩ := Life.run_induction
    (P := fun s => Coherent s.channel ∧ TellsTorn s ∧ Attached s ∧ Answered s)
    (fun _ e h => ⟨h.1.next e, h.2.1.next e, h.2.2.1.next h.1 h.2.1 e, h.2.2.2.next h.1 e⟩)
    ⟨hc, ht, ha, hanswered⟩ events
  exact slotKept_of hc ht ha hanswered

/-- Between being torn down and letting go of its line a channel still takes frames from the queue,
but no submissions. -/
example :
    let connector : Connector := ⟨[.answered 0 (.accepted [] .plain)], .unanswered⟩
    let s := (Life.ofChannel 0 (connect "" connector .standard 10000)).run
      [.work, .work, .tearDown]
    s.channel.phase = .pumping 0 [] ∧ s.channel.state = .opened ∧ s.channel.slot = none := by
  decide

end Channel

end ExerciseClient
