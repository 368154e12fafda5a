import ExerciseClient.Proofs.Channel.Settling
import ExerciseClient.Proofs.Channel.TearDown
import ExerciseClient.Proofs.Session.Waiting

/-! To close a channel comes to an end. The channel gets its turn, after which it has finished or
waits for a close that hangs; nobody else touches it, its alarm rings when that close has taken a
second, and the next turn is the last. -/

namespace ExerciseClient

namespace Channel

/-- A channel that was torn down and waits for nothing but an instant, if it is not finished. -/
structure Rests (c : Channel) : Prop where
  stopping : c.stopping = true
  slot_eq : c.slot = none
  waits : ∀ now, (∀ t, c.due = some t → now < t) → c.step? now = none
  ends : c.isFinished = true ∨ ∃ t, c.due = some t ∧ (c.turn t).1.isFinished = true

theorem isFinished_iff (c : Channel) : c.isFinished = true ↔ c.phase = .finished := by
  simp [isFinished]

theorem step?_of_isFinished {c : Channel} (h : c.phase = .finished) (now : Nat) :
    c.step? now = none := by
  simp [step?, h]

theorem steps_of_settled {c : Channel} {now : Nat} (h : c.step? now = none) (fuel : Nat) :
    c.steps now fuel = (c, []) := by
  cases fuel <;> simp [steps, h]

theorem isFinished_steps {c : Channel} {now : Nat} {s : Step} (h : c.step? now = some s)
    (hs : s.1.phase = .finished) (fuel : Nat) :
    (c.steps now (fuel + 1)).1.isFinished = true := by
  simp only [steps, h, steps_of_settled (step?_of_isFinished hs now)]
  exact (isFinished_iff s.1).mpr hs

/-- Once the close of a line is over, a turn ends a channel that was torn down. -/
theorem isFinished_turn_of_closing {c : Channel} {now n start : Nat} {forGood : Bool}
    {e : ChannelEffect} (hs : c.stopping = true) (hp : c.phase = .closing n start forGood)
    (he : c.closeEnd? now n start = some e) : (c.turn now).1.isFinished = true := by
  have hstep := (Move.closeEnded hp he).execution
  have hwork : ∃ k, c.work = k + 1 + 1 := ⟨c.work - 2, by simp only [work]; omega⟩
  obtain ⟨k, hk⟩ := hwork
  rw [turn, hk]
  cases forGood with
  | true => exact isFinished_steps hstep rfl _
  | false =>
      have hnext : (c.retry now).1.step? now = some (c.retry now).1.finish :=
        (Move.finish (c := (c.retry now).1) hs trivial).execution
      have hrest := isFinished_steps hnext rfl k
      rw [steps]
      simp only [hstep]
      exact hrest

theorem rests_of_settled {c : Channel} {now : Nat} (hs : c.stopping = true)
    (hslot : c.slot = none) (h : c.step? now = none) :
    Rests c ∧ ∀ t, c.due = some t → now < t := by
  cases hp : c.phase with
  | fresh => simp [step?, hp] at h
  | connecting => simp [step?, hp, hs] at h
  | pumping => simp [step?, hp, hs, pump?] at h
  | waiting => simp [step?, hp, hs] at h
  | finished =>
      refine ⟨⟨hs, hslot, fun t _ => step?_of_isFinished hp t, .inl ?_⟩, ?_⟩
      · simp [isFinished, hp]
      · simp [due, hp]
  | closing n start forGood =>
      have hdue : c.due = some (start + closeTimeout) := by simp [due, hp]
      simp only [step?, hp, close?, Option.map_eq_none_iff] at h
      have hhang : ∀ t, c.closeEnd? t n start =
          if start + closeTimeout ≤ t then some (.logged (debug "关闭连接超时")) else none := by
        intro t
        simp only [closeEnd?] at h ⊢
        split at h <;> simp_all
      refine ⟨⟨hs, hslot, ?_, .inr ⟨_, hdue, ?_⟩⟩, ?_⟩
      · intro t ht
        have := ht _ hdue
        simp [step?, hp, close?, hhang, Nat.not_le.mpr this]
      · exact isFinished_turn_of_closing hs hp (by rw [hhang, if_pos (Nat.le_refl _)])
      · intro t ht
        rw [hdue] at ht
        cases ht
        refine Nat.lt_of_not_le fun hle => ?_
        rw [hhang, if_pos hle] at h
        cases h

/-- The channel of a session was torn down, and its cells agree. -/
structure Torn (c : Channel) : Prop where
  coherent : Coherent c
  stopping : c.stopping = true

theorem Torn.slot_eq {c : Channel} (h : Torn c) : c.slot = none := by
  simp [h.coherent.slot_eq, h.stopping]

theorem Torn.turn {c : Channel} (h : Torn c) (now : Nat) : Torn (c.turn now).1 := by
  have hrun := Life.run_work ⟨now, c, []⟩ c.work
  have hcoherent := Coherent.run (s := ⟨now, c, []⟩) h.coherent (List.replicate c.work .work)
  have hleft : .tearDown ∉ List.replicate c.work Event.work := by simp
  have hstopping := stopping_run (s := ⟨now, c, []⟩) hleft
  rw [hrun] at hcoherent hstopping
  exact ⟨hcoherent, hstopping.trans h.stopping⟩

/-- The turns of a channel that was torn down come to an end. -/
theorem ends_torn : Ends (fun now c => (c.turn now).1) due isFinished
    (fun c => if c.isFinished then 0 else 1) Torn := by
  have hrests (now : Nat) (c : Channel) (h : Torn c) :=
    rests_of_settled (h.turn now).stopping (h.turn now).slot_eq (turn_settled (.inl h.stopping) now)
  refine ⟨fun now c h => h.turn now, ?_, ?_, ?_⟩
  · intro now c t h ht
    exact (hrests now c h).2 t ht
  · intro now c h later hlater
    have hwait := (hrests now c h).1.waits later hlater
    have hsteps := congrArg Prod.fst (steps_of_settled hwait (c.turn now).1.work)
    exact hsteps
  · intro now c h hn
    obtain ⟨t, ht, hend⟩ := (hrests now c h).1.ends.resolve_left (by simp [hn])
    exact ⟨t, ht, by simp [hend, hn]⟩

end Channel

namespace Stage

open Channel

/-- Nobody but the channel changes it. -/
theorem channel_turn_of_torn {s : Session} {p : Party} (h : Torn s.channel) (hp : p ≠ .channel)
    (now : Nat) : (s.turn now p).session.channel = s.channel := by
  rcases s.turn_channel now p with ⟨_, he⟩ | ht | ⟨exercise, submission, ht⟩
  · exact absurd he hp
  · exact ht
  · rcases submit_cases s.channel exercise submission with ⟨n, _, _, _, hn, _⟩ | ⟨_, _, he⟩
    · simp [h.slot_eq] at hn
    · rw [ht, he]

theorem owned_channel :
    Owned .channel (·.channel) (fun now c => (c.turn now).1) due (fun s => Torn s.channel) := by
  refine ⟨fun _ => rfl, fun _ _ => rfl, ?_, ?_⟩
  · intro now p s h hp
    exact channel_turn_of_torn h hp now
  · intro now p s h
    by_cases hp : p = .channel
    · subst hp
      exact h.turn now
    · rw [channel_turn_of_torn h hp now]
      exact h

/-- Closing a channel ends it. -/
theorem isFinished_closeChannel {s : Stage} (h : Coherent s.session.channel) :
    s.closeChannel.session.channel.isFinished = true := by
  have hs : s.tearDown.session.channel = s.session.channel.tearDown := by
    rw [tearDown, onChannel, call_session]
  have ht : Torn s.tearDown.session.channel := ⟨hs ▸ h.tearDown, hs ▸ rfl⟩
  have hcalled : .channel ∈ ([Party.channel].foldl call
      { s with session := { s.session with channel := s.session.channel.tearDown } }).ready :=
    mem_ready_foldl_call (.inr (by simp))
  refine isOver_await owned_channel ends_torn ht ht hcalled ?_
  split <;> omega

end Stage

namespace Channel

/-- What it means to be torn down at some moment of a life: nothing new begins at any later
moment, the end is never left, and whoever closes the channel has only such moments before him
and finds it ended. -/
structure Finality (reached : Life) : Prop where
  final : ∀ sooner later : List Event,
    Final ((reached.next .tearDown).run sooner) ((reached.next .tearDown).run (sooner ++ later))
  ended : ∀ sooner later : List Event,
    ((reached.next .tearDown).run sooner).channel.state = .tornDown →
      ((reached.next .tearDown).run (sooner ++ later)).channel.state = .tornDown
  closes : ∀ stage : Stage, stage.session.channel = reached.channel →
    stage.closeChannel.session.channel.state = .tornDown ∧ ∃ events : List Event,
      ((reached.next .tearDown).run events).channel = stage.closeChannel.session.channel

theorem Coherent.finality {s : Life} (h : Coherent s.channel) : Finality s := by
  have hfinal : ∀ events, Final (s.next .tearDown) ((s.next .tearDown).run events) :=
    (final_tearDown h).run
  refine ⟨?_, ?_, ?_⟩
  · intro sooner later
    rw [Life.run_append]
    exact (hfinal sooner).restart.run later
  · intro sooner later hs
    rw [(hfinal _).coherent.tornDown_iff, Life.run_append]
    exact finished_run ((hfinal sooner).coherent.tornDown_iff.mp hs) later
  · intro stage hstage
    have hc : Coherent stage.session.channel := hstage ▸ h
    have hend := Stage.isFinished_closeChannel hc
    have htorn : stage.tearDown.session.channel = s.channel.tearDown := by
      rw [Stage.tearDown, Stage.onChannel, Stage.call_session, hstage]
    obtain ⟨events, _, hrun⟩ := stage.drifts_closeChannel
    obtain ⟨history, hl⟩ := hrun (s.next .tearDown).history
    rw [htorn] at hl
    have hreach : ((s.next .tearDown).run (.clock stage.tearDown.now :: events)).channel =
        stage.closeChannel.session.channel := congrArg Life.channel hl
    refine ⟨?_, _, hreach⟩
    rw [← hreach, (hfinal _).coherent.tornDown_iff, hreach]
    exact (isFinished_iff _).mp hend

/-- To tear a channel down is final, whatever it was doing. -/
theorem tearDown_final (now : Nat) (url : String) (connector : Connector) (backoff : Backoff)
    (connectTimeout : Nat) (events : List Event) :
    Finality ((Life.ofChannel now (connect url connector backoff connectTimeout)).run events) :=
  ((coherent_connect url connector backoff connectTimeout).run
    (s := Life.ofChannel now _) events).finality

end Channel

end ExerciseClient
