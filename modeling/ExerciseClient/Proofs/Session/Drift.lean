import ExerciseClient.Proofs.Channel.Coherence
import ExerciseClient.Proofs.Session.Turn
import ExerciseClient.Session.Stage

/-! A session leaves its channel to itself but for submissions: as time passes, what becomes of
the channel is a life of steps, instants and submissions. So what holds of every life holds
wherever a session has got to. -/

namespace ExerciseClient

namespace Life

open Channel

/-- Nobody but the channel, the clock and the runs of a session acts. -/
def IsDrift : Event → Prop
  | .work | .clock _ | .submit .. => True
  | _ => False

end Life

namespace Stage

/-- The channel of one stage becomes that of another by drifting. -/
def Drifts (s s' : Stage) : Prop :=
  ∃ events : List Channel.Event, (∀ e ∈ events, Life.IsDrift e) ∧ ∀ h, ∃ h',
    (⟨s.now, s.session.channel, h⟩ : Life).run events = ⟨s'.now, s'.session.channel, h'⟩

theorem drifts_of_eq {s s' : Stage} (hn : s'.now = s.now)
    (hc : s'.session.channel = s.session.channel) : Drifts s s' :=
  ⟨[], by simp, fun h => ⟨h, by rw [hn, hc]; rfl⟩⟩

theorem Drifts.refl (s : Stage) : Drifts s s := drifts_of_eq rfl rfl

theorem Drifts.trans {s s' s'' : Stage} (h : Drifts s s') (h' : Drifts s' s'') :
    Drifts s s'' := by
  obtain ⟨events, hd, hrun⟩ := h
  obtain ⟨events', hd', hrun'⟩ := h'
  refine ⟨events ++ events', ?_, ?_⟩
  · intro e he
    rcases List.mem_append.mp he with he | he
    · exact hd e he
    · exact hd' e he
  · intro history
    obtain ⟨between, hb⟩ := hrun history
    obtain ⟨last, hl⟩ := hrun' between
    exact ⟨last, by rw [Life.run_append, hb, hl]⟩

end Stage

namespace Session

/-- A turn is one of the channel, or leaves it as it is, or hands it a submission. -/
theorem turn_channel (now : Nat) (p : Party) (s : Session) :
    (s.turn now p).session.channel = (s.channel.turn now).1 ∧ p = .channel ∨
      (s.turn now p).session.channel = s.channel ∨
      ∃ exercise submission,
        (s.turn now p).session.channel = (s.channel.submit exercise submission).2.1 := by
  cases p with
  | channel => exact .inl ⟨rfl, rfl⟩
  | autosaver => exact .inr (.inl rfl)
  | run number =>
      right
      have hturn := s.turn_run now number
      generalize (s.turn now (.run number)).session = s' at hturn ⊢
      cases hturn with
      | idle hi => exact .inl rfl
      | begun hr hf hp => exact .inr ⟨_, _, rfl⟩
      | checked hr hw hp => exact .inl rfl

end Session

namespace Stage

@[simp] theorem record_session (happenings : List Happening) (s : Stage) :
    (s.record happenings).session = s.session := rfl

@[simp] theorem record_now (happenings : List Happening) (s : Stage) :
    (s.record happenings).now = s.now := rfl

@[simp] theorem call_session (s : Stage) (p : Party) : (s.call p).session = s.session := by
  rw [call]
  split <;> rfl

@[simp] theorem call_now (s : Stage) (p : Party) : (s.call p).now = s.now := by
  rw [call]
  split <;> rfl

@[simp] theorem foldl_call_session (ps : List Party) (s : Stage) :
    (ps.foldl call s).session = s.session := by
  induction ps generalizing s with
  | nil => rfl
  | cons p ps ih => rw [List.foldl_cons, ih, call_session]

@[simp] theorem foldl_call_now (ps : List Party) (s : Stage) :
    (ps.foldl call s).now = s.now := by
  induction ps generalizing s with
  | nil => rfl
  | cons p ps ih => rw [List.foldl_cons, ih, call_now]

@[simp] theorem watch_session (p : Party) (s : Stage) : (s.watch p).session = s.session := by
  rw [watch]
  split
  · rfl
  · split <;> rfl

@[simp] theorem watch_now (p : Party) (s : Stage) : (s.watch p).now = s.now := by
  rw [watch]
  split
  · rfl
  · split <;> rfl

@[simp] theorem act_session (p : Party) (s : Stage) :
    (s.act p).session = (s.session.turn s.now p).session := by
  simp [act]

@[simp] theorem act_now (p : Party) (s : Stage) : (s.act p).now = s.now := by
  simp [act]

@[simp] theorem moveTo_session (t : Nat) (s : Stage) : (s.moveTo t).session = s.session := by
  simp [moveTo]

@[simp] theorem moveTo_now (t : Nat) (s : Stage) : (s.moveTo t).now = t := by
  simp [moveTo]

/-! ### Everything that passes the time is a drift -/

theorem drifts_act (p : Party) (s : Stage) : Drifts s (s.act p) := by
  rcases s.session.turn_channel s.now p with ⟨hc, _⟩ | hc | ⟨exercise, submission, hc⟩
  · refine ⟨List.replicate s.session.channel.work .work, by simp [Life.IsDrift], ?_⟩
    intro h
    rw [Life.run_work, act_session, act_now, hc]
    exact ⟨_, rfl⟩
  · exact drifts_of_eq (act_now p s) (by rw [act_session, hc])
  · refine ⟨[.submit exercise submission], by simp [Life.IsDrift], ?_⟩
    intro h
    rw [act_session, act_now, hc]
    exact ⟨_, rfl⟩

/-- What every turn preserves is preserved while things settle. -/
theorem settleWithin_induction {P : Stage → Prop}
    (hact : ∀ p rest s, P s → P ({ s with ready := rest }.act p)) {s : Stage} (h : P s)
    (fuel : Nat) : P (s.settleWithin fuel) := by
  induction fuel generalizing s with
  | zero => exact h
  | succ fuel ih =>
      rw [settleWithin]
      split
      · exact h
      · rename_i p rest _
        exact ih (hact p rest s h)

/-- Time passes until something holds, or up to the last move of the clock. -/
theorem passTo_induction {P : Stage → Prop} {target : Nat}
    (hsettle : ∀ s, P s → P s.settle) (hmove : ∀ t s, t < target → P s → P (s.moveTo t))
    {s : Stage} (h : P s) (holds : Session → Bool) (now : Nat) :
    ∃ s', P s' ∧ (s.passTo holds target now = s' ∧ holds s'.session = true ∨
      s.passTo holds target now = s'.moveTo target) := by
  fun_induction Stage.passTo holds target now s with
  | case1 now s s' hh => exact ⟨s', hsettle s h, .inl ⟨rfl, hh⟩⟩
  | case2 now s s' hh ha => exact ⟨s', hsettle s h, .inr rfl⟩
  | case3 now s s' hh t ha hlt ih => exact ih (hmove t s' hlt.2 (hsettle s h))
  | case4 now s s' hh t ha hlt => exact ⟨s', hsettle s h, .inr rfl⟩

/-- What every turn and every move of the clock preserves. -/
structure Steady (P : Stage → Prop) : Prop where
  act : ∀ p rest s, P s → P ({ s with ready := rest }.act p)
  moveTo : ∀ t s, P s → P (s.moveTo t)

section

variable {P : Stage → Prop} {s : Stage}

theorem Steady.settle (hp : Steady P) (h : P s) : P s.settle := settleWithin_induction hp.act h _

theorem Steady.passTo (hp : Steady P) (h : P s) (holds : Session → Bool) (target now : Nat) :
    P (s.passTo holds target now) := by
  have hsettle (s : Stage) (h : P s) : P s.settle := hp.settle h
  have hmove (t : Nat) (s : Stage) (_ : t < target) (h : P s) : P (s.moveTo t) := hp.moveTo t s h
  obtain ⟨s', hs, ⟨he, _⟩ | he⟩ := passTo_induction hsettle hmove h holds now
  · exact he ▸ hs
  · exact he ▸ hp.moveTo target s' hs

theorem Steady.await (hp : Steady P) (h : P s) (p : Party) (holds : Session → Bool)
    (fuel : Nat) : P (s.await p holds fuel) := by
  induction fuel generalizing s with
  | zero => exact hp.settle h
  | succ fuel ih =>
      simp only [Stage.await]
      split
      · exact hp.settle h
      · split
        · exact hp.settle h
        · exact ih (hp.passTo (hp.settle h) ..)

theorem Steady.waitConnected (hp : Steady P) (h : P s) (ms : Nat) : P (s.waitConnected ms).2 := by
  simp only [Stage.waitConnected]
  split
  · exact h
  · exact hp.passTo h ..

end

theorem drifts_moveTo (t : Nat) (s : Stage) : Drifts s (s.moveTo t) :=
  ⟨[.clock t], by simp [Life.IsDrift], fun h => ⟨h, by simp [Life.next]⟩⟩

theorem steady_drifts (s : Stage) : Steady (Drifts s) := by
  constructor
  · intro p rest s' h
    exact h.trans (drifts_act p { s' with ready := rest })
  · intro t s' h
    exact h.trans (drifts_moveTo t s')

theorem drifts_await (p : Party) (holds : Session → Bool) (fuel : Nat) (s : Stage) :
    Drifts s (s.await p holds fuel) :=
  (steady_drifts s).await (.refl s) p holds fuel

theorem drifts_waitConnected (ms : Nat) (s : Stage) : Drifts s (s.waitConnected ms).2 :=
  (steady_drifts s).waitConnected (.refl s) ms

/-- To close a channel is to tear it down and to let time pass. -/
theorem drifts_closeChannel (s : Stage) : Drifts s.tearDown s.closeChannel :=
  drifts_await ..

/-- What drifts is coherent as before. -/
theorem Drifts.coherent {s s' : Stage} (h : Drifts s s') (hc : s.session.channel.Coherent) :
    s'.session.channel.Coherent := by
  obtain ⟨events, _, hrun⟩ := h
  obtain ⟨last, hl⟩ := hrun []
  have := Channel.Coherent.run (s := ⟨s.now, s.session.channel, []⟩) hc events
  rwa [hl] at this

/-- What drifts is torn down only if it was so before. -/
theorem Drifts.stopping {s s' : Stage} (h : Drifts s s') :
    s'.session.channel.stopping = s.session.channel.stopping := by
  obtain ⟨events, hd, hrun⟩ := h
  obtain ⟨last, hl⟩ := hrun []
  have hkeep : .tearDown ∉ events := fun hm => hd _ hm
  have := Channel.stopping_run (s := ⟨s.now, s.session.channel, []⟩) hkeep
  rwa [hl] at this

end Stage

end ExerciseClient
