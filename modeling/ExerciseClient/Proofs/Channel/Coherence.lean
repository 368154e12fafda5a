import ExerciseClient.Proofs.Channel.Life

/-! The cells that a channel shows follow from its phase: the slot is filled exactly while frames
are taken and the channel is not torn down, and the state shows the phase. A channel that still
closes a lost connection shows `opened`, although its slot is empty. -/

namespace ExerciseClient

/-- The line that takes frames. -/
def Phase.pumped? : Phase → Option Nat
  | .pumping n _ => some n
  | _ => none

/-- The line that is held, which may be one that is being closed. -/
def Phase.line? : Phase → Option Nat
  | .pumping n _ | .closing n _ _ => some n
  | _ => none

theorem Phase.line?_of_pumped? {p : Phase} {n : Nat} (h : p.pumped? = some n) :
    p.line? = some n := by
  cases p with
  | pumping => exact h
  | fresh | connecting | closing | waiting | finished => simp [pumped?] at h

/-- The state that a phase shows. -/
def Phase.Shows : Phase → ChannelState → Prop
  | .fresh, s | .connecting .., s => s = .connecting
  | .pumping .., s | .closing .., s => s = .opened
  | .waiting _, s => ∃ span, s = .closed span
  | .finished, s => s = .tornDown

namespace Channel

/-- Slot, state and lines agree with the phase. A held line is the newest one. -/
structure Coherent (c : Channel) : Prop where
  slot_eq : c.slot = if c.stopping then none else c.phase.pumped?
  shows : c.phase.Shows c.state
  line_last : ∀ n, c.phase.line? = some n → n + 1 = c.lines.length

theorem coherent_connect (url : String) (connector : Connector) (backoff : Backoff)
    (connectTimeout : Nat) : Coherent (connect url connector backoff connectTimeout) :=
  ⟨rfl, rfl, by simp [connect, Phase.line?]⟩

theorem Coherent.tearDown {c : Channel} (h : Coherent c) : Coherent c.tearDown :=
  ⟨by simp [Channel.tearDown], h.shows, h.line_last⟩

theorem Coherent.listen {c : Channel} (h : Coherent c) (listener : Option String) :
    Coherent (c.listen listener) :=
  ⟨h.slot_eq, h.shows, h.line_last⟩

/-- The server changes no more than what a line holds. -/
theorem serve_snd (c : Channel) (line : Option Nat) (a : ServerAction) :
    ∃ lines : List Line, (c.serve line a).2 = { c with lines } ∧
      lines.length = c.lines.length := by
  simp only [serve]
  split
  · exact ⟨c.lines, rfl, rfl⟩
  · exact ⟨_, rfl, by simp⟩

theorem Coherent.serve {c : Channel} (h : Coherent c) (line : Option Nat) (a : ServerAction) :
    Coherent (c.serve line a).2 := by
  obtain ⟨lines, he, hlen⟩ := serve_snd c line a
  rw [he]
  exact ⟨h.slot_eq, h.shows, fun n hn => hlen ▸ h.line_last n hn⟩

/-- A submission joins the queue of the line that takes frames, or nothing changes. -/
theorem submit_cases (c : Channel) (exercise : String) (submission : Except String Json.Value) :
    (∃ n frames v, submission = .ok v ∧ c.slot = some n ∧ c.phase = .pumping n frames ∧
      (c.submit exercise submission).1 = .ok () ∧ (c.submit exercise submission).2.1 =
        { c with phase := .pumping n (frames ++ [(envelope exercise v).text]) }) ∨
    ∃ e, (c.submit exercise submission).1 = .error e ∧ (c.submit exercise submission).2.1 = c := by
  cases submission with
  | error reason => exact .inr ⟨_, rfl, rfl⟩
  | ok v =>
      simp only [submit]
      split
      · rename_i n m frames hslot hphase
        by_cases hnm : n = m
        · subst m
          exact .inl ⟨n, frames, v, rfl, hslot, hphase, by simp, by simp⟩
        · exact .inr ⟨.notConnected exercise, by simp [hnm], by simp [hnm]⟩
      · exact .inr ⟨_, rfl, rfl⟩

theorem Coherent.submit {c : Channel} (h : Coherent c) (exercise : String)
    (submission : Except String Json.Value) : Coherent (c.submit exercise submission).2.1 := by
  rcases submit_cases c exercise submission with ⟨n, frames, v, _, _, hp, _, he⟩ | ⟨_, _, he⟩
  · rw [he]
    refine ⟨?_, ?_, ?_⟩
    · simpa [hp, Phase.pumped?] using h.slot_eq
    · simpa [hp, Phase.Shows] using h.shows
    · simpa [hp, Phase.line?] using h.line_last
  · rw [he]
    exact h

/-! ### Each thing that a move does keeps a channel coherent -/

theorem coherent_finish (c : Channel) : Coherent c.finish.1 :=
  ⟨(ite_self none).symm, rfl, by simp [finish, Phase.line?]⟩

theorem coherent_attempt {c : Channel} (hslot : c.slot = none) (now : Nat) :
    Coherent (c.attempt now).1 :=
  ⟨by simp [attempt, Phase.pumped?, hslot], rfl, by simp [attempt, Phase.line?]⟩

theorem coherent_take {c : Channel} (hs : c.stopping = false) (l : Line) (log : Log) :
    Coherent (c.take l log).1 :=
  ⟨by simp [take, hs, Phase.pumped?], rfl, by simp [take, Phase.line?]⟩

theorem coherent_retry {c : Channel} (hslot : c.slot = none) (now : Nat) :
    Coherent (c.retry now).1 :=
  ⟨by simp [retry, Phase.pumped?, hslot], ⟨_, rfl⟩, by simp [retry, Phase.line?]⟩

theorem coherent_goOn {c : Channel} (hslot : c.slot = none) (now : Nat) (forGood : Bool) :
    Coherent (c.goOn now forGood).1 := by
  cases forGood with
  | false => exact coherent_retry hslot now
  | true => exact coherent_finish c

theorem Coherent.setLine {c : Channel} (h : Coherent c) (n : Nat) (l : Line) :
    Coherent { c with lines := c.lines.set n l } :=
  ⟨h.slot_eq, h.shows, by simpa using h.line_last⟩

theorem Coherent.letGo {c : Channel} (h : Coherent c) {n : Nat} {frames : List String}
    (hp : c.phase = .pumping n frames) (now : Nat) (forGood : Bool) :
    Coherent (c.letGo now n forGood).1 := by
  refine ⟨(ite_self none).symm, ?_, ?_⟩
  · simpa [Channel.letGo, hp, Phase.Shows] using h.shows
  · simpa [Channel.letGo, hp, Phase.line?] using h.line_last

theorem Coherent.slot_eq_none {c : Channel} (h : Coherent c) (hp : c.phase.pumped? = none) :
    c.slot = none := by
  rw [h.slot_eq, hp]
  simp

theorem Coherent.tornDown_iff {c : Channel} (h : Coherent c) :
    c.state = .tornDown ↔ c.phase = .finished := by
  have hshows := h.shows
  cases hp : c.phase with
  | finished => simp [show c.state = .tornDown by simpa [hp, Phase.Shows] using hshows]
  | waiting due =>
      obtain ⟨span, he⟩ : ∃ span, c.state = .closed span := by simpa [hp, Phase.Shows] using hshows
      simp [he]
  | fresh | connecting | pumping | closing =>
      simp only [hp, Phase.Shows] at hshows
      simp [hshows]

theorem Coherent.move {now : Nat} {c : Channel} {s : Step} (h : Coherent c)
    (hm : Move now c s) : Coherent s.1 := by
  cases hm with
  | finish hs hp => exact coherent_finish c
  | begin hs hp => exact coherent_attempt (h.slot_eq_none (by rw [hp]; rfl)) now
  | again hs hp hd => exact coherent_attempt (h.slot_eq_none (by rw [hp]; rfl)) now
  | accepted hs hp ht => exact coherent_take hs _ _
  | refused hs hp ht => exact coherent_retry (h.slot_eq_none (by rw [hp]; rfl)) now
  | late hs hp hn ht => exact coherent_retry (h.slot_eq_none (by rw [hp]; rfl)) now
  | leave hs hp => exact h.letGo hp now true
  | send hs hp hl hf =>
      refine ⟨?_, ?_, ?_⟩
      · simpa [hp, Phase.pumped?] using h.slot_eq
      · simpa [hp, Phase.Shows] using h.shows
      · simpa [hp, Phase.line?] using h.line_last
  | sendFailed hs hp hl hf => exact h.letGo hp now false
  | @readText n l text inbox hs hp hl hi =>
      obtain ⟨last, received, he⟩ :=
        dispatch_fst n text { c with lines := c.lines.set n { l with inbox } }
      rw [he]
      exact ⟨h.slot_eq, h.shows, by simpa using h.line_last⟩
  | readNotice hs hp hl hi => exact h.setLine _ _
  | readBroken hs hp hl hi => exact (h.setLine _ _).letGo hp now false
  | readEnd hs hp hl hi => exact (h.setLine _ _).letGo hp now false
  | closeEnded hp he => exact coherent_goOn (h.slot_eq_none (by rw [hp]; rfl)) now _

theorem Coherent.next {s : Life} (h : Coherent s.channel) (e : Event) :
    Coherent (s.next e).channel := by
  cases e with
  | work =>
      rcases s.next_work with ⟨_, he⟩ | ⟨m, hm, he⟩
      · rw [he]
        exact h
      · rw [he]
        exact h.move hm
  | clock now => exact h
  | submit exercise submission => exact h.submit exercise submission
  | listen listener => exact h.listen listener
  | serve line a => exact h.serve line a
  | tearDown => exact h.tearDown

/-- A channel is coherent in every state of every life. -/
theorem Coherent.run {s : Life} (h : Coherent s.channel) (events : List Event) :
    Coherent (s.run events).channel :=
  Life.run_induction (P := fun s => Coherent s.channel) (fun _ e h => h.next e) h events

/-- Only being torn down stops a channel. -/
theorem stopping_run {s : Life} {events : List Event} (h : .tearDown ∉ events) :
    (s.run events).channel.stopping = s.channel.stopping := by
  induction events generalizing s with
  | nil => rfl
  | cons e events ih =>
      rw [List.mem_cons, not_or] at h
      rw [Life.run_cons, ih h.2]
      cases e with
      | work =>
          rcases s.next_work with ⟨_, he⟩ | ⟨m, hm, he⟩
          · rw [he]
          · rw [he]
            exact hm.sameSetUp.stopping
      | clock now => rfl
      | submit exercise submission =>
          rw [Life.next_submit]
          rcases submit_cases s.channel exercise submission with
            ⟨_, _, _, _, _, _, _, he⟩ | ⟨_, _, he⟩ <;> rw [he] <;> rfl
      | listen listener => rfl
      | serve line a =>
          obtain ⟨lines, he, _⟩ := serve_snd s.channel line a
          rw [Life.next_serve, he]
          rfl
      | tearDown => exact absurd rfl h.1

/-! ### A history tells whether the channel was torn down -/

/-- The channel stops if and only if the history has it torn down. -/
def TellsTorn (s : Life) : Prop := .tornDown ∈ s.history.deeds ↔ s.channel.stopping = true

theorem TellsTorn.record {s : Life} (h : TellsTorn s) {c : Channel} {deeds : List Deed}
    (hs : c.stopping = s.channel.stopping) (hd : .tornDown ∉ deeds) :
    TellsTorn (s.record c deeds) := by
  simpa [TellsTorn, hs, hd] using h

theorem TellsTorn.next {s : Life} (h : TellsTorn s) (e : Event) : TellsTorn (s.next e) := by
  cases e with
  | work =>
      rcases s.next_work with ⟨_, he⟩ | ⟨m, hm, he⟩
      · rwa [he]
      · rw [he]
        exact h.record hm.sameSetUp.stopping (by simp)
  | clock now => exact h
  | submit exercise submission =>
      rw [Life.next_submit]
      rcases submit_cases s.channel exercise submission with
        ⟨_, _, _, _, _, _, _, he⟩ | ⟨_, _, he⟩ <;> rw [he] <;> exact h.record rfl (by simp)
  | listen listener => exact h.record rfl (by simp)
  | serve line a =>
      obtain ⟨lines, he, _⟩ := serve_snd s.channel line a
      rw [Life.next_serve, he]
      exact h.record rfl (by simp)
  | tearDown => simp [TellsTorn, Life.next, Channel.tearDown]

theorem TellsTorn.run {s : Life} (h : TellsTorn s) (events : List Event) :
    TellsTorn (s.run events) :=
  Life.run_induction (P := TellsTorn) (fun _ e h => h.next e) h events

theorem tellsTorn_connect (now : Nat) (url : String) (connector : Connector) (backoff : Backoff)
    (connectTimeout : Nat) :
    TellsTorn (Life.ofChannel now (connect url connector backoff connectTimeout)) := by
  simp [TellsTorn, Life.ofChannel, History.deeds, connect]

end Channel

end ExerciseClient
