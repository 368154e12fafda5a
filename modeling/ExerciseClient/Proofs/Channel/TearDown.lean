import ExerciseClient.Proofs.Channel.Coherence

/-! What being torn down ends. A close that is under way goes on to its end, and a lost connection
still passes through `closed`, but nothing is attempted, sent, read or reported any more. -/

namespace ExerciseClient

/-- What only a channel that goes on does: it attempts, connects, hands out frames, reads frames
or calls its listener. -/
def ChannelEffect.IsActive : ChannelEffect → Prop
  | .attempted | .entered .connecting | .entered .opened => True
  | .sent .. | .unsent .. | .dispatched .. | .called .. => True
  | _ => False

namespace Channel

/-- Nothing of a channel that goes on, and no submission that was taken. -/
def Deed.IsIdle : Deed → Prop
  | .did e => ¬ e.IsActive
  | .submitted _ _ _ answer => ∃ e, answer = .error e
  | _ => True

/-- What a later channel has kept of an earlier one that was torn down. -/
structure Kept (c d : Channel) : Prop where
  connector : d.connector = c.connector
  last : d.last = c.last
  received : d.received = c.received
  state : d.state = c.state ∨ (∃ span, d.state = .closed span) ∨ d.state = .tornDown

theorem Kept.trans {c d e : Channel} (h : Kept c d) (h' : Kept d e) : Kept c e := by
  refine ⟨h'.connector.trans h.connector, h'.last.trans h.last,
    h'.received.trans h.received, ?_⟩
  rcases h'.state with he | he
  · rw [he]
    exact h.state
  · exact .inr he

theorem kept_goOn (now : Nat) (forGood : Bool) (c : Channel) : Kept c (c.goOn now forGood).1 := by
  cases forGood with
  | false => exact ⟨rfl, rfl, rfl, .inr (.inl ⟨_, rfl⟩)⟩
  | true => exact ⟨rfl, rfl, rfl, .inr (.inr rfl)⟩

theorem Move.kept {now : Nat} {c : Channel} {s : Step} (hm : Move now c s)
    (hs : c.stopping = true) : Kept c s.1 := by
  cases hm with
  | finish => exact ⟨rfl, rfl, rfl, .inr (.inr rfl)⟩
  | leave => exact ⟨rfl, rfl, rfl, .inl rfl⟩
  | closeEnded => exact kept_goOn now _ c
  | begin hs' | again hs' | accepted hs' | refused hs' | late hs' | send hs' | sendFailed hs'
    | readText hs' | readNotice hs' | readBroken hs' | readEnd hs' => simp [hs] at hs'

theorem Move.not_isActive {now : Nat} {c : Channel} {s : Step} (hm : Move now c s)
    (hs : c.stopping = true) : ∀ e ∈ s.2, ¬ e.IsActive := by
  cases hm with
  | finish => simp [Channel.finish, ChannelEffect.IsActive]
  | leave => simp [letGo, ChannelEffect.IsActive]
  | @closeEnded _ _ forGood e _ he =>
      intro e' he'
      rcases List.mem_cons.mp he' with rfl | he'
      · rcases closeEnd?_cases he with rfl | ⟨l, rfl⟩ <;> exact id
      · cases forGood with
        | false =>
            simp only [goOn, retry, Bool.false_eq_true, if_false, List.mem_cons,
              List.not_mem_nil, or_false] at he'
            rcases he' with rfl | rfl <;> exact id
        | true =>
            simp only [goOn, Channel.finish, if_true, List.mem_cons, List.not_mem_nil,
              or_false] at he'
            rcases he' with rfl | rfl <;> exact id
  | begin hs' | again hs' | accepted hs' | refused hs' | late hs' | send hs' | sendFailed hs'
    | readText hs' | readNotice hs' | readBroken hs' | readEnd hs' => simp [hs] at hs'

/-- What holds from the moment on at which a channel is torn down. -/
structure Final (torn s : Life) : Prop where
  coherent : Coherent s.channel
  stopping : s.channel.stopping = true
  kept : Kept torn.channel s.channel
  idle : ∃ later : History, s.history = torn.history ++ later ∧ ∀ m ∈ later, m.2.IsIdle

theorem Final.slot_eq {torn s : Life} (h : Final torn s) : s.channel.slot = none := by
  simp [h.coherent.slot_eq, h.stopping]

theorem final_tearDown {s : Life} (h : Coherent s.channel) :
    Final (s.next .tearDown) (s.next .tearDown) :=
  ⟨h.tearDown, rfl, ⟨rfl, rfl, rfl, .inl rfl⟩, [], by simp, by simp⟩

/-- A record of idle deeds leaves it at that. -/
theorem Final.record {torn s : Life} (h : Final torn s) {c : Channel} {deeds : List Deed}
    (hc : Coherent c) (hs : c.stopping = true) (hk : Kept s.channel c)
    (hd : ∀ d ∈ deeds, d.IsIdle) : Final torn (s.record c deeds) := by
  obtain ⟨later, he, hl⟩ := h.idle
  refine ⟨hc, hs, h.kept.trans hk, later ++ deeds.map fun d => (s.now, d), ?_, ?_⟩
  · rw [Life.record_history, he, List.append_assoc]
  · intro m hm
    rcases List.mem_append.mp hm with hm | hm
    · exact hl m hm
    · obtain ⟨d, hd', rfl⟩ := List.mem_map.mp hm
      exact hd d hd'

theorem Final.next {torn s : Life} (h : Final torn s) (e : Event) : Final torn (s.next e) := by
  cases e with
  | work =>
      rcases s.next_work with ⟨_, he⟩ | ⟨m, hm, he⟩
      · rwa [he]
      · rw [he]
        refine h.record (h.coherent.move hm) ?_ (hm.kept h.stopping) ?_
        · rw [hm.sameSetUp.stopping, h.stopping]
        · intro d hd
          obtain ⟨e, he, rfl⟩ := List.mem_map.mp hd
          exact hm.not_isActive h.stopping e he
  | clock now => exact ⟨h.coherent, h.stopping, h.kept, h.idle⟩
  | submit exercise submission =>
      rw [Life.next_submit]
      rcases submit_cases s.channel exercise submission with
        ⟨n, _, _, _, hslot, _⟩ | ⟨error, ha, hc⟩
      · simp [h.slot_eq] at hslot
      · rw [hc, ha]
        exact h.record h.coherent h.stopping ⟨rfl, rfl, rfl, .inl rfl⟩ (by simp [Deed.IsIdle])
  | listen listener =>
      exact h.record (h.coherent.listen listener) h.stopping ⟨rfl, rfl, rfl, .inl rfl⟩
        (by simp [Deed.IsIdle])
  | serve line a =>
      have hcoherent := h.coherent.serve line a
      obtain ⟨lines, hc, _⟩ := serve_snd s.channel line a
      rw [hc] at hcoherent
      rw [Life.next_serve, hc]
      exact h.record hcoherent h.stopping ⟨rfl, rfl, rfl, .inl rfl⟩ (by simp [Deed.IsIdle])
  | tearDown =>
      exact h.record h.coherent.tearDown rfl ⟨rfl, rfl, rfl, .inl rfl⟩ (by simp [Deed.IsIdle])

theorem Final.run {torn s : Life} (h : Final torn s) (events : List Event) :
    Final torn (s.run events) :=
  Life.run_induction (P := Final torn) (fun _ e h => h.next e) h events

/-- Every later moment is as good a start. -/
theorem Final.restart {torn s : Life} (h : Final torn s) : Final s s :=
  ⟨h.coherent, h.stopping, ⟨rfl, rfl, rfl, .inl rfl⟩, [], by simp, by simp⟩

/-! ### A channel that is finished stays as it is -/

theorem finished_next {s : Life} (h : s.channel.phase = .finished) (e : Event) :
    (s.next e).channel.phase = .finished := by
  cases e with
  | work =>
      have hn : s.next .work = s := by simp only [Life.next, step?, h]
      rwa [hn]
  | clock now => exact h
  | submit exercise submission =>
      rcases submit_cases s.channel exercise submission with ⟨_, _, _, _, _, hp, _⟩ | ⟨_, _, he⟩
      · simp [h] at hp
      · exact (congrArg Channel.phase he).trans h
  | listen listener => exact h
  | serve line a =>
      obtain ⟨lines, he, _⟩ := serve_snd s.channel line a
      rw [Life.next_serve, he]
      exact h
  | tearDown => exact h

theorem finished_run {s : Life} (h : s.channel.phase = .finished) (events : List Event) :
    (s.run events).channel.phase = .finished :=
  Life.run_induction (P := fun s => s.channel.phase = .finished)
    (fun _ e h => finished_next h e) h events

end Channel

end ExerciseClient
