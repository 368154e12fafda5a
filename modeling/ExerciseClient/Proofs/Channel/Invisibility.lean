import ExerciseClient.Proofs.Channel.Noise

/-! Frames that are no results are invisible. Two lives of a channel that differ by such frames
alone go through the same states at the same instants: what is left of either without them is the
same, whether each thing that happens is let come to rest or not. -/

namespace ExerciseClient

namespace Channel

/-- It shows, unlike what is logged and frames that are no results. -/
def Deed.isHeard : Deed → Bool
  | .did (.logged _) => false
  | .did (.dispatched _ text) => !Frame.isNoise text
  | .served _ a _ => a.isHeard
  | _ => true

/-- The server does not send noise. -/
def Event.isHeard : Event → Bool
  | .serve _ a => a.isHeard
  | _ => true

/-- Something happens to the channel, and not by its own work. -/
def Event.isGiven : Event → Bool
  | .work => false
  | _ => true

end Channel

namespace Life

open Channel

/-- A life as it shows, without noise. -/
def denoise (s : Life) : Life where
  now := s.now
  channel := s.channel.denoise
  history := s.history.filter (·.2.isHeard)

theorem denoise_eq_iff (s s' : Life) : s.denoise = s'.denoise ↔ s.now = s'.now ∧
    s.channel.denoise = s'.channel.denoise ∧
      s.history.filter (·.2.isHeard) = s'.history.filter (·.2.isHeard) := by
  rw [denoise, denoise, Life.mk.injEq]

variable {s s' t u : Life} {e : Event}

/-- What shows of a life after some deeds. -/
theorem denoise_record (s : Life) (c : Channel) (deeds : List Deed) :
    (s.record c deeds).denoise = s.denoise.record c.denoise (deeds.filter (·.isHeard)) := by
  simp [denoise, record, List.filter_append, List.filter_map, Function.comp_def]

theorem given_of_unheard (h : e.isHeard = false) : e.isGiven = true := by
  cases e with
  | work => cases h
  | clock | submit | listen | serve | tearDown => rfl

/-- The noise before the next thing that is heard of. -/
theorem split_heard {events rest : List Event} (h : events.filter (·.isHeard) = e :: rest) :
    ∃ noise after, events = noise ++ e :: after ∧ (∀ e ∈ noise, e.isHeard = false) ∧
      after.filter (·.isHeard) = rest := by
  obtain ⟨noise, after, he, hn, _, hafter⟩ := List.filter_eq_cons_iff.mp h
  exact ⟨noise, after, he, by simpa using hn, hafter⟩

/-! ### What happens to a channel -/

theorem denoise_next_given (hg : e.isGiven = true) (hh : e.isHeard = true) (s : Life) :
    (s.next e).denoise = s.denoise.next e := by
  cases e with
  | work => cases hg
  | clock now => rfl
  | submit exercise submission =>
      rw [next_submit, next_submit, denoise_record]
      simp only [denoise, denoise_submit]
      rfl
  | listen listener =>
      rw [next, denoise_record]
      rfl
  | serve line a =>
      rw [next_serve, next_serve, denoise_record]
      simp only [denoise, denoise_serve hh]
      have hheard : [Deed.served line a (s.channel.serve line a).1].filter (·.isHeard) = _ :=
        List.filter_cons_of_pos hh
      rw [hheard]
      rfl
  | tearDown =>
      rw [next, denoise_record]
      rfl

theorem denoise_next_noise (hh : e.isHeard = false) (s : Life) :
    (s.next e).denoise = s.denoise := by
  cases e with
  | serve line a =>
      have hnone : [Deed.served line a (s.channel.serve line a).1].filter (·.isHeard) = [] := by
        simp only [List.filter_eq_nil_iff, List.mem_singleton, forall_eq, Bool.not_eq_true]
        exact hh
      rw [next_serve, denoise_record, denoise_serve_noise hh, hnone]
      simp [record, denoise]
  | work | clock | submit | listen | tearDown => cases hh

/-! ### What a channel does -/

section

variable {n : Nat} {l : Line} {text : String} {inbox : List Inbound}

/-- A step that reads noise does not show. -/
theorem next_of_hears (h : Hears s.channel n l text inbox) :
    (s.next .work).denoise = s.denoise ∧
      (s.next .work).channel = s.channel.readFirst n l inbox := by
  obtain ⟨line, hstep, hsame⟩ := h.step s.now
  have hnext : s.next .work = s.record (s.channel.readFirst n l inbox)
      [.did (.dispatched n text), .did (.logged line)] := by
    simp only [next, hstep]
    rfl
  refine ⟨?_, by rw [hnext]; rfl⟩
  have hunheard : (Deed.did (.dispatched n text)).isHeard = false := by
    simp [Deed.isHeard, h.noise]
  rw [hnext, denoise_record, hsame, List.filter_cons_of_neg (by simp [hunheard]),
    List.filter_cons_of_neg (by simp [Deed.isHeard])]
  simp [record, denoise]

theorem inbox_of_hears (h : Hears s.channel n l text inbox) {n' : Nat} {l' : Line}
    {text' : String} {inbox' : List Inbound}
    (h' : Hears (s.next .work).channel n' l' text' inbox') : inbox = .text text' :: inbox' := by
  rw [(next_of_hears h).2] at h'
  obtain ⟨rfl, _⟩ := Phase.pumping.inj (h.phase.symm.trans h'.phase)
  have hline := h'.line
  rw [readFirst, List.getElem?_set_self (List.getElem?_eq_some_iff.mp h.line).1] at hline
  obtain rfl := Option.some.inj hline
  exact h'.inbox_eq

/-- Once the noise before it is read, something else is read next, if anything is. -/
theorem exists_clear_of_hears (h : Hears s.channel n l text inbox) : ∃ k,
    (s.run (List.replicate k .work)).denoise = s.denoise ∧
      (s.run (List.replicate k .work)).channel.IsClear := by
  induction inbox generalizing s n l text with
  | nil =>
      refine ⟨1, (next_of_hears h).1, ?_⟩
      rintro ⟨n', l', text', inbox', h'⟩
      cases inbox_of_hears h h'
  | cons i inbox ih =>
      by_cases hc : ∃ n' l' text' inbox', Hears (s.next .work).channel n' l' text' inbox'
      · obtain ⟨n', l', text', inbox', h'⟩ := hc
        obtain ⟨rfl, rfl⟩ := List.cons.inj (inbox_of_hears h h')
        obtain ⟨k, hk, hclear⟩ := ih h'
        refine ⟨k + 1, ?_, hclear⟩
        rw [List.replicate_succ, run_cons, hk, (next_of_hears h).1]
      · exact ⟨1, (next_of_hears h).1, hc⟩

end

theorem exists_clear (s : Life) : ∃ k, (s.run (List.replicate k .work)).denoise = s.denoise ∧
    (s.run (List.replicate k .work)).channel.IsClear := by
  by_cases hc : ∃ n l text inbox, Hears s.channel n l text inbox
  · obtain ⟨n, l, text, inbox, h⟩ := hc
    exact exists_clear_of_hears h
  · exact ⟨0, rfl, hc⟩

/-- A step that reads no noise shows in the same way in both lives. -/
theorem next_of_clear (h : s.denoise = s'.denoise) (hc : s.channel.IsClear)
    (hc' : s'.channel.IsClear) :
    (s.IsSettled ↔ s'.IsSettled) ∧ (s.next .work).denoise = (s'.next .work).denoise := by
  obtain ⟨hnow, hchannel, _⟩ := (denoise_eq_iff s s').mp h
  have hstep := step?_denoise hc s.now
  rw [hchannel, hnow, step?_denoise hc' s'.now] at hstep
  cases hm : s.channel.step? s'.now with
  | none =>
      cases hm' : s'.channel.step? s'.now with
      | none => simp [IsSettled, next, hnow, hm, hm', h]
      | some m' => simp [hm, hm'] at hstep
  | some m =>
      cases hm' : s'.channel.step? s'.now with
      | none => simp [hm, hm'] at hstep
      | some m' =>
          simp only [hm, hm', Option.map_some, Option.some.injEq, Step.denoise,
            Prod.mk.injEq] at hstep
          have hn : s.next .work = s.record m.1 (m.2.map .did) := by simp only [next, hnow, hm]
          have hn' : s'.next .work = s'.record m'.1 (m'.2.map .did) := by simp only [next, hm']
          refine ⟨by simp [IsSettled, hnow, hm, hm'], ?_⟩
          rw [hn, hn', denoise_record, denoise_record, h, hstep.1, hstep.2]

/-- A step of one life is matched by some steps of the other. -/
theorem exists_work (h : s.denoise = s'.denoise) : ∃ k,
    (s.next .work).denoise = (s'.run (List.replicate k .work)).denoise := by
  by_cases hc : ∃ n l text inbox, Hears s.channel n l text inbox
  · obtain ⟨n, l, text, inbox, hears⟩ := hc
    exact ⟨0, (next_of_hears hears).1.trans h⟩
  · obtain ⟨k, hk, hclear⟩ := s'.exists_clear
    refine ⟨k + 1, ?_⟩
    rw [List.replicate_succ', run_append]
    exact (next_of_clear (h.trans hk.symm) hc hclear).2

/-! ### Runs -/

theorem run_noise {events : List Event} (hn : ∀ e ∈ events, e.isHeard = false) (s : Life) :
    (s.run events).denoise = s.denoise := by
  induction events generalizing s with
  | nil => rfl
  | cons e events ih =>
      rw [run_cons, ih fun e' he => hn e' (List.mem_cons_of_mem e he)]
      exact denoise_next_noise (hn e List.mem_cons_self) s

/-- What is heard of does the same after some noise. -/
theorem next_after_noise (h : s.denoise = s'.denoise) (hg : e.isGiven = true)
    (hh : e.isHeard = true) {noise : List Event} (hn : ∀ e ∈ noise, e.isHeard = false) :
    (s.next e).denoise = ((s'.run noise).next e).denoise := by
  rw [denoise_next_given hg hh, denoise_next_given hg hh, h, run_noise hn]

theorem filter_given_replicate (k : Nat) (events : List Event) :
    (List.replicate k Event.work ++ events).filter (·.isGiven) = events.filter (·.isGiven) := by
  have hwork : (List.replicate k Event.work).filter (·.isGiven) = [] :=
    List.filter_replicate_of_neg (by simp [Event.isGiven])
  rw [List.filter_append, hwork, List.nil_append]

theorem filter_given_of_noise {events : List Event} (hn : ∀ e ∈ events, e.isHeard = false) :
    events.filter (·.isGiven) = events := by
  rw [List.filter_eq_self]
  exact fun e he => given_of_unheard (hn e he)

/-- However the steps of one life lie between what happens to it, those of the other can lie so that
the two show alike. -/
theorem exists_run (h : s.denoise = s'.denoise) {events given : List Event}
    (hg : ∀ e ∈ given, e.isGiven = true)
    (he : (events.filter (·.isGiven)).filter (·.isHeard) = given.filter (·.isHeard)) :
    ∃ events', events'.filter (·.isGiven) = given ∧
      (s.run events).denoise = (s'.run events').denoise := by
  induction events generalizing s s' given with
  | nil =>
      have hn : ∀ e ∈ given, e.isHeard = false := by
        simpa using he.symm
      exact ⟨given, filter_given_of_noise hn, by rw [run_noise hn]; exact h⟩
  | cons e events ih =>
      by_cases hwork : e = .work
      · subst hwork
        obtain ⟨k, hnext⟩ := exists_work h
        obtain ⟨events', hgiven, hrun⟩ := ih hnext hg he
        refine ⟨List.replicate k .work ++ events', ?_, ?_⟩
        · rw [filter_given_replicate, hgiven]
        · rw [run_append]
          exact hrun
      · have hgiven : e.isGiven = true := by cases e <;> simp_all [Event.isGiven]
        rw [List.filter_cons_of_pos hgiven] at he
        cases hheard : e.isHeard with
        | false =>
            rw [List.filter_cons_of_neg (by simp [hheard])] at he
            exact ih ((denoise_next_noise hheard s).trans h) hg he
        | true =>
            rw [List.filter_cons_of_pos hheard] at he
            obtain ⟨noise, rest, rfl, hnoise, hrest⟩ := split_heard he.symm
            obtain ⟨events', hgiven', hrun⟩ := ih (next_after_noise h hgiven hheard hnoise)
              (fun e' hm => hg e' (List.mem_append_right noise (List.mem_cons_of_mem e hm)))
              hrest.symm
            refine ⟨noise ++ e :: events', ?_, ?_⟩
            · rw [List.filter_append, filter_given_of_noise hnoise,
                List.filter_cons_of_pos hgiven, hgiven']
            · rw [run_append]
              exact hrun

/-! ### Runs in which everything comes to rest -/

/-- The channel works until it has to wait. -/
def Settles (s u : Life) : Prop := ∃ k, s.run (List.replicate k .work) = u ∧ u.IsSettled

/-- A run of what happens to a channel, which works until it has to wait where `.work` stands. -/
inductive Plays : Life → List Event → Life → Prop where
  | nil (s : Life) : Plays s [] s
  | settle {s t u : Life} {events : List Event} (hs : Settles s t) (hp : Plays t events u) :
      Plays s (.work :: events) u
  | given {s u : Life} {e : Event} {events : List Event} (hg : e.isGiven = true)
      (hp : Plays (s.next e) events u) : Plays s (e :: events) u

theorem run_work_of_settled (h : s.IsSettled) (k : Nat) : s.run (List.replicate k .work) = s := by
  induction k with
  | zero => rfl
  | succ k ih =>
      have hnext : s.next .work = s := by
        rcases s.next_work with ⟨_, hn⟩ | ⟨m, hm, _⟩
        · exact hn
        · have hstep := (move_iff _ _ _).mp hm
          rw [IsSettled] at h
          simp [h] at hstep
      rw [List.replicate_succ, run_cons, hnext, ih]

theorem Settles.after {k : Nat} (h : Settles (s.run (List.replicate k .work)) u) :
    Settles s u := by
  obtain ⟨m, hm, hu⟩ := h
  refine ⟨k + m, ?_, hu⟩
  rw [← List.replicate_append_replicate, run_append, hm]

theorem Settles.unique (h : Settles s t) (h' : Settles s u) : t = u := by
  obtain ⟨k, rfl, ht⟩ := h
  obtain ⟨m, rfl, hu⟩ := h'
  rcases Nat.le_total k m with hle | hle
  · obtain ⟨d, rfl⟩ := Nat.exists_eq_add_of_le hle
    rw [← List.replicate_append_replicate, run_append, run_work_of_settled ht]
  · obtain ⟨d, rfl⟩ := Nat.exists_eq_add_of_le hle
    rw [← List.replicate_append_replicate, run_append, run_work_of_settled hu]

theorem Plays.unique {events : List Event} (h : Plays s events t) (h' : Plays s events u) :
    t = u := by
  induction h with
  | nil => cases h'; rfl
  | settle hs _ ih =>
      cases h' with
      | settle hs' hp' => exact ih (hs.unique hs' ▸ hp')
      | given hg => cases hg
  | given hg _ ih =>
      cases h' with
      | settle => cases hg
      | given _ hp' => exact ih hp'

theorem clear_of_settled (h : s.IsSettled) : s.channel.IsClear := by
  rintro ⟨n, l, text, inbox, hears⟩
  obtain ⟨line, hstep, _⟩ := hears.step s.now
  rw [IsSettled] at h
  simp [h] at hstep

/-- One life comes to rest if the other does, and then they show alike. -/
theorem exists_settles (h : s.denoise = s'.denoise) (hs : Settles s t) :
    ∃ t', Settles s' t' ∧ t.denoise = t'.denoise := by
  obtain ⟨k, rfl, ht⟩ := hs
  induction k generalizing s s' with
  | zero =>
      obtain ⟨m, hm, hclear⟩ := s'.exists_clear
      have hsame := h.trans hm.symm
      have hsettled := (next_of_clear hsame (clear_of_settled ht) hclear).1.mp ht
      exact ⟨_, ⟨m, rfl, hsettled⟩, hsame⟩
  | succ k ih =>
      rw [List.replicate_succ, run_cons] at ht ⊢
      obtain ⟨m, hnext⟩ := exists_work h
      obtain ⟨t', ht', hsame⟩ := ih hnext ht
      exact ⟨t', ht'.after, hsame⟩

theorem plays_noise {noise events : List Event} (hn : ∀ e ∈ noise, e.isHeard = false)
    (h : Plays (s.run noise) events u) : Plays s (noise ++ events) u := by
  induction noise generalizing s with
  | nil => exact h
  | cons e noise ih =>
      have hgiven := given_of_unheard (hn e List.mem_cons_self)
      exact .given hgiven (ih (fun e' he => hn e' (List.mem_cons_of_mem e he)) h)

/-- What is played in one life can be played in the other, with the other's noise. -/
theorem exists_plays {events events' : List Event} (h : s.denoise = s'.denoise)
    (he : events.filter (·.isHeard) = events'.filter (·.isHeard)) (hp : Plays s events t) :
    ∃ t', Plays s' events' t' ∧ t.denoise = t'.denoise := by
  induction hp generalizing s' events' with
  | nil s =>
      have hn : ∀ e ∈ events', e.isHeard = false := by simpa using he.symm
      have hplays := plays_noise hn (Plays.nil (s'.run events'))
      rw [List.append_nil] at hplays
      exact ⟨_, hplays, h.trans (run_noise hn s').symm⟩
  | @settle s t u events hs _ ih =>
      rw [List.filter_cons_of_pos rfl] at he
      obtain ⟨noise, rest, rfl, hnoise, hrest⟩ := split_heard he.symm
      obtain ⟨t', ht', hsame⟩ := exists_settles (h.trans (run_noise hnoise s').symm) hs
      obtain ⟨u', hu', hsame'⟩ := ih hsame hrest.symm
      exact ⟨u', plays_noise hnoise (.settle ht' hu'), hsame'⟩
  | @given s u e events hg _ ih =>
      cases hheard : e.isHeard with
      | false =>
          rw [List.filter_cons_of_neg (by simp [hheard])] at he
          exact ih ((denoise_next_noise hheard s).trans h) he
      | true =>
          rw [List.filter_cons_of_pos hheard] at he
          obtain ⟨noise, rest, rfl, hnoise, hrest⟩ := split_heard he.symm
          obtain ⟨u', hu', hsame'⟩ := ih (next_after_noise h hg hheard hnoise) hrest.symm
          exact ⟨u', plays_noise hnoise (.given hg hu'), hsame'⟩

/-! ### What shows -/

/-- Two lives show alike but for the log: what they have come to, how they answer, and what happened
when. -/
structure Alike (s s' : Life) : Prop where
  now_eq : s.now = s'.now
  state_eq : s.channel.state = s'.channel.state
  last_eq : s.channel.last = s'.channel.last
  received_eq : s.channel.received = s'.channel.received
  listener_eq : s.channel.listener = s'.channel.listener
  finished_eq : s.channel.isFinished = s'.channel.isFinished
  due_eq : s.channel.due = s'.channel.due
  answers : ∀ exercise submission, (s.channel.submit exercise submission).1 =
    (s'.channel.submit exercise submission).1
  history_eq : s.history.filter (·.2.isHeard) = s'.history.filter (·.2.isHeard)

theorem denoise_isFinished (c : Channel) : c.denoise.isFinished = c.isFinished := by
  rw [isFinished, isFinished, Channel.denoise]
  cases c.phase <;> rfl

theorem denoise_due (c : Channel) : c.denoise.due = c.due := by
  rw [due, due, Channel.denoise]
  cases c.phase with
  | connecting attempt start => cases attempt <;> rfl
  | fresh | pumping | closing | waiting | finished => rfl

theorem alike_of_denoise_eq (h : s.denoise = s'.denoise) : Alike s s' := by
  obtain ⟨hnow, hchannel, hhistory⟩ := (denoise_eq_iff s s').mp h
  have hsame {α : Type} (f : Channel → α) (hf : ∀ c : Channel, f c.denoise = f c) :
      f s.channel = f s'.channel := by
    rw [← hf s.channel, hchannel, hf]
  refine ⟨hnow, hsame (·.state) fun _ => rfl, hsame (·.last) fun _ => rfl,
    hsame (·.received) fun _ => rfl, hsame (·.listener) fun _ => rfl,
    hsame isFinished denoise_isFinished, hsame due denoise_due, ?_, hhistory⟩
  intro exercise submission
  refine hsame (fun c => (c.submit exercise submission).1) ?_
  intro c
  rw [denoise_submit]

/-- What two lives have in common that play the same but for noise. Each comes to rest wherever the
other does, and they show alike; and they do so, too, wherever the steps of either lie. -/
structure Invisible (s s' : Life) (events events' : List Event) : Prop where
  plays : ∀ u, Plays s events u → ∃ u', Plays s' events' u'
  alike : ∀ u u', Plays s events u → Plays s' events' u' → Alike u u'
  interleaved : ∀ run, run.filter (·.isGiven) = events.filter (·.isGiven) →
    ∃ run', run'.filter (·.isGiven) = events'.filter (·.isGiven) ∧ Alike (s.run run) (s'.run run')

/-- Noise is invisible: two channels whose servers send the same but for frames that are no results,
wherever those stand, show alike. -/
theorem noise_invisible (now : Nat) (url : String) (backoff : Backoff) (connectTimeout : Nat)
    (connector connector' : Connector) (hc : connector.denoise = connector'.denoise)
    (events events' : List Event)
    (he : events.filter (·.isHeard) = events'.filter (·.isHeard)) :
    Invisible (ofChannel now (connect url connector backoff connectTimeout))
      (ofChannel now (connect url connector' backoff connectTimeout)) events events' := by
  have h : (ofChannel now (connect url connector backoff connectTimeout)).denoise =
      (ofChannel now (connect url connector' backoff connectTimeout)).denoise := by
    simp [denoise, ofChannel, Channel.denoise, connect, hc]
  refine ⟨?_, ?_, ?_⟩
  · intro u hu
    obtain ⟨u', hu', _⟩ := exists_plays h he hu
    exact ⟨u', hu'⟩
  · intro u u' hu hu'
    obtain ⟨t, ht, hsame⟩ := exists_plays h he hu
    exact ht.unique hu' ▸ alike_of_denoise_eq hsame
  · intro run hrun
    have hgiven : ∀ e ∈ events'.filter (·.isGiven), e.isGiven = true :=
      fun e hm => (List.mem_filter.mp hm).2
    have hcomm (l : List Event) : (l.filter (·.isGiven)).filter (·.isHeard) =
        (l.filter (·.isHeard)).filter (·.isGiven) := by
      simp only [List.filter_filter, Bool.and_comm]
    have hheard : (run.filter (·.isGiven)).filter (·.isHeard) =
        (events'.filter (·.isGiven)).filter (·.isHeard) := by
      rw [hrun, hcomm, he, hcomm]
    obtain ⟨run', hrun', hsame⟩ := exists_run h hgiven hheard
    exact ⟨run', hrun', alike_of_denoise_eq hsame⟩

/-- A line greets with noise around a result, and more of it comes before and after a submission. -/
theorem noise_invisible_around_result :
    let result : Inbound := .text "\x7b\"job_id\":\"j\",\"passed\":true,\"exit_code\":0\x7d"
    let connector : Connector := ⟨[.answered 0
      (.accepted [] { Line.plain with inbox := [.text "hello", result, .text "[]"] })], .unanswered⟩
    let connector' : Connector :=
      ⟨[.answered 0 (.accepted [] { Line.plain with inbox := [result] })], .unanswered⟩
    let events : List Event := [.listen (some "l"), .work, .serve none (.deliver (.text "null")),
      .work, .submit "e" (.ok .null), .serve none (.deliver (.text "?")), .work]
    let events' : List Event :=
      [.listen (some "l"), .work, .work, .submit "e" (.ok .null), .work]
    let start := ofChannel 0 (connect "" connector .standard 10000)
    let start' := ofChannel 0 (connect "" connector' .standard 10000)
    connector.denoise = connector'.denoise ∧
      events.filter (·.isHeard) = events'.filter (·.isHeard) ∧
      ∃ u u', Plays start events u ∧ Plays start' events' u' ∧
        u.channel.last.map (·.jobId) = some "j" ∧ Alike u u' := by
  intro result connector connector' events events' start start'
  have hc : connector.denoise = connector'.denoise := by decide +kernel
  have hnull : Frame.isNoise "null" = true := by decide +kernel
  have hmark : Frame.isNoise "?" = true := by decide +kernel
  have he : events.filter (·.isHeard) = events'.filter (·.isHeard) := by
    simp [events, events', Event.isHeard, ServerAction.isHeard, Inbound.isHeard, hnull, hmark]
  have hu : Plays start events _ :=
    .given rfl (.settle ⟨5, rfl, by decide +kernel⟩ (.given rfl (.settle ⟨1, rfl, by decide +kernel⟩
      (.given rfl (.given rfl (.settle ⟨2, rfl, by decide +kernel⟩ (.nil _)))))))
  have hu' : Plays start' events' _ :=
    .given rfl (.settle ⟨3, rfl, by decide +kernel⟩ (.settle ⟨0, rfl, by decide +kernel⟩
      (.given rfl (.settle ⟨1, rfl, by decide +kernel⟩ (.nil _)))))
  have hinvisible := noise_invisible 0 "" .standard 10000 connector connector' hc events events' he
  exact ⟨hc, he, _, _, hu, hu', by decide +kernel, hinvisible.alike _ _ hu hu'⟩

end Life

end ExerciseClient
