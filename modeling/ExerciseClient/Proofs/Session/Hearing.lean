import ExerciseClient.Proofs.Session.Reporting

/-! How a run that returns a result came to it. A run begins at one place of a life, in one of its
turns; there a channel that stands takes its submission, and behind this place a text comes in that
is the result. -/

namespace ExerciseClient

/-- A channel that takes a submission stands. -/
theorem Channel.Coherent.isConnected_of_submit {c : Channel} (h : Coherent c) {exercise : String}
    {v : Except String Json.Value} (ha : (c.submit exercise v).1 = .ok ()) :
    c.isConnected = true := by
  rcases submit_cases c exercise v with ⟨n, frames, _, _, _, hphase, _⟩ | ⟨e, he, _⟩
  · have hshows := h.shows
    rw [hphase] at hshows
    have hstate : c.state = .opened := hshows
    simp [isConnected, hstate]
  · cases ha.symm.trans he

namespace SessionLife

open Session

theorem coherent_next {l : SessionLife} (h : l.session.channel.Coherent) (e : Event) :
    (l.next e).session.channel.Coherent := by
  cases e with
  | channel e => exact Channel.Coherent.next (s := Life.ofChannel l.now l.session.channel) h e
  | saver | start | cancel => exact h
  | poll number =>
      rcases l.session.turn_channel l.now (.run number) with ⟨_, hp⟩ | hc | ⟨exercise, v, hc⟩
      · cases hp
      · exact hc ▸ h
      · exact hc ▸ h.submit exercise v

theorem coherent_run {l : SessionLife} (h : l.session.channel.Coherent) (events : List Event) :
    (l.run events).session.channel.Coherent := by
  induction events generalizing l with
  | nil => exact h
  | cons e events ih => exact ih (coherent_next h e)

/-- A history only grows. -/
theorem history_run (l : SessionLife) (events : List Event) :
    ∃ since, (l.run events).history = l.history ++ since := by
  induction events generalizing l with
  | nil => exact ⟨[], (List.append_nil _).symm⟩
  | cons e events ih =>
      obtain ⟨since, hsince⟩ := ih (l.next e)
      obtain ⟨deeds, hdeeds⟩ : ∃ deeds, (l.next e).history = l.history ++ deeds := by
        cases e <;> exact ⟨_, rfl⟩
      exact ⟨deeds ++ since, by rw [run_cons, hsince, hdeeds, List.append_assoc]⟩

/-! ### The place at which a run begins -/

variable {l : SessionLife} {number : Nat}

/-- A turn in which a run begins. -/
structure Begins (l : SessionLife) (number : Nat) (submission : Submission) : Prop where
  fresh : l.session.runs[number]? = some ⟨submission, .fresh⟩
  history_eq : (l.next (.poll number)).history = l.history ++
    (l.session.beginning number submission ++
      (l.next (.poll number)).session.ending number).map fun d => (l.now, d)

/-- What comes behind the beginning of a run: its end, if it has come at once, and all that
follows. -/
theorem Begins.split {submission : Submission} (h : l.Begins number submission)
    (behind : History) : ∃ before, (l.next (.poll number)).history ++ behind =
      before ++ (l.now, .begun number submission (l.session.answer submission)) ::
        ((((l.next (.poll number)).session.ending number).map fun d => (l.now, d)) ++ behind) := by
  refine ⟨l.history ++ [(l.now, .saver (.updated submission)),
    (l.now, .channel (.submitted l.session.channel.slot l.session.exercise
      (.ok submission.toJson) (l.session.answer submission)))], ?_⟩
  simp [h.history_eq, beginning]

/-- No event but its turn lets a run begin. -/
theorem notBegun_next {e : Event} (hn : NotBegun l.history number)
    (hb : ¬ NotBegun (l.next e).history number) :
    e = .poll number ∧ ∃ submission, l.Begins number submission := by
  have hdeeds {deeds : List Deed} (hq : ∀ d ∈ deeds, d.begins? ≠ some number) :
      NotBegun (l.history ++ deeds.map fun d => (l.now, d)) number := by
    refine hn.append fun m hm => ?_
    obtain ⟨d, hd, rfl⟩ := List.mem_map.mp hm
    exact hq d hd
  cases e with
  | channel e => exact absurd (hdeeds (by simp)) hb
  | saver e => exact absurd (hdeeds (by simp)) hb
  | start submission => exact absurd (hdeeds (by simp)) hb
  | cancel => exact absurd (hdeeds (by simp)) hb
  | poll other =>
      let after := (l.session.turn l.now (.run other)).session
      have hending : ∀ d ∈ after.ending other, d.begins? ≠ some number := by simp [ending]
      cases hr : l.session.runs[other]? with
      | none => exact absurd (hdeeds (by simp [shown, hr])) hb
      | some run =>
          cases hf : run.phase with
          | fresh =>
              have hshown : l.session.shown other after =
                  l.session.beginning other run.submission ++ after.ending other := by
                simp [shown, hr, hf]
              have hhistory : (l.next (.poll other)).history = l.history ++
                  (l.session.beginning other run.submission ++ after.ending other).map
                    fun d => (l.now, d) := by
                rw [← hshown]
                rfl
              by_cases ho : other = number
              · subst ho
                obtain ⟨submission, phase⟩ := run
                obtain rfl : phase = .fresh := hf
                exact ⟨rfl, submission, hr, hhistory⟩
              · refine absurd ?_ hb
                rw [hhistory]
                refine hdeeds fun d hd => ?_
                rcases List.mem_append.mp hd with hd | hd
                · simp only [beginning, List.mem_cons, List.not_mem_nil, or_false] at hd
                  rcases hd with rfl | rfl | rfl <;> simp [ho]
                · exact hending d hd
          | waiting seen deadline =>
              have hshown : l.session.shown other after = after.ending other := by
                simp [shown, hr, hf]
              exact absurd (hdeeds (hshown ▸ hending)) hb
          | ended | cancelled => exact absurd (hdeeds (by simp [shown, hr, hf])) hb

theorem exists_begins {events : List Event} (hn : NotBegun l.history number)
    (hb : ¬ NotBegun (l.run events).history number) : ∃ sooner later submission,
      events = sooner ++ .poll number :: later ∧ (l.run sooner).Begins number submission := by
  induction events generalizing l with
  | nil => exact absurd hn hb
  | cons e events ih =>
      by_cases h : NotBegun (l.next e).history number
      · obtain ⟨sooner, later, submission, rfl, hbegins⟩ := ih h hb
        exact ⟨e :: sooner, later, submission, rfl, hbegins⟩
      · obtain ⟨rfl, submission, hbegins⟩ := notBegun_next hn h
        exact ⟨[], events, submission, rfl, hbegins⟩

end SessionLife

namespace Session

open SessionLife

/-- A run begins at a place of a life, where a channel that stands takes its submission, and what
follows this place brings a text that is a result. -/
structure Hears (place : SessionLife) (since : History) (number : Nat) (submission : Submission)
    (r : RunResult) : Prop where
  fresh : place.session.runs[number]? = some ⟨submission, .fresh⟩
  connected : place.session.channel.isConnected = true
  taken : place.session.answer submission = .ok ()
  text : ∃ t line text, (t, .channel (.did (.dispatched line text))) ∈ since ∧
    Frame.classify text = .result r

theorem dispatched_of_result {d : Deed} {r : RunResult} (h : d.result? = some r) :
    ∃ line text, d = .channel (.did (.dispatched line text)) ∧
      Frame.classify text = .result r := by
  obtain ⟨c, hc, hresult⟩ := Option.bind_eq_some_iff.mp h
  obtain ⟨⟨line, text⟩, hm, hframe⟩ := Option.bind_eq_some_iff.mp hresult
  obtain rfl : d = .channel c := by cases d <;> simp_all
  obtain rfl : c = .did (.dispatched line text) := by
    rcases c with e | _ | _ | _
    · cases e <;> simp_all [Channel.Deed.dispatched?, ChannelEffect.dispatched?]
    all_goals cases hm
  refine ⟨line, text, rfl, ?_⟩
  simp only at hframe
  generalize Frame.classify text = frame at hframe
  cases frame with
  | result r' => exact congrArg Frame.result (Option.some.inj hframe)
  | ignored | malformed => cases hframe

variable {forward punctual : Prop} {past : Channel.History} {exercise : String} {seconds : Nat}
  {s start : SessionLife} {events : List Event} {number : Nat} {run : Run} {o : RunOutcome}

/-- A run that returns a result began once, with a channel that took it, and the result was read
since. -/
theorem Accounts.result_since (h : Accounts forward punctual past exercise seconds s)
    (hr : s.session.runs[number]? = some run) (ho : run.phase = .ended (.ok o)) :
    o = .ofResult o.result ∧ ∃ before t submission since,
      Began s.history number before t submission (.ok ()) since ∧
        ∃ m ∈ since, m.2.result? = some o.result := by
  have hfits := h.fits number run hr
  rw [ho] at hfits
  cases hfits with
  | @ended t' _ hm =>
      obtain ⟨earlier, later, hend⟩ := List.append_of_mem hm
      cases h.returns _ _ _ _ _ hend with
      | @result before t submission since r hb hlast ht =>
          have hsplit : s.history = before ++ (t, .begun number submission (.ok ())) ::
              (since ++ (t', .ended number (.ok (.ofResult r))) :: later) := by
            rw [hend, hb.split, List.append_assoc, List.cons_append]
          obtain ⟨m, hm, hresult⟩ := List.mem_filterMap.mp (List.mem_of_getLast? hlast)
          exact ⟨rfl, before, t, submission, _, began_of_nodup h.once hsplit, m,
            List.mem_append_left _ hm, hresult⟩

/-- A run that returns a result has heard it. -/
theorem Accounts.hears
    (h : Accounts forward punctual past exercise seconds (start.run events))
    (hstart : NotBegun start.history number) (hc : start.session.channel.Coherent)
    (hr : (start.run events).session.runs[number]? = some run) (ho : run.phase = .ended (.ok o)) :
    o = .ofResult o.result ∧ ∃ sooner later since submission,
      events = sooner ++ .poll number :: later ∧
      (start.run events).history = ((start.run sooner).next (.poll number)).history ++ since ∧
      Hears (start.run sooner) since number submission o.result := by
  obtain ⟨ho, before, t, submission, since, hbegan, m, hm, hresult⟩ := h.result_since hr ho
  have hsome : ¬ NotBegun (start.run events).history number := fun hn =>
    hn (t, .begun number submission (.ok ())) (by simp [hbegan.split]) rfl
  obtain ⟨sooner, later, submission', rfl, hbegins⟩ := exists_begins hstart hsome
  obtain ⟨behind, hbehind⟩ := history_run ((start.run sooner).next (.poll number)) later
  have hplace : (start.run (sooner ++ .poll number :: later)).history =
      ((start.run sooner).next (.poll number)).history ++ behind := by
    rw [run_append, run_cons, hbehind]
  -- There is one place only at which the run began.
  obtain ⟨before', hbefore⟩ := hbegins.split behind
  obtain ⟨-, -, hanswer, hsince⟩ := hbegan.unique (hplace.trans hbefore)
  refine ⟨ho, sooner, later, behind, submission', rfl, hplace, hbegins.fresh,
    (coherent_run hc sooner).isConnected_of_submit hanswer, hanswer, ?_⟩
  obtain ⟨line, text, hd, hclass⟩ := dispatched_of_result hresult
  refine ⟨m.1, line, text, ?_, hclass⟩
  rcases List.mem_append.mp (hsince ▸ hm) with hm | hm
  · obtain ⟨d, hends, rfl⟩ := List.mem_map.mp hm
    obtain ⟨outcome, -, rfl⟩ := List.mem_map.mp hends
    cases hd
  · rwa [← hd]

end Session

end ExerciseClient
