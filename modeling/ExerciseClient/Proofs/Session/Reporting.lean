import ExerciseClient.Proofs.Session.Freshness
import ExerciseClient.Proofs.Session.Returning

/-! A run never reports a stale result. What the channel did before the session, what the server
sends and what is lost may fall anywhere between the turns of a run. -/

namespace ExerciseClient

namespace Session

section

variable {forward punctual : Prop} {past : Channel.History} {exercise : String} {seconds : Nat}
  {s : SessionLife}

/-- What has become of a run since the channel took it. -/
inductive Fate (punctual : Prop) (exercise : String) (seconds : Nat) (c : Channel) (number t : Nat)
    (since : History) : RunPhase → Prop where
  | waits {seen} (hs : c.received = seen + since.results.length) :
      Fate punctual exercise seconds c number t since (.waiting seen (t + seconds * 1000))
  | reported {earlier : History} {t' r} {later : History}
      (hs : since = earlier ++ (t', .ended number (.ok (.ofResult r))) :: later)
      (hr : earlier.results.getLast? = some r)
      (ht : punctual → t' ≤ t + seconds * 1000) :
      Fate punctual exercise seconds c number t since (.ended (.ok (.ofResult r)))
  | expired {earlier : History} {t'} {later : History}
      (hs : since = earlier ++
        (t', .ended number (.error (.resultTimeout exercise seconds))) :: later)
      (hr : earlier.results = []) (hd : t + seconds * 1000 ≤ t') :
      Fate punctual exercise seconds c number t since
        (.ended (.error (.resultTimeout exercise seconds)))
  | cancelled {t'} (hm : (t', .cancelled) ∈ since) :
      Fate punctual exercise seconds c number t since .cancelled

theorem Accounts.fate (h : Accounts forward punctual past exercise seconds s)
    {before since : History} {number t : Nat} {submission : Submission}
    (hs : s.history = before ++ (t, .begun number submission (.ok ())) :: since) :
    ∃ run, s.session.runs[number]? = some run ∧
      Fate punctual exercise seconds s.session.channel number t since run.phase := by
  have hbegan := began_of_nodup h.once hs
  have hmem : (t, .begun number submission (.ok ())) ∈ s.history := by simp [hs]
  have hlt : number < s.session.runs.length :=
    Nat.lt_of_not_le fun hle => h.bounded number hle _ hmem rfl
  refine ⟨s.session.runs[number], List.getElem?_eq_getElem hlt, ?_⟩
  have hfits := h.fits number _ (List.getElem?_eq_getElem hlt)
  generalize s.session.runs[number].phase = phase at hfits
  cases hfits with
  | fresh hn => exact absurd rfl (hn _ hmem)
  | waiting hb hseen hdeadline _ =>
      obtain ⟨rfl, rfl, _, rfl⟩ := hbegan.unique hb.split
      subst hdeadline
      refine .waits ?_
      rw [hseen]
      exact hb.received_eq h
  | @ended t' outcome hm =>
      obtain ⟨earlier, later, hend⟩ := List.append_of_mem hm
      -- A run ends after it began, and there is one place only at which it did.
      have hplace {before' since' : History} {t'' : Nat} {submission' : Submission}
          {answer : Except SubmitError Unit}
          (hb : Began earlier number before' t'' submission' answer since') :
          before' = before ∧ t'' = t ∧ answer = .ok () ∧
            since' ++ (t', .ended number outcome) :: later = since := by
        apply hbegan.unique
        rw [hend, hb.split, List.append_assoc, List.cons_append]
      cases h.returns _ _ _ _ _ hend with
      | rejected hb =>
          obtain ⟨_, _, hanswer, _⟩ := hplace hb
          cases hanswer
      | result hb hr ht =>
          obtain ⟨_, rfl, _, hsince⟩ := hplace hb
          exact .reported hsince.symm hr fun hpunctual => (ht hpunctual).1
      | timeout hb hr hd ht =>
          obtain ⟨_, rfl, _, hsince⟩ := hplace hb
          exact .expired hsince.symm hr hd
  | @cancelled earlier t' later hc hn =>
      rcases split_append (hs.symm.trans hc) with ⟨rest, _, hlater⟩ | ⟨rest, _, hrest⟩
      · exact absurd rfl (hn (t, .begun number submission (.ok ())) (by simp [hlater]))
      · cases rest with
        | nil => cases (List.cons.inj hrest).1
        | cons m rest =>
            obtain ⟨_, rfl⟩ := List.cons.inj hrest
            have hm : (t', .cancelled) ∈ rest ++ (t', .cancelled) :: later := by simp
            exact .cancelled hm

/-- A history in order, told by what stands behind a place in it. -/
theorem Accounts.le_of_mem (h : Accounts forward punctual past exercise seconds s) (hf : forward)
    {before since : History} {m m' : Nat × Deed} (hs : s.history = before ++ m :: since)
    (hm : m' ∈ since) : m.1 ≤ m'.1 := by
  have hordered := (h.ordered hf).1
  rw [hs, List.pairwise_append, List.pairwise_cons] at hordered
  exact hordered.2.1.1 m' hm

/-- While everyone waits, a run that waits has nothing to report and has time left. -/
theorem waits_of_settled (h : s.IsSettled) {run : Run} {number seen deadline : Nat}
    (hr : s.session.runs[number]? = some run) (hp : run.phase = .waiting seen deadline) :
    s.session.channel.received ≤ seen ∧ s.now < deadline := by
  have hrest := h.runs run (List.mem_of_getElem? hr)
  rw [hp] at hrest
  exact Channel.waitEnd?_eq_none_iff.mp hrest

/-- With a result before its deadline a run has reported one, or has word of it. -/
theorem Accounts.answered (h : Accounts forward punctual past exercise seconds s) (hf : forward)
    {before since : History} {number t : Nat} {submission : Submission}
    (hs : s.history = before ++ (t, .begun number submission (.ok ())) :: since)
    {m : Nat × Deed} (hm : m ∈ since) (hresult : m.2.result? ≠ none)
    (hlt : m.1 < t + seconds * 1000) : (∃ t', (t', .cancelled) ∈ since) ∨
      ∃ run, s.session.runs[number]? = some run ∧ ((∃ o, run.phase = .ended (.ok o)) ∨
        ∃ seen deadline, run.phase = .waiting seen deadline ∧
          seen < s.session.channel.received) := by
  obtain ⟨run, hr, hfate⟩ := h.fate hs
  generalize hp : run.phase = phase at hfate
  cases hfate with
  | @waits seen hreceived =>
      refine .inr ⟨run, hr, .inr ⟨seen, _, hp, ?_⟩⟩
      have hsome : since.results ≠ [] := fun hnone =>
        hresult (List.filterMap_eq_nil_iff.mp hnone m hm)
      have hpos := List.length_pos_iff.mpr hsome
      omega
  | reported => exact .inr ⟨run, hr, .inl ⟨_, hp⟩⟩
  | @expired earlier t' later hsince hnone hd =>
      rw [hsince] at hm
      rcases List.mem_append.mp hm with hm | hm
      · exact absurd (List.filterMap_eq_nil_iff.mp hnone m hm) hresult
      · rcases List.mem_cons.mp hm with rfl | hm
        · exact absurd rfl hresult
        · -- What comes after the end comes after the deadline.
          have hplace : s.history = (before ++ (t, .begun number submission (.ok ())) :: earlier) ++
              (t', .ended number (.error (.resultTimeout exercise seconds))) :: later := by
            rw [hs, hsince, List.append_assoc, List.cons_append]
          have hle := h.le_of_mem hf hplace hm
          exact absurd hlt (Nat.not_lt.mpr (Nat.le_trans hd hle))
  | cancelled hm => exact .inl ⟨_, hm⟩

/-- Without a result in time a run gives up. -/
theorem Accounts.expired (h : Accounts forward punctual past exercise seconds s)
    (hpunctual : punctual) (hw : s.IsSettled) {before since : History} {number t : Nat}
    {submission : Submission}
    (hs : s.history = before ++ (t, .begun number submission (.ok ())) :: since)
    (hnone : ∀ m ∈ since, m.2.result? ≠ none → t + seconds * 1000 < m.1)
    (hle : t + seconds * 1000 ≤ s.now) : (∃ t', (t', .cancelled) ∈ since) ∨
      ∃ run, s.session.runs[number]? = some run ∧
        run.phase = .ended (.error (.resultTimeout exercise seconds)) := by
  obtain ⟨run, hr, hfate⟩ := h.fate hs
  generalize hp : run.phase = phase at hfate
  cases hfate with
  | waits hreceived => exact absurd (waits_of_settled hw hr hp).2 (Nat.not_lt.mpr hle)
  | @reported earlier t' r later hsince hlast ht =>
      obtain ⟨m, hm, hresult⟩ := List.mem_filterMap.mp (List.mem_of_getLast? hlast)
      -- What the run reports was read before its deadline.
      have hlate := hnone m (by simp [hsince, hm]) (by simp [hresult])
      obtain ⟨front, back, rfl⟩ := List.append_of_mem hm
      have hplace : s.history = (before ++ (t, .begun number submission (.ok ())) :: front) ++
          m :: (back ++ (t', .ended number (.ok (.ofResult r))) :: later) := by
        simp [hs, hsince]
      have hle' := h.le_of_mem (h.forward_of hpunctual) hplace
        (List.mem_append_right back List.mem_cons_self)
      exact absurd (Nat.le_trans hle' (ht hpunctual)) (Nat.not_le.mpr hlate)
  | expired => exact .inr ⟨run, hr, hp⟩
  | cancelled hm => exact .inl ⟨_, hm⟩

theorem Check.ok {now seen deadline : Nat} {s : Session} {o : RunOutcome}
    (h : Check now seen deadline s (.ended (.ok o))) :
    s.channel.last = some o.result ∧ o = .ofResult o.result := by
  cases h with
  | result hw => exact ⟨(Channel.waitEnd?_eq_result_iff.mp hw).2, rfl⟩

/-- A run that returns a result returns the newest one. -/
theorem Poll.current {now number : Nat} {s session : Session} {deeds : List Deed} {run : Run}
    {o : RunOutcome} (h : Poll now number s session deeds)
    (hr : session.runs[number]? = some run) (ho : run.phase = .ended (.ok o))
    (hn : ∀ run, s.runs[number]? = some run → run.phase ≠ .ended (.ok o)) :
    s.channel.last = some o.result ∧ session.channel.last = some o.result ∧
      o = .ofResult o.result := by
  cases h with
  | idle hi => exact absurd ho (hn run hr)
  | @rejected run' e hr' hf ha =>
      have hlt : number < s.runs.length := (List.getElem?_eq_some_iff.mp hr').1
      rw [runs_setRun (s := s.edit run'.submission) hlt] at hr
      obtain rfl := Option.some.inj hr
      cases ho
  | @accepted run' phase hr' hf ha hc =>
      have hlt : number < s.runs.length := (List.getElem?_eq_some_iff.mp hr').1
      rw [runs_setRun (s := s.submitted run'.submission) hlt] at hr
      obtain rfl := Option.some.inj hr
      obtain rfl : phase = _ := ho
      obtain ⟨hlast, ho⟩ := hc.ok
      exact ⟨hlast, (received_submit ..).2.trans hlast, ho⟩
  | @checked run' seen deadline phase hr' hw hc =>
      have hlt : number < s.runs.length := (List.getElem?_eq_some_iff.mp hr').1
      rw [runs_setRun hlt] at hr
      obtain rfl := Option.some.inj hr
      obtain rfl : phase = _ := ho
      obtain ⟨hlast, ho⟩ := hc.ok
      exact ⟨hlast, hlast, ho⟩

/-- A turn ends a run that has word of a result, and leaves alone one that has ended. -/
theorem Poll.ends {now number : Nat} {s session : Session} {deeds : List Deed} {run : Run}
    (h : Poll now number s session deeds) (hr : s.runs[number]? = some run)
    (hp : (∃ o, run.phase = .ended (.ok o)) ∨
      ∃ seen deadline, run.phase = .waiting seen deadline ∧ seen < s.channel.received) :
    ∃ run o, session.runs[number]? = some run ∧ run.phase = .ended (.ok o) := by
  have hbegun : run.phase ≠ .fresh := by
    rcases hp with ⟨o, hp⟩ | ⟨seen, deadline, hp, _⟩ <;> rw [hp] <;> exact RunPhase.noConfusion
  cases h with
  | idle hi =>
      rcases hp with ⟨o, hp⟩ | ⟨seen, deadline, hp, _⟩
      · exact ⟨run, o, hr, hp⟩
      · exact absurd hp ((hi run hr).2 seen deadline)
  | rejected hr' hf | accepted hr' hf =>
      obtain rfl := Option.some.inj (hr.symm.trans hr')
      exact absurd hf hbegun
  | @checked run' seen deadline phase hr' hw hc =>
      obtain rfl := Option.some.inj (hr.symm.trans hr')
      have hlt : number < s.runs.length := (List.getElem?_eq_some_iff.mp hr).1
      rcases hp with ⟨o, hp⟩ | ⟨seen', deadline', hp, hseen⟩
      · cases hw.symm.trans hp
      · obtain ⟨rfl, rfl⟩ := RunPhase.waiting.inj (hw.symm.trans hp)
        cases hc with
        | @result r hw => exact ⟨_, .ofResult r, runs_setRun hlt run _, rfl⟩
        | timeout hw =>
            exact absurd hseen (Nat.not_lt.mpr (Channel.waitEnd?_eq_timeout_iff.mp hw).1)
        | waits hw => exact absurd hseen (Nat.not_lt.mpr (Channel.waitEnd?_eq_none_iff.mp hw).1)

/-- How a run begins: its submission is the draft before the channel gets it, and if the channel
refuses it the run has ended. -/
theorem Poll.begins {now number : Nat} {s session : Session} {deeds : List Deed} {run : Run}
    (h : Poll now number s session deeds) (hr : s.runs[number]? = some run)
    (hf : run.phase = .fresh) : session.draft = some run.submission ∧
      ∃ later, deeds = s.beginning number run.submission ++ later ∧
        ∀ e, s.answer run.submission = .error e →
          later = [.ended number (.error (.submit e))] := by
  cases h with
  | idle hi => exact absurd hf (hi run hr).1
  | @rejected run' e hr' _ ha =>
      obtain rfl := Option.some.inj (hr.symm.trans hr')
      refine ⟨rfl, _, rfl, ?_⟩
      intro e' he
      obtain rfl := Except.error.inj (ha.symm.trans he)
      rfl
  | @accepted run' phase hr' _ ha _ =>
      obtain rfl := Option.some.inj (hr.symm.trans hr')
      refine ⟨rfl, _, rfl, ?_⟩
      intro e he
      cases ha.symm.trans he
  | checked hr' hw _ =>
      obtain rfl := Option.some.inj (hr.symm.trans hr')
      cases hf.symm.trans hw

theorem accounts_start {l : Life} (h : Channel.Reported l) (config : Config) (store : Store)
    (exercise : String) (kind : ExerciseKind) (saved : Option Submission)
    (hforward : punctual → forward) :
    Accounts forward punctual l.history exercise config.resultTimeoutSecs
      ⟨l.now, start config l.channel store exercise kind saved, []⟩ := by
  refine ⟨rfl, rfl, ?_, ?_, ?_, List.nodup_nil, ?_, ?_, hforward⟩
  · exact (List.append_nil l.history).symm ▸ h
  · intro number run hr
    cases hr
  · intro number _ m hm
    cases hm
  · intro earlier t number outcome later hs
    cases earlier <;> cases hs
  · intro _
    exact ⟨.nil, by simp⟩

end

/-- What a session makes of its runs, told from its history and what its channel did before. -/
structure Reporting (forward punctual : Prop) (past : Channel.History) (exercise : String)
    (seconds : Nat) (s : SessionLife) : Prop where
  last_eq : s.session.channel.last = (past.results ++ s.history.results).getLast?
  turns : ∀ number, ∃ session deeds, Poll s.now number s.session session deeds ∧
    s.next (.poll number) = s.record session deeds
  /-- A run that looks for a result finds one, or its deadline, or has to wait. -/
  not_closed : ∀ seen deadline,
    s.session.channel.waitEnd? s.now seen deadline ≠ some .channelClosed
  begins : ∀ number run, s.session.runs[number]? = some run → run.phase = .fresh →
    (s.next (.poll number)).session.draft = some run.submission ∧ ∃ later,
      (s.next (.poll number)).history = s.history ++
        (s.session.beginning number run.submission ++ later).map (fun d => (s.now, d)) ∧
      ∀ e, s.session.answer run.submission = .error e →
        later = [.ended number (.error (.submit e))]
  once : s.history.begins.Nodup
  returns : ∀ earlier t number outcome later,
    s.history = earlier ++ (t, .ended number outcome) :: later →
    Returns punctual exercise seconds earlier t number outcome
  current : ∀ number run o, (s.next (.poll number)).session.runs[number]? = some run →
    run.phase = .ended (.ok o) →
    (∀ run, s.session.runs[number]? = some run → run.phase ≠ .ended (.ok o)) →
    s.session.channel.last = some o.result ∧
      (s.next (.poll number)).session.channel.last = some o.result ∧ o = .ofResult o.result
  /-- With a result in time a run returns one in its next turn at the latest, however late that is;
  while everyone waits it has had that turn. -/
  answered : forward → ∀ before t number submission since,
    s.history = before ++ (t, .begun number submission (.ok ())) :: since →
    ∀ m ∈ since, m.2.result? ≠ none → m.1 < t + seconds * 1000 →
    (∃ t', (t', .cancelled) ∈ since) ∨
      (∃ run o, (s.next (.poll number)).session.runs[number]? = some run ∧
        run.phase = .ended (.ok o)) ∧
      (s.IsSettled → ∃ run o, s.session.runs[number]? = some run ∧ run.phase = .ended (.ok o))
  expired : punctual → s.IsSettled → ∀ before t number submission since,
    s.history = before ++ (t, .begun number submission (.ok ())) :: since →
    (∀ m ∈ since, m.2.result? ≠ none → t + seconds * 1000 < m.1) → t + seconds * 1000 ≤ s.now →
    (∃ t', (t', .cancelled) ∈ since) ∨ ∃ run, s.session.runs[number]? = some run ∧
      run.phase = .ended (.error (.resultTimeout exercise seconds))
  /-- Whoever starts a run and waits for it sees it end, after nothing but events of the session. -/
  awaited : ∀ (stage : Stage) (submission : Submission), stage.now = s.now →
    stage.session = s.session →
    let number := s.session.runs.length
    let after := (stage.startRun submission).2.await (.run number) (App.runEnded number) 1
    after.Ended number ∧ after.Lives (s.next (.start submission))

/-- A run reports a result that was read since it was taken, the newest one, or that there was
none in time. -/
theorem runs_report_fresh_results (now : Nat) (url : String) (connector : Connector)
    (backoff : Backoff) (connectTimeout : Nat) (earlier : List Channel.Event) (config : Config)
    (store : Store) (exercise : String) (kind : ExerciseKind) (saved : Option Submission)
    (events : List Event) :
    let life := (Life.ofChannel now (.connect url connector backoff connectTimeout)).run earlier
    let start : SessionLife :=
      ⟨life.now, .start config life.channel store exercise kind saved, []⟩
    Reporting (start.Forward events) (start.Punctual events) life.history exercise
      config.resultTimeoutSecs (start.run events) := by
  intro life start
  have hreported : Channel.Reported life :=
    (Channel.reported_connect now url connector backoff connectTimeout).run earlier
  have hstart : Accounts (start.Forward events) (start.Punctual events) life.history exercise
      config.resultTimeoutSecs start :=
    accounts_start hreported config store exercise kind saved SessionLife.Punctual.forward
  have h : Accounts (start.Forward events) (start.Punctual events) life.history exercise
      config.resultTimeoutSecs (start.run events) := hstart.run id id
  have hpoll (number : Nat) := SessionLife.next_poll number h.not_closed
  refine ⟨h.last_eq, hpoll, h.not_closed, ?_, h.once, h.returns, ?_, ?_, ?_, ?_⟩
  · intro number run hr hf
    obtain ⟨session, deeds, hpoll, he⟩ := hpoll number
    obtain ⟨hdraft, later, rfl, hrejected⟩ := hpoll.begins hr hf
    rw [he]
    exact ⟨hdraft, later, rfl, hrejected⟩
  · intro number run o hr ho hn
    obtain ⟨session, deeds, hpoll, he⟩ := hpoll number
    rw [he] at hr ⊢
    exact hpoll.current hr ho hn
  · intro hforward before t number submission since hs m hm hresult hlt
    rcases h.answered hforward hs hm hresult hlt with hcancelled | ⟨run, hr, hp⟩
    · exact .inl hcancelled
    · obtain ⟨session, deeds, hpoll, he⟩ := hpoll number
      refine .inr ⟨?_, ?_⟩
      · rw [he]
        exact hpoll.ends hr hp
      · intro hw
        rcases hp with ⟨o, hp⟩ | ⟨seen, deadline, hp, hseen⟩
        · exact ⟨run, o, hr, hp⟩
        · exact absurd hseen (Nat.not_lt.mpr (waits_of_settled hw hr hp).1)
  · intro hpunctual hw before t number submission since hs hnone hle
    exact h.expired hpunctual hw hs hnone hle
  · intro stage submission hnow hsession
    have hlives : Stage.Lives ((start.run events).next (.start submission))
        (stage.startRun submission).2 := by
      refine ⟨[], by simp, ?_, ?_⟩
      · rw [Stage.startRun, Stage.call_now]
        exact hnow.symm
      · rw [Stage.startRun, Stage.call_session, hsession]
        rfl
    rw [← hsession]
    exact ⟨stage.ended_startRun submission, (Stage.steady_lives _).await hlives ..⟩

/-- A result from before the session is not reported; one run gets the next result, and the run
after it none. -/
theorem runs_report_fresh_results_once :
    let frame (job : String) : String :=
      "\x7b\"job_id\":\"" ++ job ++ "\",\"passed\":true,\"exit_code\":0\x7d"
    let connector : Connector := ⟨[.answered 0 (.accepted [] .plain)], .unanswered⟩
    let earlier : List Channel.Event :=
      [.work, .work, .serve none (.deliver (.text (frame "old"))), .work]
    let config : Config := { Config.standard with resultTimeoutSecs := 2 }
    let draft : Submission := .code (.source "fn a() {}" "rust")
    let told : Except RunError RunOutcome → String ⊕ RunError
      | .ok o => .inl o.result.jobId
      | .error e => .inr e
    let events : List Event :=
      [.start draft, .poll 0, .saver .work, .channel .work, .channel (.clock 1000),
        .channel (.serve none (.deliver (.text (frame "new")))), .channel .work, .poll 0,
        .start draft, .poll 1, .channel .work, .channel (.clock 3000), .poll 1]
    let life := (Life.ofChannel 0 (.connect "" connector .standard 10000)).run earlier
    let start : SessionLife :=
      ⟨life.now, .start config life.channel ⟨[], .success⟩ "e" .code none, []⟩
    start.Punctual events ∧ life.channel.last.map (·.jobId) = some "old" ∧
      (start.run events).session.runs.map (fun run => run.phase.outcome?.map told) =
        [some (.inl "new"), some (.inr (.resultTimeout "e" 2))] ∧
      Reporting (start.Forward events) (start.Punctual events) life.history "e" 2
        (start.run events) :=
  ⟨by decide +kernel, by decide +kernel, by decide +kernel,
    runs_report_fresh_results 0 "" _ .standard 10000 _ _ _ "e" .code none _⟩

end Session

end ExerciseClient
