import ExerciseClient.Proofs.Channel.Reception
import ExerciseClient.Proofs.Place
import ExerciseClient.Proofs.Session.Life

/-! What a run reports. A run that was taken has seen the results that were there when it began, so
what ends it is a result that was read since, or its deadline; a result is never missed and never
an old one. On a punctual clock a run ends at the instant of the first result since it began, and
at its deadline without one. -/

namespace ExerciseClient

namespace Session

/-- The run that begins. -/
@[simp] def Deed.begins? : Deed → Option Nat
  | .begun number .. => some number
  | _ => none

/-- The run that ends. -/
@[simp] def Deed.ends? : Deed → Option Nat
  | .ended number _ => some number
  | _ => none

@[simp] def Deed.channel? : Deed → Option Channel.Deed
  | .channel d => some d
  | _ => none

/-- The result that is read. -/
def Deed.result? (d : Deed) : Option RunResult := d.channel?.bind (·.result?)

namespace History

/-- What the channel did and had done to it. -/
def channel (h : History) : Channel.History :=
  h.filterMap fun m => m.2.channel?.map fun d => (m.1, d)

/-- The results that were read. -/
def results (h : History) : List RunResult := h.filterMap (·.2.result?)

/-- The runs that began. -/
def begins (h : History) : List Nat := h.filterMap (·.2.begins?)

@[simp] theorem channel_append (a b : History) : channel (a ++ b) = a.channel ++ b.channel := by
  simp [channel]

@[simp] theorem results_append (a b : History) : results (a ++ b) = a.results ++ b.results := by
  simp [results]

@[simp] theorem begins_append (a b : History) : begins (a ++ b) = a.begins ++ b.begins := by
  simp [begins]

theorem results_channel (h : History) : h.channel.results = h.results := by
  simp only [channel, results, Channel.History.results, List.filterMap_filterMap]
  congr 1
  funext m
  rcases m with ⟨t, _ | _ | _ | _⟩ <;> rfl

end History

/-- A run did not begin. -/
def NotBegun (h : History) (number : Nat) : Prop := ∀ m ∈ h, m.2.begins? ≠ some number

/-- A run began with an answer of the channel, once and at one place. -/
structure Began (h : History) (number : Nat) (before : History) (t : Nat)
    (submission : Submission) (answer : Except SubmitError Unit) (since : History) : Prop where
  split : h = before ++ (t, .begun number submission answer) :: since
  first : NotBegun before number
  only : NotBegun since number

section

variable {h before since new before' since' : History} {number t t' : Nat}
  {submission submission' : Submission} {answer answer' : Except SubmitError Unit}

theorem NotBegun.append (hn : NotBegun h number) (hnew : NotBegun new number) :
    NotBegun (h ++ new) number := by
  intro m hm
  rcases List.mem_append.mp hm with hm | hm
  · exact hn m hm
  · exact hnew m hm

theorem Began.append (hb : Began h number before t submission answer since)
    (hnew : NotBegun new number) :
    Began (h ++ new) number before t submission answer (since ++ new) :=
  ⟨by rw [hb.split, List.append_assoc, List.cons_append], hb.first, hb.only.append hnew⟩

theorem notBegun_iff : NotBegun h number ↔ number ∉ h.begins := by
  simp [NotBegun, History.begins]

/-- If no run begins twice, a place at which one begins is the only one. -/
theorem began_of_nodup (hn : h.begins.Nodup)
    (hs : h = before ++ (t, .begun number submission answer) :: since) :
    Began h number before t submission answer since := by
  have hbegins : h.begins = before.begins ++ number :: since.begins := by
    rw [hs, History.begins_append]
    rfl
  rw [hbegins, List.nodup_append, List.nodup_cons] at hn
  obtain ⟨_, ⟨hsince, _⟩, hdisjoint⟩ := hn
  refine ⟨hs, notBegun_iff.mpr fun hm => ?_, notBegun_iff.mpr hsince⟩
  exact hdisjoint number hm number List.mem_cons_self rfl

/-- There is no other place at which a run begins. -/
theorem Began.unique (hb : Began h number before t submission answer since)
    (hs : h = before' ++ (t', .begun number submission' answer') :: since') :
    before' = before ∧ t' = t ∧ answer' = answer ∧ since' = since := by
  have hboth := hb.split.symm.trans hs
  rcases split_append hboth with ⟨rest, hbefore, _⟩ | ⟨rest, rfl, hrest⟩
  · exact absurd rfl (hb.first (t', .begun number submission' answer') (by simp [hbefore]))
  · cases rest with
    | nil =>
        simp only [List.nil_append, List.cons.injEq, Prod.mk.injEq, Deed.begun.injEq] at hrest
        obtain ⟨⟨rfl, _, _, rfl⟩, rfl⟩ := hrest
        exact ⟨List.append_nil before, rfl, rfl, rfl⟩
    | cons m rest =>
        obtain ⟨_, hsince⟩ := List.cons.inj hrest
        exact absurd rfl (hb.only (t', .begun number submission' answer') (by simp [hsince]))

theorem Began.results_eq (hb : Began h number before t submission answer since) :
    h.results = before.results ++ since.results := by
  have hcons : History.results ((t, .begun number submission answer) :: since) =
      since.results := rfl
  rw [hb.split, History.results_append, hcons]

end

section

variable (forward punctual : Prop) (past : Channel.History) (exercise : String) (seconds : Nat)

/-- How a run may end: refused by the channel at once, or with the newest of the results that were
read since it began, or without any at its deadline. -/
inductive Returns (earlier : History) (now number : Nat) : Except RunError RunOutcome → Prop where
  | rejected {before submission e}
      (hb : Began earlier number before now submission (.error e) []) :
      Returns earlier now number (.error (.submit e))
  | result {before t submission since r}
      (hb : Began earlier number before t submission (.ok ()) since)
      (hr : since.results.getLast? = some r)
      (ht : punctual → now ≤ t + seconds * 1000 ∧ ∀ m ∈ since, m.2.result? ≠ none → m.1 = now) :
      Returns earlier now number (.ok (.ofResult r))
  | timeout {before t submission since}
      (hb : Began earlier number before t submission (.ok ()) since) (hr : since.results = [])
      (hd : t + seconds * 1000 ≤ now) (ht : punctual → now = t + seconds * 1000) :
      Returns earlier now number (.error (.resultTimeout exercise seconds))

/-- Where a run is fits what happened to it. -/
inductive Fits (now : Nat) (h : History) (number : Nat) : RunPhase → Prop where
  | fresh (hn : NotBegun h number) : Fits now h number .fresh
  | waiting {before t submission since seen deadline}
      (hb : Began h number before t submission (.ok ()) since)
      (hs : seen = past.results.length + before.results.length)
      (hd : deadline = t + seconds * 1000)
      (hp : punctual → now ≤ t + seconds * 1000 ∧
        ∀ m ∈ since, m.2.result? ≠ none → m.1 = now) :
      Fits now h number (.waiting seen deadline)
  | ended {t outcome} (hm : (t, .ended number outcome) ∈ h) : Fits now h number (.ended outcome)
  | cancelled {earlier t later} (hs : h = earlier ++ (t, .cancelled) :: later)
      (hn : NotBegun later number) : Fits now h number .cancelled

/-- The history of a session accounts for its runs. -/
structure Accounts (s : SessionLife) : Prop where
  exercise_eq : s.session.exercise = exercise
  timeout_eq : s.session.resultTimeout = seconds
  reported : Channel.Reported ⟨s.now, s.session.channel, past ++ s.history.channel⟩
  fits : ∀ number run, s.session.runs[number]? = some run →
    Fits punctual past seconds s.now s.history number run.phase
  bounded : ∀ number, s.session.runs.length ≤ number → NotBegun s.history number
  once : s.history.begins.Nodup
  returns : ∀ earlier t number outcome later,
    s.history = earlier ++ (t, .ended number outcome) :: later →
    Returns punctual exercise seconds earlier t number outcome
  ordered : forward → s.history.Pairwise (·.1 ≤ ·.1) ∧ ∀ m ∈ s.history, m.1 ≤ s.now
  forward_of : punctual → forward

variable {forward punctual past exercise seconds} {s : SessionLife}

theorem Accounts.received_eq (h : Accounts forward punctual past exercise seconds s) :
    s.session.channel.received = past.results.length + s.history.results.length := by
  have hreceived := h.reported.received_eq
  simpa [History.results_channel] using hreceived

theorem Accounts.last_eq (h : Accounts forward punctual past exercise seconds s) :
    s.session.channel.last = (past.results ++ s.history.results).getLast? := by
  have hlast := h.reported.last_eq
  rwa [Channel.History.results_append, History.results_channel] at hlast

/-- There is never word of a result where none is. -/
theorem Accounts.not_closed (h : Accounts forward punctual past exercise seconds s)
    (seen deadline : Nat) :
    s.session.channel.waitEnd? s.now seen deadline ≠ some .channelClosed := by
  rw [Ne, Channel.waitEnd?_eq_closed_iff]
  rintro ⟨hseen, hlast⟩
  rw [h.last_eq, List.getLast?_eq_none_iff] at hlast
  have hnone : (past.results ++ s.history.results).length = 0 := by simp [hlast]
  rw [List.length_append, ← h.received_eq] at hnone
  omega

/-- What a run that waits has not seen is what was read since it began. -/
theorem Began.received_eq (h : Accounts forward punctual past exercise seconds s)
    {before since : History} {number t : Nat} {submission : Submission}
    {answer : Except SubmitError Unit}
    (hb : Began s.history number before t submission answer since) :
    s.session.channel.received =
      past.results.length + before.results.length + since.results.length := by
  rw [h.received_eq, hb.results_eq, List.length_append, Nat.add_assoc]

theorem Fits.append {now number : Nat} {h new : History} {phase : RunPhase}
    (hf : Fits punctual past seconds now h number phase) (hn : NotBegun new number)
    (ht : ∀ m ∈ new, m.1 = now) : Fits punctual past seconds now (h ++ new) number phase := by
  cases hf with
  | fresh hnone => exact .fresh (hnone.append hn)
  | waiting hb hs hd hp =>
      refine .waiting (hb.append hn) hs hd ?_
      intro hpunctual
      obtain ⟨hdeadline, hresults⟩ := hp hpunctual
      refine ⟨hdeadline, ?_⟩
      intro m hm hr
      rcases List.mem_append.mp hm with hm | hm
      · exact hresults m hm hr
      · exact ht m hm
  | ended hm => exact .ended (List.mem_append_left new hm)
  | cancelled hs hnone =>
      exact .cancelled (by rw [hs, List.append_assoc, List.cons_append]) (hnone.append hn)

/-- Deeds at one instant leave the history in order. -/
theorem Accounts.record (h : Accounts forward punctual past exercise seconds s) {session : Session}
    {deeds : List Deed} (hexercise : session.exercise = s.session.exercise)
    (htimeout : session.resultTimeout = s.session.resultTimeout)
    (hreported : Channel.Reported
      ⟨s.now, session.channel, past ++ (s.record session deeds).history.channel⟩)
    (hfits : ∀ number run, session.runs[number]? = some run →
      Fits punctual past seconds s.now (s.record session deeds).history number run.phase)
    (hbounded : ∀ number, session.runs.length ≤ number →
      NotBegun (s.record session deeds).history number)
    (honce : (s.record session deeds).history.begins.Nodup)
    (hreturns : ∀ earlier number outcome later,
      deeds = earlier ++ .ended number outcome :: later →
      Returns punctual exercise seconds (s.history ++ earlier.map fun d => (s.now, d)) s.now number
        outcome) : Accounts forward punctual past exercise seconds (s.record session deeds) := by
  refine ⟨hexercise.trans h.exercise_eq, htimeout.trans h.timeout_eq, hreported, hfits, hbounded,
    honce, ?_, ?_, h.forward_of⟩
  · intro earlier t number outcome later hs
    rcases split_append hs with ⟨rest, hold, _⟩ | ⟨rest, rfl, hnew⟩
    · exact h.returns _ _ _ _ _ hold
    · obtain ⟨front, back, rfl, rfl, hback⟩ := List.map_eq_append_iff.mp hnew
      obtain ⟨d, back, rfl, hd, _⟩ := List.map_eq_cons_iff.mp hback
      obtain ⟨rfl, rfl⟩ := Prod.mk.inj hd
      exact hreturns _ _ _ _ rfl
  · intro hforward
    obtain ⟨hordered, hpast⟩ := h.ordered hforward
    have hnew : ∀ m ∈ deeds.map fun d => (s.now, d), m.1 = s.now := by simp
    refine ⟨List.pairwise_append.mpr ⟨hordered, ?_, ?_⟩, ?_⟩
    · refine List.pairwise_iff_forall_sublist.mpr ?_
      intro a b hab
      have ha := hnew a (hab.subset (by simp))
      have hb := hnew b (hab.subset (by simp))
      exact Nat.le_of_eq (ha.trans hb.symm)
    · intro a ha b hb
      rw [hnew b hb]
      exact hpast a ha
    · intro m hm
      rcases List.mem_append.mp hm with hm | hm
      · exact hpast m hm
      · exact Nat.le_of_eq (hnew m hm)

theorem notBegun_of_quiet {deeds : List Deed} (hquiet : ∀ d ∈ deeds, d.begins? = none)
    (now number : Nat) : NotBegun (deeds.map fun d => (now, d)) number := by
  intro m hm
  obtain ⟨d, hd, rfl⟩ := List.mem_map.mp hm
  rw [hquiet d hd]
  simp

/-- Deeds at which no run begins or ends. -/
theorem Accounts.quiet_of_fits (h : Accounts forward punctual past exercise seconds s)
    {session : Session} {deeds : List Deed} (hbegins : ∀ d ∈ deeds, d.begins? = none)
    (hends : ∀ d ∈ deeds, d.ends? = none) (hexercise : session.exercise = s.session.exercise)
    (htimeout : session.resultTimeout = s.session.resultTimeout)
    (hreported : Channel.Reported
      ⟨s.now, session.channel, past ++ (s.record session deeds).history.channel⟩)
    (hfits : ∀ number run, session.runs[number]? = some run →
      Fits punctual past seconds s.now (s.record session deeds).history number run.phase)
    (hlength : s.session.runs.length ≤ session.runs.length) :
    Accounts forward punctual past exercise seconds (s.record session deeds) := by
  have hnone := notBegun_of_quiet hbegins s.now
  have hnew : History.begins (deeds.map fun d => (s.now, d)) = [] :=
    List.eq_nil_iff_forall_not_mem.mpr fun number => notBegun_iff.mp (hnone number)
  refine h.record hexercise htimeout hreported hfits ?_ ?_ ?_
  · intro number hn
    exact (h.bounded number (Nat.le_trans hlength hn)).append (hnone number)
  · simp only [SessionLife.record, History.begins_append, hnew, List.append_nil]
    exact h.once
  · intro earlier number outcome later hs
    have hend := hends (.ended number outcome) (by simp [hs])
    cases hend

/-- Deeds at which nothing becomes of a run. -/
theorem Accounts.quiet (h : Accounts forward punctual past exercise seconds s) {session : Session}
    {deeds : List Deed} (hbegins : ∀ d ∈ deeds, d.begins? = none)
    (hends : ∀ d ∈ deeds, d.ends? = none) (hexercise : session.exercise = s.session.exercise)
    (htimeout : session.resultTimeout = s.session.resultTimeout)
    (hreported : Channel.Reported
      ⟨s.now, session.channel, past ++ (s.record session deeds).history.channel⟩)
    (hfits : ∀ number run, session.runs[number]? = some run →
      Fits punctual past seconds s.now s.history number run.phase)
    (hlength : s.session.runs.length ≤ session.runs.length) :
    Accounts forward punctual past exercise seconds (s.record session deeds) := by
  refine h.quiet_of_fits hbegins hends hexercise htimeout hreported ?_ hlength
  intro number run hr
  exact (hfits number run hr).append (notBegun_of_quiet hbegins s.now number) (by simp)

theorem Accounts.clock (h : Accounts forward punctual past exercise seconds s) {t : Nat}
    (ha : punctual → s.IsSettled ∧ s.now ≤ t ∧ s.NoneDue t) (hle : forward → s.now ≤ t) :
    Accounts forward punctual past exercise seconds { s with now := t } := by
  refine ⟨h.exercise_eq, h.timeout_eq, ?_, ?_, h.bounded, h.once, h.returns, ?_,
    h.forward_of⟩
  · exact h.reported.next (.clock t)
  · intro number run hr
    have hfits := h.fits number run hr
    have hmem : run ∈ s.session.runs := List.mem_of_getElem? hr
    cases hp : run.phase with
    | fresh =>
        rw [hp] at hfits
        cases hfits with
        | fresh hn => exact .fresh hn
    | waiting seen deadline =>
        rw [hp] at hfits
        cases hfits with
        | @waiting _ _ _ since _ _ hb hs hd hpast =>
            refine .waiting hb hs hd ?_
            intro hpunctual
            obtain ⟨hsettled, _, hdue⟩ := ha hpunctual
            constructor
            · have hle := hdue.runs run hmem
              rw [hp] at hle
              exact hd ▸ hle
            · -- The run has to wait on, so nothing was read since it began.
              have hrest := hsettled.runs run hmem
              rw [hp] at hrest
              have hseen := (Channel.waitEnd?_eq_none_iff.mp hrest).1
              rw [hb.received_eq h] at hseen
              have hnone : since.results = [] := List.eq_nil_of_length_eq_zero (by omega)
              intro m hm hr
              exact absurd (List.filterMap_eq_nil_iff.mp hnone m hm) hr
    | ended outcome =>
        rw [hp] at hfits
        cases hfits with
        | ended hm => exact .ended hm
    | cancelled =>
        rw [hp] at hfits
        cases hfits with
        | cancelled hs hn => exact .cancelled hs hn
  · intro hforward
    obtain ⟨hordered, hpast⟩ := h.ordered hforward
    refine ⟨hordered, ?_⟩
    intro m hm
    exact Nat.le_trans (hpast m hm) (hle hforward)

theorem channel_ended (now number : Nat) (outcome : Option (Except RunError RunOutcome)) :
    History.channel ((outcome.toList.map (Deed.ended number)).map fun d => (now, d)) = [] := by
  cases outcome <;> rfl

theorem notBegun_ended (now number number' : Nat)
    (outcome : Option (Except RunError RunOutcome)) :
    NotBegun ((outcome.toList.map (Deed.ended number)).map fun d => (now, d)) number' := by
  cases outcome <;> simp [NotBegun]

/-- A run that is checked ends rightly, or it waits on and fits its history. -/
theorem Began.check {h before since : History} {number t now seen deadline : Nat}
    {submission : Submission} {session : Session} {phase : RunPhase}
    (hb : Began h number before t submission (.ok ()) since)
    (hexercise : session.exercise = exercise) (htimeout : session.resultTimeout = seconds)
    (hreceived : session.channel.received =
      past.results.length + before.results.length + since.results.length)
    (hlast : session.channel.last = (past.results ++ h.results).getLast?)
    (hs : seen = past.results.length + before.results.length)
    (hd : deadline = t + seconds * 1000)
    (hp : punctual → now ≤ t + seconds * 1000 ∧ ∀ m ∈ since, m.2.result? ≠ none → m.1 = now)
    (hc : Check now seen deadline session phase) :
    (∀ outcome, phase = .ended outcome →
      Returns punctual exercise seconds h now number outcome) ∧
    Fits punctual past seconds now (h ++
      (phase.outcome?.toList.map (Deed.ended number)).map fun d => (now, d)) number phase := by
  cases hc with
  | @result r hw =>
      obtain ⟨hseen, hnewest⟩ := Channel.waitEnd?_eq_result_iff.mp hw
      -- Something was read since the run began, so the newest of all is the newest since.
      have hr : since.results.getLast? = some r := by
        rw [hlast, hb.results_eq, ← List.append_assoc, List.getLast?_append] at hnewest
        cases hsome : since.results.getLast? with
        | none =>
            have hnone := List.getLast?_eq_none_iff.mp hsome
            rw [hnone, List.length_nil] at hreceived
            omega
        | some r' =>
            rw [hsome] at hnewest
            exact hnewest
      refine ⟨?_, .ended (t := now) (by simp [RunPhase.outcome?])⟩
      intro outcome he
      obtain rfl := RunPhase.ended.inj he
      exact .result hb hr hp
  | timeout hw =>
      obtain ⟨hseen, hdue⟩ := Channel.waitEnd?_eq_timeout_iff.mp hw
      have hr : since.results = [] := List.eq_nil_of_length_eq_zero (by omega)
      refine ⟨?_, .ended (t := now) (by simp [RunPhase.outcome?])⟩
      intro outcome he
      obtain rfl := RunPhase.ended.inj he
      subst hexercise htimeout
      refine .timeout hb hr (hd ▸ hdue) ?_
      intro hpunctual
      exact Nat.le_antisymm (hp hpunctual).1 (hd ▸ hdue)
  | waits hw =>
      have hnothing : h ++ ((RunPhase.waiting seen deadline).outcome?.toList.map
          (Deed.ended number)).map (fun d => (now, d)) = h := List.append_nil h
      rw [hnothing]
      refine ⟨?_, .waiting hb hs hd hp⟩
      intro outcome he
      cases he

theorem getElem?_setRun {s : Session} {number number' : Nat} {run run' : Run} {phase : RunPhase}
    (h : (s.setRun number run phase).runs[number']? = some run') :
    number = number' ∧ run' = { run with phase } ∨
      number ≠ number' ∧ s.runs[number']? = some run' := by
  by_cases hn : number = number'
  · subst hn
    left
    simp only [setRun, List.getElem?_set_self'] at h
    obtain ⟨_, _, rfl⟩ := Option.map_eq_some_iff.mp h
    exact ⟨rfl, rfl⟩
  · right
    refine ⟨hn, ?_⟩
    simpa [setRun, hn] using h

/-- A run takes its turn: some deeds, and its end if it comes to that. -/
theorem Accounts.turn (h : Accounts forward punctual past exercise seconds s) {session : Session}
    {front : List Deed} {number : Nat} {run : Run} {phase : RunPhase}
    (hr : s.session.runs[number]? = some run)
    (hruns : session.runs = (s.session.setRun number run phase).runs)
    (hexercise : session.exercise = s.session.exercise)
    (htimeout : session.resultTimeout = s.session.resultTimeout)
    (hfront : ∀ d ∈ front, d.ends? = none ∧ ∀ number', d.begins? = some number' → number' = number)
    (hreported : Channel.Reported
      ⟨s.now, session.channel, past ++ (s.record session front).history.channel⟩)
    (honce : (s.record session front).history.begins.Nodup)
    (hreturns : ∀ outcome, phase = .ended outcome → Returns punctual exercise seconds
      (s.record session front).history s.now number outcome)
    (hfits : Fits punctual past seconds s.now ((s.record session front).history ++
      (phase.outcome?.toList.map (Deed.ended number)).map fun d => (s.now, d)) number phase) :
    Accounts forward punctual past exercise seconds
      (s.record session (front ++ phase.outcome?.toList.map (.ended number))) := by
  have hhistory : (s.record session (front ++ phase.outcome?.toList.map (.ended number))).history =
      (s.record session front).history ++
        (phase.outcome?.toList.map (Deed.ended number)).map fun d => (s.now, d) := by
    simp [SessionLife.record]
  have hlt : number < s.session.runs.length := (List.getElem?_eq_some_iff.mp hr).1
  have hothers : ∀ number', number' ≠ number →
      NotBegun ((front ++ phase.outcome?.toList.map (Deed.ended number)).map
        fun d => (s.now, d)) number' := by
    intro number' hne
    rw [List.map_append]
    refine NotBegun.append ?_ (notBegun_ended s.now number number' phase.outcome?)
    intro m hm hb
    obtain ⟨d, hd, rfl⟩ := List.mem_map.mp hm
    exact hne ((hfront d hd).2 number' hb)
  have hbegins : History.begins ((phase.outcome?.toList.map (Deed.ended number)).map
      fun d => (s.now, d)) = [] := by
    cases phase.outcome? <;> rfl
  refine h.record hexercise htimeout ?_ ?_ ?_ ?_ ?_
  · rw [hhistory, History.channel_append, channel_ended, List.append_nil]
    exact hreported
  · intro number' run' hr'
    rw [hruns] at hr'
    rcases getElem?_setRun hr' with ⟨rfl, rfl⟩ | ⟨hne, hold⟩
    · rw [hhistory]
      exact hfits
    · exact (h.fits number' run' hold).append (hothers number' (Ne.symm hne))
        (by simp [-List.map_append])
  · intro number' hn
    have hle : s.session.runs.length ≤ number' := by simpa [hruns, setRun] using hn
    exact (h.bounded number' hle).append (hothers number' (by omega))
  · rw [hhistory, History.begins_append, hbegins, List.append_nil]
    exact honce
  · intro earlier number' outcome later hs
    rcases split_append hs with ⟨rest, hold, _⟩ | ⟨rest, rfl, hnew⟩
    · have hends := (hfront (.ended number' outcome) (by simp [hold])).1
      cases hends
    · cases phase with
      | ended outcome' =>
          obtain ⟨rfl, he, _⟩ := split_singleton.mp hnew.symm
          obtain ⟨rfl, rfl⟩ := Deed.ended.inj he
          rw [List.append_nil]
          exact hreturns _ rfl
      | fresh | waiting | cancelled => simp [RunPhase.outcome?] at hnew

/-- A run that begins is at the only place at which it does. -/
theorem Accounts.began (h : Accounts forward punctual past exercise seconds s) {number : Nat}
    {run : Run} (hr : s.session.runs[number]? = some run) (hf : run.phase = .fresh)
    (session : Session) :
    ∃ before, before.results = s.history.results ∧
      Began (s.record session (s.session.beginning number run.submission)).history number before
        s.now run.submission (s.session.answer run.submission) [] ∧
      (s.record session (s.session.beginning number run.submission)).history.begins.Nodup := by
  have hfits := h.fits number run hr
  rw [hf] at hfits
  cases hfits with
  | fresh hn =>
      refine ⟨s.history ++ [(s.now, .saver (.updated run.submission)), (s.now, .channel (.submitted
        s.session.channel.slot s.session.exercise (.ok run.submission.toJson)
          (s.session.answer run.submission)))], ?_, ⟨?_, ?_, ?_⟩, ?_⟩
      · rw [History.results_append]
        exact List.append_nil _
      · simp [SessionLife.record, beginning]
      · exact hn.append (by simp [NotBegun])
      · simp [NotBegun]
      · have hbegins :
            (s.record session (s.session.beginning number run.submission)).history.begins =
              s.history.begins ++ [number] := History.begins_append ..
        rw [hbegins, List.nodup_append]
        refine ⟨h.once, by simp, ?_⟩
        rintro m hm k hk rfl
        exact notBegun_iff.mp hn (List.mem_singleton.mp hk ▸ hm)

/-- What a channel reports when it was handed the submission of a run. -/
theorem Accounts.reported_beginning (h : Accounts forward punctual past exercise seconds s)
    {session : Session} {submission : Submission}
    (hc : session.channel =
      (s.session.channel.submit s.session.exercise (.ok submission.toJson)).2.1)
    (number : Nat) : Channel.Reported ⟨s.now, session.channel,
      past ++ (s.record session (s.session.beginning number submission)).history.channel⟩ := by
  have hnext := h.reported.next (.submit s.session.exercise (.ok submission.toJson))
  have hhistory :
      (s.record session (s.session.beginning number submission)).history.channel =
        s.history.channel ++ [(s.now, .submitted s.session.channel.slot s.session.exercise
          (.ok submission.toJson) (s.session.answer submission))] :=
    History.channel_append ..
  rw [hhistory, hc, ← List.append_assoc]
  exact hnext

theorem quiet_beginning {s : Session} {number : Nat} {submission : Submission} :
    ∀ d ∈ s.beginning number submission,
      d.ends? = none ∧ ∀ number', d.begins? = some number' → number' = number := by
  simp [beginning, eq_comm]

theorem Accounts.poll (h : Accounts forward punctual past exercise seconds s) (number : Nat) :
    Accounts forward punctual past exercise seconds (s.next (.poll number)) := by
  obtain ⟨session, deeds, hpoll, he⟩ := SessionLife.next_poll number h.not_closed
  rw [he]
  cases hpoll with
  | idle hi =>
      refine h.quiet (by simp) (by simp) rfl rfl ?_ h.fits (Nat.le_refl _)
      rw [SessionLife.history_record_nil]
      exact h.reported
  | @rejected run e hr hf ha =>
      obtain ⟨before, _, hbegan, honce⟩ := h.began hr hf
        ((s.session.edit run.submission).setRun number run (.ended (.error (.submit e))))
      rw [ha] at hbegan
      have hturn : Accounts forward punctual past exercise seconds (s.record
          ((s.session.edit run.submission).setRun number run (.ended (.error (.submit e))))
          (s.session.beginning number run.submission ++
            (RunPhase.ended (.error (.submit e))).outcome?.toList.map (.ended number))) := by
        refine h.turn hr rfl rfl rfl quiet_beginning ?_ honce ?_ ?_
        · exact h.reported_beginning (channel_of_rejected ha).symm number
        · intro outcome he
          obtain rfl := RunPhase.ended.inj he
          exact .rejected hbegan
        · exact .ended (t := s.now) (by simp [RunPhase.outcome?])
      exact hturn
  | @accepted run phase hr hf ha hc =>
      obtain ⟨before, hresults, hbegan, honce⟩ := h.began hr hf
        ((s.session.submitted run.submission).setRun number run phase)
      rw [ha] at hbegan
      have hreceived := h.received_eq
      rw [← hresults] at hreceived
      have hlast := h.last_eq
      rw [← hresults, ← List.append_nil before.results] at hlast
      obtain ⟨hreturns, hfits⟩ := hbegan.check h.exercise_eq h.timeout_eq hreceived
        (by rw [hbegan.results_eq]; exact hlast) hreceived (by rw [h.timeout_eq])
        (fun _ => ⟨Nat.le_add_right _ _, by simp⟩) hc
      exact h.turn hr rfl rfl rfl quiet_beginning (h.reported_beginning rfl number) honce hreturns
        hfits
  | @checked run seen deadline phase hr hw hc =>
      have hfits := h.fits number run hr
      rw [hw] at hfits
      cases hfits with
      | waiting hb hs hd hp =>
          obtain ⟨hreturns, hfits⟩ :=
            hb.check h.exercise_eq h.timeout_eq (hb.received_eq h) h.last_eq hs hd hp hc
          have hturn : Accounts forward punctual past exercise seconds
              (s.record (s.session.setRun number run phase)
                ([] ++ phase.outcome?.toList.map (.ended number))) := by
            refine h.turn hr rfl rfl rfl (by simp) ?_ ?_ ?_ ?_ <;>
              rw [SessionLife.history_record_nil]
            · exact h.reported
            · exact h.once
            · exact hreturns
            · exact hfits
          exact hturn

theorem Accounts.next (h : Accounts forward punctual past exercise seconds s) {e : Event}
    (ha : punctual → s.Allows e) (hf : forward → ∀ t, e.clock? = some t → s.now ≤ t) :
    Accounts forward punctual past exercise seconds (s.next e) := by
  cases hclock : e.clock? with
  | some t =>
      rw [SessionLife.next_clock hclock]
      exact h.clock (fun hpunctual => ha hpunctual t hclock) fun hforward => hf hforward t hclock
  | none =>
      cases e with
      | channel e =>
          obtain ⟨c, deeds, he, hlife⟩ := SessionLife.next_channel hclock
          rw [he]
          refine h.quiet (by simp) (by simp) rfl rfl ?_ h.fits (Nat.le_refl _)
          have hnext := h.reported.next e
          rw [hlife] at hnext
          have hhistory : (s.record { s.session with channel := c }
              (deeds.map .channel)).history.channel =
                s.history.channel ++ deeds.map fun d => (s.now, d) := by
            simp [SessionLife.record, History.channel, List.filterMap_map, Function.comp_def]
          rw [hhistory, ← List.append_assoc]
          exact hnext
      | saver e =>
          obtain ⟨a, deeds, he⟩ := SessionLife.next_saver hclock
          rw [he]
          refine h.quiet (by simp) (by simp) rfl rfl ?_ h.fits (Nat.le_refl _)
          have hhistory : (s.record { s.session with autosaver := a }
              (deeds.map .saver)).history.channel = s.history.channel := by
            simp [SessionLife.record, History.channel, List.filterMap_map, Function.comp_def]
          rw [hhistory]
          exact h.reported
      | start submission =>
          refine h.quiet (by simp) (by simp) rfl rfl ?_ ?_ (by simp [startRun])
          · rw [SessionLife.history_record_nil]
            exact h.reported
          · intro number run hr
            rw [startRun, List.getElem?_append] at hr
            split at hr
            · exact h.fits number run hr
            · rename_i hn
              have hmem : run ∈ [⟨submission, .fresh⟩] := List.mem_of_getElem? hr
              obtain rfl := List.mem_singleton.mp hmem
              exact .fresh (h.bounded number (Nat.le_of_not_lt hn))
      | poll number => exact h.poll number
      | cancel =>
          have hhistory : (s.record s.session.cancelRuns [.cancelled]).history.channel =
              s.history.channel := by
            simp [SessionLife.record, History.channel]
          refine h.quiet_of_fits (by simp) (by simp) rfl rfl ?_ ?_ (by simp [cancelRuns])
          · rw [hhistory]
            exact h.reported
          · intro number run hr
            simp only [cancelRuns, List.getElem?_map, Option.map_eq_some_iff] at hr
            obtain ⟨run', hr', rfl⟩ := hr
            split
            · exact (h.fits number run' hr').append (by simp [NotBegun]) (by simp)
            · exact .cancelled (t := s.now) rfl (by simp [NotBegun])

theorem Accounts.run (h : Accounts forward punctual past exercise seconds s) {events : List Event}
    (hp : punctual → s.Punctual events) (hf : forward → s.Forward events) :
    Accounts forward punctual past exercise seconds (s.run events) := by
  induction events generalizing s with
  | nil => exact h
  | cons e events ih =>
      apply ih
      · apply h.next
        · exact fun hpunctual => (hp hpunctual).1
        · exact fun hforward => (hf hforward).1
      · exact fun hpunctual => (hp hpunctual).2
      · exact fun hforward => (hf hforward).2

end

end Session

end ExerciseClient
