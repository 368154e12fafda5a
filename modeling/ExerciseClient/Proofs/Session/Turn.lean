import ExerciseClient.Session.Turn

/-! What the turn of a run does to its session. A run that begins makes its submission the draft and
hands it to the channel; then, as a run that waits does in its turn, it ends or waits on. Nothing
else of the session changes. -/

namespace ExerciseClient.Session

/-- One run goes into a phase. -/
def setRun (s : Session) (number : Nat) (run : Run) (phase : RunPhase) : Session :=
  { s with runs := s.runs.set number { run with phase } }

/-- A submission is the draft and was handed to the channel. -/
def submitted (s : Session) (submission : Submission) : Session :=
  { s.edit submission with channel := (s.channel.submit s.exercise (.ok submission.toJson)).2.1 }

/-- What a turn leaves of a run that is to end by a deadline. -/
inductive Pending (now deadline : Nat) : RunPhase → Prop where
  | ended (outcome) : Pending now deadline (.ended outcome)
  | waiting (seen) (hlt : now < deadline) : Pending now deadline (.waiting seen deadline)

variable {s : Session} {number now deadline : Nat} {run : Run} {phase : RunPhase}

theorem Pending.ne_fresh (h : Pending now deadline phase) : phase ≠ .fresh := by
  cases h <;> exact RunPhase.noConfusion

theorem runs_setRun (hr : number < s.runs.length) (run : Run) (phase : RunPhase) :
    (s.setRun number run phase).runs[number]? = some { run with phase } := by
  simp [setRun, hr]

theorem runs_setRun_of_ne {other : Nat} (hne : other ≠ number) (run : Run) (phase : RunPhase) :
    (s.setRun other run phase).runs[number]? = s.runs[number]? :=
  List.getElem?_set_ne hne

/-- To check on a run is to set its phase. -/
theorem checkRun_pending (number : Nat) (run : Run) (seen : Nat) (s : Session) :
    ∃ phase, Pending now deadline phase ∧
      (s.checkRun now number run seen deadline).session = s.setRun number run phase := by
  simp only [checkRun]
  split
  · rename_i r _
    exact ⟨_, .ended (.ok (.ofResult r)), rfl⟩
  · by_cases hd : deadline ≤ now
    · exact ⟨_, .ended (.error (.resultTimeout s.exercise s.resultTimeout)), by rw [if_pos hd]; rfl⟩
    · exact ⟨_, .waiting seen (Nat.lt_of_not_le hd), by rw [if_neg hd]; rfl⟩

theorem beginRun_pending (now number : Nat) (run : Run) (s : Session) :
    ∃ phase, Pending now (now + s.resultTimeout * 1000) phase ∧
      (s.beginRun now number run).session =
        (s.submitted run.submission).setRun number run phase := by
  simp only [beginRun]
  split
  · rename_i e _
    exact ⟨.ended (.error (.submit e)), .ended _, rfl⟩
  · exact checkRun_pending number run _ (s.submitted run.submission)

/-- The turn of a run follows exactly one rule. -/
inductive RunTurn (now number : Nat) (s : Session) : Session → Prop where
  | idle (hi : ∀ run, s.runs[number]? = some run →
      run.phase ≠ .fresh ∧ ∀ seen deadline, run.phase ≠ .waiting seen deadline) :
      RunTurn now number s s
  | begun {run : Run} {phase : RunPhase} (hr : s.runs[number]? = some run) (hf : run.phase = .fresh)
      (hp : Pending now (now + s.resultTimeout * 1000) phase) :
      RunTurn now number s ((s.submitted run.submission).setRun number run phase)
  | checked {run : Run} {seen deadline : Nat} {phase : RunPhase} (hr : s.runs[number]? = some run)
      (hw : run.phase = .waiting seen deadline) (hp : Pending now deadline phase) :
      RunTurn now number s (s.setRun number run phase)

theorem turn_run (now number : Nat) (s : Session) :
    RunTurn now number s (s.turn now (.run number)).session := by
  cases hr : s.runs[number]? with
  | none =>
      simp only [turn, hr]
      exact .idle (by simp [hr])
  | some run =>
      cases hf : run.phase with
      | fresh =>
          simp only [turn, hr, hf]
          obtain ⟨phase, hp, he⟩ := beginRun_pending now number run s
          exact he ▸ .begun hr hf hp
      | waiting seen deadline =>
          simp only [turn, hr, hf]
          obtain ⟨phase, hp, he⟩ := checkRun_pending number run seen s
          exact he ▸ .checked hr hf hp
      | ended | cancelled =>
          simp only [turn, hr, hf]
          exact .idle (by simp [hr, hf])

end ExerciseClient.Session
