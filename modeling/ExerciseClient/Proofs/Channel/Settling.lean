import ExerciseClient.Proofs.Channel.Coherence

/-! A turn ends with a channel that waits. Every step lowers what there is left to do at an
instant, and `work` is no less than that. A wait of zero would start the work anew, so a channel
that goes on needs a backoff that is not zero; one that was torn down needs nothing. -/

namespace ExerciseClient

/-- No wait is zero if neither the first wait nor the longest one is. -/
theorem Backoff.delay_pos {b : Backoff} (hb : 0 < b.base) (hm : 0 < b.max) (k : Nat) :
    0 < b.delay k := by
  have hp : 0 < b.base * 2 ^ k := Nat.mul_pos hb (Nat.two_pow_pos k)
  rw [delay, delayIn]
  split
  · exact Nat.lt_min.mpr ⟨hp, hm⟩
  · exact hm

/-- Sending moves what a reply brings from one place to be read to the other. -/
theorem Line.load_send {l l' : Line} (h : l.send = .ok l') : l'.load = l.load := by
  have hr : (l.replies.head?.getD []).length + l.replies.tail.flatten.length =
      l.replies.flatten.length := by
    cases l.replies <;> simp
  rw [send] at h
  split at h
  · cases h
    simp only [load, List.length_append]
    omega
  · cases h
    simp only [load, List.length_append]
    omega
  · cases h

/-- What an attempt brings was counted before it is made. -/
theorem Connector.load_next (c : Connector) :
    c.next.1.load ≤ c.load ∧ c.next.2.load ≤ c.load := by
  cases hs : c.script with
  | nil => simp [next, hs, load]
  | cons a rest =>
      simp only [next, hs, load, List.map_cons, List.sum_cons, List.length_cons]
      omega

namespace Channel

/-- How much there is to read at most on lines. -/
def linesLoad (lines : List Line) : Nat := (lines.map Line.load).sum

theorem linesLoad_set {lines : List Line} {n : Nat} {l : Line} (h : lines[n]? = some l)
    (l' : Line) : linesLoad (lines.set n l') + l.load = linesLoad lines + l'.load := by
  induction lines generalizing n with
  | nil => simp at h
  | cons x lines ih =>
      cases n with
      | zero =>
          obtain rfl : x = l := by simpa using h
          simp only [linesLoad, List.set_cons_zero, List.map_cons, List.sum_cons]
          omega
      | succ n =>
          have := ih (n := n) (by simpa using h)
          simp only [linesLoad, List.set_cons_succ, List.map_cons, List.sum_cons] at this ⊢
          omega

/-- What is read is no longer to be read. -/
theorem linesLoad_read {lines : List Line} {n : Nat} {l : Line} (h : lines[n]? = some l)
    {i : Inbound} {inbox : List Inbound} (hi : l.inbox = i :: inbox) :
    linesLoad (lines.set n { l with inbox }) + 1 = linesLoad lines := by
  have hset := linesLoad_set h { l with inbox }
  simp only [Line.load, hi, List.length_cons] at hset
  omega

theorem linesLoad_release (lines : List Line) (n : Nat) :
    linesLoad (lines.modify n Line.release) = linesLoad lines := by
  induction lines generalizing n with
  | nil => simp [linesLoad]
  | cons x lines ih =>
      cases n with
      | zero => rfl
      | succ n => simpa [linesLoad] using ih n

/-- The steps to the end after being torn down. -/
def stepsToEnd : Phase → Nat
  | .fresh | .connecting .. | .waiting _ => 1
  | .pumping .. => 3
  | .closing .. => 2
  | .finished => 0

/-- The steps to the next wait, besides those for what there is to read on the lines. -/
def stepsToWait (now : Nat) (c : Channel) : Nat :=
  match c.phase with
  | .fresh => c.connector.load + 5
  | .connecting attempt _ => attempt.load + 4
  | .pumping _ frames => frames.length + 3
  | .closing .. => 2
  | .waiting due => if due ≤ now then c.connector.load + 5 else 0
  | .finished => 0

/-- What there is left to do at an instant. -/
def pending (now : Nat) (c : Channel) : Nat :=
  if c.stopping then stepsToEnd c.phase else c.stepsToWait now + linesLoad c.lines

theorem pending_le_work (now : Nat) (c : Channel) : c.pending now ≤ c.work := by
  simp only [pending, work, linesLoad]
  split
  · cases c.phase <;> simp only [stepsToEnd] <;> omega
  · cases hp : c.phase <;> simp only [stepsToWait, Phase.load, hp] <;> (try split) <;> omega

/-- A channel that need not begin anew at the instant at which it has begun to wait. -/
def Unhurried (c : Channel) : Prop :=
  c.stopping = true ∨ 0 < c.backoff.base ∧ 0 < c.backoff.max

theorem Unhurried.move {now : Nat} {c : Channel} {s : Step} (h : Unhurried c)
    (hm : Move now c s) : Unhurried s.1 := by
  have hf := hm.sameSetUp
  rwa [Unhurried, hf.stopping, hf.backoff]

theorem pending_retry {now : Nat} {c : Channel} (hs : c.stopping = false) (hu : Unhurried c) :
    (c.retry now).1.pending now = linesLoad c.lines := by
  have hd : 0 < c.backoff.delay c.failures := by
    rcases hu with hu | ⟨hb, hm⟩
    · simp [hs] at hu
    · exact Backoff.delay_pos hb hm _
  have hn : ¬ now + c.backoff.delay c.failures ≤ now := by omega
  simp [pending, retry, hs, stepsToWait, hn]

theorem pending_attempt {c : Channel} (hs : c.stopping = false) (now : Nat) :
    (c.attempt now).1.pending now ≤ c.connector.load + 4 + linesLoad c.lines := by
  have := c.connector.load_next
  simp only [pending, attempt, hs, stepsToWait, Bool.false_eq_true, if_false]
  omega

theorem pending_pumping {now n : Nat} {frames : List String} {c : Channel}
    (hs : c.stopping = false) (hp : c.phase = .pumping n frames) :
    c.pending now = frames.length + 3 + linesLoad c.lines := by
  simp [pending, hs, stepsToWait, hp]

theorem pending_reading {now n : Nat} {c : Channel} (hs : c.stopping = false)
    (hp : c.phase = .pumping n []) : c.pending now = 3 + linesLoad c.lines := by
  rw [pending_pumping hs hp, List.length_nil, Nat.zero_add]

theorem pending_letGo {now n : Nat} {c : Channel} (hs : c.stopping = false) :
    (c.letGo now n false).1.pending now = 2 + linesLoad c.lines := by
  simp [pending, letGo, hs, stepsToWait, linesLoad_release]

/-- Every step leaves less to do. -/
theorem Move.pending_lt {now : Nat} {c : Channel} {s : Step} (hm : Move now c s)
    (hu : Unhurried c) : s.1.pending now < c.pending now := by
  cases hm with
  | finish hs hp =>
      cases hc : c.phase <;> simp_all [pending, Channel.finish, stepsToEnd, Phase.IsOffline]
  | begin hs hp =>
      have hc : c.pending now = c.connector.load + 5 + linesLoad c.lines := by
        simp [pending, hs, stepsToWait, hp]
      have := pending_attempt hs now
      omega
  | again hs hp hd =>
      have hc : c.pending now = c.connector.load + 5 + linesLoad c.lines := by
        simp [pending, hs, stepsToWait, hp, hd]
      have := pending_attempt hs now
      omega
  | @accepted _ log l _ hs hp ht =>
      have hc : c.pending now = l.load + 4 + linesLoad c.lines := by
        simp [pending, hs, stepsToWait, hp, Attempt.load]
      rw [hc, pending_pumping (c := (c.take l log).1) hs rfl]
      simp only [take, linesLoad, List.map_append, List.sum_append, List.map_singleton,
        List.sum_singleton, List.length_nil]
      omega
  | refused hs hp ht =>
      rw [retryAfter, pending_retry hs hu]
      simp [pending, hs, stepsToWait, hp]
  | late hs hp hn ht =>
      rw [retryAfter, pending_retry hs hu]
      simp [pending, hs, stepsToWait, hp]
  | leave hs hp => simp [pending, letGo, hs, hp, stepsToEnd]
  | @send n f frames l l' hs hp hl hf =>
      have hset := linesLoad_set hl l'
      have hload := Line.load_send hf
      have hd : pending now { c with lines := c.lines.set n l', phase := .pumping n frames } =
          frames.length + 3 + linesLoad (c.lines.set n l') := pending_pumping hs rfl
      simp only [hd, pending_pumping hs hp, List.length_cons]
      omega
  | sendFailed hs hp hl hf =>
      rw [pending_pumping hs hp, loseAfter, pending_letGo hs]
      omega
  | @readText n l text inbox hs hp hl hi =>
      have hread := linesLoad_read hl hi
      obtain ⟨last, received, he⟩ :=
        dispatch_fst n text { c with lines := c.lines.set n { l with inbox } }
      have hd : (dispatch n text { c with lines := c.lines.set n { l with inbox } }).1.pending now =
          3 + linesLoad (c.lines.set n { l with inbox }) := by
        rw [he]
        exact pending_reading hs hp
      rw [hd, pending_reading hs hp]
      omega
  | @readNotice n l line inbox hs hp hl hi =>
      have hread := linesLoad_read hl hi
      have hd : pending now { c with lines := c.lines.set n { l with inbox } } =
          3 + linesLoad (c.lines.set n { l with inbox }) := pending_reading hs hp
      rw [hd, pending_reading hs hp]
      omega
  | @readBroken n l e inbox hs hp hl hi =>
      have hread := linesLoad_read hl hi
      rw [pending_pumping hs hp, loseAfter]
      simp only [pending_letGo (c := { c with lines := c.lines.set n { l with inbox } }) hs]
      omega
  | @readEnd n l inbox hs hp hl hi =>
      have hread := linesLoad_read hl hi
      rw [pending_pumping hs hp, loseAfter]
      simp only [pending_letGo (c := { c with lines := c.lines.set n { l with inbox } }) hs]
      omega
  | @closeEnded n start forGood e hp he =>
      cases hs : c.stopping with
      | false =>
          have hc : c.pending now = 2 + linesLoad c.lines := by
            simp [pending, hs, stepsToWait, hp]
          cases forGood with
          | false =>
              rw [goOn, if_neg (by simp), pending_retry hs hu]
              omega
          | true =>
              rw [hc, goOn, if_pos rfl]
              simp only [pending, Channel.finish, hs, stepsToWait, Bool.false_eq_true, if_false]
              omega
      | true =>
          cases forGood <;>
            simp [pending, goOn, Channel.finish, retry, hs, hp, stepsToEnd]

/-- As many steps as there is left to do end with a channel that waits. -/
theorem steps_settled {now fuel : Nat} {c : Channel} (hu : Unhurried c)
    (h : c.pending now ≤ fuel) : (c.steps now fuel).1.step? now = none := by
  induction fuel generalizing c with
  | zero =>
      rw [steps, ← Option.not_isSome_iff_eq_none]
      intro hs
      obtain ⟨m, hm⟩ := Option.isSome_iff_exists.mp hs
      have := ((move_iff now c m).mpr hm).pending_lt hu
      omega
  | succ fuel ih =>
      rw [steps]
      cases hm : c.step? now with
      | none => exact hm
      | some m =>
          have hmove := (move_iff now c m).mpr hm
          have hlt := hmove.pending_lt hu
          exact ih (hu.move hmove) (by omega)

/-- A turn ends with a channel that waits. -/
theorem turn_settled {c : Channel} (hu : Unhurried c) (now : Nat) :
    (c.turn now).1.step? now = none :=
  steps_settled hu (c.pending_le_work now)

end Channel

end ExerciseClient
