import ExerciseClient.Proofs.Session.LastSave
import Mathlib.Data.List.Chain

/-! When an autosaver looks at the draft. However long the saves take, the looks before the last are
an interval apart, less the leeway; only the last one may come sooner. On a punctual clock, which
does not run past a wait, the instants are exact: the first look comes an interval after the start,
and each of the others when it is due or, if a save is under way by then, when that is answered.
However many looks fall due during one save, a single one makes up for them. -/

namespace ExerciseClient

namespace Autosaver

/-- What the pace of an autosaver is read from. -/
inductive Mark where
  | looked (last : Bool)
  | answered
deriving DecidableEq

def Deed.mark? : Deed → Option Mark
  | .did (.looked last) => some (.looked last)
  | .did (.answered _) => some .answered
  | _ => none

/-- Looks and answers with their instants, the oldest first. -/
abbrev Marks := List (Nat × Mark)

/-- The instant at which the look after one is due that was due at `due` and came at `now`. -/
def deadlineAfter (interval leeway due now : Nat) : Nat :=
  if due + leeway < now then now + interval else due + interval

namespace Marks

/-- The instants of the looks before the last. -/
def checks (m : Marks) : List Nat := (m.filter (·.2 = .looked false)).map (·.1)

/-- The instant of what was done last. -/
def latest (start : Nat) (m : Marks) : Nat := (m.getLast?.map (·.1)).getD start

/-- The instant at which the next look is due. -/
def due (interval leeway start : Nat) (m : Marks) : Nat :=
  m.checks.foldl (deadlineAfter interval leeway) (start + interval)

/-- The last look was not made yet. -/
def IsOpen (m : Marks) : Prop := ∀ n, (n, .looked true) ∉ m

variable {m : Marks} {n : Nat} {k : Mark} {rest : List Nat}

theorem checks_append (m m' : Marks) : checks (m ++ m') = m.checks ++ m'.checks := by
  simp [checks]

theorem checks_check (n : Nat) (m : Marks) : checks ((n, .looked false) :: m) = n :: m.checks := by
  simp [checks]

theorem checks_of_ne (h : k ≠ .looked false) (n : Nat) (m : Marks) :
    checks ((n, k) :: m) = m.checks := by
  simp [checks, h]

theorem checks_concat_of_ne (h : k ≠ .looked false) (m : Marks) (n : Nat) :
    checks (m ++ [(n, k)]) = m.checks := by
  rw [checks_append, checks_of_ne h]
  exact List.append_nil _

/-- The first look splits the marks. -/
theorem split_of_checks (h : m.checks = n :: rest) :
    ∃ before after : Marks, m = before ++ (n, .looked false) :: after ∧ before.checks = [] ∧
      after.checks = rest := by
  obtain ⟨x, xs, hfilter, rfl, rfl⟩ := List.map_eq_cons_iff.mp h
  obtain ⟨before, after, rfl, hbefore, hx, rfl⟩ := List.filter_eq_cons_iff.mp hfilter
  refine ⟨before, after, ?_, ?_, rfl⟩
  · rw [← of_decide_eq_true hx]
  · rw [checks, List.filter_eq_nil_iff.mpr hbefore, List.map_nil]

theorem latest_concat (start : Nat) (m : Marks) (n : Nat) (k : Mark) :
    latest start (m ++ [(n, k)]) = n := by
  simp [latest]

theorem due_concat (interval leeway start : Nat) (m : Marks) (n : Nat) :
    due interval leeway start (m ++ [(n, .looked false)]) =
      deadlineAfter interval leeway (m.due interval leeway start) n := by
  rw [due, due, checks_append, checks_check, List.foldl_append]
  rfl

theorem due_of_checks (interval leeway start : Nat) {m m' : Marks} (h : m.checks = m'.checks) :
    m.due interval leeway start = m'.due interval leeway start := by
  rw [due, due, h]

theorem IsOpen.concat (h : m.IsOpen) (hk : k ≠ .looked true) (n : Nat) :
    IsOpen (m ++ [(n, k)]) := by
  intro t hm
  rcases List.mem_append.mp hm with hm | hm
  · exact h t hm
  · cases List.mem_singleton.mp hm
    exact hk rfl

end Marks

/-! ### Rules -/

section Rules

variable (interval leeway start : Nat) (punctual : Prop)

/-- A mark comes at an instant after others. A look before the last comes when it is due or, if
that is later, right after what was done last. Only the answer to its save follows the last look. -/
inductive Comes (m : Marks) (now : Nat) : Mark → Prop where
  | check (hopen : m.IsOpen)
      (hnow : punctual → now = max (m.due interval leeway start) (m.latest start)) :
      Comes m now (.looked false)
  | last (hopen : m.IsOpen) : Comes m now (.looked true)
  | answer {earlier t last} (h : m = earlier ++ [(t, .looked last)]) : Comes m now .answered

/-- Each mark came by the rules. -/
def Goes (m : Marks) : Prop :=
  ∀ earlier now k later, m = earlier ++ (now, k) :: later →
    Comes interval leeway start punctual earlier now k

/-- The looks are an interval apart, less the leeway. -/
def Spaced (m : Marks) : Prop := m.checks.IsChain fun n n' => n + interval ≤ n' + leeway

/-- A look at an instant or later is so far from those before it. -/
def Clears (m : Marks) (tick : Nat) : Prop := ∀ n ∈ m.checks.getLast?, n + interval ≤ tick + leeway

/-- How a phase goes with the marks before an instant. -/
def Fits (m : Marks) (now : Nat) : SaverPhase → Prop
  | .fresh => m = [] ∧ (punctual → now = start)
  | .idle tick => m.IsOpen ∧ Clears interval leeway m tick ∧
      (punctual → tick = m.due interval leeway start ∧ m.latest start ≤ now ∧
        now ≤ max tick (m.latest start))
  | .saving _ (some tick) => (∃ earlier t, m = earlier ++ [(t, .looked false)]) ∧ m.IsOpen ∧
      Clears interval leeway m tick ∧ (punctual → tick = m.due interval leeway start)
  | .saving _ none => ∃ earlier t, m = earlier ++ [(t, .looked true)]
  | .finished => True

/-- The autosaver keeps its pace. -/
structure OnPace (s : SaverLife) (m : Marks) : Prop where
  interval_eq : s.saver.interval = interval
  leeway_eq : s.saver.leeway = leeway
  goes : Goes interval leeway start punctual m
  spaced : Spaced interval leeway m
  fits : Fits interval leeway start punctual m s.now s.saver.phase

end Rules

end Autosaver

/-! ### Clocks -/

namespace SaverLife

open Autosaver

/-- The autosaver has nothing to do before something else happens. -/
def IsSettled (s : SaverLife) : Prop := s.saver.step? s.now = none

/-- The clock moves only while the autosaver waits, and not past the end of a wait. -/
def Allows (s : SaverLife) : Event → Prop
  | .clock t => s.IsSettled ∧ s.now ≤ t ∧ t ≤ s.saver.due.getD t
  | _ => True

/-- Everything happens on such a clock. -/
def Punctual (s : SaverLife) : List Event → Prop
  | [] => True
  | e :: events => s.Allows e ∧ (s.next e).Punctual events

instance decidableAllows (s : SaverLife) : (e : Event) → Decidable (s.Allows e)
  | .clock t =>
    inferInstanceAs (Decidable (s.saver.step? s.now = none ∧ s.now ≤ t ∧ t ≤ s.saver.due.getD t))
  | .work | .update _ | .stop => .isTrue trivial

instance decidablePunctual (s : SaverLife) : (events : List Event) → Decidable (s.Punctual events)
  | [] => .isTrue trivial
  | e :: events =>
    have := decidablePunctual (s.next e) events
    inferInstanceAs (Decidable (s.Allows e ∧ (s.next e).Punctual events))

/-- The marks that some deeds leave. -/
def stamped (s : SaverLife) (deeds : List Deed) : Marks :=
  (deeds.filterMap Deed.mark?).map fun k => (s.now, k)

/-- The marks that events leave. -/
def marks (s : SaverLife) : List Event → Marks
  | [] => []
  | e :: events =>
    s.stamped ((s.next e).history.drop s.history.length) ++ (s.next e).marks events

theorem stamped_of_silent (s : SaverLife) {deeds : List Deed}
    (h : deeds.filterMap Deed.mark? = []) : s.stamped deeds = [] := by
  rw [stamped, h, List.map_nil]

theorem stamped_of_mark (s : SaverLife) {deeds : List Deed} {k : Mark}
    (h : deeds.filterMap Deed.mark? = [k]) : s.stamped deeds = [(s.now, k)] := by
  rw [stamped, h, List.map_singleton]

theorem history_record (s : SaverLife) (a : Autosaver) (deeds : List Deed) :
    (s.record a deeds).history.drop s.history.length = deeds := by
  rw [record, List.drop_left]

theorem history_next (s : SaverLife) (e : Event) :
    s.history ++ (s.next e).history.drop s.history.length = (s.next e).history := by
  cases e with
  | work => rcases s.next_work with ⟨_, he⟩ | ⟨m, _, he⟩ <;> simp [he, record]
  | clock | update | stop => simp [next, record]

/-- The marks are those of the history. -/
theorem map_marks (s : SaverLife) (events : List Event) :
    s.history.filterMap Deed.mark? ++ (s.marks events).map (·.2) =
      (s.run events).history.filterMap Deed.mark? := by
  induction events generalizing s with
  | nil => exact List.append_nil _
  | cons e events ih =>
      have hstamped : (s.stamped ((s.next e).history.drop s.history.length)).map (·.2) =
          ((s.next e).history.drop s.history.length).filterMap Deed.mark? := by
        simp [stamped, Function.comp_def]
      rw [marks, List.map_append, hstamped, ← List.append_assoc, ← List.filterMap_append,
        s.history_next e, ih, run_cons]

end SaverLife

namespace Autosaver

/-! ### An autosaver keeps its pace -/

section Pace

variable {interval leeway start : Nat} {punctual : Prop} {s : SaverLife} {m : Marks} {now : Nat}
  {a : Autosaver} {k : Mark}

theorem mark?_goOn (tick : Option Nat) (a : Autosaver) :
    ((a.goOn tick).2.map .did).filterMap Deed.mark? = [] := by
  rcases goOn_cases tick a with ⟨t, rfl, he⟩ | ⟨rfl, l, he⟩ <;> rw [he] <;> rfl

theorem mark?_look (now : Nat) (tick : Option Nat) (a : Autosaver) :
    ((a.look now tick).2.map .did).filterMap Deed.mark? = [.looked tick.isNone] := by
  cases hd : a.dirty? with
  | none =>
      rw [look_of_clean hd]
      exact congrArg (Mark.looked tick.isNone :: ·) (mark?_goOn tick a)
  | some submission =>
      have hlog : ((a.store.next.1.log.map SaverEffect.logged).map .did).filterMap Deed.mark? =
          [] := by
        simp [Deed.mark?]
      rw [look_of_dirty hd]
      exact congrArg (Mark.looked tick.isNone :: ·) hlog

/-- A step leaves the interval and the leeway alone. -/
theorem Move.spans_eq {m : Step} (hm : Move now a m) :
    m.1.interval = a.interval ∧ m.1.leeway = a.leeway := by
  have hgo (tick : Option Nat) (b : Autosaver) :
      (b.goOn tick).1.interval = b.interval ∧ (b.goOn tick).1.leeway = b.leeway := by
    rcases goOn_cases tick b with ⟨t, rfl, he⟩ | ⟨rfl, l, he⟩ <;> rw [he] <;> exact ⟨rfl, rfl⟩
  have hlook (tick : Option Nat) :
      (a.look now tick).1.interval = a.interval ∧ (a.look now tick).1.leeway = a.leeway := by
    cases hd : a.dirty? with
    | none =>
        rw [look_of_clean hd]
        exact hgo tick a
    | some submission =>
        rw [look_of_dirty hd]
        exact ⟨rfl, rfl⟩
  cases hm with
  | begin hp => exact ⟨rfl, rfl⟩
  | last hs hp => exact hlook none
  | tick hs hp ht => exact hlook _
  | @answer save tick hp hd =>
      rw [(hgo ..).1, (hgo ..).2]
      rcases settle_cases save a with ⟨_, he⟩ | ⟨_, he⟩ <;> rw [he] <;> exact ⟨rfl, rfl⟩

/-- A look puts off the next one so far that both are an interval apart, less the leeway. -/
theorem le_deadlineAfter (interval leeway due now : Nat) :
    now + interval ≤ deadlineAfter interval leeway due now + leeway := by
  rw [deadlineAfter]
  split <;> omega

theorem Goes.concat (h : Goes interval leeway start punctual m)
    (hk : Comes interval leeway start punctual m now k) :
    Goes interval leeway start punctual (m ++ [(now, k)]) := by
  intro earlier t k' later hsplit
  rcases split_append hsplit with ⟨rest, hm, -⟩ | ⟨rest, rfl, hlast⟩
  · exact h earlier t k' rest hm
  · obtain ⟨rfl, hx, -⟩ := split_singleton.mp hlast.symm
    cases hx
    rwa [List.append_nil]

theorem Spaced.concat_check (h : Spaced interval leeway m) (hc : Clears interval leeway m now) :
    Spaced interval leeway (m ++ [(now, .looked false)]) := by
  rw [Spaced, Marks.checks_append, Marks.checks_check]
  refine List.isChain_append.mpr ⟨h, List.isChain_singleton now, ?_⟩
  intro n hn n' hn'
  cases hn'
  exact hc n hn

theorem Clears.concat_check (interval leeway due now : Nat) (m : Marks) :
    Clears interval leeway (m ++ [(now, .looked false)])
      (deadlineAfter interval leeway due now) := by
  intro n hn
  rw [Marks.checks_append, Marks.checks_check, List.getLast?_append] at hn
  cases hn
  exact le_deadlineAfter interval leeway due now

theorem Clears.mono {tick tick' : Nat} (h : Clears interval leeway m tick) (hle : tick ≤ tick') :
    Clears interval leeway m tick' :=
  fun n hn => Nat.le_trans (h n hn) (Nat.add_le_add_right hle leeway)

theorem OnPace.adds (h : OnPace interval leeway start punctual s m) {deeds : List Deed}
    (hspans : a.interval = s.saver.interval ∧ a.leeway = s.saver.leeway)
    (hk : Comes interval leeway start punctual m s.now k)
    (hspaced : Spaced interval leeway (m ++ [(s.now, k)]))
    (hfits : Fits interval leeway start punctual (m ++ [(s.now, k)]) s.now a.phase) :
    OnPace interval leeway start punctual (s.record a deeds) (m ++ [(s.now, k)]) :=
  ⟨hspans.1.trans h.interval_eq, hspans.2.trans h.leeway_eq, h.goes.concat hk, hspaced, hfits⟩

theorem OnPace.begin (h : OnPace interval leeway start punctual s m)
    (hp : s.saver.phase = .fresh) :
    OnPace interval leeway start punctual
      (s.record { s.saver with phase := .idle (s.now + s.saver.interval) } []) m := by
  have hfits := h.fits
  rw [hp] at hfits
  obtain ⟨rfl, hnow⟩ := hfits
  refine ⟨h.interval_eq, h.leeway_eq, h.goes, h.spaced, nofun, nofun, fun hpunctual => ?_⟩
  rw [SaverLife.record, hnow hpunctual, h.interval_eq]
  exact ⟨rfl, Nat.le_refl _, Nat.le_max_right ..⟩

/-- The last look may come at any time. -/
theorem OnPace.lastLook (h : OnPace interval leeway start punctual s m) {tick : Nat}
    (hs : s.saver.stopping = true) (hp : s.saver.phase = .idle tick) :
    OnPace interval leeway start punctual
      (s.record (s.saver.look s.now none).1 ((s.saver.look s.now none).2.map .did))
      (m ++ [(s.now, .looked true)]) := by
  have hfits := h.fits
  rw [hp] at hfits
  obtain ⟨hopen, -, -⟩ := hfits
  refine h.adds (Move.last hs hp).spans_eq (.last hopen) ?_ ?_
  · rw [Spaced, Marks.checks_concat_of_ne (k := .looked true) nofun]
    exact h.spaced
  · rcases phase_look s.now none s.saver with ⟨save, he⟩ | he <;> rw [he]
    · exact ⟨m, s.now, rfl⟩
    · exact trivial

/-- A look before the last comes when it is due or right after what was done last, and puts off the
next one. -/
theorem OnPace.check (h : OnPace interval leeway start punctual s m) {tick : Nat}
    (hs : s.saver.stopping = false) (hp : s.saver.phase = .idle tick) (ht : tick ≤ s.now) :
    let step := s.saver.look s.now (some (s.saver.nextTick tick s.now))
    OnPace interval leeway start punctual (s.record step.1 (step.2.map .did))
      (m ++ [(s.now, .looked false)]) := by
  intro step
  have hfits := h.fits
  rw [hp] at hfits
  obtain ⟨hopen, hclears, hexact⟩ := hfits
  have hnext : s.saver.nextTick tick s.now = deadlineAfter interval leeway tick s.now := by
    rw [nextTick, h.interval_eq, h.leeway_eq, deadlineAfter]
  have hopen' := hopen.concat (k := .looked false) nofun s.now
  have hclears' := Clears.concat_check interval leeway tick s.now m
  have hdue (hpunctual : punctual) : deadlineAfter interval leeway tick s.now =
      Marks.due interval leeway start (m ++ [(s.now, .looked false)]) := by
    rw [Marks.due_concat, (hexact hpunctual).1]
  refine h.adds (Move.tick hs hp ht).spans_eq (.check hopen ?_)
    (h.spaced.concat_check (hclears.mono ht)) ?_
  · intro hpunctual
    obtain ⟨rfl, hle, hmax⟩ := hexact hpunctual
    omega
  · rcases phase_look s.now (some (s.saver.nextTick tick s.now)) s.saver with ⟨save, he⟩ | he <;>
      rw [he, hnext]
    · exact ⟨⟨m, s.now, rfl⟩, hopen', hclears', hdue⟩
    · refine ⟨hopen', hclears', fun hpunctual => ⟨hdue hpunctual, ?_, ?_⟩⟩ <;>
        rw [Marks.latest_concat]
      exact Nat.le_max_right ..

/-- The answer to a save leaves what is due as it was, however late it is. -/
theorem OnPace.answer (h : OnPace interval leeway start punctual s m) {save : Saving}
    {tick : Option Nat} (hp : s.saver.phase = .saving save tick) (hd : save.due ≤ s.now)
    (deeds : List Deed) :
    OnPace interval leeway start punctual (s.record ((s.saver.settle save).1.goOn tick).1 deeds)
      (m ++ [(s.now, .answered)]) := by
  have hfits := h.fits
  rw [hp] at hfits
  have hspans := (Move.answer hp hd).spans_eq
  have hchecks := Marks.checks_concat_of_ne (k := .answered) nofun m s.now
  have hspaced : Spaced interval leeway (m ++ [(s.now, .answered)]) := by
    rw [Spaced, hchecks]
    exact h.spaced
  cases tick with
  | none =>
      obtain ⟨earlier, t, hlast⟩ := hfits
      exact h.adds hspans (.answer hlast) hspaced trivial
  | some tick =>
      obtain ⟨⟨earlier, t, hlast⟩, hopen, hclears, hdue⟩ := hfits
      have hopen' := hopen.concat (k := .answered) nofun s.now
      refine h.adds hspans (.answer hlast) hspaced ⟨hopen', ?_, fun hpunctual => ?_⟩
      · rw [Clears, hchecks]
        exact hclears
      · rw [Marks.latest_concat, Marks.due_of_checks _ _ _ hchecks]
        exact ⟨hdue hpunctual, Nat.le_refl _, Nat.le_max_right ..⟩

/-- A step leaves no mark, or one that comes by the rules. -/
theorem OnPace.move (h : OnPace interval leeway start punctual s m) {step : Step}
    (hm : Move s.now s.saver step) :
    OnPace interval leeway start punctual (s.record step.1 (step.2.map .did))
      (m ++ s.stamped (step.2.map .did)) := by
  cases hm with
  | begin hp =>
      rw [s.stamped_of_silent rfl, List.append_nil]
      exact h.begin hp
  | last hs hp =>
      rw [s.stamped_of_mark (mark?_look ..)]
      exact h.lastLook hs hp
  | tick hs hp ht =>
      rw [s.stamped_of_mark (mark?_look ..)]
      exact h.check hs hp ht
  | @answer save tick hp hd =>
      have hmark : ((.answered save :: .logged (s.saver.settle save).2 ::
          ((s.saver.settle save).1.goOn tick).2).map Deed.did).filterMap Deed.mark? =
            [.answered] :=
        congrArg (Mark.answered :: ·) (mark?_goOn tick _)
      rw [s.stamped_of_mark hmark]
      exact h.answer hp hd _

/-- Time that is allowed to pass leaves every phase within its bounds. -/
theorem Fits.clock {t : Nat} (h : Fits interval leeway start punctual m s.now s.saver.phase)
    (ha : punctual → s.Allows (.clock t)) :
    Fits interval leeway start punctual m t s.saver.phase := by
  cases hp : s.saver.phase with
  | fresh =>
      rw [hp] at h
      refine ⟨h.1, fun hpunctual => ?_⟩
      have hsettled : s.saver.step? s.now = none := (ha hpunctual).1
      simp [step?, hp] at hsettled
  | idle tick =>
      rw [hp] at h
      obtain ⟨hopen, hclears, hexact⟩ := h
      refine ⟨hopen, hclears, fun hpunctual => ?_⟩
      obtain ⟨htick, hlatest, -⟩ := hexact hpunctual
      obtain ⟨-, hle, hdue⟩ := ha hpunctual
      have hd : s.saver.due = some tick := by rw [due, hp]
      rw [hd, Option.getD_some] at hdue
      exact ⟨htick, Nat.le_trans hlatest hle, Nat.le_trans hdue (Nat.le_max_left ..)⟩
  | saving save tick =>
      rw [hp] at h
      cases tick <;> exact h
  | finished => exact trivial

theorem OnPace.next (h : OnPace interval leeway start punctual s m) {e : Event}
    (ha : punctual → s.Allows e) :
    OnPace interval leeway start punctual (s.next e)
      (m ++ s.stamped ((s.next e).history.drop s.history.length)) := by
  cases e with
  | work =>
      rcases s.next_work with ⟨_, he⟩ | ⟨step, hm, he⟩
      · rw [he, List.drop_length, s.stamped_of_silent rfl, List.append_nil]
        exact h
      · rw [he, SaverLife.history_record]
        exact h.move hm
  | clock t =>
      have hfits := Fits.clock (s := s) h.fits ha
      rw [SaverLife.next, List.drop_length, s.stamped_of_silent rfl, List.append_nil]
      exact ⟨h.interval_eq, h.leeway_eq, h.goes, h.spaced, hfits⟩
  | update | stop =>
      rw [SaverLife.next, SaverLife.history_record, s.stamped_of_silent rfl, List.append_nil]
      exact ⟨h.interval_eq, h.leeway_eq, h.goes, h.spaced, h.fits⟩

theorem OnPace.run (h : OnPace interval leeway start punctual s m) {events : List Event}
    (hp : punctual → s.Punctual events) :
    OnPace interval leeway start punctual (s.run events) (m ++ s.marks events) := by
  induction events generalizing s m with
  | nil => exact (List.append_nil m).symm ▸ h
  | cons e events ih =>
      rw [SaverLife.marks, ← List.append_assoc]
      exact ih (h.next fun hpunctual => (hp hpunctual).1) fun hpunctual => (hp hpunctual).2

theorem onPace_spawn (ms now : Nat) (store : Store) (exercise : String) (interval : Nat)
    (initial : Option Submission) (punctual : Prop) :
    OnPace (max interval (leastInterval * ms)) (tolerance * ms) now punctual
      (SaverLife.ofSaver now (spawnIn ms store exercise interval initial)) [] :=
  ⟨rfl, rfl, by simp [Goes], .nil, rfl, fun _ => rfl⟩

/-! ### What the rules say of the looks -/

/-- Where no look came last, the next mark is a look. -/
theorem Goes.eq_nil (before : Marks) {between after : Marks}
    (h : Goes interval leeway start punctual (before ++ between ++ after))
    (hbefore : ∀ earlier t last, before ≠ earlier ++ [(t, .looked last)])
    (hopen : between.IsOpen) (hchecks : between.checks = []) : between = [] := by
  cases between with
  | nil => rfl
  | cons x between =>
      obtain ⟨t, k⟩ := x
      cases h before t k (between ++ after) (by simp) with
      | check => simp [Marks.checks_check] at hchecks
      | last => exact absurd List.mem_cons_self (hopen t)
      | answer hlast => exact absurd hlast (hbefore _ _ _)

theorem Goes.check {earlier later : Marks} {n : Nat}
    (h : Goes interval leeway start punctual (earlier ++ (n, .looked false) :: later)) :
    earlier.IsOpen ∧
      (punctual → n = max (earlier.due interval leeway start) (earlier.latest start)) := by
  cases h earlier n _ later rfl with
  | check hopen hnow => exact ⟨hopen, hnow⟩

theorem Goes.first (h : Goes interval leeway start punctual m) (hpunctual : punctual) {n : Nat}
    {rest : List Nat} (hn : m.checks = n :: rest) : n = start + interval := by
  obtain ⟨before, after, rfl, hbefore, -⟩ := Marks.split_of_checks hn
  obtain ⟨hopen, hnow⟩ := h.check
  obtain rfl : before = [] := Goes.eq_nil [] h (by simp) hopen hbefore
  exact (hnow hpunctual).trans (Nat.max_eq_left (Nat.le_add_right ..))

/-- The look that was due by the end of a save comes right then. -/
theorem Goes.right_after (h : Goes interval leeway start punctual m) (hpunctual : punctual)
    {earlier later : Marks} {e n : Nat} {rest : List Nat}
    (hm : m = earlier ++ (e, .answered) :: later) (hdue : earlier.due interval leeway start ≤ e)
    (hn : later.checks = n :: rest) : n = e := by
  obtain ⟨before, after, rfl, hbefore, -⟩ := Marks.split_of_checks hn
  rw [List.append_cons, ← List.append_assoc] at hm
  subst hm
  obtain ⟨hopen, hnow⟩ := h.check
  have hopen' : before.IsOpen := fun t ht => hopen t (List.mem_append_right _ ht)
  obtain rfl : before = [] := h.eq_nil _ (by simp) hopen' hbefore
  have hchecks := Marks.checks_concat_of_ne (k := .answered) nofun earlier e
  rw [List.append_nil, Marks.latest_concat, Marks.due_of_checks _ _ _ hchecks] at hnow
  exact (hnow hpunctual).trans (Nat.max_eq_right hdue)

theorem Spaced.pairwise (h : Spaced interval leeway m) (hle : leeway ≤ interval) :
    m.checks.Pairwise fun n n' => n + interval ≤ n' + leeway := by
  have : Trans (fun n n' : Nat => n + interval ≤ n' + leeway)
      (fun n n' => n + interval ≤ n' + leeway) (fun n n' => n + interval ≤ n' + leeway) :=
    ⟨by intros; omega⟩
  exact List.IsChain.pairwise h

theorem Goes.no_look_after_last (h : Goes interval leeway start punctual m)
    {earlier later : Marks} {n : Nat} (hm : m = earlier ++ (n, .looked true) :: later) (n' : Nat)
    (last : Bool) : (n', .looked last) ∉ later := by
  intro hin
  obtain ⟨between, after, rfl⟩ := List.append_of_mem hin
  rw [← List.cons_append, ← List.append_assoc] at hm
  have hmem : (n, .looked true) ∈ earlier ++ (n, .looked true) :: between := by simp
  cases h _ n' _ after hm with
  | check hopen | last hopen => exact hopen n hmem

theorem Fits.isLast {p : SaverPhase} (h : Fits interval leeway start punctual m now p)
    (hm : ¬ m.IsOpen) : p.IsLast := by
  cases p with
  | fresh => exact absurd (by simp [h.1, Marks.IsOpen]) hm
  | idle tick => exact absurd h.1 hm
  | saving save tick =>
      cases tick with
      | none => exact trivial
      | some tick => exact absurd h.2.1 hm
  | finished => exact trivial

/-! ### Waiting -/

/-- The steps to the next wait of an autosaver that nobody has stopped. -/
def stepsToWait (now : Nat) : SaverPhase → Nat
  | .fresh => 1
  | .idle tick => if tick ≤ now then 2 else 0
  | .saving _ (some tick) => if tick ≤ now then 3 else 1
  | .saving _ none => 1
  | .finished => 0

/-- Every step leads on: the next look is never due at once. -/
theorem Move.leads {m : Step} (hm : Move now a m) (hs : a.stopping = false)
    (hlt : a.leeway < a.interval) : stepsToWait now m.1.phase < stepsToWait now a.phase := by
  cases hm with
  | begin hp =>
      have hnext : ¬ now + a.interval ≤ now := by omega
      simp [hp, stepsToWait, hnext]
  | last hstop => simp [hs] at hstop
  | @tick tick _ hp ht =>
      have hnext : ¬ a.nextTick tick now ≤ now := by
        rw [nextTick]
        split <;> omega
      rcases phase_look now (some (a.nextTick tick now)) a with ⟨save, he⟩ | he <;>
        simp [hp, he, goOn, stepsToWait, ht, hnext]
  | @answer save tick hp hd =>
      rcases goOn_cases tick (a.settle save).1 with ⟨t, rfl, he⟩ | ⟨rfl, l, he⟩ <;>
        rw [he, hp] <;> simp only [stepsToWait]
      · split <;> omega
      · decide

theorem stepsToWait_le (now : Nat) (p : SaverPhase) : stepsToWait now p ≤ 3 := by
  rcases p with _ | _ | ⟨_, _ | _⟩ | _ <;> simp only [stepsToWait] <;>
    first | omega | (split <;> omega)

/-- A turn ends with an autosaver that waits. -/
theorem turn_waits (hlt : a.leeway < a.interval) (now : Nat) : (a.turn now).1.step? now = none := by
  cases hs : a.stopping with
  | true => exact turn_settled hs now
  | false =>
      refine steps_settled_of (P := fun b => b.stopping = false ∧ b.leeway < b.interval)
        (f := (stepsToWait now ·.phase)) ?_ ⟨hs, hlt⟩ ?_
      · rintro b m ⟨hb, hlt⟩ hm
        refine ⟨⟨hm.stopping_eq.trans hb, ?_⟩, hm.leads hb hlt⟩
        rw [hm.spans_eq.1, hm.spans_eq.2]
        exact hlt
      · exact Nat.le_trans (stepsToWait_le now a.phase) (by decide)

end Pace

/-! ### The pace -/

/-- The marks that some events have left by a state go at a pace. What is said of instants holds on
a punctual clock, what is said of spans on any. -/
structure Paced (interval leeway start : Nat) (punctual : Prop) (events : List Event)
    (s : SaverLife) (m : Marks) : Prop where
  marks_eq : m.map (·.2) = s.history.filterMap Deed.mark?
  apart : m.checks.IsChain fun n n' => n + interval ≤ n' + leeway
  first : punctual → ∀ n rest, m.checks = n :: rest → n = start + interval
  check : punctual → ∀ (earlier : Marks) n later, m = earlier ++ (n, .looked false) :: later →
    n = max (earlier.due interval leeway start) (earlier.latest start)
  /-- However many looks were due by the end of a save, one is made right then, and no other before
  the interval is over, less the leeway. -/
  collapsed : punctual → ∀ (earlier later : Marks) e n rest,
    m = earlier ++ (e, .answered) :: later → earlier.due interval leeway start ≤ e →
      later.checks = n :: rest → n = e ∧ ∀ n' ∈ rest, e + interval ≤ n' + leeway
  last : ∀ earlier n later, m = earlier ++ (n, .looked true) :: later →
    .stop ∈ events ∧ ∀ n' last, (n', .looked last) ∉ later
  settles : (s.run (List.replicate work .work)).IsSettled
  /-- No look is overdue while the autosaver waits, but for the save that it may wait for. -/
  waits : punctual → s.IsSettled → .stop ∉ events → s.now < m.due interval leeway start ∨
    ∃ save, s.saver.phase.save? = some save ∧ s.now < save.due

/-- However long the saves take and however they end, and whenever the draft is changed, the looks
of an autosaver go at a pace. It counts in parts of a millisecond, as many as there may be. -/
theorem checks_paced (ms now : Nat) (store : Store) (exercise : String) (interval : Nat)
    (initial : Option Submission) (events : List Event) (hms : 0 < ms) :
    let start := SaverLife.ofSaver now (spawnIn ms store exercise interval initial)
    Paced (max interval (1000 * ms)) (5 * ms) now (start.Punctual events) events
      (start.run events) (start.marks events) := by
  intro start
  have h : OnPace (max interval (1000 * ms)) (5 * ms) now (start.Punctual events)
      (start.run events) (start.marks events) :=
    (onPace_spawn ms now store exercise interval initial _).run id
  have hunstopped (hs : .stop ∉ events) : Unstopped (start.run events) :=
    Unstopped.run ⟨rfl, id⟩ hs
  have hlt : (start.run events).saver.leeway < (start.run events).saver.interval := by
    rw [h.interval_eq, h.leeway_eq]
    omega
  refine ⟨start.map_marks events, h.spaced, ?_, ?_, ?_, ?_, ?_, ?_⟩
  · exact fun hpunctual n rest hn => h.goes.first hpunctual hn
  · exact fun hpunctual earlier n later hm => (hm ▸ h.goes).check.2 hpunctual
  · intro hpunctual earlier later e n rest hm hdue hn
    obtain rfl : n = e := h.goes.right_after hpunctual hm hdue hn
    have hpairwise := h.spaced.pairwise (by omega)
    rw [hm, Marks.checks_append, Marks.checks_of_ne (k := .answered) nofun, hn] at hpairwise
    exact ⟨rfl, (List.pairwise_cons.mp (List.pairwise_append.mp hpairwise).2.1).1⟩
  · intro earlier n later hm
    refine ⟨?_, h.goes.no_look_after_last hm⟩
    by_contra hs
    have hopen : ¬ (start.marks events).IsOpen := fun hopen => hopen n (by simp [hm])
    exact (hunstopped hs).notLast (h.fits.isLast hopen)
  · rw [SaverLife.run_work]
    exact turn_waits hlt _
  · intro hpunctual hsettled hs
    have hfits := h.fits
    have hwait : (start.run events).saver.step? (start.run events).now = none := hsettled
    cases hp : (start.run events).saver.phase with
    | fresh => simp [step?, hp] at hwait
    | idle tick =>
        rw [hp] at hfits
        rw [← (hfits.2.2 hpunctual).1]
        simp [step?, hp, (hunstopped hs).stopping] at hwait
        exact .inl hwait
    | saving save tick =>
        simp [step?, hp] at hwait
        exact .inr ⟨save, rfl, hwait⟩
    | finished => exact absurd (hp ▸ trivial) (hunstopped hs).notLast

/-- In microseconds: the first save ends 3.25 ms after the second look was due, so the third comes
that much sooner than an interval after it. The second save goes on while two looks are due, for
which a single one makes up, and the last look comes right after that. -/
theorem checks_paced_through_slow_saves :
    let draft (text : String) : Submission := .code (.source text "rust")
    let store : Store := ⟨[⟨[], 1503250, none⟩, ⟨[], 4000000, none⟩], .success⟩
    let start := SaverLife.ofSaver 0 (spawnIn 1000 store "e" 1500000 none)
    let events : List Event :=
      [.work, .update (draft "fn a() {}"), .clock 1500000, .work, .clock 3003250, .work, .work,
        .update (draft "fn b() {}"), .clock 4500000, .work, .clock 8500000, .work, .work,
        .update (draft "fn c() {}"), .stop, .work, .work]
    0 < 1000 ∧ start.Punctual events ∧
      (start.marks events).checks = [1500000, 3003250, 4500000, 8500000] ∧
      (start.marks events).getLast? = some (8500000, .answered) ∧
      Paced 1500000 5000 0 (start.Punctual events) events (start.run events)
        (start.marks events) := by
  intro draft store start events
  exact ⟨by decide, by decide, by decide, by decide,
    checks_paced 1000 0 store "e" 1500000 none events (by decide)⟩

end Autosaver

end ExerciseClient
