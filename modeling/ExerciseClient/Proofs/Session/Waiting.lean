import ExerciseClient.Proofs.Session.Drift

/-! To wait for a party of a session. What a party owns is changed by nobody else; when the party
has had a turn it waits, its alarm rings at the instant for which it waits, and then it has its next
turn. So whoever waits for it sees it end after as many waits as it has left. -/

namespace ExerciseClient

namespace Stage

@[simp] theorem call_alarms (s : Stage) (p : Party) : (s.call p).alarms = s.alarms := by
  rw [call]
  split <;> rfl

@[simp] theorem foldl_call_alarms (ps : List Party) (s : Stage) :
    (ps.foldl call s).alarms = s.alarms := by
  induction ps generalizing s with
  | nil => rfl
  | cons p ps ih => rw [List.foldl_cons, ih, call_alarms]

/-- Who was called before is still to take a turn. -/
theorem mem_ready_call {s : Stage} {q : Party} (p : Party) (h : q ∈ s.ready) :
    q ∈ (s.call p).ready := by
  rw [call]
  split
  · exact h
  · exact List.mem_append_left _ h

theorem mem_ready_call_self (s : Stage) (p : Party) : p ∈ (s.call p).ready := by
  rw [call]
  split
  · assumption
  · simp

theorem mem_ready_foldl_call {s : Stage} {q : Party} {ps : List Party}
    (h : q ∈ s.ready ∨ q ∈ ps) : q ∈ (ps.foldl call s).ready := by
  induction ps generalizing s with
  | nil => exact h.resolve_right (by simp)
  | cons p ps ih =>
      apply ih
      rcases h with h | h
      · exact .inl (mem_ready_call p h)
      · rcases List.mem_cons.mp h with rfl | h
        · exact .inl (mem_ready_call_self s q)
        · exact .inr h

theorem watch_ready (p : Party) (s : Stage) : (s.watch p).ready = s.ready := by
  rw [watch]
  split
  · rfl
  · split <;> rfl

/-- Those who are called come after those who were called before. -/
theorem ready_foldl_call (ps : List Party) (s : Stage) :
    ∃ more, (ps.foldl call s).ready = s.ready ++ more := by
  induction ps generalizing s with
  | nil => exact ⟨[], by simp⟩
  | cons p ps ih =>
      obtain ⟨more, h⟩ := ih (s.call p)
      rw [List.foldl_cons, h, call]
      split
      · exact ⟨more, rfl⟩
      · exact ⟨p :: more, by simp⟩

theorem ready_act (p : Party) (s : Stage) : ∃ more, (s.act p).ready = s.ready ++ more := by
  obtain ⟨more, h⟩ := ready_foldl_call (s.session.turn s.now p).called
    (({ s with session := (s.session.turn s.now p).session }.record
      (s.session.turn s.now p).happenings).watch p)
  rw [watch_ready] at h
  exact ⟨more, h⟩

theorem mem_alarms_watch {s : Stage} {q : Party} {t : Nat} (p : Party)
    (h : (q, t) ∈ s.alarms) (hq : q = p → s.session.due p = some t) :
    (q, t) ∈ (s.watch p).alarms := by
  have hkeep : q ≠ p → (q, t) ∈ s.alarms.filter (·.1 != p) := by
    intro hne
    simp [h, hne]
  rw [watch]
  split
  · rename_i hn
    refine hkeep fun he => ?_
    rw [hq he] at hn
    cases hn
  · rename_i t' hd
    split
    · exact h
    · rename_i hnot
      by_cases he : q = p
      · obtain rfl : t = t' := Option.some.inj ((hq he).symm.trans hd)
        exact absurd (he ▸ h) hnot
      · exact List.mem_append_left _ (hkeep he)

/-- A party that waits for an instant has its alarm set. -/
theorem due_mem_alarms_watch {s : Stage} {p : Party} {t : Nat} (h : s.session.due p = some t) :
    (p, t) ∈ (s.watch p).alarms := by
  rw [watch, h]
  simp only
  split
  · assumption
  · simp

/-- The alarm calls the party. -/
theorem mem_ready_moveTo {s : Stage} {q : Party} {t : Nat} (h : (q, t) ∈ s.alarms) :
    q ∈ (s.moveTo t).ready := by
  have hrung : q ∈ (s.alarms.partition (·.2 ≤ t)).1.map (·.1) := by
    rw [List.partition_eq_filter_filter]
    simpa using ⟨t, h, Nat.le_refl t⟩
  exact mem_ready_foldl_call (.inr hrung)

/-- An alarm that is yet to ring stays set. -/
theorem mem_alarms_moveTo {s : Stage} {q : Party} {t t' : Nat} (h : (q, t') ∈ s.alarms)
    (hlt : t < t') : (q, t') ∈ (s.moveTo t).alarms := by
  simp [moveTo, h, hlt]

theorem settleWithin_of_ready {s : Stage} {q : Party} {P R : Stage → Prop}
    (hothers : ∀ p rest s, p ≠ q → P s → P ({ s with ready := rest }.act p))
    (hturn : ∀ rest s, P s → R ({ s with ready := rest }.act q))
    (hkept : ∀ p rest s, R s → R ({ s with ready := rest }.act p)) (h : P s)
    {pre post : List Party} (hready : s.ready = pre ++ q :: post) (hpre : q ∉ pre) {fuel : Nat}
    (hfuel : pre.length < fuel) : R (s.settleWithin fuel) := by
  induction pre generalizing s post fuel with
  | nil =>
      obtain ⟨fuel, rfl⟩ := Nat.exists_eq_add_one_of_ne_zero (Nat.ne_of_gt hfuel)
      simp only [settleWithin, hready, List.nil_append]
      exact settleWithin_induction hkept (hturn post s h) fuel
  | cons p pre ih =>
      obtain ⟨fuel, rfl⟩ :=
        Nat.exists_eq_add_one_of_ne_zero (Nat.ne_of_gt (Nat.zero_lt_of_lt hfuel))
      have hpq : p ≠ q := by
        rintro rfl
        simp at hpre
      -- Whoever goes first may call others, but they come after the party.
      obtain ⟨more, hmore⟩ := ready_act p { s with ready := pre ++ q :: post }
      have hsplit : (({ s with ready := pre ++ q :: post } : Stage).act p).ready =
          pre ++ q :: (post ++ more) := by simpa using hmore
      have hfuel : pre.length < fuel := by simpa using hfuel
      simp only [settleWithin, hready, List.cons_append]
      exact ih (hothers p _ s hpq h) hsplit (by simp_all) hfuel

/-- While things settle a party that was called has its turn. -/
theorem settle_of_ready {s : Stage} {q : Party} {P R : Stage → Prop}
    (hothers : ∀ p rest s, p ≠ q → P s → P ({ s with ready := rest }.act p))
    (hturn : ∀ rest s, P s → R ({ s with ready := rest }.act q))
    (hkept : ∀ p rest s, R s → R ({ s with ready := rest }.act p)) (h : P s)
    (hready : q ∈ s.ready) : R s.settle := by
  obtain ⟨pre, post, hsplit, hpre⟩ := List.eq_append_cons_of_mem hready
  refine settleWithin_of_ready hothers hturn hkept h hsplit hpre ?_
  rw [hsplit, List.length_append]
  omega

end Stage

variable {α : Type}

/-- What a party of a session owns while something holds of the session: nobody else changes it, and
the party's turns and waits are about nothing else. -/
structure Owned (q : Party) (own : Session → α) (turn : Nat → α → α) (due : α → Option Nat)
    (P : Session → Prop) : Prop where
  due_eq : ∀ s, s.due q = due (own s)
  self : ∀ now s, own (s.turn now q).session = turn now (own s)
  others : ∀ now p s, P s → p ≠ q → own (s.turn now p).session = own s
  kept : ∀ now p s, P s → P (s.turn now p).session

/-- A turn changes nothing before the instant that is waited for. -/
def Rests (turn : Nat → α → α) (due : α → Option Nat) (a : α) : Prop :=
  ∀ now, (∀ t, due a = some t → now < t) → turn now a = a

/-- Turns come to an end: after each of them there is a rest, and fewer are left after the next. -/
structure Ends (turn : Nat → α → α) (due : α → Option Nat) (isOver : α → Bool) (left : α → Nat)
    (Q : α → Prop) : Prop where
  kept : ∀ now a, Q a → Q (turn now a)
  later : ∀ now a t, Q a → due (turn now a) = some t → now < t
  rests : ∀ now a, Q a → Rests turn due (turn now a)
  falls : ∀ now a, Q a → isOver (turn now a) = false →
    ∃ t, due (turn now a) = some t ∧ left (turn t (turn now a)) < left (turn now a)

namespace Stage

/-- What the party owns is as it is and waits; its alarm is set if it waits for an instant. -/
structure AtRest (q : Party) (own : Session → α) (due : α → Option Nat) (P : Session → Prop)
    (a : α) (s : Stage) : Prop where
  holds : P s.session
  own_eq : own s.session = a
  alarm : ∀ t, due a = some t → s.now < t ∧ (q, t) ∈ s.alarms

section

variable {q : Party} {own : Session → α} {turn : Nat → α → α} {due : α → Option Nat}
  {P : Session → Prop} {a : α} {s : Stage}

theorem AtRest.act (h : AtRest q own due P a s) (ho : Owned q own turn due P)
    (hr : Rests turn due a) (p : Party) (rest : List Party) :
    AtRest q own due P a ({ s with ready := rest }.act p) := by
  have hown : own (s.session.turn s.now p).session = a := by
    by_cases hp : p = q
    · rw [hp, ho.self, h.own_eq]
      exact hr s.now fun t ht => (h.alarm t ht).1
    · rw [ho.others s.now p s.session h.holds hp, h.own_eq]
  refine ⟨?_, by rw [act_session, hown], fun t ht => ⟨?_, ?_⟩⟩
  · rw [act_session]
    exact ho.kept s.now p s.session h.holds
  · rw [act_now]
    exact (h.alarm t ht).1
  · simp only [Stage.act, foldl_call_alarms]
    refine mem_alarms_watch p (h.alarm t ht).2 ?_
    rintro rfl
    rw [record_session, ho.due_eq, hown, ht]

theorem AtRest.settle (h : AtRest q own due P a s) (ho : Owned q own turn due P)
    (hr : Rests turn due a) : AtRest q own due P a s.settle := by
  refine settleWithin_induction ?_ h _
  intro p rest s h
  exact h.act ho hr p rest

theorem AtRest.moveTo (h : AtRest q own due P a s) {t : Nat}
    (ht : ∀ t', due a = some t' → t < t') : AtRest q own due P a (s.moveTo t) := by
  refine ⟨by rw [moveTo_session]; exact h.holds, by rw [moveTo_session, h.own_eq], ?_⟩
  intro t' ht'
  constructor
  · rw [moveTo_now]
    exact ht t' ht'
  · exact mem_alarms_moveTo (h.alarm t' ht').2 (ht t' ht')

/-- After its turn the party waits. -/
theorem atRest_act (ho : Owned q own turn due P) (hp : P s.session)
    (hlater : ∀ t, due (turn s.now (own s.session)) = some t → s.now < t) :
    AtRest q own due P (turn s.now (own s.session)) (s.act q) := by
  refine ⟨?_, ?_, fun t ht => ⟨?_, ?_⟩⟩
  · rw [act_session]
    exact ho.kept s.now q s.session hp
  · rw [act_session, ho.self]
  · rw [act_now]
    exact hlater t ht
  · simp only [act, foldl_call_alarms]
    apply due_mem_alarms_watch
    rw [record_session, ho.due_eq, ho.self, ht]

/-- Settling gives the party its turn if it was called. -/
theorem atRest_settle (ho : Owned q own turn due P) (hp : P s.session) (hready : q ∈ s.ready)
    (hlater : ∀ t, due (turn s.now (own s.session)) = some t → s.now < t)
    (hr : Rests turn due (turn s.now (own s.session))) :
    AtRest q own due P (turn s.now (own s.session)) s.settle := by
  let Still (s' : Stage) : Prop :=
    P s'.session ∧ own s'.session = own s.session ∧ s'.now = s.now
  refine settle_of_ready (P := Still) ?_ ?_ ?_ ⟨hp, rfl, rfl⟩ hready
  · intro p rest s' hne ⟨hp', hown, hnow⟩
    refine ⟨?_, ?_, (act_now ..).trans hnow⟩
    · rw [act_session]
      exact ho.kept _ p _ hp'
    · rw [act_session]
      exact (ho.others _ p _ hp' hne).trans hown
  · intro rest s' ⟨hp', hown, hnow⟩
    rw [← hnow, ← hown] at hlater ⊢
    exact atRest_act (s := { s' with ready := rest }) ho hp' hlater
  · intro p rest s' h
    exact h.act ho hr p rest

/-- Time passes until the party is over or called at its instant. -/
theorem AtRest.passTo (h : AtRest q own due P a s) (ho : Owned q own turn due P)
    (hr : Rests turn due a) {t : Nat} (ht : due a = some t) (isOver : α → Bool) (now : Nat) :
    let s' := s.passTo (fun s => isOver (own s)) t now
    P s'.session ∧ own s'.session = a ∧ (isOver a = true ∨ s'.now = t ∧ q ∈ s'.ready) := by
  have hmove (t' : Nat) (s : Stage) (hlt : t' < t) (h : AtRest q own due P a s) :
      AtRest q own due P a (s.moveTo t') := by
    apply h.moveTo
    intro t'' ht''
    obtain rfl : t = t'' := Option.some.inj (ht.symm.trans ht'')
    exact hlt
  obtain ⟨s', hs, ⟨he, hh⟩ | he⟩ :=
    passTo_induction (fun _ h => h.settle ho hr) hmove h (fun s => isOver (own s)) now
  · simp only [he]
    exact ⟨hs.holds, hs.own_eq, .inl (hs.own_eq ▸ hh)⟩
  · simp only [he]
    refine ⟨by rw [moveTo_session]; exact hs.holds, by rw [moveTo_session, hs.own_eq], .inr ?_⟩
    exact ⟨moveTo_now .., mem_ready_moveTo (hs.alarm t ht).2⟩

/-- A party that was called is over when its owner has waited for it. -/
theorem isOver_await {isOver : α → Bool} {left : α → Nat} {Q : α → Prop}
    (ho : Owned q own turn due P) (he : Ends turn due isOver left Q) (hp : P s.session)
    (hq : Q (own s.session)) (hready : q ∈ s.ready) {fuel : Nat}
    (hfuel : left (turn s.now (own s.session)) < fuel) :
    isOver (own (s.await q (fun s => isOver (own s)) fuel).session) = true := by
  induction fuel generalizing s with
  | zero => omega
  | succ fuel ih =>
      have hr := he.rests s.now _ hq
      have hrest := atRest_settle ho hp hready (fun t ht => he.later s.now _ t hq ht) hr
      rw [await]
      split
      · assumption
      · rename_i hn
        rw [hrest.own_eq, Bool.not_eq_true] at hn
        obtain ⟨t, ht, hfalls⟩ := he.falls s.now _ hq hn
        have hdue : s.settle.session.due q = some t := by rw [ho.due_eq, hrest.own_eq, ht]
        simp only [hdue]
        obtain ⟨hp', hown, hlater⟩ := hrest.passTo ho hr ht isOver s.settle.now
        obtain ⟨hnow, hcalled⟩ := hlater.resolve_left (by simp [hn])
        apply ih hp' (by rw [hown]; exact he.kept s.now _ hq) hcalled
        rw [hown, hnow]
        omega

end

end Stage

end ExerciseClient
