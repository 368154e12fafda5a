import ExerciseClient.Proofs.Channel.Settling

/-! The states that a channel enters, and when. Rules say what may be entered after the states
entered before. Their order and the lengths of the waits hold on any clock. On a punctual clock,
which does not run past a wait, the instants hold too: the outcome of an attempt falls on the
instant at which it is answered or given up, and the next attempt on the end of a wait. Nothing is
said of how long the owner or the server take. -/

namespace ExerciseClient

/-- How long an attempt lasts that is given up after `timeout`. -/
def Attempt.span (timeout : Nat) : Attempt → Nat
  | .unanswered => timeout
  | .answered delay _ => min delay timeout

/-- The attempt sets a line up; at the instant of the timeout it still does. -/
def Attempt.Opens (timeout : Nat) : Attempt → Prop
  | .answered delay (.accepted ..) => delay ≤ timeout
  | _ => False

/-- An answer that is not past the end of an attempt is not past the timeout. -/
theorem Attempt.eq_end_of_answered {delay start now timeout : Nat} {answer : Answer}
    (ht : start + delay ≤ now) (hnow : now ≤ start + (answered delay answer).span timeout) :
    delay ≤ timeout ∧ now = start + (answered delay answer).span timeout := by
  simp only [span] at hnow ⊢
  omega

/-- An attempt that is given up had no answer by the timeout. -/
theorem Attempt.eq_end_of_late {attempt : Attempt} {start now timeout : Nat}
    (hn : ¬ attempt.IsAnswered start now) (ht : start + timeout ≤ now)
    (hnow : now ≤ start + attempt.span timeout) :
    ¬ attempt.Opens timeout ∧ now = start + attempt.span timeout := by
  cases attempt with
  | unanswered =>
      simp only [span] at hnow ⊢
      exact ⟨id, by omega⟩
  | answered delay answer =>
      simp only [span, IsAnswered] at hn hnow ⊢
      refine ⟨?_, by omega⟩
      cases answer with
      | refused e => exact id
      | accepted log l =>
          rw [Opens]
          omega

/-- The attempt after `k` others. -/
def Connector.nth (c : Connector) (k : Nat) : Attempt := (c.script[k]?).getD c.afterwards

/-- What is left of a connector after `k` attempts. -/
def Connector.after (c : Connector) (k : Nat) : Connector :=
  { c with script := c.script.drop k }

theorem Connector.next_after (c : Connector) (k : Nat) :
    (c.after k).next = (c.nth k, c.after (k + 1)) := by
  cases h : c.script.drop k with
  | nil =>
      have hlen : c.script.length ≤ k := List.drop_eq_nil_iff.mp h
      simp [next, after, nth, h, hlen, Nat.le_succ_of_le]
  | cons a rest =>
      have hk : c.script[k]? = some a := by
        rw [← List.head?_drop, h]
        rfl
      have hrest : c.script.drop (k + 1) = rest := by
        rw [← List.tail_drop, h]
        rfl
      simp [next, after, nth, h, hk, hrest]

namespace Channel

/-- States with the instants at which they were entered, the oldest first. -/
abbrev Entries := List (Nat × ChannelState)

/-- How many attempts were made. -/
def Entries.attempts (es : Entries) : Nat := es.countP (·.2 = .connecting)

/-- How many connections were lost or not made since one stood. -/
def Entries.closedSinceOpen (es : Entries) : Nat :=
  (es.reverse.takeWhile (·.2 ≠ .opened)).countP fun e => e.2 matches .closed _

theorem Entries.attempts_concat (es : Entries) (t : Nat) (state : ChannelState) :
    Entries.attempts (es ++ [(t, state)]) =
      es.attempts + if state = .connecting then 1 else 0 := by
  simp [attempts, List.countP_append, List.countP_cons]

theorem Entries.closedSinceOpen_concat (es : Entries) (t : Nat) (state : ChannelState) :
    Entries.closedSinceOpen (es ++ [(t, state)]) =
      match state with
      | .opened => 0
      | .closed _ => es.closedSinceOpen + 1
      | _ => es.closedSinceOpen := by
  cases state <;> simp [closedSinceOpen]

section Rules

variable (connector : Connector) (backoff : Backoff) (timeout : Nat) (punctual : Prop)

/-- The state that was entered last may stand at an instant. -/
inductive Stands (es : Entries) (now : Nat) : Prop where
  | fresh (h : es = [])
  | connecting {earlier : Entries} {t} (h : es = earlier ++ [(t, .connecting)])
      (ht : punctual → t ≤ now ∧ now ≤ t + (connector.nth earlier.attempts).span timeout)
  | opened {earlier t} (h : es = earlier ++ [(t, .opened)]) (ht : punctual → t ≤ now)
  | closed {earlier t span} (h : es = earlier ++ [(t, .closed span)])
      (ht : punctual → t ≤ now ∧ now ≤ t + span)

/-- A state is entered at an instant after others were. Nothing is entered after `tornDown`. -/
inductive Enters (es : Entries) (now : Nat) : ChannelState → Prop where
  | begins (h : es = []) : Enters es now .connecting
  | again {earlier t span} (h : es = earlier ++ [(t, .closed span)])
      (ht : punctual → now = t + span) : Enters es now .connecting
  | opens {earlier : Entries} {t} (h : es = earlier ++ [(t, .connecting)])
      (ho : punctual → (connector.nth earlier.attempts).Opens timeout)
      (ht : punctual → now = t + (connector.nth earlier.attempts).span timeout) :
      Enters es now .opened
  | fails {earlier : Entries} {t} (h : es = earlier ++ [(t, .connecting)])
      (ho : punctual → ¬ (connector.nth earlier.attempts).Opens timeout)
      (ht : punctual → now = t + (connector.nth earlier.attempts).span timeout) :
      Enters es now (.closed (backoff.delay (min es.closedSinceOpen failureLimit)))
  | drops {earlier t} (h : es = earlier ++ [(t, .opened)]) (ht : punctual → t ≤ now) :
      Enters es now (.closed (backoff.delay (min es.closedSinceOpen failureLimit)))
  | ends (h : Stands connector timeout punctual es now) : Enters es now .tornDown

end Rules

/-- The state that an effect enters. -/
def Deed.entered? : Deed → Option ChannelState
  | .did (.entered state) => some state
  | _ => none

def Deed.isAttempt : Deed → Bool
  | .did .attempted => true
  | _ => false

/-- The states that were entered, and when. -/
def History.entries (h : History) : Entries :=
  h.filterMap fun m => m.2.entered?.map fun state => (m.1, state)

/-- When a connection was tried. -/
def History.attempts (h : History) : List Nat := (h.filter (·.2.isAttempt)).map (·.1)

theorem entries_record (s : Life) (c : Channel) (deeds : List Deed) :
    (s.record c deeds).history.entries =
      s.history.entries ++ (deeds.filterMap (·.entered?)).map fun state => (s.now, state) := by
  simp [Life.record, History.entries, List.filterMap_map, List.map_filterMap, Function.comp_def]

theorem attempts_record (s : Life) (c : Channel) (deeds : List Deed) :
    (s.record c deeds).history.attempts =
      s.history.attempts ++ (deeds.filter (·.isAttempt)).map fun _ => s.now := by
  simp [Life.record, History.attempts, List.filter_map, List.map_map, Function.comp_def]

end Channel

namespace Life

open Channel

/-- The clock moves only while the channel waits, and not past the end of a wait. -/
def Allows (s : Life) : Event → Prop
  | .clock t => s.IsSettled ∧ s.now ≤ t ∧ t ≤ s.channel.due.getD t
  | _ => True

/-- Everything happens on such a clock. -/
def Punctual (s : Life) : List Event → Prop
  | [] => True
  | e :: events => s.Allows e ∧ (s.next e).Punctual events

instance decidableAllows (s : Life) : (e : Event) → Decidable (s.Allows e)
  | .clock t => inferInstanceAs (Decidable (s.IsSettled ∧ s.now ≤ t ∧ t ≤ s.channel.due.getD t))
  | .work | .submit .. | .listen _ | .serve .. | .tearDown => .isTrue trivial

instance decidablePunctual (s : Life) : (events : List Event) → Decidable (s.Punctual events)
  | [] => .isTrue trivial
  | e :: events =>
    have := decidablePunctual (s.next e) events
    inferInstanceAs (Decidable (s.Allows e ∧ (s.next e).Punctual events))

end Life

namespace Channel

/-! ### A channel on schedule -/

section Schedule

variable (connector : Connector) (backoff : Backoff) (timeout : Nat) (punctual : Prop)

/-- How a phase goes with the states that were entered before an instant. -/
def Fits (es : Entries) (now : Nat) : Phase → Prop
  | .fresh => es = []
  | .connecting attempt start => ∃ earlier : Entries, es = earlier ++ [(start, .connecting)] ∧
      attempt = connector.nth earlier.attempts ∧
        (punctual → start ≤ now ∧ now ≤ start + attempt.span timeout)
  | .pumping .. | .closing .. =>
      ∃ earlier t, es = earlier ++ [(t, .opened)] ∧ (punctual → t ≤ now)
  | .waiting due => ∃ earlier t span, es = earlier ++ [(t, .closed span)] ∧ due = t + span ∧
      (punctual → t ≤ now ∧ now ≤ due)
  | .finished => ∃ earlier t, es = earlier ++ [(t, .tornDown)]

theorem Fits.stands {es : Entries} {now : Nat} {p : Phase}
    (h : Fits connector timeout punctual es now p) (hp : p ≠ .finished) :
    Stands connector timeout punctual es now := by
  cases p with
  | fresh => exact .fresh h
  | connecting attempt start =>
      obtain ⟨earlier, he, rfl, ht⟩ := h
      exact .connecting he ht
  | pumping | closing =>
      obtain ⟨earlier, t, he, ht⟩ := h
      exact .opened he ht
  | waiting due =>
      obtain ⟨earlier, t, span, he, rfl, ht⟩ := h
      exact .closed he ht
  | finished => exact absurd rfl hp

/-- The history of a channel follows the rules, and the channel has what they go by. -/
structure OnTime (s : Life) : Prop where
  backoff_eq : s.channel.backoff = backoff
  timeout_eq : s.channel.connectTimeout = timeout
  connector_eq : s.channel.connector = connector.after s.history.entries.attempts
  failures_eq : s.channel.failures = min s.history.entries.closedSinceOpen failureLimit
  state_eq : s.channel.state = (s.history.entries.getLast?.map (·.2)).getD .connecting
  fits : Fits connector timeout punctual s.history.entries s.now s.channel.phase
  enters : ∀ earlier t state later, s.history.entries = earlier ++ (t, state) :: later →
    Enters connector backoff timeout punctual earlier t state
  attempts_eq : s.history.attempts = (s.history.entries.filter (·.2 = .connecting)).map (·.1)
  forGood : ∀ n start, s.channel.phase = .closing n start true → s.channel.stopping = true
  ended : .tornDown ∈ s.history.entries.map (·.2) → s.channel.stopping = true

variable {connector backoff timeout punctual}

/-- What enters no state may change the phase to one that fits. -/
theorem OnTime.keeps {s : Life} (h : OnTime connector backoff timeout punctual s) {c : Channel}
    {deeds : List Deed} (hb : c.backoff = s.channel.backoff)
    (ht : c.connectTimeout = s.channel.connectTimeout) (hk : c.connector = s.channel.connector)
    (hf : c.failures = s.channel.failures) (hstate : c.state = s.channel.state)
    (hs : s.channel.stopping = true → c.stopping = true)
    (hfits : Fits connector timeout punctual s.history.entries s.now c.phase)
    (hg : ∀ n start, c.phase = .closing n start true → c.stopping = true)
    (hd : ∀ d ∈ deeds, d.entered? = none ∧ d.isAttempt = false) :
    OnTime connector backoff timeout punctual (s.record c deeds) := by
  have hentries : (s.record c deeds).history.entries = s.history.entries := by
    rw [entries_record, List.filterMap_eq_nil_iff.mpr fun d hm => (hd d hm).1]
    simp
  have hattempts : (s.record c deeds).history.attempts = s.history.attempts := by
    rw [attempts_record, List.filter_eq_nil_iff.mpr fun d hm => by simp [(hd d hm).2]]
    simp
  refine ⟨?_, ?_, ?_, ?_, ?_, ?_, ?_, ?_, hg, ?_⟩
  · exact hb.trans h.backoff_eq
  · exact ht.trans h.timeout_eq
  · exact hentries ▸ hk.trans h.connector_eq
  · exact hentries ▸ hf.trans h.failures_eq
  · exact hentries ▸ hstate.trans h.state_eq
  · exact hentries ▸ hfits
  · exact hentries ▸ h.enters
  · rw [hentries, hattempts, h.attempts_eq]
  · rw [hentries]
    exact fun hm => hs (h.ended hm)

/-- A state is entered that may be. -/
theorem OnTime.enters_next {s : Life} (h : OnTime connector backoff timeout punctual s)
    {c : Channel} {deeds : List Deed} {state : ChannelState} (hb : c.backoff = s.channel.backoff)
    (ht : c.connectTimeout = s.channel.connectTimeout)
    (hd : deeds.filterMap (·.entered?) = [state])
    (ha : (deeds.filter (·.isAttempt)).length = if state = .connecting then 1 else 0)
    (hk : c.connector = connector.after
      (Entries.attempts (s.history.entries ++ [(s.now, state)])))
    (hf : c.failures =
      min (Entries.closedSinceOpen (s.history.entries ++ [(s.now, state)])) failureLimit)
    (hstate : c.state = state)
    (he : Enters connector backoff timeout punctual s.history.entries s.now state)
    (hs : c.stopping = s.channel.stopping)
    (hfits : Fits connector timeout punctual (s.history.entries ++ [(s.now, state)]) s.now c.phase)
    (hg : ∀ n start, c.phase ≠ .closing n start true)
    (hend : state = .tornDown → s.channel.stopping = true) :
    OnTime connector backoff timeout punctual (s.record c deeds) := by
  have hentries : (s.record c deeds).history.entries = s.history.entries ++ [(s.now, state)] := by
    rw [entries_record, hd]
    rfl
  refine ⟨?_, ?_, ?_, ?_, ?_, ?_, ?_, ?_, ?_, ?_⟩
  · exact hb.trans h.backoff_eq
  · exact ht.trans h.timeout_eq
  · exact hentries ▸ hk
  · exact hentries ▸ hf
  · rw [hentries, List.getLast?_concat]
    exact hstate
  · exact hentries ▸ hfits
  · intro earlier t state' later hsplit
    rw [hentries] at hsplit
    rcases List.eq_nil_or_concat later with rfl | ⟨later, last, rfl⟩
    · obtain ⟨rfl, hlast⟩ := List.append_inj' hsplit rfl
      cases hlast
      exact he
    · rw [List.concat_eq_append, ← List.cons_append, ← List.append_assoc] at hsplit
      exact h.enters earlier t state' later (List.append_inj' hsplit rfl).1
  · rw [hentries, attempts_record, h.attempts_eq, List.filter_append, List.map_append,
      List.map_const', ha]
    split <;> rename_i hst <;> simp [hst]
  · intro n start hp
    exact absurd hp (hg n start)
  · rw [hentries, List.map_append, List.mem_append]
    rintro (hm | hm)
    · exact hs.trans (h.ended hm)
    · exact hs.trans (hend (List.mem_singleton.mp hm).symm)

/-- The end comes when the channel is torn down. -/
theorem OnTime.finish {s : Life} (h : OnTime connector backoff timeout punctual s)
    (hs : s.channel.stopping = true) (hp : s.channel.phase ≠ .finished)
    {effects : List ChannelEffect}
    (hd : (effects.map Deed.did).filterMap (·.entered?) = [.tornDown])
    (ha : (effects.map Deed.did).filter (·.isAttempt) = []) :
    OnTime connector backoff timeout punctual (s.record s.channel.finish.1 (effects.map .did)) := by
  refine h.enters_next rfl rfl hd (by rw [ha]; rfl) ?_ ?_ rfl (.ends (h.fits.stands _ _ _ hp)) rfl
    ⟨_, _, rfl⟩ (by simp [Channel.finish]) fun _ => hs
  · rw [Entries.attempts_concat]
    exact h.connector_eq
  · rw [Entries.closedSinceOpen_concat]
    exact h.failures_eq

theorem OnTime.attempt {s : Life} (h : OnTime connector backoff timeout punctual s)
    (he : Enters connector backoff timeout punctual s.history.entries s.now .connecting) :
    OnTime connector backoff timeout punctual
      (s.record (s.channel.attempt s.now).1 ((s.channel.attempt s.now).2.map .did)) := by
  have hnext := connector.next_after s.history.entries.attempts
  rw [← h.connector_eq] at hnext
  refine h.enters_next rfl rfl rfl rfl ?_ ?_ rfl he rfl ?_ (by simp [Channel.attempt]) (by simp)
  · rw [Entries.attempts_concat]
    exact congrArg Prod.snd hnext
  · rw [Entries.closedSinceOpen_concat]
    exact h.failures_eq
  · exact ⟨_, rfl, congrArg Prod.fst hnext, fun _ => ⟨Nat.le_refl _, Nat.le_add_right _ _⟩⟩

theorem OnTime.retry {s : Life} (h : OnTime connector backoff timeout punctual s)
    {effects : List ChannelEffect}
    (he : Enters connector backoff timeout punctual s.history.entries s.now
      (.closed (backoff.delay (min s.history.entries.closedSinceOpen failureLimit))))
    (hd : (effects.map Deed.did).filterMap (·.entered?) =
      [.closed (s.channel.backoff.delay s.channel.failures)])
    (ha : (effects.map Deed.did).filter (·.isAttempt) = []) :
    OnTime connector backoff timeout punctual
      (s.record (s.channel.retry s.now).1 (effects.map .did)) := by
  have hspan : s.channel.backoff.delay s.channel.failures =
      backoff.delay (min s.history.entries.closedSinceOpen failureLimit) := by
    rw [h.backoff_eq, h.failures_eq]
  rw [← hspan] at he
  refine h.enters_next rfl rfl hd (by rw [ha]; rfl) ?_ ?_ rfl he rfl ?_ (by simp [Channel.retry])
    (by simp)
  · rw [Entries.attempts_concat]
    exact h.connector_eq
  · rw [Entries.closedSinceOpen_concat]
    simp only [Channel.retry, h.failures_eq]
    omega
  · exact ⟨_, _, _, rfl, rfl, fun _ => ⟨Nat.le_refl _, Nat.le_add_right _ _⟩⟩

/-- Reading a frame enters no state. -/
theorem entered?_dispatch (n : Nat) (text : String) (c : Channel) :
    ∀ d ∈ (c.dispatch n text).2.map Deed.did, d.entered? = none ∧ d.isAttempt = false := by
  intro d hd
  obtain ⟨e, he, rfl⟩ := List.mem_map.mp hd
  rcases mem_dispatch he with rfl | ⟨l, rfl⟩ | ⟨name, r, rfl⟩ <;> exact ⟨rfl, rfl⟩

theorem OnTime.take {s : Life} (h : OnTime connector backoff timeout punctual s) (l : Line)
    (log : Log) (he : Enters connector backoff timeout punctual s.history.entries s.now .opened) :
    OnTime connector backoff timeout punctual
      (s.record (s.channel.take l log).1 ((s.channel.take l log).2.map .did)) := by
  refine h.enters_next rfl rfl ?_ ?_ ?_ ?_ rfl he rfl ⟨_, _, rfl, fun _ => Nat.le_refl _⟩
    (by simp [Channel.take]) nofun
  · simp [Channel.take, List.filterMap_map, Function.comp_def, Deed.entered?]
  · simp [Channel.take, List.filter_map, Function.comp_def, Deed.isAttempt]
  · rw [Entries.attempts_concat]
    exact h.connector_eq
  · rw [Entries.closedSinceOpen_concat]
    rfl

theorem OnTime.move {s : Life} {m : Step} (h : OnTime connector backoff timeout punctual s)
    (hm : Move s.now s.channel m) :
    OnTime connector backoff timeout punctual (s.record m.1 (m.2.map .did)) := by
  have hfits := h.fits
  cases hm with
  | finish hs hp =>
      refine h.finish hs ?_ rfl rfl
      intro hf
      rw [hf] at hp
      exact hp
  | begin hs hp =>
      rw [hp] at hfits
      exact h.attempt (.begins hfits)
  | again hs hp hd =>
      rw [hp] at hfits
      obtain ⟨earlier, t, span, he, rfl, ht⟩ := hfits
      exact h.attempt (.again he fun hpunctual => Nat.le_antisymm (ht hpunctual).2 hd)
  | @accepted delay log l start hs hp ht =>
      rw [hp] at hfits
      obtain ⟨earlier, he, ha, hbounds⟩ := hfits
      refine h.take l log (.opens he ?_ ?_) <;> intro hpunctual <;> rw [← ha]
      · exact (Attempt.eq_end_of_answered ht (hbounds hpunctual).2).1
      · exact (Attempt.eq_end_of_answered ht (hbounds hpunctual).2).2
  | @refused delay e start hs hp ht line hline =>
      rw [hp] at hfits
      obtain ⟨earlier, he, ha, hbounds⟩ := hfits
      refine h.retry (.fails he ?_ ?_) rfl rfl <;> intro hpunctual <;> rw [← ha]
      · exact id
      · exact (Attempt.eq_end_of_answered ht (hbounds hpunctual).2).2
  | @late attempt start hs hp hn ht line hline =>
      rw [hp] at hfits
      obtain ⟨earlier, he, ha, hbounds⟩ := hfits
      rw [h.timeout_eq] at ht
      refine h.retry (.fails he ?_ ?_) rfl rfl <;> intro hpunctual <;> rw [← ha]
      · exact (Attempt.eq_end_of_late hn ht (hbounds hpunctual).2).1
      · exact (Attempt.eq_end_of_late hn ht (hbounds hpunctual).2).2
  | leave hs hp =>
      rw [hp] at hfits
      exact h.keeps rfl rfl rfl rfl rfl id hfits (fun _ _ _ => hs)
        (by simp [letGo, Deed.entered?, Deed.isAttempt])
  | send hs hp hl hf =>
      rw [hp] at hfits
      exact h.keeps rfl rfl rfl rfl rfl id hfits (by simp) (by simp [Deed.entered?, Deed.isAttempt])
  | sendFailed hs hp hl hf =>
      rw [hp] at hfits
      exact h.keeps rfl rfl rfl rfl rfl id hfits (by simp [loseAfter, letGo])
        (by simp [loseAfter, letGo, Deed.entered?, Deed.isAttempt])
  | @readText n l text inbox hs hp hl hi =>
      let d : Channel := { s.channel with lines := s.channel.lines.set n { l with inbox } }
      have heffects := entered?_dispatch n text d
      obtain ⟨last, received, he⟩ := dispatch_fst n text d
      rw [he]
      exact h.keeps rfl rfl rfl rfl rfl id hfits (by simp [d, hp]) heffects
  | readNotice hs hp hl hi =>
      exact h.keeps rfl rfl rfl rfl rfl id hfits (by simp [hp])
        (by simp [Deed.entered?, Deed.isAttempt])
  | readBroken hs hp hl hi =>
      rw [hp] at hfits
      exact h.keeps rfl rfl rfl rfl rfl id hfits (by simp [loseAfter, letGo])
        (by simp [loseAfter, letGo, Deed.entered?, Deed.isAttempt])
  | readEnd hs hp hl hi =>
      rw [hp] at hfits
      exact h.keeps rfl rfl rfl rfl rfl id hfits (by simp [loseAfter, letGo])
        (by simp [loseAfter, letGo, Deed.entered?, Deed.isAttempt])
  | @closeEnded n start forGood e hp he =>
      rw [hp] at hfits
      obtain ⟨earlier, t, hes, ht⟩ := hfits
      cases forGood with
      | true =>
          refine h.finish (h.forGood n start hp) (by simp [hp]) ?_ ?_ <;>
            rcases closeEnd?_cases he with rfl | ⟨l, rfl⟩ <;> rfl
      | false =>
          refine h.retry (.drops hes ht) ?_ ?_ <;>
            rcases closeEnd?_cases he with rfl | ⟨l, rfl⟩ <;> rfl

theorem due_connecting {c : Channel} {attempt : Attempt} {start : Nat}
    (hp : c.phase = .connecting attempt start) :
    c.due = some (start + attempt.span c.connectTimeout) := by
  cases attempt <;> simp [due, hp, Attempt.span]

/-- Time that is allowed to pass leaves every phase within its bounds. -/
theorem Fits.clock {s : Life} {es : Entries} {t : Nat} (ht : s.channel.connectTimeout = timeout)
    (h : Fits connector timeout punctual es s.now s.channel.phase)
    (ha : punctual → s.Allows (.clock t)) :
    Fits connector timeout punctual es t s.channel.phase := by
  cases hp : s.channel.phase with
  | fresh =>
      rw [hp] at h
      exact h
  | connecting attempt start =>
      rw [hp] at h
      obtain ⟨earlier, he, hattempt, hbounds⟩ := h
      refine ⟨earlier, he, hattempt, fun hpunctual => ?_⟩
      obtain ⟨_, hle, hdue⟩ := ha hpunctual
      rw [due_connecting hp, ht, Option.getD_some] at hdue
      exact ⟨Nat.le_trans (hbounds hpunctual).1 hle, hdue⟩
  | pumping | closing =>
      rw [hp] at h
      obtain ⟨earlier, t', he, ht'⟩ := h
      refine ⟨earlier, t', he, fun hpunctual => ?_⟩
      exact Nat.le_trans (ht' hpunctual) (ha hpunctual).2.1
  | waiting due =>
      rw [hp] at h
      obtain ⟨earlier, t', span, he, rfl, hbounds⟩ := h
      refine ⟨earlier, t', span, he, rfl, fun hpunctual => ?_⟩
      obtain ⟨_, hle, hdue⟩ := ha hpunctual
      have hd : s.channel.due = some (t' + span) := by simp [Channel.due, hp]
      rw [hd, Option.getD_some] at hdue
      exact ⟨Nat.le_trans (hbounds hpunctual).1 hle, hdue⟩
  | finished =>
      rw [hp] at h
      exact h

theorem OnTime.next {s : Life} (h : OnTime connector backoff timeout punctual s) {e : Event}
    (ha : punctual → s.Allows e) : OnTime connector backoff timeout punctual (s.next e) := by
  cases e with
  | work =>
      rcases s.next_work with ⟨_, he⟩ | ⟨m, hm, he⟩
      · rwa [he]
      · rw [he]
        exact h.move hm
  | clock t => exact { h with fits := Fits.clock (s := s) h.timeout_eq h.fits ha }
  | submit exercise submission =>
      have hfits := h.fits
      rw [Life.next_submit]
      rcases submit_cases s.channel exercise submission with
        ⟨n, frames, v, _, _, hp, _, he⟩ | ⟨_, _, he⟩
      · rw [hp] at hfits
        rw [he]
        exact h.keeps rfl rfl rfl rfl rfl id hfits (by simp)
          (by simp [Deed.entered?, Deed.isAttempt])
      · rw [he]
        exact h.keeps rfl rfl rfl rfl rfl id hfits h.forGood
          (by simp [Deed.entered?, Deed.isAttempt])
  | listen listener =>
      exact h.keeps rfl rfl rfl rfl rfl id h.fits h.forGood
        (by simp [Deed.entered?, Deed.isAttempt])
  | serve line a =>
      obtain ⟨lines, he, _⟩ := serve_snd s.channel line a
      rw [Life.next_serve, he]
      exact h.keeps rfl rfl rfl rfl rfl id h.fits h.forGood
        (by simp [Deed.entered?, Deed.isAttempt])
  | tearDown =>
      exact h.keeps rfl rfl rfl rfl rfl (fun _ => rfl) h.fits (fun _ _ _ => rfl)
        (by simp [Deed.entered?, Deed.isAttempt])

theorem OnTime.run {s : Life} (h : OnTime connector backoff timeout punctual s)
    {events : List Event} (hp : punctual → s.Punctual events) :
    OnTime connector backoff timeout punctual (s.run events) := by
  induction events generalizing s with
  | nil => exact h
  | cons e events ih =>
      exact ih (h.next fun hpunctual => (hp hpunctual).1) fun hpunctual => (hp hpunctual).2

theorem onTime_connect (now : Nat) (url : String) :
    OnTime connector backoff timeout punctual
      (Life.ofChannel now (connect url connector backoff timeout)) := by
  refine ⟨rfl, rfl, rfl, rfl, rfl, rfl, ?_, rfl, ?_, ?_⟩ <;>
    simp [Life.ofChannel, History.entries, connect]

/-! ### A channel that waits has time left -/

theorem lt_of_settled_connecting {now start : Nat} {c : Channel} {attempt : Attempt}
    (hp : c.phase = .connecting attempt start) (h : c.step? now = none) :
    now < start + attempt.span c.connectTimeout := by
  refine Nat.lt_of_not_le fun hle => ?_
  simp only [step?, hp] at h
  split at h
  · simp at h
  · cases attempt with
    | unanswered => simp_all [await?, await?.late?, Attempt.span]
    | answered delay answer =>
        simp only [Attempt.span] at hle
        simp only [await?] at h
        split at h
        · cases answer <;> simp at h
        · have hlate : start + c.connectTimeout ≤ now := by omega
          simp [await?.late?, hlate] at h

theorem lt_of_settled_waiting {now due : Nat} {c : Channel} (hp : c.phase = .waiting due)
    (h : c.step? now = none) : now < due := by
  refine Nat.lt_of_not_le fun hle => ?_
  rw [step?, hp] at h
  cases hs : c.stopping with
  | true => simp [hs] at h
  | false => simp [hs, hle] at h

end Schedule

/-- The states of a channel, the attempts and the waits go by the rules; whenever the channel has
worked until it has to wait, no attempt and no wait is overdue. -/
structure Schedule (connector : Connector) (backoff : Backoff) (timeout : Nat) (punctual : Prop)
    (s : Life) : Prop where
  state_eq : s.channel.state = (s.history.entries.getLast?.map (·.2)).getD .connecting
  enters : ∀ earlier t state later, s.history.entries = earlier ++ (t, state) :: later →
    Enters connector backoff timeout punctual earlier t state
  attempts_eq : s.history.attempts = (s.history.entries.filter (·.2 = .connecting)).map (·.1)
  stands : s.channel.state ≠ .tornDown → Stands connector timeout punctual s.history.entries s.now
  attempting : s.IsSettled → ∀ (earlier : Entries) t,
    s.history.entries = earlier ++ [(t, .connecting)] →
      s.now < t + (connector.nth earlier.attempts).span timeout
  waiting : s.IsSettled → ∀ earlier t span,
    s.history.entries = earlier ++ [(t, .closed span)] → s.now < t + span
  settles : (s.run (List.replicate s.channel.work .work)).IsSettled
  ended : .tornDown ∈ s.history.entries.map (·.2) → .tornDown ∈ s.history.deeds

theorem schedule_of {connector : Connector} {backoff : Backoff} {timeout : Nat} {punctual : Prop}
    {s : Life} (h : OnTime connector backoff timeout punctual s) (hu : Unhurried s.channel)
    (hc : Coherent s.channel) (ht : TellsTorn s) :
    Schedule connector backoff timeout punctual s := by
  have hfits := h.fits
  refine ⟨h.state_eq, h.enters, h.attempts_eq, ?_, ?_, ?_, ?_, ?_⟩
  · intro hs
    exact h.fits.stands _ _ _ fun hp => hs (hc.tornDown_iff.mpr hp)
  · intro hs earlier t he
    have hshows := hc.shows
    rw [h.state_eq, he, List.getLast?_concat] at hshows
    cases hp : s.channel.phase with
    | connecting attempt start =>
        rw [hp] at hfits
        obtain ⟨earlier', he', rfl, _⟩ := hfits
        obtain ⟨rfl, hlast⟩ := List.append_inj' (he.symm.trans he') rfl
        cases hlast
        exact h.timeout_eq ▸ lt_of_settled_connecting hp hs
    | fresh => simp [Life.IsSettled, step?, hp] at hs
    | pumping | closing | waiting | finished => simp [hp, Phase.Shows] at hshows
  · intro hs earlier t span he
    have hshows := hc.shows
    rw [h.state_eq, he, List.getLast?_concat] at hshows
    cases hp : s.channel.phase with
    | waiting due =>
        rw [hp] at hfits
        obtain ⟨earlier', t', span', he', rfl, _⟩ := hfits
        obtain ⟨rfl, hlast⟩ := List.append_inj' (he.symm.trans he') rfl
        cases hlast
        exact lt_of_settled_waiting hp hs
    | fresh | connecting | pumping | closing | finished => simp [hp, Phase.Shows] at hshows
  · rw [Life.run_work]
    exact turn_settled hu s.now
  · exact fun hm => ht.mpr (h.ended hm)

/-- A channel whose backoff knows no wait of zero keeps to its schedule: the order of its states
and the lengths of its waits on any clock, and the instants on a punctual one. -/
theorem channel_on_schedule (now : Nat) (url : String) (connector : Connector) (backoff : Backoff)
    (timeout : Nat) (events : List Event) (hbase : 0 < backoff.base) (hmax : 0 < backoff.max) :
    let start := Life.ofChannel now (connect url connector backoff timeout)
    Schedule connector backoff timeout (start.Punctual events) (start.run events) := by
  intro start
  have hstart : OnTime connector backoff timeout (start.Punctual events) start :=
    onTime_connect now url
  have hontime : OnTime connector backoff timeout (start.Punctual events) (start.run events) :=
    hstart.run id
  have hcoherent : Coherent (start.run events).channel :=
    (coherent_connect url connector backoff timeout).run (s := start) events
  refine schedule_of hontime (.inr ?_) hcoherent
    ((tellsTorn_connect now url connector backoff timeout).run events)
  rw [hontime.backoff_eq]
  exact ⟨hbase, hmax⟩

/-- A refusal, a wait, an attempt that is given up, a longer wait, and a line that the server ends
at last. -/
theorem channel_on_schedule_through_losses :
    let connector : Connector :=
      ⟨[.answered 0 (.refused (.connect "" "")), .unanswered, .answered 500 (.accepted [] .plain)],
        .unanswered⟩
    let events : List Event :=
      [.work, .work, .clock 100, .work, .clock 600, .work, .clock 800, .work, .clock 1300, .work,
        .clock 2000, .serve none .hangUp, .work, .work]
    let start := Life.ofChannel 0 (connect "" connector ⟨100, 1000⟩ 500)
    start.Punctual events ∧ (start.run events).channel.state = .closed 100 ∧
      Schedule connector ⟨100, 1000⟩ 500 (start.Punctual events) (start.run events) :=
  ⟨by decide, by decide,
    channel_on_schedule 0 "" _ ⟨100, 1000⟩ 500 _ (by decide) (by decide)⟩

end Channel

end ExerciseClient
