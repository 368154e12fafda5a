import ExerciseClient.Proofs.Channel.Path
import ExerciseClient.Proofs.Place

/-! How lines follow each other. A line is closed once, nothing comes of it afterwards, and until
its close is over the channel does nothing else. -/

namespace ExerciseClient

namespace Channel

variable {punctual : Prop} {closings : List Closing} {a b : Standing} {h h' : History}

/-! ### What a path says -/

def Deed.isOpening : Deed → Bool
  | .did (.entered .opened) => true
  | _ => false

def Deed.begun? : Deed → Option Nat
  | .did (.closeBegun n) => some n
  | _ => none

/-- How many connections were accepted. -/
def History.opened (h : History) : Nat := h.countP (·.2.isOpening)

/-- The lines whose close was begun. -/
def History.begun (h : History) : List Nat := h.filterMap (·.2.begun?)

/-- The line that is sent on, read or closed. -/
def uses? : ChannelEffect → Option Nat
  | .sent n _ | .unsent n _ | .dispatched n _ | .closeBegun n => some n
  | _ => none

namespace Standing

/-- How many lines there are. -/
def opened : Standing → Nat
  | offline k => k
  | held n | closing n _ => n + 1

/-- Of how many lines the close was begun. -/
def begun : Standing → Nat
  | offline k | held k => k
  | closing n _ => n + 1

/-- Of how many lines the close is over. -/
def closed : Standing → Nat
  | offline k | held k | closing k _ => k

end Standing

theorem Apart.neutral {e : ChannelEffect} (he : Apart e) :
    (Deed.did e).isOpening = false ∧ (Deed.did e).begun? = none ∧ uses? e = none := by
  cases he <;> exact ⟨rfl, rfl, rfl⟩

theorem CloseEnds.neutral {n start now : Nat} {closing : Closing} {e : ChannelEffect}
    (he : CloseEnds punctual n start now closing e) :
    (Deed.did e).isOpening = false ∧ (Deed.did e).begun? = none ∧ uses? e = none := by
  cases he <;> exact ⟨rfl, rfl, rfl⟩

theorem Carries.neutral {n : Nat} {e : ChannelEffect} (he : Carries n e) :
    (Deed.did e).isOpening = false ∧ (Deed.did e).begun? = none ∧
      (uses? e = none ∨ uses? e = some n) := by
  cases he <;> simp [Deed.isOpening, Deed.begun?, uses?]

theorem neutral_of_own? {d : Deed} (hd : d.own? = none) :
    d.isOpening = false ∧ d.begun? = none := by
  cases d with
  | did e => cases hd
  | submitted | listened | served | tornDown => exact ⟨rfl, rfl⟩

theorem Goes.counts {m : Nat × Deed} (hm : Goes punctual closings a m b) :
    a.opened + (if m.2.isOpening then 1 else 0) = b.opened ∧
      List.range a.begun ++ m.2.begun?.toList = List.range b.begun := by
  cases hm with
  | aside _ _ hd => simp [neutral_of_own? hd]
  | apart k t he => simp [he.neutral]
  | opened k t => simp [Deed.isOpening, Deed.begun?, Standing.opened, Standing.begun]
  | carries t he => simp [he.neutral]
  | begun n t =>
      simp [Deed.isOpening, Deed.begun?, Standing.opened, Standing.begun, List.range_succ]
  | ended hc he => simp [he.neutral, Standing.opened, Standing.begun]

/-- Connections are accepted, and closes begun, in the order of the lines. -/
theorem Path.counts (hp : Path punctual closings a h b) :
    a.opened + h.opened = b.opened ∧ List.range a.begun ++ h.begun = List.range b.begun := by
  induction hp with
  | nil a => simp [History.opened, History.begun]
  | @cons a m b h c hm _ ih =>
      obtain ⟨hopened, hbegun⟩ := hm.counts
      have hcount : History.opened (m :: h) = (if m.2.isOpening then 1 else 0) + h.opened := by
        rw [History.opened, List.countP_cons, Nat.add_comm]
        rfl
      have hlist : History.begun (m :: h) = m.2.begun?.toList ++ h.begun := by
        rw [History.begun, List.filterMap_cons]
        cases m.2.begun? <;> rfl
      rw [hcount, hlist, ← List.append_assoc, hbegun, ← Nat.add_assoc, hopened]
      exact ih

/-- The close of a line is behind a channel, or was begun. -/
def Standing.IsPast (n : Nat) : Standing → Prop
  | .offline k | .held k => n < k
  | .closing k _ => n ≤ k

theorem Goes.isPast {n : Nat} {m : Nat × Deed} (hm : Goes punctual closings a m b)
    (ha : a.IsPast n) : b.IsPast n ∧ ∀ e, m.2 = .did e → uses? e ≠ some n := by
  cases hm with
  | aside _ _ hd =>
      refine ⟨ha, ?_⟩
      rintro e rfl
      cases hd
  | apart k t he =>
      refine ⟨ha, ?_⟩
      rintro e ⟨⟩
      simp [he.neutral]
  | opened k t =>
      refine ⟨ha, ?_⟩
      rintro e ⟨⟩
      simp [uses?]
  | @carries k t e he =>
      have hlt : n < k := ha
      refine ⟨ha, ?_⟩
      rintro e ⟨⟩
      rcases he.neutral.2.2 with hu | hu <;> rw [hu]
      · simp
      · simp only [ne_eq, Option.some.injEq]
        omega
  | begun k t =>
      have hlt : n < k := ha
      refine ⟨Nat.le_of_lt hlt, ?_⟩
      rintro e ⟨⟩
      simp only [uses?, ne_eq, Option.some.injEq]
      omega
  | ended hc he =>
      refine ⟨Nat.lt_succ_of_le ha, ?_⟩
      rintro e ⟨⟩
      simp [he.neutral]

/-- Once its close was begun, nothing comes of a line. -/
theorem Path.isPast {n : Nat} (hp : Path punctual closings a h b) (ha : a.IsPast n) :
    ∀ m ∈ h, ∀ e, m.2 = .did e → uses? e ≠ some n := by
  induction hp with
  | nil => simp
  | cons hm _ ih =>
      obtain ⟨hb, hfirst⟩ := hm.isPast ha
      exact List.forall_mem_cons.mpr ⟨hfirst, ih hb⟩

/-- The close of a line was begun, then the channel did nothing else until it was over, and it is
over. -/
inductive Closed (punctual : Prop) (closings : List Closing) (n : Nat) : History → Prop where
  | mk {before start between t e after closing} (hbetween : ∀ m ∈ between, m.2.own? = none)
      (hc : closings[n]? = some closing) (he : CloseEnds punctual n start t closing e) :
      Closed punctual closings n
        (before ++ (start, .did (.closeBegun n)) :: (between ++ (t, .did e) :: after))

theorem Closed.append_left {n : Nat} (hc : Closed punctual closings n h) (earlier : History) :
    Closed punctual closings n (earlier ++ h) := by
  obtain ⟨hbetween, hc, he⟩ := hc
  rw [← List.append_assoc]
  exact .mk hbetween hc he

/-- While a close is under way it is all that is done. -/
theorem Path.of_closing {n start : Nat} (hp : Path punctual closings (.closing n start) h b) :
    (b = .closing n start ∧ ∀ m ∈ h, m.2.own? = none) ∨
      Closed punctual closings n ((start, .did (.closeBegun n)) :: h) := by
  -- the induction is on what follows: either all of it is aside, or the first deed that is not
  -- ends the close
  have hsplit : (b = .closing n start ∧ ∀ m ∈ h, m.2.own? = none) ∨
      ∃ between t e after closing, h = between ++ (t, .did e) :: after ∧
        (∀ m ∈ between, m.2.own? = none) ∧ closings[n]? = some closing ∧
          CloseEnds punctual n start t closing e := by
    induction h with
    | nil =>
        cases hp
        exact .inl ⟨rfl, by simp⟩
    | cons m h ih =>
        cases hp with
        | cons hm hp =>
            cases hm with
            | aside a t hd =>
                rcases ih hp with ⟨hb, hall⟩ | ⟨between, t', e, after, closing, rfl, hall, hc, he⟩
                · exact .inl ⟨hb, List.forall_mem_cons.mpr ⟨hd, hall⟩⟩
                · exact .inr ⟨_ :: between, t', e, after, closing, rfl,
                    List.forall_mem_cons.mpr ⟨hd, hall⟩, hc, he⟩
            | ended hc he => exact .inr ⟨[], _, _, h, _, rfl, by simp, hc, he⟩
  rcases hsplit with hopen | ⟨between, t, e, after, closing, rfl, hall, hc, he⟩
  · exact .inl hopen
  · exact .inr (@Closed.mk _ _ _ [] _ _ _ _ _ _ hall hc he)

/-- The closes that are behind a channel are over. -/
theorem Path.closed {n : Nat} (hp : Path punctual closings a h b) (ha : a.begun ≤ n)
    (hb : n < b.closed) : Closed punctual closings n h := by
  induction hp with
  | nil a => cases a <;> simp only [Standing.begun, Standing.closed] at ha hb <;> omega
  | @cons a m b h c hm hp ih =>
      by_cases hbegun : b.begun ≤ n
      · exact (ih hbegun hb).append_left [m]
      · cases hm with
        | begun k t =>
            obtain rfl : k = n := by
              simp only [Standing.begun] at ha hbegun
              omega
            rcases hp.of_closing with ⟨rfl, -⟩ | hclosed
            · simp [Standing.closed] at hb
            · exact hclosed
        | aside | apart | opened | carries | ended =>
            simp only [Standing.begun] at ha hbegun
            omega

/-! ### Why lines are closed -/

/-- How the effects of a move part with a line. -/
inductive Parts (stopping : Bool) : List ChannelEffect → Prop where
  | stays {effects} (hc : ∀ n, .closeBegun n ∉ effects) (hu : ∀ n f, .unsent n f ∉ effects) :
      Parts stopping effects
  | leaves (n) (hs : stopping = true) : Parts stopping [.closeBegun n]
  | loses (n) {l} (hl : IsLoss l) : Parts stopping [.logged l, .closeBegun n]
  | fails (n f) {l} (hl : IsLoss l) : Parts stopping [.unsent n f, .logged l, .closeBegun n]

theorem Move.parts {now : Nat} {c : Channel} {s : Step} (hm : Move now c s) :
    Parts c.stopping s.2 := by
  cases hm with
  | finish => apply Parts.stays <;> simp [Channel.finish]
  | begin | again => apply Parts.stays <;> simp [attempt]
  | accepted => apply Parts.stays <;> simp [take]
  | refused | late => apply Parts.stays <;> simp [retryAfter, retry]
  | leave hs hp => exact .leaves _ hs
  | send | readNotice => apply Parts.stays <;> simp
  | sendFailed hs hp hl hf line hline => exact .fails _ _ (hline ▸ .send _)
  | readText =>
      refine .stays (fun m he => ?_) fun m f he => ?_
      · cases carries_dispatch _ he
      · rcases mem_dispatch he with he | ⟨l, he⟩ | ⟨name, r, he⟩ <;> cases he
  | readBroken hs hp hl hi line hline => exact .loses _ (hline ▸ .broken _)
  | readEnd => exact .loses _ .ended
  | @closeEnded n start forGood e hp he =>
      rcases closeEnd?_cases he with rfl | ⟨l, rfl⟩ <;> cases forGood <;>
        apply Parts.stays <;> simp [goOn, retry, Channel.finish]

/-- A close begins after the channel was torn down or right after a loss was logged, and a send that
failed is such a loss. -/
structure Grounded (h : History) : Prop where
  cause : ∀ (before : History) start n after,
    h = before ++ (start, .did (.closeBegun n)) :: after → .tornDown ∈ before.deeds ∨
      ∃ earlier l, IsLoss l ∧ before = earlier ++ [(start, .did (.logged l))]
  failed : ∀ (before : History) t n f after,
    h = before ++ (t, .did (.unsent n f)) :: after →
      ∃ l later, after = (t, .did (.logged l)) :: (t, .did (.closeBegun n)) :: later

theorem Grounded.append (hg : Grounded h)
    (hcause : ∀ (before : History) start n after,
      h' = before ++ (start, .did (.closeBegun n)) :: after → .tornDown ∈ (h ++ before).deeds ∨
        ∃ earlier l, IsLoss l ∧ before = earlier ++ [(start, .did (.logged l))])
    (hfailed : ∀ (before : History) t n f after,
      h' = before ++ (t, .did (.unsent n f)) :: after →
        ∃ l later, after = (t, .did (.logged l)) :: (t, .did (.closeBegun n)) :: later) :
    Grounded (h ++ h') := by
  constructor
  case cause =>
    intro before start n after hsplit
    rcases split_append hsplit with ⟨rest, hold, -⟩ | ⟨rest, rfl, hnew⟩
    · exact hg.cause before start n rest hold
    · refine (hcause rest start n after hnew).imp_right ?_
      rintro ⟨earlier, l, hl, rfl⟩
      exact ⟨h ++ earlier, l, hl, (List.append_assoc _ _ _).symm⟩
  case failed =>
    intro before t n f after hsplit
    rcases split_append hsplit with ⟨rest, hold, rfl⟩ | ⟨rest, -, hnew⟩
    · obtain ⟨l, later, rfl⟩ := hg.failed before t n f rest hold
      exact ⟨l, later ++ h', rfl⟩
    · exact hfailed rest t n f after hnew

theorem Grounded.aside (hg : Grounded h) (t : Nat) {d : Deed} (hd : d.own? = none) :
    Grounded (h ++ [(t, d)]) := by
  apply hg.append
  · intro before start n after hsplit
    obtain ⟨-, he, -⟩ := split_singleton.mp hsplit.symm
    obtain ⟨-, rfl⟩ := Prod.mk.inj he
    cases hd
  · intro before start n f after hsplit
    obtain ⟨-, he, -⟩ := split_singleton.mp hsplit.symm
    obtain ⟨-, rfl⟩ := Prod.mk.inj he
    cases hd

theorem mem_of_stamped {t t' : Nat} {effects : List ChannelEffect} {e : ChannelEffect}
    {before after : History} (hsplit : stamped t effects = before ++ (t', .did e) :: after) :
    e ∈ effects := by
  have hm : (t', Deed.did e) ∈ stamped t effects := by rw [hsplit]; simp
  obtain ⟨e', he', heq⟩ := List.mem_map.mp hm
  cases heq
  exact he'

theorem Grounded.move (hg : Grounded h) {stopping : Bool} (t : Nat) {effects : List ChannelEffect}
    (hp : Parts stopping effects) (ht : stopping = true → .tornDown ∈ h.deeds) :
    Grounded (h ++ stamped t effects) := by
  apply hg.append
  case hcause =>
    intro before start n after hsplit
    cases hp with
    | stays hc hu => exact absurd (mem_of_stamped hsplit) (hc n)
    | leaves m hs =>
        left
        rw [History.deeds, List.map_append]
        exact List.mem_append_left _ (ht hs)
    | loses m hl =>
        rcases split_pair.mp hsplit.symm with ⟨-, he, -⟩ | ⟨rfl, he, -⟩
        · cases he
        · cases he
          exact .inr ⟨[], _, hl, rfl⟩
    | fails m f hl =>
        rcases split_cons.mp hsplit.symm with ⟨-, he, -⟩ | ⟨rest, rfl, hrest⟩
        · cases he
        · rcases split_pair.mp hrest with ⟨-, he, -⟩ | ⟨rfl, he, -⟩
          · cases he
          · cases he
            exact .inr ⟨[_], _, hl, rfl⟩
  case hfailed =>
    intro before start n f after hsplit
    have hmem := mem_of_stamped hsplit
    cases hp with
    | stays hc hu => exact absurd hmem (hu n f)
    | leaves | loses => simp at hmem
    | fails m f' hl =>
        rcases split_cons.mp hsplit.symm with ⟨rfl, he, rfl⟩ | ⟨rest, rfl, hrest⟩
        · cases he
          exact ⟨_, [], rfl⟩
        · rcases split_pair.mp hrest with ⟨-, he, -⟩ | ⟨-, he, -⟩ <;> cases he

theorem Grounded.next {s : Life} (hg : Grounded s.history) (ht : TellsTorn s) (e : Event) :
    Grounded (s.next e).history := by
  cases e with
  | work =>
      rcases s.next_work with ⟨_, hn⟩ | ⟨m, hm, hn⟩
      · rwa [hn]
      · have hstamped : (s.record m.1 (m.2.map .did)).history = s.history ++ stamped s.now m.2 := by
          simp [Life.record_history, stamped]
        rw [hn, hstamped]
        exact hg.move s.now hm.parts ht.mpr
  | clock t => exact hg
  | submit | listen | serve | tearDown => exact hg.aside s.now rfl

/-! ### A line in turn -/

/-- What holds of the lines of a channel in every life. -/
structure InTurn (punctual : Prop) (s : Life) : Prop where
  /-- Lines are numbered as their connections are accepted. -/
  opened : s.history.opened = s.channel.lines.length
  /-- A line is closed because it was lost or because the channel was torn down, and it is lost
  when a send fails. -/
  grounded : Grounded s.history
  /-- A channel that waits with a line was not torn down, and everything that came in on the line
  was read, so neither an end nor an error. -/
  waiting : s.IsSettled → ∀ n, s.channel.phase.pumped? = some n →
    .tornDown ∉ s.history.deeds ∧ ∀ l, s.channel.lines[n]? = some l → l.inbox = []
  /-- Once the close of a line was begun the line takes no submissions and is not read. -/
  detached : ∀ n ∈ s.history.begun, s.channel.slot ≠ some n ∧
    ∀ l, s.channel.lines[n]? = some l → l.held = false
  /-- The close of every line is begun once, when it takes no more frames. -/
  once : ∀ n, s.history.begun.count n =
    if n < s.channel.lines.length ∧ s.channel.phase.pumped? ≠ some n then 1 else 0
  /-- Nothing is sent on the line or read from it afterwards, and it is not closed again. -/
  silent : ∀ before start n after, s.history = before ++ (start, .did (.closeBegun n)) :: after →
    ∀ m ∈ after, ∀ e, m.2 = .did e → uses? e ≠ some n
  /-- A close that was begun is over, or it is still all that the channel does. -/
  patient : ∀ before start n after, s.history = before ++ (start, .did (.closeBegun n)) :: after →
    Closed punctual s.channel.closings n s.history ∨
      s.channel.standing = .closing n start ∧ s.channel.slot = none ∧
        (∀ m ∈ after, m.2.own? = none) ∧ (punctual → s.now ≤ start + 1000)
  /-- When an attempt is made or a state is entered, the closes of all lines before are over. -/
  alone : ∀ before t e after, s.history = before ++ (t, .did e) :: after →
    (e = .attempted ∨ ∃ state, e = .entered state) →
      ∀ n < before.opened, Closed punctual s.channel.closings n before
  /-- No two lines are open at a time. -/
  single : ∀ m n, m < s.channel.lines.length → n < s.channel.lines.length →
    ¬ Closed punctual s.channel.closings m s.history →
      ¬ Closed punctual s.channel.closings n s.history → m = n

theorem opened_standing {c : Channel} (hc : Coherent c) : c.standing.opened = c.lines.length := by
  have hlast := hc.line_last
  simp only [standing]
  cases hp : c.phase with
  | pumping n frames | closing n start forGood => exact hlast n (by rw [hp]; rfl)
  | fresh | connecting | waiting | finished => rfl

theorem lt_begun_standing {c : Channel} (hc : Coherent c) {n : Nat} :
    n < c.standing.begun ↔ n < c.lines.length ∧ c.phase.pumped? ≠ some n := by
  have hlast := hc.line_last
  simp only [standing]
  cases hp : c.phase with
  | pumping m frames =>
      have := hlast m (by rw [hp]; rfl)
      simp only [Standing.begun, Phase.pumped?, ne_eq, Option.some.injEq]
      omega
  | closing m start forGood =>
      have := hlast m (by rw [hp]; rfl)
      simp only [Standing.begun, Phase.pumped?, ne_eq, reduceCtorEq, not_false_eq_true, and_true]
      omega
  | fresh | connecting | waiting | finished => simp [Standing.begun, Phase.pumped?]

theorem Goes.of_closeBegun {t n : Nat} (hm : Goes punctual closings a (t, .did (.closeBegun n)) b) :
    b = .closing n t := by
  cases hm with
  | begun => rfl
  | aside _ _ hd => cases hd
  | apart _ _ he => cases he
  | carries _ he => cases he
  | ended _ he => cases he

/-- Attempts are made and states are entered while no line is there. -/
theorem Goes.of_idle {t : Nat} {e : ChannelEffect} (hm : Goes punctual closings a (t, .did e) b)
    (he : e = .attempted ∨ ∃ state, e = .entered state) : ∃ k, a = .offline k := by
  cases hm with
  | apart k | opened k => exact ⟨k, rfl⟩
  | aside _ _ hd => cases hd
  | carries _ hc => rcases he with rfl | ⟨state, rfl⟩ <;> cases hc
  | begun => rcases he with he | ⟨state, he⟩ <;> cases he
  | ended _ hends => rcases he with rfl | ⟨state, rfl⟩ <;> cases hends

/-- A channel that waits with a line goes on, and has read what came in. -/
theorem read_of_settled {s : Life} (hs : s.IsSettled) {n : Nat}
    (hp : s.channel.phase.pumped? = some n) : s.channel.stopping = false ∧
      ∀ l, s.channel.lines[n]? = some l → l.inbox = [] := by
  cases hphase : s.channel.phase with
  | pumping m frames =>
      obtain rfl : m = n := by simpa [hphase, Phase.pumped?] using hp
      simp only [Life.IsSettled, step?, hphase, pump?] at hs
      cases hstopping : s.channel.stopping with
      | true => simp [hstopping] at hs
      | false =>
          refine ⟨rfl, fun l hl => ?_⟩
          simp only [hstopping, Bool.false_eq_true, if_false, hl] at hs
          cases hi : l.inbox with
          | nil => rfl
          | cons i inbox =>
              cases frames with
              | nil => cases i <;> simp [hi] at hs
              | cons f frames => cases hf : l.send <;> simp [hf] at hs
  | fresh | connecting | closing | waiting | finished => simp [hphase, Phase.pumped?] at hp

theorem inTurn_of {s : Life} (h : Tracked punctual s) (hg : Grounded s.history)
    (ht : TellsTorn s) : InTurn punctual s := by
  obtain ⟨hopened, hbegun⟩ := h.path.counts
  rw [opened_standing h.coherent] at hopened
  have hrange : s.history.begun = List.range s.channel.standing.begun := hbegun
  have hpumped {n : Nat} (hn : n ∈ s.history.begun) :
      n < s.channel.lines.length ∧ s.channel.phase.pumped? ≠ some n := by
    rw [hrange, List.mem_range] at hn
    exact (lt_begun_standing h.coherent).mp hn
  constructor
  case opened => exact (Nat.zero_add _).symm.trans hopened
  case grounded => exact hg
  case waiting =>
    intro hs n hp
    obtain ⟨hstopping, hread⟩ := read_of_settled hs hp
    refine ⟨fun hm => ?_, hread⟩
    rw [ht.mp hm] at hstopping
    cases hstopping
  case detached =>
    intro n hn
    refine ⟨fun hslot => ?_, fun l hl => h.released n l hl (hpumped hn).2⟩
    rw [h.coherent.slot_eq] at hslot
    split at hslot
    · cases hslot
    · exact (hpumped hn).2 hslot
  case once =>
    intro n
    simp only [hrange, List.nodup_range.count, List.mem_range, lt_begun_standing h.coherent]
  case silent =>
    intro before start n after hsplit
    obtain ⟨c, d, -, hm, hafter⟩ := path_split.mp (hsplit ▸ h.path)
    rw [hm.of_closeBegun] at hafter
    exact hafter.isPast (Nat.le_refl n)
  case patient =>
    intro before start n after hsplit
    obtain ⟨c, d, -, hm, hafter⟩ := path_split.mp (hsplit ▸ h.path)
    rw [hm.of_closeBegun] at hafter
    rcases hafter.of_closing with ⟨hstands, hall⟩ | hclosed
    · obtain ⟨forGood, hp⟩ := standing_eq_closing.mp hstands
      have hslot : s.channel.slot = none := by
        rw [h.coherent.slot_eq, hp]
        exact ite_self none
      exact .inr ⟨hstands, hslot, hall, fun hpunctual => h.inTime hpunctual n start hstands⟩
    · rw [hsplit]
      exact .inl (hclosed.append_left before)
  case alone =>
    intro before t e after hsplit he n hn
    obtain ⟨c, d, hbefore, hm, -⟩ := path_split.mp (hsplit ▸ h.path)
    obtain ⟨k, rfl⟩ := hm.of_idle he
    obtain ⟨hk, -⟩ := hbefore.counts
    refine hbefore.closed (Nat.zero_le n) ?_
    simp only [Standing.opened, Standing.closed] at hk ⊢
    omega
  case single =>
    have hopen {n : Nat} (hlt : n < s.channel.lines.length)
        (hn : ¬ Closed punctual s.channel.closings n s.history) :
        n = s.channel.standing.closed := by
      have hle : s.channel.standing.closed ≤ n :=
        Nat.le_of_not_lt fun hover => hn (h.path.closed (Nat.zero_le n) hover)
      rw [← opened_standing h.coherent] at hlt
      revert hle hlt
      cases s.channel.standing <;> simp only [Standing.closed, Standing.opened] <;> omega
    exact fun m n hm hn hmopen hnopen => (hopen hm hmopen).trans (hopen hn hnopen).symm

/-- The lines of a channel follow each other in turn: at most one is open, each is closed once, and
nothing else is done until its close has succeeded, has failed, or was given up after a second. -/
theorem lines_in_turn (now : Nat) (url : String) (connector : Connector) (backoff : Backoff)
    (connectTimeout : Nat) (events : List Event) :
    let start := Life.ofChannel now (connect url connector backoff connectTimeout)
    InTurn (start.Heedful events) (start.run events) := by
  intro start
  have ht : TellsTorn start := tellsTorn_connect now url connector backoff connectTimeout
  have hg : Grounded start.history := by
    constructor <;> simp [start, Life.ofChannel]
  have hgrounded := Life.run_induction
    (P := fun s => TellsTorn s ∧ Grounded s.history)
    (fun _ e h => ⟨h.1.next e, h.2.next h.1 e⟩) ⟨ht, hg⟩ events
  have htracked : Tracked (start.Heedful events) (start.run events) :=
    (tracked_connect now url connector backoff connectTimeout).run id
  exact inTurn_of htracked hgrounded.2 hgrounded.1

/-- A close that hangs is given up after a second, and the channel is torn down meanwhile. -/
example :
    let line : Line := { Line.plain with closing := .hangs, inbox := [.ended] }
    let start := Life.ofChannel 0
      (connect "ws://a" ⟨[.answered 0 (.accepted [] line)], .unanswered⟩ Backoff.standard 5000)
    let events : List Event :=
      [.work, .work, .work, .clock 400, .tearDown, .work, .clock 1000, .work]
    start.Heedful events ∧
      ((start.run events).history.drop 6).map (·.1) = [0, 400, 1000, 1000, 1000] := by
  decide

end Channel

end ExerciseClient
