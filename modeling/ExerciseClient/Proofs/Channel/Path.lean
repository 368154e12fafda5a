import ExerciseClient.Proofs.Channel.Delivery

/-! The path of a channel. It holds no line, holds one, or closes one, and its history is a path
through these, along which each deed is told apart by where the channel stands. -/

namespace ExerciseClient

namespace Life

open Channel

/-- The clock does not run back, nor past the end of a wait. -/
def Heeds (s : Life) : Event → Prop
  | .clock t => s.now ≤ t ∧ t ≤ s.channel.due.getD t
  | _ => True

/-- Everything happens on such a clock, however late the channel works. -/
def Heedful (s : Life) : List Event → Prop
  | [] => True
  | e :: events => s.Heeds e ∧ (s.next e).Heedful events

instance (s : Life) : ∀ e, Decidable (s.Heeds e)
  | .clock t => inferInstanceAs (Decidable (s.now ≤ t ∧ t ≤ s.channel.due.getD t))
  | .work | .submit _ _ | .listen _ | .serve _ _ | .tearDown => .isTrue trivial

instance decidableHeedful : ∀ s events, Decidable (Heedful s events)
  | _, [] => .isTrue trivial
  | s, e :: events =>
    have := decidableHeedful (s.next e) events
    inferInstanceAs (Decidable (s.Heeds e ∧ (s.next e).Heedful events))

end Life

namespace Channel

/-! ### Paths -/

/-- How a channel stands to its lines, which are numbered as they are set up. -/
inductive Standing where
  /-- No line is there, and so many were before. -/
  | offline (before : Nat)
  | held (line : Nat)
  | closing (line start : Nat)

/-- Where a channel stands with its lines. -/
def standing (c : Channel) : Standing :=
  match c.phase with
  | .pumping n _ => .held n
  | .closing n start _ => .closing n start
  | _ => .offline c.lines.length

/-- How the lines that were set up close. -/
def closings (c : Channel) : List Closing := c.lines.map (·.closing)

/-- What a channel shows while no line is there. -/
inductive Apart : ChannelEffect → Prop where
  | logged (l) : Apart (.logged l)
  | attempted : Apart .attempted
  | connecting : Apart (.entered .connecting)
  | closed (span) : Apart (.entered (.closed span))
  | tornDown : Apart (.entered .tornDown)

/-- What a channel shows while it holds a line. -/
inductive Carries (n : Nat) : ChannelEffect → Prop where
  | logged (l) : Carries n (.logged l)
  | sent (f) : Carries n (.sent n f)
  | unsent (f) : Carries n (.unsent n f)
  | dispatched (text) : Carries n (.dispatched n text)
  | called (name r) : Carries n (.called name r)

/-- The close of a line that began at an instant succeeds or fails, which may take its time, or is
given up after a second. -/
inductive CloseEnds (punctual : Prop) (n start now : Nat) : Closing → ChannelEffect → Prop where
  | succeeded : CloseEnds punctual n start now .succeeds (.closed n)
  | failed (e : TransportError) :
      CloseEnds punctual n start now (.fails e) (.logged (debug s!"关闭连接时出错: {e.message}"))
  | givenUp (h : start + 1000 ≤ now) (hpunctual : punctual → now = start + 1000) :
      CloseEnds punctual n start now .hangs (.logged (debug "关闭连接超时"))

/-- What the channel itself does. -/
def Deed.own? : Deed → Option ChannelEffect
  | .did e => some e
  | _ => none

section

variable (punctual : Prop) (closings : List Closing)

/-- One deed on a path. What the owner and the server do leads nowhere. -/
inductive Goes : Standing → Nat × Deed → Standing → Prop where
  | aside (a t) {d} (hd : d.own? = none) : Goes a (t, d) a
  | apart (k t) {e} (he : Apart e) : Goes (.offline k) (t, .did e) (.offline k)
  | opened (k t) : Goes (.offline k) (t, .did (.entered .opened)) (.held k)
  | carries {n} (t) {e} (he : Carries n e) : Goes (.held n) (t, .did e) (.held n)
  | begun (n t) : Goes (.held n) (t, .did (.closeBegun n)) (.closing n t)
  | ended {n start t e closing} (hc : closings[n]? = some closing)
      (he : CloseEnds punctual n start t closing e) :
      Goes (.closing n start) (t, .did e) (.offline (n + 1))

/-- The moves of a history, one after another. -/
inductive Path : Standing → History → Standing → Prop where
  | nil (a) : Path a [] a
  | cons {a m b h c} (hm : Goes punctual closings a m b) (hp : Path b h c) : Path a (m :: h) c

end

variable {punctual : Prop} {closings closings' : List Closing} {a b : Standing} {h h' : History}

theorem path_append : Path punctual closings a (h ++ h') b ↔
    ∃ c, Path punctual closings a h c ∧ Path punctual closings c h' b := by
  induction h generalizing a with
  | nil =>
      constructor
      · exact fun hp => ⟨a, .nil a, hp⟩
      · rintro ⟨c, hp, hp'⟩
        cases hp
        exact hp'
  | cons m h ih =>
      constructor
      · intro hp
        cases hp with
        | cons hm hp =>
            obtain ⟨c, hp, hp'⟩ := ih.mp hp
            exact ⟨c, .cons hm hp, hp'⟩
      · rintro ⟨c, hp, hp'⟩
        cases hp with
        | cons hm hp => exact .cons hm (ih.mpr ⟨c, hp, hp'⟩)

/-- A place on a path lies between two parts of it. -/
theorem path_split {earlier later : History} {m : Nat × Deed} :
    Path punctual closings a (earlier ++ m :: later) b ↔
      ∃ c d, Path punctual closings a earlier c ∧ Goes punctual closings c m d ∧
        Path punctual closings d later b := by
  rw [path_append]
  constructor
  · rintro ⟨c, hp, hp'⟩
    cases hp' with
    | cons hm hp' => exact ⟨c, _, hp, hm, hp'⟩
  · rintro ⟨c, d, hp, hm, hp'⟩
    exact ⟨c, hp, .cons hm hp'⟩

/-- More lines change nothing for those that are there. -/
theorem Path.mono (hp : Path punctual closings a h b)
    (hkept : ∀ (n : Nat) closing, closings[n]? = some closing → closings'[n]? = some closing) :
    Path punctual closings' a h b := by
  induction hp with
  | nil a => exact .nil a
  | cons hm _ ih =>
      refine .cons ?_ ih
      cases hm with
      | aside _ _ hd => exact .aside _ _ hd
      | apart k t he => exact .apart k t he
      | opened k t => exact .opened k t
      | carries t he => exact .carries t he
      | begun n t => exact .begun n t
      | ended hc he => exact .ended (hkept _ _ hc) he

/-- Effects at an instant. -/
def stamped (t : Nat) (effects : List ChannelEffect) : History :=
  effects.map fun e => (t, .did e)

theorem path_apart (k t : Nat) {effects : List ChannelEffect} (he : ∀ e ∈ effects, Apart e) :
    Path punctual closings (.offline k) (stamped t effects) (.offline k) := by
  induction effects with
  | nil => exact .nil _
  | cons e effects ih =>
      exact .cons (.apart k t (he e List.mem_cons_self))
        (ih fun e' he' => he e' (List.mem_cons_of_mem e he'))

theorem path_carries {n : Nat} (t : Nat) {effects : List ChannelEffect}
    (he : ∀ e ∈ effects, Carries n e) :
    Path punctual closings (.held n) (stamped t effects) (.held n) := by
  induction effects with
  | nil => exact .nil _
  | cons e effects ih =>
      exact .cons (.carries t (he e List.mem_cons_self))
        (ih fun e' he' => he e' (List.mem_cons_of_mem e he'))

theorem path_begun {n : Nat} (t : Nat) (effects : List ChannelEffect)
    (he : ∀ e ∈ effects, Carries n e) :
    Path punctual closings (.held n) (stamped t (effects ++ [.closeBegun n])) (.closing n t) := by
  rw [stamped, List.map_append, path_append]
  exact ⟨.held n, path_carries t he, .cons (.begun n t) (.nil _)⟩

/-! ### Moves go along paths -/

theorem standing_eq_held {c : Channel} {n : Nat} :
    c.standing = .held n ↔ c.phase.pumped? = some n := by
  simp only [standing]
  cases c.phase <;> simp [Phase.pumped?]

theorem standing_eq_closing {c : Channel} {n start : Nat} :
    c.standing = .closing n start ↔ ∃ forGood, c.phase = .closing n start forGood := by
  simp only [standing]
  cases c.phase <;> simp

theorem standing_of_offline {c : Channel} (hp : c.phase.IsOffline) :
    c.standing = .offline c.lines.length := by
  rw [standing]
  split
  · rename_i heq
    rw [heq] at hp
    exact hp.elim
  · rename_i heq
    rw [heq] at hp
    exact hp.elim
  · rfl

theorem closeEnds_of_closeEnd? {now n start : Nat} {c : Channel} {l : Line} {e : ChannelEffect}
    (hl : c.lines[n]? = some l) (he : c.closeEnd? now n start = some e)
    (hnow : punctual → now ≤ start + 1000) : CloseEnds punctual n start now l.closing e := by
  simp only [closeEnd?, hl, Option.map_some, Option.getD_some] at he
  split at he
  · rename_i hclosing
    obtain rfl := Option.some.inj he
    exact hclosing ▸ .succeeded
  · rename_i error hclosing
    obtain rfl := Option.some.inj he
    exact hclosing ▸ .failed error
  · rename_i hclosing
    split at he
    · rename_i hle
      obtain rfl := Option.some.inj he
      exact hclosing ▸ .givenUp hle fun hpunctual => Nat.le_antisymm (hnow hpunctual) hle
    · cases he

theorem carries_dispatch {n : Nat} {text : String} {c : Channel} :
    ∀ e ∈ (c.dispatch n text).2, Carries n e := by
  intro e he
  rcases mem_dispatch he with rfl | ⟨l, rfl⟩ | ⟨name, r, rfl⟩
  · exact .dispatched text
  · exact .logged l
  · exact .called name r

/-- A line is taken after what the attempt has to say. -/
theorem path_take (now : Nat) (c : Channel) (l : Line) (log : Log) (k : Nat) :
    Path punctual closings (.offline k) (stamped now (c.take l log).2) (.held k) := by
  have hlogged : ∀ e ∈ log.map .logged ++ [.logged (info s!"✓ 已连接到执行后端: {c.url}")],
      Apart e := by
    intro e he
    simp only [List.mem_append, List.mem_map, List.mem_singleton] at he
    rcases he with ⟨line, -, rfl⟩ | rfl
    · exact .logged line
    · exact .logged _
  have heffects : (c.take l log).2 =
      (log.map .logged ++ [.logged (info s!"✓ 已连接到执行后端: {c.url}")]) ++
        [.entered .opened] := by
    rw [List.append_assoc]
    rfl
  rw [heffects, stamped, List.map_append, path_append]
  exact ⟨_, path_apart _ now hlogged, .cons (.opened _ now) (.nil _)⟩

/-- After a close no line is there. -/
theorem goOn_apart (now : Nat) (forGood : Bool) (c : Channel) :
    (c.goOn now forGood).1.lines = c.lines ∧
      (c.goOn now forGood).1.standing = .offline c.lines.length ∧
        ∀ e ∈ (c.goOn now forGood).2, Apart e := by
  cases forGood with
  | false => exact ⟨rfl, rfl, by simp [goOn, retry, Apart.closed, Apart.logged]⟩
  | true => exact ⟨rfl, rfl, by simp [goOn, Channel.finish, Apart.tornDown, Apart.logged]⟩

/-- A close begins at the instant of the move that begins it. -/
theorem Move.start_eq {now n start : Nat} {forGood : Bool} {c : Channel} {s : Step}
    (hm : Move now c s) (hs : s.1.phase = .closing n start forGood) : start = now := by
  cases hm with
  | leave | sendFailed | readBroken | readEnd =>
      cases hs
      rfl
  | @readText n l text inbox _ hp =>
      obtain ⟨last, received, he⟩ :=
        dispatch_fst n text { c with lines := c.lines.set n { l with inbox } }
      rw [he, hp] at hs
      cases hs
  | readNotice _ hp =>
      rw [hp] at hs
      cases hs
  | @closeEnded _ _ forGood => cases forGood <;> cases hs
  | finish | begin | again | accepted | refused | late | send => cases hs

/-- A move goes along a path from where the channel stood to where it stands. -/
theorem Move.path {now : Nat} {c : Channel} {s : Step} (hm : Move now c s) (hc : Coherent c)
    (hnow : punctual → ∀ n start, c.standing = .closing n start → now ≤ start + 1000) :
    Path punctual s.1.closings c.standing (stamped now s.2) s.1.standing := by
  cases hm with
  | finish hs hp =>
      rw [standing_of_offline hp]
      exact path_apart _ now (by simp [Channel.finish, Apart.tornDown, Apart.logged])
  | begin hs hp | again hs hp =>
      rw [standing_of_offline (by rw [hp]; trivial)]
      exact path_apart _ now
        (by simp [Channel.attempt, Apart.connecting, Apart.logged, Apart.attempted])
  | @accepted delay log l start hs hp ht =>
      rw [standing_of_offline (by rw [hp]; trivial)]
      exact path_take now c l log _
  | refused hs hp | late hs hp =>
      rw [standing_of_offline (by rw [hp]; trivial)]
      exact path_apart _ now
        (by simp [retryAfter, retry, Apart.closed, Apart.logged])
  | leave hs hp =>
      rw [standing, hp]
      exact path_begun now [] (by simp)
  | send hs hp hl hf =>
      simp only [standing, hp]
      exact path_carries now (by simp [Carries.sent])
  | sendFailed hs hp hl hf line hline =>
      rw [standing, hp]
      exact path_begun now [_, _] (by simp [Carries.unsent, Carries.logged])
  | @readText n l text inbox hs hp hl hi =>
      obtain ⟨last, received, he⟩ :=
        dispatch_fst n text { c with lines := c.lines.set n { l with inbox } }
      rw [he]
      simp only [standing, hp]
      exact path_carries now carries_dispatch
  | readNotice hs hp hl hi =>
      simp only [standing, hp]
      exact path_carries now (by simp [Carries.logged])
  | readBroken hs hp hl hi | readEnd hs hp hl hi =>
      rw [standing, hp]
      exact path_begun now [_] (by simp [Carries.logged])
  | @closeEnded n start forGood e hp he =>
      have hlast := hc.line_last n (by rw [hp]; rfl)
      obtain ⟨l, hl⟩ : ∃ l, c.lines[n]? = some l := ⟨_, List.getElem?_eq_getElem (by omega)⟩
      have hends : CloseEnds punctual n start now l.closing e :=
        closeEnds_of_closeEnd? hl he fun hpunctual =>
          hnow hpunctual n start (standing_eq_closing.mpr ⟨forGood, hp⟩)
      obtain ⟨hlines, hstands, hapart⟩ := goOn_apart now forGood c
      have hclosing : (c.goOn now forGood).1.closings[n]? = some l.closing := by
        simp [closings, hlines, hl]
      -- the close ends first; what is shown after it is shown without a line
      rw [standing, hp]
      refine .cons (.ended hclosing hends) ?_
      rw [hstands, ← hlast]
      exact path_apart _ now hapart

/-! ### What becomes of lines -/

/-- A line closes as it did, and is not read again. -/
structure Becomes (l l' : Line) : Prop where
  closing : l'.closing = l.closing
  held : l.held = false → l'.held = false

theorem becomes_send {l l' : Line} (h : l.send = .ok l') : Becomes l l' := by
  simp only [Line.send] at h
  split at h
  · obtain rfl := Except.ok.inj h
    exact ⟨rfl, id⟩
  · obtain rfl := Except.ok.inj h
    exact ⟨rfl, id⟩
  · cases h

theorem becomes_on (a : ServerAction) (l : Line) : Becomes l (a.on l).2 := by
  cases a with
  | deliver i =>
      simp only [ServerAction.on, Line.deliver]
      split <;> exact ⟨rfl, id⟩
  | hangUp =>
      simp only [ServerAction.on, Line.hangUp]
      split <;> exact ⟨rfl, id⟩

/-- Every line is still there as what it became. -/
def Keeps (lines lines' : List Line) : Prop :=
  ∀ (i : Nat) l, lines[i]? = some l → ∃ l', lines'[i]? = some l' ∧ Becomes l l'

theorem keeps_refl (lines : List Line) : Keeps lines lines :=
  fun _ l hl => ⟨l, hl, rfl, id⟩

theorem Keeps.trans {lines lines' lines'' : List Line} (h : Keeps lines lines')
    (h' : Keeps lines' lines'') : Keeps lines lines'' := by
  intro i l hl
  obtain ⟨l', hl', hb⟩ := h i l hl
  obtain ⟨l'', hl'', hb'⟩ := h' i l' hl'
  exact ⟨l'', hl'', hb'.closing.trans hb.closing, hb'.held ∘ hb.held⟩

theorem keeps_set {lines : List Line} {n : Nat} {l l' : Line} (hl : lines[n]? = some l)
    (hb : Becomes l l') : Keeps lines (lines.set n l') := by
  intro i k hk
  by_cases hi : n = i
  · subst hi
    obtain rfl := Option.some.inj (hl.symm.trans hk)
    obtain ⟨hlt, -⟩ := List.getElem?_eq_some_iff.mp hl
    exact ⟨l', by simp [hlt], hb⟩
  · exact ⟨k, by simp [List.getElem?_set_ne hi, hk], rfl, id⟩

theorem keeps_release (lines : List Line) (n : Nat) : Keeps lines (lines.modify n Line.release) := by
  intro i l hl
  by_cases hi : n = i
  · exact ⟨l.release, by simp [hl, hi], rfl, fun _ => rfl⟩
  · exact ⟨l, by simp [hl, hi], rfl, id⟩

theorem keeps_append (lines more : List Line) : Keeps lines (lines ++ more) := by
  intro i l hl
  obtain ⟨hlt, -⟩ := List.getElem?_eq_some_iff.mp hl
  exact ⟨l, (List.getElem?_append_left hlt).trans hl, rfl, id⟩

theorem Move.keeps {now : Nat} {c : Channel} {s : Step} (hm : Move now c s) :
    Keeps c.lines s.1.lines := by
  cases hm with
  | finish | begin | again | refused | late => exact keeps_refl _
  | accepted => exact keeps_append _ _
  | leave => exact keeps_release _ _
  | send hs hp hl hf => exact keeps_set hl (becomes_send hf)
  | sendFailed => exact keeps_release _ _
  | @readText n l text inbox hs hp hl hi =>
      obtain ⟨last, received, he⟩ :=
        dispatch_fst n text { c with lines := c.lines.set n { l with inbox } }
      rw [he]
      exact keeps_set hl ⟨rfl, id⟩
  | readNotice hs hp hl hi => exact keeps_set hl ⟨rfl, id⟩
  | readBroken hs hp hl hi | readEnd hs hp hl hi =>
      refine Keeps.trans ?_ (keeps_release _ _)
      exact keeps_set hl ⟨rfl, id⟩
  | @closeEnded n start forGood => cases forGood <;> exact keeps_refl _

/-- No line is read but the one that takes frames. -/
def Released (c : Channel) : Prop :=
  ∀ (i : Nat) l, c.lines[i]? = some l → c.phase.pumped? ≠ some i → l.held = false

theorem held_release {lines : List Line} {n : Nat} {l : Line}
    (hl : (lines.modify n Line.release)[n]? = some l) : l.held = false := by
  cases hn : lines[n]? with
  | none => simp [hn] at hl
  | some k =>
      obtain rfl : k.release = l := by simpa [hn] using hl
      rfl

/-- A line that takes no more frames is not read any more. -/
theorem Move.held_eq_false {now : Nat} {c : Channel} {s : Step} (hm : Move now c s) {n : Nat}
    (hc : c.phase.pumped? = some n) (hs : s.1.phase.pumped? = none) {l : Line}
    (hl : s.1.lines[n]? = some l) : l.held = false := by
  cases hm with
  | finish _ hp => cases hphase : c.phase <;> simp_all [Phase.IsOffline, Phase.pumped?]
  | begin _ hp | again _ hp | accepted _ hp | refused _ hp | late _ hp | closeEnded hp =>
      simp [hp, Phase.pumped?] at hc
  | leave _ hp | sendFailed _ hp | readBroken _ hp | readEnd _ hp =>
      obtain rfl : _ = n := by simpa [hp, Phase.pumped?] using hc
      exact held_release hl
  | send => simp [Phase.pumped?] at hs
  | @readText n l text inbox =>
      obtain ⟨last, received, he⟩ :=
        dispatch_fst n text { c with lines := c.lines.set n { l with inbox } }
      rw [he, hc] at hs
      cases hs
  | readNotice =>
      rw [hc] at hs
      cases hs

theorem Released.of_keeps {c d : Channel} (h : Released c) (hk : Keeps c.lines d.lines)
    {i : Nat} {l' : Line} (hl' : d.lines[i]? = some l') (hlt : i < c.lines.length)
    (hp : c.phase.pumped? ≠ some i) : l'.held = false := by
  obtain ⟨l, hl⟩ : ∃ l, c.lines[i]? = some l := ⟨_, List.getElem?_eq_getElem hlt⟩
  obtain ⟨l'', hl'', hb⟩ := hk i l hl
  obtain rfl := Option.some.inj (hl'.symm.trans hl'')
  exact hb.held (h i l hl hp)

theorem Released.move {now : Nat} {c : Channel} {s : Step} (h : Released c) (hm : Move now c s) :
    Released s.1 := by
  intro i l hl hi
  obtain ⟨hlt, -⟩ := List.getElem?_eq_some_iff.mp hl
  cases hm.traffic with
  | keeps hlength hp => exact h.of_keeps hm.keeps hl (hlength ▸ hlt) (hp ▸ hi)
  | attaches hlength hp hn =>
      have hne : c.lines.length ≠ i := by simpa [hn, Phase.pumped?] using hi
      exact h.of_keeps hm.keeps hl (by omega) (by simp [hp])
  | loses n hlength hp hn =>
      by_cases hni : n = i
      · exact hm.held_eq_false (hni ▸ hp) hn hl
      · exact h.of_keeps hm.keeps hl (hlength ▸ hlt) (by simpa [hp] using hni)

theorem Keeps.closing_at {c d : Channel} (h : Keeps c.lines d.lines) (n : Nat) (closing : Closing)
    (hn : c.closings[n]? = some closing) : d.closings[n]? = some closing := by
  simp only [Channel.closings, List.getElem?_map, Option.map_eq_some_iff] at hn ⊢
  obtain ⟨l, hl, rfl⟩ := hn
  obtain ⟨l', hl', hb⟩ := h n l hl
  exact ⟨l', hl', hb.closing⟩

theorem keeps_serve (c : Channel) (line : Option Nat) (a : ServerAction) :
    Keeps c.lines (c.serve line a).2.lines := by
  simp only [serve]
  split
  · exact keeps_refl _
  · rename_i hl
    exact keeps_set hl (becomes_on a _)

/-! ### Every history is a path -/

/-- The history led to where the channel stands. -/
structure Tracked (punctual : Prop) (s : Life) : Prop where
  coherent : Coherent s.channel
  released : Released s.channel
  path : Path punctual s.channel.closings (.offline 0) s.history s.channel.standing
  inTime : punctual → ∀ n start, s.channel.standing = .closing n start → s.now ≤ start + 1000

/-- What the owner and the server do leads nowhere. -/
theorem Tracked.aside {s : Life} (h : Tracked punctual s) {c : Channel} {d : Deed}
    (hc : Coherent c) (hk : Keeps s.channel.lines c.lines)
    (hlength : c.lines.length = s.channel.lines.length)
    (hstands : c.standing = s.channel.standing) (hd : d.own? = none) :
    Tracked punctual (s.record c [d]) := by
  refine ⟨hc, ?_, ?_, ?_⟩
  · intro i l hl hi
    obtain ⟨hlt, -⟩ := List.getElem?_eq_some_iff.mp hl
    refine h.released.of_keeps hk hl (hlength ▸ hlt) fun hp => hi ?_
    exact standing_eq_held.mp (hstands.trans (standing_eq_held.mpr hp))
  · rw [Life.record_history, Life.record_channel, hstands]
    exact path_append.mpr ⟨_, h.path.mono hk.closing_at, .cons (.aside _ _ hd) (.nil _)⟩
  · rw [Life.record_channel, hstands]
    exact h.inTime

theorem Tracked.move {s : Life} (h : Tracked punctual s) {m : Step}
    (hm : Move s.now s.channel m) : Tracked punctual (s.record m.1 (m.2.map .did)) := by
  refine ⟨h.coherent.move hm, h.released.move hm, ?_, ?_⟩
  · have hpath := hm.path h.coherent h.inTime
    have hhistory : (s.record m.1 (m.2.map .did)).history = s.history ++ stamped s.now m.2 := by
      simp [Life.record_history, stamped]
    rw [hhistory, Life.record_channel]
    exact path_append.mpr ⟨_, h.path.mono hm.keeps.closing_at, hpath⟩
  · intro _ n start hstands
    obtain ⟨forGood, hp⟩ := standing_eq_closing.mp hstands
    obtain rfl : start = s.now := hm.start_eq hp
    exact Nat.le_add_right _ _

theorem Tracked.next {s : Life} (h : Tracked punctual s) {e : Event}
    (he : punctual → s.Heeds e) : Tracked punctual (s.next e) := by
  cases e with
  | work =>
      rcases s.next_work with ⟨_, hn⟩ | ⟨m, hm, hn⟩
      · rwa [hn]
      · rw [hn]
        exact h.move hm
  | clock t =>
      refine { h with inTime := fun hpunctual n start hstands => ?_ }
      obtain ⟨forGood, hp⟩ := standing_eq_closing.mp hstands
      have hp : s.channel.phase = .closing n start forGood := hp
      obtain ⟨-, hdue⟩ := he hpunctual
      have hd : s.channel.due = some (start + 1000) := by simp only [due, hp, closeTimeout]
      rw [hd, Option.getD_some] at hdue
      exact hdue
  | submit exercise submission =>
      have hc := h.coherent.submit exercise submission
      rw [Life.next_submit]
      rcases submit_cases s.channel exercise submission with
        ⟨n, frames, v, _, _, hp, _, hs⟩ | ⟨_, _, hs⟩
      · rw [hs] at hc ⊢
        exact h.aside hc (keeps_refl _) rfl (by simp only [standing, hp]) rfl
      · rw [hs]
        exact h.aside h.coherent (keeps_refl _) rfl rfl rfl
  | listen listener => exact h.aside (h.coherent.listen listener) (keeps_refl _) rfl rfl rfl
  | serve line a =>
      have hc := h.coherent.serve line a
      have hk := keeps_serve s.channel line a
      rw [Life.next_serve]
      obtain ⟨lines, hs, hlength⟩ := serve_snd s.channel line a
      rw [hs] at hc hk ⊢
      refine h.aside hc hk hlength ?_ rfl
      simp only [standing, hlength]
  | tearDown => exact h.aside h.coherent.tearDown (keeps_refl _) rfl rfl rfl

theorem Tracked.run {s : Life} (h : Tracked punctual s) {events : List Event}
    (he : punctual → s.Heedful events) : Tracked punctual (s.run events) := by
  induction events generalizing s with
  | nil => exact h
  | cons e events ih =>
      exact ih (h.next fun hpunctual => (he hpunctual).1) fun hpunctual => (he hpunctual).2

theorem tracked_connect (now : Nat) (url : String) (connector : Connector) (backoff : Backoff)
    (connectTimeout : Nat) :
    Tracked punctual (Life.ofChannel now (connect url connector backoff connectTimeout)) := by
  refine ⟨coherent_connect url connector backoff connectTimeout, ?_, .nil _, ?_⟩
  · simp [Released, Life.ofChannel, connect]
  · simp [Life.ofChannel, connect, standing]

end Channel

end ExerciseClient
