import ExerciseClient.Channel.Turn

/-! The rules by which a channel moves. They say when each is open and what it leaves, so an
invariant of `step?` is one case for each rule. -/

namespace ExerciseClient

/-- No line is held, and the channel is not at its end. -/
def Phase.IsOffline : Phase → Prop
  | .fresh | .connecting .. | .waiting _ => True
  | _ => False

/-- The answer is there at an instant. -/
def Attempt.IsAnswered (start now : Nat) : Attempt → Prop
  | .unanswered => False
  | .answered delay _ => start + delay ≤ now

namespace Channel

/-- A step follows exactly one rule. Being torn down comes before all other rules but the end of a
close; frames to send come before what is to be read. -/
inductive Move (now : Nat) (c : Channel) : Step → Prop where
  | finish (hs : c.stopping = true) (hp : c.phase.IsOffline) : Move now c c.finish
  | begin (hs : c.stopping = false) (hp : c.phase = .fresh) : Move now c (c.attempt now)
  | again {due} (hs : c.stopping = false) (hp : c.phase = .waiting due) (hd : due ≤ now) :
      Move now c (c.attempt now)
  | accepted {delay log l start} (hs : c.stopping = false)
      (hp : c.phase = .connecting (.answered delay (.accepted log l)) start)
      (ht : start + delay ≤ now) : Move now c (c.take l log)
  | refused {delay e start} (hs : c.stopping = false)
      (hp : c.phase = .connecting (.answered delay (.refused e)) start) (ht : start + delay ≤ now)
      (line : LogLine) : line = warn s!"连接执行后端失败: {e.message}" →
      Move now c (c.retryAfter now line)
  | late {attempt start} (hs : c.stopping = false) (hp : c.phase = .connecting attempt start)
      (hn : ¬ attempt.IsAnswered start now) (ht : start + c.connectTimeout ≤ now)
      (line : LogLine) : line = warn s!"连接执行后端超时 ({c.connectTimeout / 1000} 秒): {c.url}" →
      Move now c (c.retryAfter now line)
  | leave {n frames} (hs : c.stopping = true) (hp : c.phase = .pumping n frames) :
      Move now c (c.letGo now n true)
  | send {n f frames l l'} (hs : c.stopping = false) (hp : c.phase = .pumping n (f :: frames))
      (hl : c.lines[n]? = some l) (hf : l.send = .ok l') :
      Move now c ({ c with lines := c.lines.set n l', phase := .pumping n frames }, [.sent n f])
  | sendFailed {n f frames l e} (hs : c.stopping = false)
      (hp : c.phase = .pumping n (f :: frames)) (hl : c.lines[n]? = some l)
      (hf : l.send = .error e) (line : LogLine) : line = warn s!"发送提交失败: {e.message}" →
      Move now c ((c.loseAfter now n line).1, .unsent n f :: (c.loseAfter now n line).2)
  | readText {n l text inbox} (hs : c.stopping = false) (hp : c.phase = .pumping n [])
      (hl : c.lines[n]? = some l) (hi : l.inbox = .text text :: inbox) :
      Move now c (dispatch n text { c with lines := c.lines.set n { l with inbox } })
  | readNotice {n l line inbox} (hs : c.stopping = false) (hp : c.phase = .pumping n [])
      (hl : c.lines[n]? = some l) (hi : l.inbox = .notice line :: inbox) :
      Move now c ({ c with lines := c.lines.set n { l with inbox } }, [.logged line])
  | readBroken {n l e inbox} (hs : c.stopping = false) (hp : c.phase = .pumping n [])
      (hl : c.lines[n]? = some l) (hi : l.inbox = .broken e :: inbox) (line : LogLine) :
      line = warn s!"WebSocket 连接异常: {e.message}" →
      Move now c (loseAfter now n line { c with lines := c.lines.set n { l with inbox } })
  | readEnd {n l inbox} (hs : c.stopping = false) (hp : c.phase = .pumping n [])
      (hl : c.lines[n]? = some l) (hi : l.inbox = .ended :: inbox) :
      Move now c
        (loseAfter now n (info "服务端关闭了连接") { c with lines := c.lines.set n { l with inbox } })
  | closeEnded {n start forGood e} (hp : c.phase = .closing n start forGood)
      (he : c.closeEnd? now n start = some e) :
      Move now c ((c.goOn now forGood).1, e :: (c.goOn now forGood).2)

/-- Reading a text changes the newest result and nothing else. -/
theorem dispatch_fst (n : Nat) (text : String) (c : Channel) :
    ∃ last received, (c.dispatch n text).1 = { c with last, received } := by
  rw [dispatch]
  split
  · exact ⟨_, _, rfl⟩
  · exact ⟨c.last, c.received, rfl⟩
  · exact ⟨c.last, c.received, rfl⟩

/-- Reading a text shows the text, a line of the log, and a call at most. -/
theorem mem_dispatch {n : Nat} {text : String} {c : Channel} {e : ChannelEffect}
    (h : e ∈ (c.dispatch n text).2) :
    e = .dispatched n text ∨ (∃ l, e = .logged l) ∨ ∃ name r, e = .called name r := by
  rw [dispatch] at h
  split at h
  · simp only [List.mem_append, List.mem_cons, List.not_mem_nil, or_false, Option.mem_toList,
      Option.map_eq_some_iff] at h
    rcases h with (rfl | rfl) | ⟨name, _, rfl⟩
    · exact .inl rfl
    · exact .inr (.inl ⟨_, rfl⟩)
    · exact .inr (.inr ⟨_, _, rfl⟩)
  · simp only [List.mem_cons, List.not_mem_nil, or_false] at h
    exact h.imp_right fun he => .inl ⟨_, he⟩
  · simp only [List.mem_cons, List.not_mem_nil, or_false] at h
    exact h.imp_right fun he => .inl ⟨_, he⟩

/-- When the close of a line is over, the line is closed or something is logged. -/
theorem closeEnd?_cases {now n start : Nat} {c : Channel} {e : ChannelEffect}
    (h : c.closeEnd? now n start = some e) : e = .closed n ∨ ∃ l, e = .logged l := by
  simp only [closeEnd?] at h
  split at h
  · exact .inl (Option.some.inj h).symm
  · exact .inr ⟨_, (Option.some.inj h).symm⟩
  · split at h
    · exact .inr ⟨_, (Option.some.inj h).symm⟩
    · cases h

theorem Move.execution {now : Nat} {c : Channel} {s : Step} (h : Move now c s) :
    c.step? now = some s := by
  cases h with
  | finish hs hp =>
      cases hc : c.phase <;> simp_all [step?, enter, Phase.IsOffline]
  | begin hs hp => simp [step?, hp, enter, hs]
  | again hs hp hd => simp [step?, hp, enter, hs, hd]
  | accepted hs hp ht => simp [step?, hp, hs, await?, ht]
  | refused hs hp ht line hline => simp [step?, hp, hs, await?, ht, hline]
  | @late attempt _ hs hp hn ht line hline =>
      cases attempt with
      | unanswered => simp [step?, hp, hs, await?, await?.late?, ht, hline]
      | answered delay answer =>
          rw [Attempt.IsAnswered] at hn
          simp [step?, hp, hs, await?, await?.late?, hn, ht, hline]
  | leave hs hp => simp [step?, hp, hs, pump?]
  | send hs hp hl hf => simp [step?, hp, hs, pump?, hl, hf]
  | sendFailed hs hp hl hf line hline => simp [step?, hp, hs, pump?, hl, hf, hline]
  | readText hs hp hl hi => simp [step?, hp, hs, pump?, hl, hi]
  | readNotice hs hp hl hi => simp [step?, hp, hs, pump?, hl, hi]
  | readBroken hs hp hl hi line hline => simp [step?, hp, hs, pump?, hl, hi, hline]
  | readEnd hs hp hl hi => simp [step?, hp, hs, pump?, hl, hi]
  | closeEnded hp he => simp [step?, hp, close?, he]

theorem move_of_await? {now : Nat} {c : Channel} {attempt : Attempt} {start : Nat} {s : Step}
    (hs : c.stopping = false) (hp : c.phase = .connecting attempt start)
    (h : c.await? now attempt start = some s) : Move now c s := by
  cases attempt with
  | unanswered =>
      simp only [await?, await?.late?, Option.ite_none_right_eq_some, Option.some.injEq] at h
      obtain ⟨ht, rfl⟩ := h
      exact .late hs hp (by simp [Attempt.IsAnswered]) ht _ rfl
  | answered delay answer =>
      simp only [await?] at h
      split at h
      · rename_i ht
        cases answer with
        | refused e =>
            obtain rfl := Option.some.inj h
            exact .refused hs hp ht _ rfl
        | accepted log l =>
            obtain rfl := Option.some.inj h
            exact .accepted hs hp ht
      · rename_i hn
        simp only [await?.late?, Option.ite_none_right_eq_some, Option.some.injEq] at h
        obtain ⟨ht, rfl⟩ := h
        exact .late hs hp (by simpa [Attempt.IsAnswered] using hn) ht _ rfl

theorem move_of_pump? {now : Nat} {c : Channel} {n : Nat} {frames : List String} {s : Step}
    (hp : c.phase = .pumping n frames) (h : c.pump? now n frames = some s) : Move now c s := by
  cases hs : c.stopping with
  | true =>
      rw [pump?, if_pos hs] at h
      exact Option.some.inj h ▸ .leave hs hp
  | false =>
      rw [pump?, if_neg (by simp [hs])] at h
      cases hl : c.lines[n]? with
      | none => simp [hl] at h
      | some l =>
          simp only [hl] at h
          cases frames with
          | cons f frames =>
              cases hf : l.send with
              | ok l' =>
                  simp only [hf, Option.some.injEq] at h
                  exact h ▸ .send hs hp hl hf
              | error e =>
                  simp only [hf, Option.some.injEq] at h
                  exact h ▸ .sendFailed hs hp hl hf _ rfl
          | nil =>
              cases hi : l.inbox with
              | nil => simp [hi] at h
              | cons i inbox =>
                  cases i <;> simp only [hi, Option.some.injEq] at h <;> subst h
                  · exact .readText hs hp hl hi
                  · exact .readNotice hs hp hl hi
                  · exact .readBroken hs hp hl hi _ rfl
                  · exact .readEnd hs hp hl hi

/-- The rules describe `step?` in full. -/
theorem move_iff (now : Nat) (c : Channel) (s : Step) : Move now c s ↔ c.step? now = some s := by
  refine ⟨Move.execution, ?_⟩
  intro h
  cases hp : c.phase with
  | fresh =>
      simp only [step?, hp, enter, Option.some.injEq] at h
      split at h
      · rename_i hs
        exact h ▸ .finish hs (by simp [hp, Phase.IsOffline])
      · rename_i hs
        exact h ▸ .begin (by simpa using hs) hp
  | connecting attempt start =>
      simp only [step?, hp] at h
      split at h
      · rename_i hs
        exact Option.some.inj h ▸ .finish hs (by simp [hp, Phase.IsOffline])
      · rename_i hs
        exact move_of_await? (by simpa using hs) hp h
  | pumping n frames =>
      simp only [step?, hp] at h
      exact move_of_pump? hp h
  | closing n start forGood =>
      simp only [step?, hp, close?, Option.map_eq_some_iff] at h
      obtain ⟨e, he, rfl⟩ := h
      exact .closeEnded hp he
  | waiting due =>
      simp only [step?, hp] at h
      split at h
      · rename_i hs
        exact Option.some.inj h ▸ .finish hs (by simp [hp, Phase.IsOffline])
      · rename_i hs
        simp only [enter, hs, Bool.false_eq_true, if_false, Option.ite_none_right_eq_some,
          Option.some.injEq] at h
        obtain ⟨hd, rfl⟩ := h
        exact .again (by simpa using hs) hp hd
  | finished => simp [step?, hp] at h

/-! ### What no move changes -/

/-- No move changes how a channel is set up, whether it is torn down, or who listens. -/
structure SameSetUp (c d : Channel) : Prop where
  url : d.url = c.url
  backoff : d.backoff = c.backoff
  connectTimeout : d.connectTimeout = c.connectTimeout
  stopping : d.stopping = c.stopping
  listener : d.listener = c.listener

theorem Move.sameSetUp {now : Nat} {c : Channel} {s : Step} (h : Move now c s) :
    SameSetUp c s.1 := by
  cases h with
  | @readText n l text inbox =>
      obtain ⟨last, received, he⟩ :=
        dispatch_fst n text { c with lines := c.lines.set n { l with inbox } }
      rw [he]
      exact ⟨rfl, rfl, rfl, rfl, rfl⟩
  | @closeEnded _ _ forGood => cases forGood <;> exact ⟨rfl, rfl, rfl, rfl, rfl⟩
  | _ => exact ⟨rfl, rfl, rfl, rfl, rfl⟩

end Channel

end ExerciseClient
