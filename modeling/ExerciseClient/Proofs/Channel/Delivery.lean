import ExerciseClient.Proofs.Channel.Coherence

/-! What becomes of the submissions that are taken. Each waits in the queue of the line that was
attached when it was taken; the queue is emptied from its front and is gone with the line. So what
was sent and what still waits is, line by line, a beginning of what was taken. -/

namespace ExerciseClient

/-- Frames with the lines that they are for, the oldest first. -/
abbrev Frames := List (Nat × String)

/-- The frames for one line. -/
def Frames.on (frames : Frames) (n : Nat) : List String :=
  (frames.filter (·.1 = n)).map (·.2)

@[simp] theorem Frames.on_nil (n : Nat) : Frames.on [] n = [] := rfl

theorem Frames.on_append (a b : Frames) (n : Nat) :
    Frames.on (a ++ b) n = a.on n ++ b.on n := by
  simp [on]

/-- Nothing else is on a line than what is for it. -/
theorem Frames.on_eq_nil {frames : Frames} {n : Nat} (h : ∀ m ∈ frames, m.1 ≠ n) :
    frames.on n = [] := by
  simpa [on] using h

/-- What waits to be sent. -/
def Phase.queue : Phase → Frames
  | .pumping n frames => frames.map fun f => (n, f)
  | _ => []

theorem Phase.queue_of_pumped? {p : Phase} (h : p.pumped? = none) : p.queue = [] := by
  cases p with
  | pumping => simp [pumped?] at h
  | fresh | connecting | closing | waiting | finished => rfl

def ChannelEffect.sent? : ChannelEffect → Option (Nat × String)
  | .sent n f => some (n, f)
  | _ => none

/-- What is said when a connection is lost. -/
inductive IsLoss : LogLine → Prop where
  | send (e : TransportError) : IsLoss (warn s!"发送提交失败: {e.message}")
  | broken (e : TransportError) : IsLoss (warn s!"WebSocket 连接异常: {e.message}")
  | ended : IsLoss (info "服务端关闭了连接")

namespace Channel

def Deed.sent? : Deed → Option (Nat × String)
  | .did e => e.sent?
  | _ => none

def Deed.taken? : Deed → Option (Nat × String)
  | .submitted (some n) exercise (.ok v) (.ok ()) => some (n, (envelope exercise v).text)
  | _ => none

/-- What was sent, with its line. -/
def History.sent (h : History) : Frames := h.filterMap (·.2.sent?)

/-- The frames of the submissions that were answered with success. -/
def History.taken (h : History) : Frames := h.filterMap (·.2.taken?)

/-- What a move does to the lines and the queue: it leaves the lines and takes frames from the
front of the queue, or a new line is attached, or the attached line is lost with its queue. -/
inductive Traffic (c : Channel) (s : Step) : Prop where
  | keeps (hl : s.1.lines.length = c.lines.length) (hp : s.1.phase.pumped? = c.phase.pumped?)
      (hq : s.2.filterMap (·.sent?) ++ s.1.phase.queue = c.phase.queue)
      (hc : ∀ n, .closeBegun n ∉ s.2)
  | attaches (hl : s.1.lines.length = c.lines.length + 1) (hp : c.phase.pumped? = none)
      (hn : s.1.phase = .pumping c.lines.length []) (hq : s.2.filterMap (·.sent?) = [])
      (hc : ∀ n, .closeBegun n ∉ s.2)
  | loses (n : Nat) (hl : s.1.lines.length = c.lines.length) (hp : c.phase.pumped? = some n)
      (hn : s.1.phase.pumped? = none) (hq : s.2.filterMap (·.sent?) = [])
      (hc : ∀ m, .closeBegun m ∈ s.2 ↔ m = n)
      (hw : c.stopping = true ∨
        ∃ l earlier, IsLoss l ∧ s.2 = earlier ++ [.logged l, .closeBegun n])

theorem sent?_dispatch (n : Nat) (text : String) (c : Channel) :
    (c.dispatch n text).2.filterMap (·.sent?) = [] ∧
      ∀ m, .closeBegun m ∉ (c.dispatch n text).2 := by
  constructor
  · rw [List.filterMap_eq_nil_iff]
    intro e he
    rcases mem_dispatch he with rfl | ⟨l, rfl⟩ | ⟨name, r, rfl⟩ <;> rfl
  · intro m hm
    rcases mem_dispatch hm with he | ⟨l, he⟩ | ⟨name, r, he⟩ <;> cases he

theorem Move.traffic {now : Nat} {c : Channel} {s : Step} (hm : Move now c s) : Traffic c s := by
  cases hm with
  | finish hs hp =>
      refine .keeps rfl ?_ ?_ ?_
      · cases hc : c.phase <;> simp_all [Phase.IsOffline, Phase.pumped?, Channel.finish]
      · cases hc : c.phase <;>
          simp_all [Phase.IsOffline, Phase.queue, Channel.finish, ChannelEffect.sent?]
      · simp [Channel.finish]
  | begin hs hp | again hs hp =>
      refine .keeps rfl (by simp [attempt, hp, Phase.pumped?]) ?_ (by simp [attempt])
      simp [attempt, hp, Phase.queue, ChannelEffect.sent?]
  | accepted hs hp ht =>
      refine .attaches (by simp [take]) (by rw [hp]; rfl) rfl ?_ (by simp [take])
      simp [take, List.filterMap_map, ChannelEffect.sent?]
  | refused hs hp | late hs hp =>
      refine .keeps rfl (by simp [retryAfter, retry, hp, Phase.pumped?]) ?_
        (by simp [retryAfter, retry])
      simp [retryAfter, retry, hp, Phase.queue, ChannelEffect.sent?]
  | leave hs hp =>
      exact .loses _ (by simp [letGo]) (by rw [hp]; rfl) rfl rfl (by simp [letGo]) (.inl hs)
  | send hs hp hl hf =>
      refine .keeps (by simp) (by rw [hp]; rfl) ?_ (by simp)
      simp [hp, Phase.queue, ChannelEffect.sent?]
  | sendFailed hs hp hl hf line hline =>
      refine .loses _ (by simp [loseAfter, letGo]) (by rw [hp]; rfl) rfl rfl
        (by simp [loseAfter, letGo]) (.inr ⟨line, [_], hline ▸ .send _, rfl⟩)
  | @readText n l text inbox hs hp hl hi =>
      let d : Channel := { c with lines := c.lines.set n { l with inbox } }
      obtain ⟨hq, hc⟩ := sent?_dispatch n text d
      obtain ⟨last, received, he⟩ := dispatch_fst n text d
      refine .keeps (by rw [he]; simp [d]) (by rw [he]) ?_ hc
      rw [hq, he, List.nil_append]
  | readNotice hs hp hl hi =>
      exact .keeps (by simp) rfl (by simp [ChannelEffect.sent?]) (by simp)
  | readBroken hs hp hl hi line hline =>
      refine .loses _ (by simp [loseAfter, letGo]) (by rw [hp]; rfl) rfl rfl
        (by simp [loseAfter, letGo]) (.inr ⟨line, [], hline ▸ .broken _, rfl⟩)
  | readEnd hs hp hl hi =>
      exact .loses _ (by simp [loseAfter, letGo]) (by rw [hp]; rfl) rfl rfl
        (by simp [loseAfter, letGo]) (.inr ⟨_, [], .ended, rfl⟩)
  | @closeEnded n start forGood e hp he =>
      rcases closeEnd?_cases he with rfl | ⟨l, rfl⟩ <;> cases forGood <;>
        exact .keeps rfl (by rw [hp]; rfl) (by rw [hp]; rfl) (by simp [goOn, retry, Channel.finish])

/-! ### The queue -/

@[simp] theorem sent_record (s : Life) (c : Channel) (deeds : List Deed) :
    (s.record c deeds).history.sent = s.history.sent ++ deeds.filterMap (·.sent?) := by
  simp [Life.record, History.sent, List.filterMap_map, Function.comp_def]

@[simp] theorem taken_record (s : Life) (c : Channel) (deeds : List Deed) :
    (s.record c deeds).history.taken = s.history.taken ++ deeds.filterMap (·.taken?) := by
  simp [Life.record, History.taken, List.filterMap_map, Function.comp_def]

theorem sent?_did (effects : List ChannelEffect) :
    (effects.map Deed.did).filterMap (·.sent?) = effects.filterMap (·.sent?) := by
  simp [List.filterMap_map, Function.comp_def, Deed.sent?]

theorem taken?_did (effects : List ChannelEffect) :
    (effects.map Deed.did).filterMap (·.taken?) = [] := by
  simp [Deed.taken?]

/-- What was sent and what still waits, in order. -/
def outgoing (s : Life) : Frames := s.history.sent ++ s.channel.phase.queue

/-- What was sent and what still waits is a beginning of what was taken. -/
structure Queued (s : Life) : Prop where
  coherent : Coherent s.channel
  /-- The attached line has all that was taken for it. -/
  whole : ∀ n, s.channel.phase.pumped? = some n → (outgoing s).on n = s.history.taken.on n
  fifo : ∀ n, (outgoing s).on n <+: s.history.taken.on n
  once : (outgoing s).Sublist s.history.taken
  known : ∀ m ∈ s.history.taken, m.1 < s.channel.lines.length

theorem Queued.keeps {s : Life} (h : Queued s) {c : Channel} {deeds : List Deed}
    (hcoherent : Coherent c) (hl : c.lines.length = s.channel.lines.length)
    (hp : c.phase.pumped? = s.channel.phase.pumped?)
    (hq : deeds.filterMap (·.sent?) ++ c.phase.queue = s.channel.phase.queue)
    (ht : deeds.filterMap (·.taken?) = []) : Queued (s.record c deeds) := by
  have hout : outgoing (s.record c deeds) = outgoing s := by
    simp only [outgoing, sent_record, List.append_assoc]
    rw [← hq]
    rfl
  have htaken : (s.record c deeds).history.taken = s.history.taken := by simp [ht]
  refine ⟨hcoherent, ?_, ?_, ?_, ?_⟩
  · intro n hn
    rw [hout, htaken]
    exact h.whole n (hp ▸ hn)
  · simpa only [hout, htaken] using h.fifo
  · simpa only [hout, htaken] using h.once
  · intro m hm
    exact hl ▸ h.known m (htaken ▸ hm)

/-- Without its queue, what was sent is still a beginning. -/
theorem Queued.sent_fifo {s : Life} (h : Queued s) (n : Nat) :
    s.history.sent.on n <+: s.history.taken.on n := by
  refine .trans ?_ (h.fifo n)
  rw [outgoing, Frames.on_append]
  exact List.prefix_append _ _

theorem Queued.sent_once {s : Life} (h : Queued s) :
    s.history.sent.Sublist s.history.taken :=
  (List.sublist_append_left _ _).trans h.once

theorem Queued.traffic {s : Life} (h : Queued s) {m : Step} (hm : Coherent m.1)
    (ht : Traffic s.channel m) : Queued (s.record m.1 (m.2.map .did)) := by
  have htaken : (s.record m.1 (m.2.map .did)).history.taken = s.history.taken := by
    rw [taken_record, taken?_did, List.append_nil]
  cases ht with
  | keeps hl hp hq hc =>
      exact h.keeps hm hl hp (by rw [sent?_did, hq]) (taken?_did _)
  | attaches hl hp hn hq hc =>
      have hout : outgoing (s.record m.1 (m.2.map .did)) = s.history.sent := by
        rw [outgoing, sent_record, sent?_did, hq]
        simp [Life.record, hn, Phase.queue]
      refine ⟨hm, ?_, ?_, ?_, ?_⟩
      · intro n hn'
        obtain rfl : s.channel.lines.length = n := by
          simpa [Life.record, hn, Phase.pumped?] using hn'
        have hnew : s.history.taken.on s.channel.lines.length = [] :=
          Frames.on_eq_nil fun m hm => Nat.ne_of_lt (h.known m hm)
        rw [hout, htaken, hnew]
        exact List.prefix_nil.mp (hnew ▸ h.sent_fifo _)
      · simpa only [hout, htaken] using h.sent_fifo
      · simpa only [hout, htaken] using h.sent_once
      · intro m' hm'
        have := h.known m' (htaken ▸ hm')
        simp only [Life.record, hl]
        omega
  | loses n hl hp hn hq hc hw =>
      have hout : outgoing (s.record m.1 (m.2.map .did)) = s.history.sent := by
        rw [outgoing, sent_record, sent?_did, hq]
        simp [Life.record, Phase.queue_of_pumped? hn]
      refine ⟨hm, ?_, ?_, ?_, ?_⟩
      · intro n hn'
        simp [Life.record, hn] at hn'
      · simpa only [hout, htaken] using h.sent_fifo
      · simpa only [hout, htaken] using h.sent_once
      · intro m' hm'
        exact hl ▸ h.known m' (htaken ▸ hm')

/-- A submission that is taken goes to the end of the queue. -/
theorem Queued.submit {s : Life} (h : Queued s) (exercise : String)
    (submission : Except String Json.Value) : Queued (s.next (.submit exercise submission)) := by
  have hcoherent := h.coherent.submit exercise submission
  rw [Life.next_submit]
  rcases submit_cases s.channel exercise submission with
    ⟨n, frames, v, rfl, hslot, hp, ha, hc⟩ | ⟨e, ha, hc⟩
  · rw [hc] at hcoherent
    rw [hc, ha]
    have hheld := h.coherent.line_last n (by rw [hp]; rfl)
    have hwhole := h.whole n (by rw [hp]; rfl)
    let f := (n, (envelope exercise v).text)
    let d : Channel := { s.channel with phase := .pumping n (frames ++ [f.2]) }
    let deed : Deed := .submitted s.channel.slot exercise (.ok v) (.ok ())
    have htaken : (s.record d [deed]).history.taken = s.history.taken ++ [f] := by
      simp [deed, f, hslot, Deed.taken?]
    have hout : outgoing (s.record d [deed]) = outgoing s ++ [f] := by
      rw [outgoing, sent_record, outgoing, hp]
      simp [Life.record, d, deed, f, Deed.sent?, Phase.queue]
    refine ⟨hcoherent, ?_, ?_, ?_, ?_⟩
    · intro m hm
      obtain rfl : n = m := by simpa [Life.record, Phase.pumped?] using hm
      rw [hout, htaken, Frames.on_append, Frames.on_append, hwhole]
    · intro m
      rw [hout, htaken, Frames.on_append, Frames.on_append]
      by_cases hnm : n = m
      · subst m
        exact hwhole ▸ List.prefix_refl _
      · have hother : Frames.on [f] m = [] := Frames.on_eq_nil (by simpa [f] using hnm)
        simpa [hother] using h.fifo m
    · rw [hout, htaken]
      exact h.once.append (List.Sublist.refl _)
    · intro m hm
      rw [htaken, List.mem_append, List.mem_singleton] at hm
      rcases hm with hm | rfl
      · exact h.known m hm
      · exact hheld ▸ Nat.lt_succ_self n
  · rw [hc, ha]
    exact h.keeps h.coherent rfl rfl (by simp [Deed.sent?])
      (by cases s.channel.slot <;> simp [Deed.taken?])

theorem Queued.next {s : Life} (h : Queued s) (e : Event) : Queued (s.next e) := by
  cases e with
  | work =>
      rcases s.next_work with ⟨_, he⟩ | ⟨m, hm, he⟩
      · rwa [he]
      · rw [he]
        exact h.traffic (h.coherent.move hm) hm.traffic
  | clock now => exact ⟨h.coherent, h.whole, h.fifo, h.once, h.known⟩
  | submit exercise submission => exact h.submit exercise submission
  | listen listener =>
      exact h.keeps (h.coherent.listen listener) rfl rfl (by rfl) rfl
  | serve line a =>
      have hcoherent := h.coherent.serve line a
      obtain ⟨lines, hc, hl⟩ := serve_snd s.channel line a
      rw [hc] at hcoherent
      rw [Life.next_serve, hc]
      exact h.keeps hcoherent hl rfl (by rfl) rfl
  | tearDown => exact h.keeps h.coherent.tearDown rfl rfl (by rfl) rfl

/-- A channel that waits has nothing in its queue. -/
theorem queue_of_settled {s : Life} (h : Coherent s.channel) {n : Nat}
    (hslot : s.channel.slot = some n) (hw : s.IsSettled) :
    s.channel.phase = .pumping n [] := by
  have hslot' := h.slot_eq
  rw [hslot] at hslot'
  cases hs : s.channel.stopping with
  | true => simp [hs] at hslot'
  | false =>
      cases hp : s.channel.phase with
      | pumping m frames =>
          obtain rfl : n = m := by simpa [hs, hp, Phase.pumped?] using hslot'
          have hlast := h.line_last n (by rw [hp]; rfl)
          obtain ⟨l, hl⟩ : ∃ l, s.channel.lines[n]? = some l :=
            ⟨_, List.getElem?_eq_getElem (by omega)⟩
          cases frames with
          | nil => rfl
          | cons f frames =>
              rw [Life.IsSettled] at hw
              cases hf : l.send with
              | ok l' => simp [(Move.send hs hp hl hf).execution] at hw
              | error e => simp [(Move.sendFailed hs hp hl hf _ rfl).execution] at hw
      | fresh | connecting | closing | waiting | finished => simp [hp, Phase.pumped?] at hslot'

/-! ### Which line is attached -/

/-- The history tells which line is attached and why the others are not. -/
structure Attached (s : Life) : Prop where
  begun : ∀ n, .did (.closeBegun n) ∈ s.history.deeds ↔
    n < s.channel.lines.length ∧ s.channel.phase.pumped? ≠ some n
  lost : ∀ n, .did (.closeBegun n) ∈ s.history.deeds →
    .tornDown ∈ s.history.deeds ∨ ∃ l earlier later, IsLoss l ∧
      s.history.deeds = earlier ++ .did (.logged l) :: .did (.closeBegun n) :: later
  taken : ∀ slot exercise submission,
    .submitted slot exercise submission (.ok ()) ∈ s.history.deeds →
      ∃ n v, slot = some n ∧ submission = .ok v

/-- The reason for a close stays in the history. -/
theorem Attached.lost_append {s : Life} (h : Attached s) {n : Nat}
    (hn : .did (.closeBegun n) ∈ s.history.deeds) (deeds : List Deed) :
    .tornDown ∈ s.history.deeds ++ deeds ∨ ∃ l earlier later, IsLoss l ∧
      s.history.deeds ++ deeds = earlier ++ .did (.logged l) :: .did (.closeBegun n) :: later := by
  rcases h.lost n hn with hs | ⟨l, earlier, later, hloss, he⟩
  · exact .inl (List.mem_append_left _ hs)
  · exact .inr ⟨l, earlier, later ++ deeds, hloss, by simp [he]⟩

/-- A deed other than the close of a line or being torn down changes no attachment. -/
theorem Attached.keeps {s : Life} (h : Attached s) {c : Channel} {deeds : List Deed}
    (hl : c.lines.length = s.channel.lines.length)
    (hp : c.phase.pumped? = s.channel.phase.pumped?)
    (hd : ∀ d ∈ deeds, (∀ n, d ≠ .did (.closeBegun n)) ∧
      ∀ slot exercise submission, d = .submitted slot exercise submission (.ok ()) →
        ∃ n v, slot = some n ∧ submission = .ok v) :
    Attached (s.record c deeds) := by
  have hbegun : ∀ n, .did (.closeBegun n) ∉ deeds := fun n hm => (hd _ hm).1 n rfl
  refine ⟨?_, ?_, ?_⟩
  · intro n
    simpa [hbegun, hl, hp] using h.begun n
  · intro n hn
    rw [Life.deeds_record, List.mem_append] at hn
    rw [Life.deeds_record]
    exact h.lost_append (hn.resolve_right (hbegun n)) deeds
  · intro slot exercise submission hm
    rw [Life.deeds_record, List.mem_append] at hm
    rcases hm with hm | hm
    · exact h.taken slot exercise submission hm
    · exact (hd _ hm).2 slot exercise submission rfl

theorem Attached.traffic {s : Life} (h : Attached s) (htorn : TellsTorn s) {m : Step}
    (ht : Traffic s.channel m)
    (hlast : ∀ n, s.channel.phase.pumped? = some n → n < s.channel.lines.length) :
    Attached (s.record m.1 (m.2.map .did)) := by
  have hdid : ∀ slot exercise submission answer,
      .submitted slot exercise submission answer ∉ m.2.map Deed.did := by simp
  have htaken : ∀ slot exercise submission,
      .submitted slot exercise submission (.ok ()) ∈ (s.record m.1 (m.2.map .did)).history.deeds →
        ∃ n v, slot = some n ∧ submission = .ok v := by
    intro slot exercise submission hm
    rw [Life.deeds_record, List.mem_append] at hm
    exact h.taken _ _ _ (hm.resolve_right (hdid _ _ _ _))
  have hmem : ∀ n, .did (.closeBegun n) ∈ m.2.map Deed.did ↔ .closeBegun n ∈ m.2 := by simp
  cases ht with
  | keeps hl hp hq hc =>
      refine h.keeps hl hp fun d hd => ?_
      obtain ⟨e, he, rfl⟩ := List.mem_map.mp hd
      refine ⟨fun n hn => hc n ?_, by simp⟩
      cases hn
      exact he
  | attaches hl hp hn hq hc =>
      refine ⟨?_, ?_, htaken⟩
      · intro n
        have hb := h.begun n
        rw [hp] at hb
        simp only [Life.deeds_record, List.mem_append, hmem, hc n, or_false, hb,
          Life.record_channel, hl, hn, Phase.pumped?, ne_eq, Option.some.injEq]
        constructor
        · intro hlt
          exact ⟨by omega, by omega⟩
        · rintro ⟨hlt, hne⟩
          exact ⟨by omega, by simp⟩
      · intro n hn'
        simp only [Life.deeds_record, List.mem_append, hmem, hc n, or_false] at hn'
        rw [Life.deeds_record]
        exact h.lost_append hn' _
  | loses n hl hp hn hq hc hw =>
      refine ⟨?_, ?_, htaken⟩
      · intro k
        have hb := h.begun k
        rw [hp] at hb
        simp only [Life.deeds_record, List.mem_append, hmem, hc k, hb, Life.record_channel, hl, hn]
        have hlt := hlast n hp
        constructor
        · rintro (⟨hlt', _⟩ | rfl)
          · exact ⟨hlt', by simp⟩
          · exact ⟨hlt, by simp⟩
        · rintro ⟨hlt', _⟩
          by_cases hk : k = n
          · exact .inr hk
          · exact .inl ⟨hlt', by simpa using Ne.symm hk⟩
      · intro k hk
        simp only [Life.deeds_record, List.mem_append, hmem, hc k] at hk
        rw [Life.deeds_record]
        rcases hk with hk | rfl
        · exact h.lost_append hk _
        · rcases hw with hw | ⟨l, earlier, hloss, he⟩
          · exact .inl (List.mem_append_left _ (htorn.mpr hw))
          · exact .inr ⟨l, s.history.deeds ++ earlier.map .did, [], hloss, by simp [he]⟩

theorem Attached.next {s : Life} (h : Attached s) (hc : Coherent s.channel)
    (htorn : TellsTorn s) (e : Event) : Attached (s.next e) := by
  cases e with
  | work =>
      rcases s.next_work with ⟨_, he⟩ | ⟨m, hm, he⟩
      · rwa [he]
      · rw [he]
        refine h.traffic htorn hm.traffic fun n hn => ?_
        have := hc.line_last n (Phase.line?_of_pumped? hn)
        omega
  | clock now => exact ⟨h.begun, h.lost, h.taken⟩
  | submit exercise submission =>
      rw [Life.next_submit]
      rcases submit_cases s.channel exercise submission with
        ⟨n, frames, v, rfl, hslot, hp, ha, he⟩ | ⟨error, ha, he⟩
      · rw [he, ha]
        refine h.keeps rfl (by simp [hp, Phase.pumped?]) fun d hd => ?_
        obtain rfl := List.mem_singleton.mp hd
        refine ⟨by simp, ?_⟩
        rintro slot _ submission ⟨⟩
        exact ⟨n, v, hslot, rfl⟩
      · rw [he, ha]
        refine h.keeps rfl rfl fun d hd => ?_
        obtain rfl := List.mem_singleton.mp hd
        exact ⟨by simp, by simp⟩
  | listen listener => exact h.keeps rfl rfl (by simp)
  | serve line a =>
      obtain ⟨lines, he, hl⟩ := serve_snd s.channel line a
      rw [Life.next_serve, he]
      exact h.keeps hl rfl (by simp)
  | tearDown => exact h.keeps rfl rfl (by simp)

/-! ### The delivery of what was taken -/

/-- What becomes of submissions, told from a history. -/
structure Delivery (s : Life) : Prop where
  /-- A line is attached until it is lost or the channel is torn down. -/
  attached_iff : ∀ n, s.channel.slot = some n ↔ n < s.channel.lines.length ∧
    .did (.closeBegun n) ∉ s.history.deeds ∧ .tornDown ∉ s.history.deeds
  lost : ∀ n, .did (.closeBegun n) ∈ s.history.deeds →
    .tornDown ∈ s.history.deeds ∨ ∃ l earlier later, IsLoss l ∧
      s.history.deeds = earlier ++ .did (.logged l) :: .did (.closeBegun n) :: later
  /-- Nothing is taken but what was encoded, while a line is attached. -/
  taken : ∀ slot exercise submission,
    .submitted slot exercise submission (.ok ()) ∈ s.history.deeds →
      ∃ n v, slot = some n ∧ submission = .ok v
  /-- What was sent on a line is a beginning of what was taken while it was attached. -/
  fifo : ∀ n, s.history.sent.on n <+: s.history.taken.on n
  once : s.history.sent.Sublist s.history.taken
  /-- A submission that is not taken leaves no trace on any line. -/
  refused : ∀ exercise submission error,
    (s.channel.submit exercise submission).1 = .error error → ∀ events,
      ((s.next (.submit exercise submission)).run events).history.sent =
        (s.run events).history.sent
  complete : s.IsSettled → ∀ n, s.channel.slot = some n →
    s.history.sent.on n = s.history.taken.on n

theorem delivery_of {s : Life} (hq : Queued s) (ha : Attached s) (ht : TellsTorn s) :
    Delivery s := by
  refine ⟨?_, ha.lost, ha.taken, hq.sent_fifo, hq.sent_once, ?_, ?_⟩
  · intro n
    rw [hq.coherent.slot_eq, ha.begun n, show _ ↔ _ from ht]
    cases s.channel.stopping with
    | true => simp
    | false =>
        simp only [Bool.false_eq_true, if_false, not_false_eq_true, and_true]
        constructor
        · intro hn
          have := hq.coherent.line_last n (Phase.line?_of_pumped? hn)
          exact ⟨by omega, fun hb => hb.2 hn⟩
        · rintro ⟨hlt, hb⟩
          exact Decidable.of_not_not fun hn => hb ⟨hlt, hn⟩
  · intro exercise submission error he events
    have hc : (s.channel.submit exercise submission).2.1 = s.channel := by
      rcases submit_cases s.channel exercise submission with ⟨_, _, _, _, _, _, hok, _⟩ | ⟨_, _, hc⟩
      · simp [he] at hok
      · exact hc
    have hnext : s.next (.submit exercise submission) = s.forget.resume (s.history ++
        [(s.now, .submitted s.channel.slot exercise submission (.error error))]) := by
      rw [Life.next_submit, hc, he]
      simp [Life.record, Life.forget, Life.resume]
    rw [hnext, Life.run_resume, s.run_eq events]
    simp [Life.resume, History.sent, Deed.sent?]
  · intro hs n hn
    have hp := queue_of_settled hq.coherent hn hs
    have := hq.whole n (by rw [hp]; rfl)
    rwa [outgoing, hp, Phase.queue, List.map_nil, List.append_nil] at this

/-- Submissions are delivered in order, at most once, and only on the line that took them. -/
theorem submissions_delivered (now : Nat) (url : String) (connector : Connector)
    (backoff : Backoff) (connectTimeout : Nat) (events : List Event) :
    Delivery ((Life.ofChannel now (connect url connector backoff connectTimeout)).run events) := by
  let s := Life.ofChannel now (connect url connector backoff connectTimeout)
  have hc : Coherent s.channel := coherent_connect url connector backoff connectTimeout
  have ht : TellsTorn s := tellsTorn_connect now url connector backoff connectTimeout
  have hq : Queued s := by
    refine ⟨hc, ?_, ?_, ?_, ?_⟩ <;>
      simp [s, Life.ofChannel, outgoing, History.sent, History.taken, connect, Phase.queue,
        Phase.pumped?]
  have ha : Attached s := by
    refine ⟨?_, ?_, ?_⟩ <;> simp [s, Life.ofChannel, History.deeds, connect]
  have hattached := Life.run_induction
    (P := fun s => Coherent s.channel ∧ TellsTorn s ∧ Attached s)
    (fun _ e h => ⟨h.1.next e, h.2.1.next e, h.2.2.next h.1 h.2.1 e⟩) ⟨hc, ht, ha⟩ events
  exact delivery_of (Life.run_induction (P := Queued) (fun _ e h => h.next e) hq events)
    hattached.2.2 hattached.2.1

end Channel

end ExerciseClient
