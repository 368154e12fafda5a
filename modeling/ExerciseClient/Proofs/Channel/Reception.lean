import ExerciseClient.Proofs.Channel.Delivery
import ExerciseClient.Proofs.Channel.TearDown
import ExerciseClient.Proofs.Place

/-! What becomes of the texts that the server sends. They are read line by line in the order in
which they were sent; what was read and what still waits on a line is all that was sent on it. Of
what is read, the newest result is kept, and each one is reported to whoever listens at the time.
The calls that a history owes are found from the history alone, by looking back for the listener. -/

namespace ExerciseClient

def Inbound.text? : Inbound → Option String
  | .text s => some s
  | _ => none

def Frame.result? : Frame → Option RunResult
  | .result r => some r
  | _ => none

/-- What comes in on lines, the oldest first. -/
abbrev Arrivals := List (Nat × Inbound)

/-- The texts among them. -/
def Arrivals.texts (a : Arrivals) : Frames := a.filterMap fun m => m.2.text?.map fun s => (m.1, s)

@[simp] theorem Arrivals.texts_nil : Arrivals.texts [] = [] := rfl

@[simp] theorem Arrivals.texts_append (a b : Arrivals) :
    Arrivals.texts (a ++ b) = a.texts ++ b.texts := by
  simp [texts]

/-- The texts that come in on one line. -/
theorem Arrivals.texts_on_line (n m : Nat) (inbox : List Inbound) :
    (Arrivals.texts (inbox.map fun i => (n, i))).on m =
      if n = m then inbox.filterMap (·.text?) else [] := by
  induction inbox with
  | nil => simp [texts, Frames.on]
  | cons i inbox ih =>
      have hcons : Arrivals.texts ((i :: inbox).map fun i => (n, i)) =
          (i.text?.map fun s => (n, s)).toList ++
            Arrivals.texts (inbox.map fun i => (n, i)) := by
        cases h : i.text? <;> simp [texts, h]
      rw [hcons, Frames.on_append, ih]
      cases h : i.text? <;> by_cases hnm : n = m <;> simp [Frames.on, h, hnm]

def ChannelEffect.dispatched? : ChannelEffect → Option (Nat × String)
  | .dispatched n text => some (n, text)
  | _ => none

def ChannelEffect.call? : ChannelEffect → Option (String × RunResult)
  | .called name r => some (name, r)
  | _ => none

/-- Neither is a text read nor anyone called. -/
def ChannelEffect.IsSilent : ChannelEffect → Prop
  | .dispatched .. | .called .. => False
  | _ => True

namespace Channel

/-- What an action puts on its line. -/
def ServerAction.item : ServerAction → Inbound
  | .deliver i => i
  | .hangUp => .ended

/-- What the server sends in answer to a step: what waits on a line that is taken, and the reply to
a frame that is sent. -/
def brought (c : Channel) (s : Step) : Arrivals :=
  ((s.1.lines.drop c.lines.length).zipIdx c.lines.length).flatMap (fun l =>
    l.1.inbox.map fun i => (l.2, i)) ++
  s.2.flatMap fun e =>
    match e with
    | .sent n _ => (((c.lines[n]?).bind (·.replies.head?)).getD []).map fun i => (n, i)
    | _ => []

/-- The texts on one of the lines that were not read. -/
def unread (lines : List Line) (n : Nat) : List String :=
  ((lines[n]?.map (·.inbox)).getD []).filterMap (·.text?)

def Deed.dispatched? : Deed → Option (Nat × String)
  | .did e => e.dispatched?
  | _ => none

def Deed.result? (d : Deed) : Option RunResult :=
  d.dispatched?.bind fun m => (Frame.classify m.2).result?

def Deed.call? : Deed → Option (String × RunResult)
  | .did e => e.call?
  | _ => none

/-- Who listens from now on. -/
def Deed.listened? : Deed → Option (Option String)
  | .listened listener => some listener
  | _ => none

namespace History

/-- The texts that were read, with their line. -/
def dispatched (h : History) : Frames := h.filterMap (·.2.dispatched?)

/-- The results that were read, over all lines. -/
def results (h : History) : List RunResult := h.filterMap (·.2.result?)

/-- The listeners that were called. -/
def calls (h : History) : List (String × RunResult) := h.filterMap (·.2.call?)

/-- Who listens after a history. -/
def listener (h : History) : Option String := (h.filterMap (·.2.listened?)).getLast?.join

/-- The calls that are owed after a past: one for each result that is read while someone listens. -/
def owedAfter (past : History) : History → List (String × RunResult)
  | [] => []
  | m :: later =>
    (m.2.result?.bind fun r => past.listener.map fun name => (name, r)).toList ++
      owedAfter (past ++ [m]) later

/-- The calls that a history owes. -/
def owed (h : History) : List (String × RunResult) := owedAfter [] h

theorem owedAfter_append (past a b : History) :
    owedAfter past (a ++ b) = owedAfter past a ++ owedAfter (past ++ a) b := by
  induction a generalizing past with
  | nil => simp [owedAfter]
  | cons m a ih =>
      rw [List.cons_append, owedAfter, ih, owedAfter, List.append_assoc, List.append_assoc]
      rfl

@[simp] theorem results_append (a b : History) : results (a ++ b) = a.results ++ b.results := by
  simp [results]

@[simp] theorem calls_append (a b : History) : calls (a ++ b) = a.calls ++ b.calls := by
  simp [calls]

theorem listener_append {later : History} (hl : ∀ m ∈ later, m.2.listened? = none) (h : History) :
    listener (h ++ later) = h.listener := by
  rw [listener, List.filterMap_append, List.filterMap_eq_nil_iff.mpr hl, List.append_nil, listener]

/-- Nothing is owed for what is no result. -/
theorem owedAfter_eq_nil {later : History} (h : ∀ m ∈ later, m.2.result? = none)
    (past : History) : owedAfter past later = [] := by
  induction later generalizing past with
  | nil => rfl
  | cons m later ih =>
      rw [owedAfter, h m List.mem_cons_self, ih fun m hm => h m (List.mem_cons_of_mem _ hm)]
      rfl

end History

end Channel

namespace Life

open Channel

/-- What the server sends as something happens. -/
def arriving (s : Life) : Event → Arrivals
  | .work => ((s.channel.step? s.now).map s.channel.brought).getD []
  | .serve line a =>
    if (s.channel.serve line a).1 then [(line.getD (s.channel.lines.length - 1), a.item)] else []
  | _ => []

/-- What the server sends as one thing happens after the other. -/
def arrivals (s : Life) : List Event → Arrivals
  | [] => []
  | e :: events => s.arriving e ++ (s.next e).arrivals events

end Life

namespace Channel

/-! ### Nothing is lost between a line and its reader -/

theorem brought_of_keeps {c : Channel} {s : Step} (hl : s.1.lines.length = c.lines.length)
    (hs : s.2.filterMap (·.sent?) = []) : c.brought s = [] := by
  have hdrop : s.1.lines.drop c.lines.length = [] := List.drop_eq_nil_iff.mpr (Nat.le_of_eq hl)
  rw [brought, hdrop, List.zipIdx_nil, List.flatMap_nil, List.nil_append, List.flatMap_eq_nil_iff]
  intro e he
  have hn := List.filterMap_eq_nil_iff.mp hs e he
  cases e <;> first | rfl | simp [ChannelEffect.sent?] at hn

theorem unread_set {lines : List Line} {n : Nat} {l : Line} (hl : lines[n]? = some l) (l' : Line)
    (m : Nat) :
    unread (lines.set n l') m =
      if n = m then l'.inbox.filterMap (·.text?) else unread lines m := by
  have hlt : n < lines.length := (List.getElem?_eq_some_iff.mp hl).1
  by_cases h : n = m
  · subst m
    simp [unread, hlt]
  · simp [unread, h]

theorem unread_concat (lines : List Line) (l : Line) (m : Nat) :
    unread (lines ++ [l]) m =
      if lines.length = m then l.inbox.filterMap (·.text?) else unread lines m := by
  by_cases h : lines.length = m
  · subst m
    simp [unread]
  · rcases Nat.lt_or_gt_of_ne h with hlt | hlt
    · have hnone : lines[m]? = none := List.getElem?_eq_none (Nat.le_of_lt hlt)
      have hnone' : (lines ++ [l])[m]? = none := List.getElem?_eq_none (by simp; omega)
      simp [unread, h, hnone, hnone']
    · simp [unread, h, List.getElem?_append_left hlt]

theorem unread_release (lines : List Line) (n m : Nat) :
    unread (lines.modify n Line.release) m = unread lines m := by
  by_cases h : n = m
  · subst m
    cases hl : lines[n]? <;> simp [unread, hl, Line.release]
  · simp [unread, h]

theorem inbox_send {l l' : Line} (h : l.send = .ok l') :
    l'.inbox = l.inbox ++ l.replies.head?.getD [] := by
  rw [Line.send] at h
  split at h <;> cases h <;> rfl

/-- What was on a line and what a step brings there is read or stays on the line. -/
def Conserves (c : Channel) (s : Step) : Prop :=
  ∀ n, unread c.lines n ++ (c.brought s).texts.on n =
    Frames.on (s.2.filterMap (·.dispatched?)) n ++ unread s.1.lines n

/-- A step that brings and reads nothing leaves the lines alone. -/
theorem conserves_of_keeps {c : Channel} {s : Step} (hl : s.1.lines.length = c.lines.length)
    (hs : s.2.filterMap (·.sent?) = []) (hd : s.2.filterMap (·.dispatched?) = [])
    (hu : ∀ n, unread s.1.lines n = unread c.lines n) : Conserves c s := by
  intro n
  rw [brought_of_keeps hl hs, hd, hu]
  simp [Frames.on]

/-- A step that takes the front of an inbox reads it if it is a text. -/
theorem conserves_of_reads {c : Channel} {s : Step} {n : Nat} {l : Line} {i : Inbound}
    {inbox : List Inbound} (hl : c.lines[n]? = some l) (hi : l.inbox = i :: inbox)
    (hlen : s.1.lines.length = c.lines.length) (hs : s.2.filterMap (·.sent?) = [])
    (hd : s.2.filterMap (·.dispatched?) = (i.text?.map fun t => (n, t)).toList)
    (hu : ∀ m, unread s.1.lines m = unread (c.lines.set n { l with inbox }) m) :
    Conserves c s := by
  intro m
  rw [brought_of_keeps hlen hs, hd, hu, unread_set hl]
  by_cases hnm : n = m
  · subst m
    cases ht : i.text? <;> simp [unread, hl, hi, ht, Frames.on]
  · cases ht : i.text? <;> simp [hnm, Frames.on]

theorem dispatched?_dispatch (n : Nat) (text : String) (c : Channel) :
    (c.dispatch n text).2.filterMap (·.dispatched?) = [(n, text)] := by
  rw [dispatch]
  split
  · cases c.listener <;> simp [ChannelEffect.dispatched?]
  · simp [ChannelEffect.dispatched?]
  · simp [ChannelEffect.dispatched?]

theorem Move.conserves {now : Nat} {c : Channel} {s : Step} (hm : Move now c s) :
    Conserves c s := by
  cases hm with
  | finish hs hp => exact conserves_of_keeps rfl rfl rfl fun _ => rfl
  | begin hs hp | again hs hp hd => exact conserves_of_keeps rfl rfl rfl fun _ => rfl
  | @accepted delay log l start hs hp ht =>
      intro n
      have hb : c.brought (c.take l log) = l.inbox.map fun i => (c.lines.length, i) := by
        simp [brought, take]
      have hd : (c.take l log).2.filterMap (·.dispatched?) = [] := by
        simp [take, ChannelEffect.dispatched?]
      have hlines : (c.take l log).1.lines = c.lines ++ [l] := rfl
      rw [hb, hd, hlines, Arrivals.texts_on_line, unread_concat]
      by_cases hn : c.lines.length = n
      · simp [hn, unread, Frames.on]
      · simp [hn, Frames.on]
  | refused hs hp | late hs hp => exact conserves_of_keeps rfl rfl rfl fun _ => rfl
  | leave hs hp =>
      exact conserves_of_keeps (by simp [letGo]) rfl rfl fun _ => unread_release ..
  | @send n f frames l l' hs hp hl hf =>
      intro m
      have hb : c.brought ({ c with lines := c.lines.set n l', phase := .pumping n frames },
          [.sent n f]) = (l.replies.head?.getD []).map fun i => (n, i) := by
        have hdrop : (c.lines.set n l').drop c.lines.length = [] :=
          List.drop_eq_nil_iff.mpr (by simp)
        simp [brought, hdrop, hl]
      rw [hb, Arrivals.texts_on_line, unread_set hl, inbox_send hf]
      by_cases hnm : n = m
      · subst m
        simp [unread, hl, ChannelEffect.dispatched?, Frames.on]
      · simp [hnm, ChannelEffect.dispatched?, Frames.on]
  | sendFailed hs hp hl hf =>
      exact conserves_of_keeps (by simp [loseAfter, letGo]) rfl rfl fun _ => unread_release ..
  | @readText n l text inbox hs hp hl hi =>
      obtain ⟨last, received, he⟩ :=
        dispatch_fst n text { c with lines := c.lines.set n { l with inbox } }
      exact conserves_of_reads hl hi (by simp [he]) (sent?_dispatch ..).1
        (dispatched?_dispatch ..) fun m => by rw [he]
  | readNotice hs hp hl hi =>
      exact conserves_of_reads hl hi (by simp) rfl rfl fun _ => rfl
  | readBroken hs hp hl hi =>
      exact conserves_of_reads hl hi (by simp [loseAfter, letGo]) rfl rfl
        fun _ => unread_release ..
  | readEnd hs hp hl hi =>
      exact conserves_of_reads hl hi (by simp [loseAfter, letGo]) rfl rfl
        fun _ => unread_release ..
  | @closeEnded n start forGood e hp he =>
      rcases closeEnd?_cases he with rfl | ⟨l, rfl⟩ <;> cases forGood <;>
        exact conserves_of_keeps rfl rfl rfl fun _ => rfl

/-! ### Lives -/

theorem inbox_serverAction (a : ServerAction) (l : Line) :
    (a.on l).2.inbox = l.inbox ++ if (a.on l).1 then [a.item] else [] := by
  cases a with
  | deliver i =>
      simp only [ServerAction.on, Line.deliver, ServerAction.item]
      split <;> simp
  | hangUp =>
      simp only [ServerAction.on, Line.hangUp, ServerAction.item]
      split <;> simp

/-- The server reaches a line that is there, or nobody. -/
theorem serve_cases (c : Channel) (line : Option Nat) (a : ServerAction) :
    (∃ l, c.lines[line.getD (c.lines.length - 1)]? = some l ∧ c.serve line a =
      ((a.on l).1, { c with lines := c.lines.set (line.getD (c.lines.length - 1)) (a.on l).2 })) ∨
    c.serve line a = (false, c) := by
  rw [serve]
  cases hl : c.lines[line.getD (c.lines.length - 1)]? with
  | none => exact .inr rfl
  | some l => exact .inl ⟨l, rfl, rfl⟩

theorem unread_serve (c : Channel) (line : Option Nat) (a : ServerAction) (m : Nat) :
    unread (c.serve line a).2.lines m = unread c.lines m ++
      (Arrivals.texts (if (c.serve line a).1 then [(line.getD (c.lines.length - 1), a.item)]
        else [])).on m := by
  rcases serve_cases c line a with ⟨l, hl, he⟩ | he
  · have htexts := Arrivals.texts_on_line (line.getD (c.lines.length - 1)) m [a.item]
    simp only [List.map_cons, List.map_nil] at htexts
    simp only [he, unread_set hl, inbox_serverAction]
    cases (a.on l).1 with
    | false =>
        by_cases hm : line.getD (c.lines.length - 1) = m
        · rw [hm] at hl
          simp [hm, unread, hl]
        · simp [hm]
    | true =>
        by_cases hm : line.getD (c.lines.length - 1) = m
        · rw [hm] at hl htexts
          simp [hm, htexts, unread, hl]
        · simp [hm, htexts]
  · simp [he]

/-- What was read and what is still on the lines is what the server sent, line by line. -/
def ReadsAll (s : Life) (got : Arrivals) : Prop :=
  ∀ n, s.history.dispatched.on n ++ unread s.channel.lines n = got.texts.on n

@[simp] theorem dispatched_record (s : Life) (c : Channel) (deeds : List Deed) :
    (s.record c deeds).history.dispatched =
      s.history.dispatched ++ deeds.filterMap (·.dispatched?) := by
  simp [Life.record, History.dispatched, List.filterMap_map, Function.comp_def]

theorem ReadsAll.next {s : Life} {got : Arrivals} (h : ReadsAll s got) (e : Event) :
    ReadsAll (s.next e) (got ++ s.arriving e) := by
  intro n
  rw [Arrivals.texts_append, Frames.on_append, ← h n]
  cases e with
  | work =>
      cases hm : s.channel.step? s.now with
      | none => simp [Life.next, Life.arriving, hm, Frames.on]
      | some m =>
          have hc := ((move_iff _ _ _).mpr hm).conserves n
          have hd : (m.2.map Deed.did).filterMap (·.dispatched?) =
              m.2.filterMap (·.dispatched?) := by
            simp [List.filterMap_map, Function.comp_def, Deed.dispatched?]
          simp only [Life.next, Life.arriving, hm, dispatched_record, hd, Life.record_channel,
            Option.map_some, Option.getD_some, Frames.on_append, List.append_assoc, hc]
  | clock now => simp [Life.next, Life.arriving, Frames.on]
  | submit exercise submission =>
      have hlines : (s.channel.submit exercise submission).2.1.lines = s.channel.lines := by
        rcases submit_cases s.channel exercise submission with
          ⟨_, _, _, _, _, _, _, he⟩ | ⟨_, _, he⟩ <;> rw [he]
      simp [Life.next_submit, Life.arriving, hlines, Deed.dispatched?, Frames.on]
  | listen listener => simp [Life.next, Life.arriving, listen, Deed.dispatched?, Frames.on]
  | serve line a =>
      simp [Life.next_serve, Life.arriving, unread_serve, Deed.dispatched?]
  | tearDown => simp [Life.next, Life.arriving, Channel.tearDown, Deed.dispatched?, Frames.on]

theorem ReadsAll.run {s : Life} {got : Arrivals} (h : ReadsAll s got) (events : List Event) :
    ReadsAll (s.run events) (got ++ s.arrivals events) := by
  induction events generalizing s got with
  | nil => simpa [Life.arrivals] using h
  | cons e events ih =>
      rw [Life.run_cons, Life.arrivals, ← List.append_assoc]
      exact ih (h.next e)

/-! ### The newest result and its listener -/

/-- A text is a result, which is kept and reported, or it leaves the channel as it is. -/
theorem dispatch_cases (n : Nat) (text : String) (c : Channel) :
    (∃ r l, Frame.classify text = .result r ∧
      c.dispatch n text = ({ c with last := some r, received := c.received + 1 },
        .dispatched n text :: .logged l :: (c.listener.map fun name => .called name r).toList)) ∨
    (Frame.classify text).result? = none ∧
      ∃ l, c.dispatch n text = (c, [.dispatched n text, .logged l]) := by
  rw [dispatch]
  cases Frame.classify text with
  | result r => exact .inl ⟨r, _, rfl, rfl⟩
  | ignored => exact .inr ⟨rfl, _, rfl⟩
  | malformed reason => exact .inr ⟨rfl, _, rfl⟩

/-- A move reads a text, or it is silent and leaves the newest result as it is. -/
theorem Move.reads {now : Nat} {c : Channel} {s : Step} (hm : Move now c s) :
    (∃ n text d, s = dispatch n text d ∧ SameSetUp c d ∧ d.last = c.last ∧
      d.received = c.received) ∨
    s.1.last = c.last ∧ s.1.received = c.received ∧ ∀ e ∈ s.2, e.IsSilent := by
  cases hm with
  | @readText n l text inbox hs hp hl hi =>
      exact .inl ⟨n, text, _, rfl, ⟨rfl, rfl, rfl, rfl, rfl⟩, rfl, rfl⟩
  | @closeEnded n start forGood e hp he =>
      refine .inr ?_
      rcases closeEnd?_cases he with rfl | ⟨l, rfl⟩ <;> cases forGood <;>
        simp [goOn, retry, Channel.finish, ChannelEffect.IsSilent]
  | accepted hs hp ht =>
      refine .inr ⟨rfl, rfl, ?_⟩
      intro e he
      simp only [take, List.mem_append, List.mem_map, List.mem_cons, List.not_mem_nil,
        or_false] at he
      rcases he with ⟨line, _, rfl⟩ | rfl | rfl <;> trivial
  | _ =>
      refine .inr ⟨rfl, rfl, ?_⟩
      simp [Channel.finish, attempt, retryAfter, retry, letGo, loseAfter,
        ChannelEffect.IsSilent]

/-- The newest result, how many there were, the listener and the calls follow from the history.
A call comes when the result that it reports is already the newest one. -/
structure Reported (s : Life) : Prop where
  last_eq : s.channel.last = s.history.results.getLast?
  received_eq : s.channel.received = s.history.results.length
  listener_eq : s.channel.listener = s.history.listener
  calls_eq : s.history.calls = s.history.owed
  holds : ∀ (earlier : History) t name r later,
    s.history = earlier ++ (t, .did (.called name r)) :: later → earlier.results.getLast? = some r

theorem reported_connect (now : Nat) (url : String) (connector : Connector) (backoff : Backoff)
    (connectTimeout : Nat) :
    Reported (Life.ofChannel now (connect url connector backoff connectTimeout)) := by
  refine ⟨rfl, rfl, rfl, rfl, ?_⟩
  intro earlier t name r later h
  simp [Life.ofChannel] at h

theorem Reported.append {s s' : Life} (h : Reported s) {new : History}
    (hnew : s'.history = s.history ++ new)
    (hlast : s'.channel.last = new.results.getLast?.or s.channel.last)
    (hreceived : s'.channel.received = s.channel.received + new.results.length)
    (hlistener : s'.channel.listener = s'.history.listener)
    (hcalls : new.calls = History.owedAfter s.history new)
    (hholds : ∀ earlier t name r later, new = earlier ++ (t, .did (.called name r)) :: later →
      (s.history ++ earlier).results.getLast? = some r) : Reported s' := by
  refine ⟨?_, ?_, hlistener, ?_, ?_⟩
  · rw [hnew, History.results_append, List.getLast?_append, ← h.last_eq, hlast]
  · rw [hnew, History.results_append, List.length_append, ← h.received_eq, hreceived]
  · have hold := h.calls_eq
    rw [History.owed] at hold
    rw [hnew, History.calls_append, History.owed, History.owedAfter_append, hold, hcalls,
      List.nil_append]
  · intro earlier t name r later hsplit
    rw [hnew] at hsplit
    rcases split_append hsplit with ⟨rest, hs, _⟩ | ⟨rest, rfl, hs⟩
    · exact h.holds _ _ _ _ _ hs
    · exact hholds _ _ _ _ _ hs

/-- Deeds without a result or a call change no more than who listens. -/
theorem Reported.record {s : Life} (h : Reported s) {c : Channel} {deeds : List Deed}
    (hlast : c.last = s.channel.last) (hreceived : c.received = s.channel.received)
    (hlistener : c.listener = (s.record c deeds).history.listener)
    (hd : ∀ d ∈ deeds, d.result? = none ∧ d.call? = none) : Reported (s.record c deeds) := by
  have hnew : ∀ m ∈ deeds.map fun d => (s.now, d), m.2.result? = none ∧ m.2.call? = none := by
    simpa using hd
  have hresults : History.results (deeds.map fun d => (s.now, d)) = [] :=
    List.filterMap_eq_nil_iff.mpr fun m hm => (hnew m hm).1
  have hcalls : History.calls (deeds.map fun d => (s.now, d)) = [] :=
    List.filterMap_eq_nil_iff.mpr fun m hm => (hnew m hm).2
  refine h.append (Life.record_history ..) ?_ ?_ hlistener ?_ ?_
  · rw [hresults]
    exact hlast
  · rw [hresults]
    exact hreceived
  · rw [hcalls, History.owedAfter_eq_nil fun m hm => (hnew m hm).1]
  · intro earlier t name r later hsplit
    have hm : (t, .did (.called name r)) ∈ deeds.map fun d => (s.now, d) := by simp [hsplit]
    exact absurd (hnew _ hm).2 (by simp [Deed.call?, ChannelEffect.call?])

theorem quiet_of_isSilent {e : ChannelEffect} (h : e.IsSilent) :
    (Deed.did e).result? = none ∧ (Deed.did e).call? = none := by
  cases e <;> first | exact ⟨rfl, rfl⟩ | exact h.elim

theorem listener_did (h : History) (now : Nat) (effects : List ChannelEffect) :
    History.listener (h ++ (effects.map Deed.did).map fun d => (now, d)) = h.listener := by
  refine History.listener_append ?_ h
  intro m hm
  simp only [List.mem_map] at hm
  obtain ⟨d, ⟨e, _, rfl⟩, rfl⟩ := hm
  rfl

/-- Reading a result makes it the newest one and calls the listener of the moment. -/
theorem Reported.dispatch {s : Life} (h : Reported s) {n : Nat} {text : String} {d : Channel}
    (hd : SameSetUp s.channel d) (hlast : d.last = s.channel.last)
    (hreceived : d.received = s.channel.received) :
    Reported (s.record (d.dispatch n text).1 ((d.dispatch n text).2.map .did)) := by
  have hlistener := listener_did s.history s.now (d.dispatch n text).2
  rw [← h.listener_eq, ← hd.listener] at hlistener
  rcases dispatch_cases n text d with ⟨r, l, hr, he⟩ | ⟨hr, l, he⟩
  · have hread : (Deed.did (.dispatched n text)).result? = some r :=
      congrArg Frame.result? hr
    have hlogged : (Deed.did (.logged l)).result? = none := rfl
    have hcalled : ∀ name, (Deed.did (.called name r)).result? = none := fun _ => rfl
    have howner : s.history.listener = d.listener := by rw [← h.listener_eq, hd.listener]
    rw [he] at hlistener ⊢
    refine h.append (Life.record_history ..) ?_ ?_ hlistener.symm ?_ ?_
    · cases d.listener <;> simp [History.results, hread, hlogged, hcalled]
    · cases d.listener <;> simp [History.results, hread, hlogged, hcalled, hreceived]
    · cases hn : d.listener <;>
        simp [History.calls, Deed.call?, ChannelEffect.call?, History.owedAfter, hread, hlogged,
          hcalled, howner, hn]
    · -- The result is read before the call, and nothing is read in between.
      intro earlier t name r' later hsplit
      have hwhole : [(s.now, Deed.did (.dispatched n text)), (s.now, .did (.logged l))] ++
          (d.listener.map fun name => (s.now, Deed.did (.called name r))).toList =
            earlier ++ (t, .did (.called name r')) :: later := by
        rw [← hsplit]
        cases d.listener <;> simp
      rcases split_append hwhole with ⟨rest, hread', _⟩ | ⟨rest, rfl, hcalls⟩
      · have hm : (t, Deed.did (.called name r')) ∈
            [(s.now, Deed.did (.dispatched n text)), (s.now, .did (.logged l))] := by
          simp [hread']
        simp at hm
      · cases hn : d.listener with
        | none => simp [hn] at hcalls
        | some owner =>
            simp only [hn, Option.map_some, Option.toList_some] at hcalls
            cases rest with
            | nil =>
                simp only [List.nil_append, List.cons.injEq, Prod.mk.injEq, Deed.did.injEq,
                  ChannelEffect.called.injEq] at hcalls
                obtain ⟨⟨_, _, rfl⟩, _⟩ := hcalls
                simp [History.results, hread, hlogged]
            | cons m rest => simp at hcalls
  · rw [he] at hlistener ⊢
    refine h.record hlast hreceived hlistener.symm ?_
    have hread : (Deed.did (.dispatched n text)).result? = none := hr
    have hlogged : (Deed.did (.logged l)).result? = none := rfl
    simp [hread, hlogged, Deed.call?, ChannelEffect.call?]

theorem Reported.next {s : Life} (h : Reported s) (e : Event) : Reported (s.next e) := by
  cases e with
  | work =>
      rcases s.next_work with ⟨_, he⟩ | ⟨m, hm, he⟩
      · rwa [he]
      · rw [he]
        rcases hm.reads with ⟨n, text, d, rfl, hd, hlast, hreceived⟩ | ⟨hlast, hreceived, hq⟩
        · exact h.dispatch hd hlast hreceived
        · refine h.record hlast hreceived ?_ ?_
          · rw [Life.record_history, listener_did, ← h.listener_eq, hm.sameSetUp.listener]
          · intro d hd
            obtain ⟨e, he, rfl⟩ := List.mem_map.mp hd
            exact quiet_of_isSilent (hq e he)
  | clock now => exact ⟨h.last_eq, h.received_eq, h.listener_eq, h.calls_eq, h.holds⟩
  | submit exercise submission =>
      have hlistener (answer) : s.channel.listener = History.listener
          (s.history ++ [(s.now, .submitted s.channel.slot exercise submission answer)]) :=
        h.listener_eq.trans (History.listener_append (by simp [Deed.listened?]) _).symm
      rw [Life.next_submit]
      rcases submit_cases s.channel exercise submission with
        ⟨_, _, _, _, _, _, _, he⟩ | ⟨_, _, he⟩ <;> rw [he] <;>
        exact h.record rfl rfl (hlistener _) (by simp [Deed.result?, Deed.dispatched?, Deed.call?])
  | listen listener =>
      refine h.record rfl rfl ?_ (by simp [Deed.result?, Deed.dispatched?, Deed.call?])
      simp [Life.record_history, History.listener, listen, Deed.listened?]
  | serve line a =>
      obtain ⟨lines, he, _⟩ := serve_snd s.channel line a
      rw [Life.next_serve, he]
      refine h.record rfl rfl ?_ (by simp [Deed.result?, Deed.dispatched?, Deed.call?])
      exact h.listener_eq.trans (History.listener_append (by simp [Deed.listened?]) _).symm
  | tearDown =>
      refine h.record rfl rfl ?_ (by simp [Deed.result?, Deed.dispatched?, Deed.call?])
      exact h.listener_eq.trans (History.listener_append (by simp [Deed.listened?]) _).symm

theorem Reported.run {s : Life} (h : Reported s) (events : List Event) :
    Reported (s.run events) :=
  Life.run_induction (P := Reported) (fun _ e h => h.next e) h events

/-- The newest result changes when a result is read, and at no other time. -/
theorem last_next (s : Life) (e : Event) :
    (s.next e).channel.last = s.channel.last ∨ ∃ n text r later,
      Frame.classify text = .result r ∧
        (s.next e).history = s.history ++ (s.now, .did (.dispatched n text)) :: later ∧
          (s.next e).channel.last = some r := by
  cases e with
  | work =>
      rcases s.next_work with ⟨_, he⟩ | ⟨m, hm, he⟩
      · exact .inl (by rw [he])
      · rw [he]
        rcases hm.reads with ⟨n, text, d, rfl, _, hlast, _⟩ | ⟨hlast, _, _⟩
        · rcases dispatch_cases n text d with ⟨r, l, hr, hd⟩ | ⟨_, l, hd⟩
          · exact .inr ⟨n, text, r, _, hr, by rw [Life.record_history, hd]; rfl, by rw [hd]; rfl⟩
          · exact .inl (by rw [hd]; exact hlast)
        · exact .inl hlast
  | submit exercise submission =>
      rw [Life.next_submit]
      rcases submit_cases s.channel exercise submission with
        ⟨_, _, _, _, _, _, _, he⟩ | ⟨_, _, he⟩ <;> rw [he] <;> exact .inl rfl
  | serve line a =>
      obtain ⟨lines, he, _⟩ := serve_snd s.channel line a
      rw [Life.next_serve, he]
      exact .inl rfl
  | clock now | listen listener | tearDown => exact .inl rfl

/-- A channel that waits has read all that is on the attached line. -/
theorem unread_of_settled {s : Life} (h : Coherent s.channel) {n : Nat}
    (hslot : s.channel.slot = some n) (hw : s.IsSettled) : unread s.channel.lines n = [] := by
  have hp := queue_of_settled h hslot hw
  have hs : s.channel.stopping = false := by
    have hslot' := h.slot_eq
    cases hs : s.channel.stopping with
    | false => rfl
    | true => simp [hslot, hs] at hslot'
  cases hl : s.channel.lines[n]? with
  | none => simp [unread, hl]
  | some l =>
      cases hi : l.inbox with
      | nil => simp [unread, hl, hi]
      | cons i inbox =>
          rw [Life.IsSettled] at hw
          cases i with
          | text text => simp [(Move.readText hs hp hl hi).execution] at hw
          | notice line => simp [(Move.readNotice hs hp hl hi).execution] at hw
          | broken e => simp [(Move.readBroken hs hp hl hi _ rfl).execution] at hw
          | ended => simp [(Move.readEnd hs hp hl hi).execution] at hw

/-- What becomes of what the server sent, told from a history. -/
structure Reception (got : Arrivals) (s : Life) : Prop where
  order : ∀ n, s.history.dispatched.on n <+: got.texts.on n
  complete : s.IsSettled → ∀ n, s.channel.slot = some n →
    s.history.dispatched.on n = got.texts.on n
  last_eq : s.channel.last = s.history.results.getLast?
  /-- Only a result that is read replaces the newest one. -/
  changes : ∀ e, (s.next e).channel.last = s.channel.last ∨ ∃ n text r later,
    Frame.classify text = .result r ∧
      (s.next e).history = s.history ++ (s.now, .did (.dispatched n text)) :: later ∧
        (s.next e).channel.last = some r
  /-- The newest result outlives the channel. -/
  outlives : ∀ later, ((s.next .tearDown).run later).channel.last = s.channel.last
  calls_eq : s.history.calls = s.history.owed
  /-- At the time of a call the newest result is the one that is reported. -/
  holds : ∀ (earlier : History) t name r later,
    s.history = earlier ++ (t, .did (.called name r)) :: later → earlier.results.getLast? = some r

/-- Texts are read in the order in which they were sent, the newest result is kept, and every
result is reported once to whoever listens when it is read. -/
theorem results_reported (now : Nat) (url : String) (connector : Connector) (backoff : Backoff)
    (connectTimeout : Nat) (events : List Event) :
    let start := Life.ofChannel now (connect url connector backoff connectTimeout)
    Reception (start.arrivals events) (start.run events) := by
  intro start
  have hcoherent : Coherent (start.run events).channel :=
    (coherent_connect url connector backoff connectTimeout).run (s := start) events
  have hbegin : ReadsAll start [] := fun _ => rfl
  have hreads : ReadsAll (start.run events) (start.arrivals events) := hbegin.run events
  have hreported : Reported (start.run events) :=
    (reported_connect now url connector backoff connectTimeout).run events
  refine ⟨?_, ?_, hreported.last_eq, last_next _, ?_, hreported.calls_eq, hreported.holds⟩
  · intro n
    rw [← hreads n]
    exact List.prefix_append _ _
  · intro hw n hn
    rw [← hreads n, unread_of_settled hcoherent hn hw, List.append_nil]
  · intro later
    exact ((final_tearDown hcoherent).run later).kept.last

end Channel

end ExerciseClient
