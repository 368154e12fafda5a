import ExerciseClient.Proofs.App.Start
import ExerciseClient.Proofs.Config.Address

/-! What an application reaches once it has started. Its channel stands, so a handshake was written
and accepted; from this follows that nothing in the settings keeps the requests for the same origin
from being sent, encrypted or not, but for an address that is too long to be one. -/

namespace ExerciseClient

/-! ### A channel that stands was accepted -/

/-- An attempt does not bring a line. -/
def Attempt.Refuses : Attempt → Prop
  | .answered _ (.accepted ..) => False
  | _ => True

/-- No attempt brings a line. -/
structure Connector.Refuses (c : Connector) : Prop where
  script : ∀ a ∈ c.script, a.Refuses
  afterwards : c.afterwards.Refuses

theorem Connector.Refuses.next {c : Connector} (h : c.Refuses) :
    c.next.1.Refuses ∧ c.next.2.Refuses := by
  rcases c with ⟨_ | ⟨a, rest⟩, afterwards⟩
  · exact ⟨h.afterwards, h⟩
  · exact ⟨h.script a List.mem_cons_self,
      fun a ha => h.script a (List.mem_cons_of_mem _ ha), h.afterwards⟩

/-- The attempt that is under way. -/
def Phase.attempt? : Phase → Option Attempt
  | .connecting a _ => some a
  | _ => none

namespace Channel

/-- A channel has no line and will get none. -/
structure Barred (c : Channel) : Prop where
  connector : c.connector.Refuses
  attempt : ∀ a, c.phase.attempt? = some a → a.Refuses
  lines_eq : c.lines = []

theorem refuses_of_none {p : Phase} (h : p.attempt? = none) :
    ∀ a, p.attempt? = some a → a.Refuses := by
  intro a ha
  cases h.symm.trans ha

theorem barred_connect {connector : Connector} (h : connector.Refuses) (url : String)
    (backoff : Backoff) (connectTimeout : Nat) :
    Barred (connect url connector backoff connectTimeout) :=
  ⟨h, refuses_of_none rfl, rfl⟩

theorem Barred.move {now : Nat} {c : Channel} {s : Step} (h : Barred c) (hm : Move now c s) :
    Barred s.1 := by
  have hnone {n : Nat} {l : Line} (hl : c.lines[n]? = some l) : False := by
    simp [h.lines_eq] at hl
  cases hm with
  | finish => exact ⟨h.connector, refuses_of_none rfl, h.lines_eq⟩
  | begin | again =>
      obtain ⟨hfirst, hrest⟩ := h.connector.next
      refine ⟨hrest, ?_, h.lines_eq⟩
      intro a ha
      obtain rfl := Option.some.inj ha
      exact hfirst
  | @accepted delay log l _ hs hp ht =>
      have hrefuses : (Attempt.answered delay (.accepted log l)).Refuses :=
        h.attempt _ (by rw [hp]; rfl)
      exact hrefuses.elim
  | refused | late => exact ⟨h.connector, refuses_of_none rfl, h.lines_eq⟩
  | leave => exact ⟨h.connector, refuses_of_none rfl, by simp [letGo, h.lines_eq]⟩
  | send _ _ hl | sendFailed _ _ hl | readText _ _ hl | readNotice _ _ hl | readBroken _ _ hl
    | readEnd _ _ hl => exact (hnone hl).elim
  | @closeEnded _ _ forGood =>
      cases forGood <;> exact ⟨h.connector, refuses_of_none rfl, h.lines_eq⟩

theorem Barred.steps {c : Channel} (h : Barred c) (now fuel : Nat) :
    Barred (c.steps now fuel).1 := by
  induction fuel generalizing c with
  | zero => exact h
  | succ fuel ih =>
      rw [Channel.steps]
      cases hm : c.step? now with
      | none => exact h
      | some m => exact ih (h.move ((move_iff now c m).mpr hm))

theorem Barred.submit {c : Channel} (h : Barred c) (exercise : String)
    (submission : Except String Json.Value) : Barred (c.submit exercise submission).2.1 := by
  rcases submit_cases c exercise submission with ⟨_, _, _, _, _, _, _, he⟩ | ⟨_, _, he⟩ <;> rw [he]
  · exact ⟨h.connector, refuses_of_none rfl, h.lines_eq⟩
  · exact h

theorem Barred.next {s : Life} (h : Barred s.channel) (e : Event) : Barred (s.next e).channel := by
  cases e with
  | work =>
      rcases s.next_work with ⟨_, he⟩ | ⟨m, hm, he⟩
      · rwa [he]
      · rw [he]
        exact h.move hm
  | submit exercise submission => exact h.submit exercise submission
  | serve line a =>
      obtain ⟨lines, he, hlength⟩ := serve_snd s.channel line a
      have hnil : lines = [] := by
        rw [← List.length_eq_zero_iff, hlength, h.lines_eq]
        rfl
      rw [Life.next_serve, he]
      exact ⟨h.connector, h.attempt, hnil⟩
  | clock | listen | tearDown => exact ⟨h.connector, h.attempt, h.lines_eq⟩

theorem Barred.run {s : Life} (h : Barred s.channel) (events : List Event) :
    Barred (s.run events).channel :=
  Life.run_induction (P := fun s => Barred s.channel) (fun _ e h => h.next e) h events

theorem Barred.isConnected_eq {c : Channel} (h : Barred c) (hc : Coherent c) :
    c.isConnected = false := by
  have hnone (n : Nat) : c.phase.line? ≠ some n := by
    intro hn
    have hlast := hc.line_last n hn
    simp [h.lines_eq] at hlast
  have hshows := hc.shows
  rw [isConnected]
  generalize hp : c.phase = phase at hnone hshows
  cases phase with
  | pumping n | closing n => exact absurd rfl (hnone n)
  | waiting due =>
      obtain ⟨span, hs⟩ := hshows
      simp [hs]
  | fresh | connecting | finished => simp [show c.state = _ from hshows]

end Channel

namespace Stage

theorem steady_barred : Steady fun s => s.session.channel.Barred := by
  constructor
  · intro p rest s h
    rw [act_session]
    rcases s.session.turn_channel s.now p with ⟨hc, -⟩ | hc | ⟨exercise, submission, hc⟩ <;>
      rw [hc]
    · exact h.steps _ _
    · exact h
    · exact h.submit ..
  · intro t s h
    rwa [moveTo_session]

end Stage

namespace Handshake

/-- Whatever keeps a handshake from being written, the attempt fails as a connection. -/
theorem attempt_of_fault {u : Url} {token : Option String}
    (hf : ¬(fault? u token = none ∧ lateFault? u token = none)) (h : Handshake) :
    ∃ f : HandshakeFault,
      attempt u token h = .answered 0 (.refused (.connect u.text f.message)) := by
  rw [attempt.eq_def]
  cases hfault : fault? u token with
  | some f => exact ⟨f, rfl⟩
  | none =>
      cases hlate : lateFault? u token with
      | some f =>
          cases h with
          | unreachable reason => exact ⟨.unreachable reason, rfl⟩
          | dropped | unanswered | rejected | accepted => exact ⟨f, rfl⟩
      | none => exact absurd ⟨hfault, hlate⟩ hf

/-- Handshakes that cannot be written bring no line. -/
theorem refuses_ofHandshakes {u : Url} {token : Option String}
    (hf : ¬(fault? u token = none ∧ lateFault? u token = none)) (script : List Handshake)
    (afterwards : Handshake) : (Connector.ofHandshakes u token script afterwards).Refuses := by
  have hrefuses (h : Handshake) : (attempt u token h).Refuses := by
    obtain ⟨f, he⟩ := attempt_of_fault hf h
    rw [he]
    trivial
  refine ⟨fun a ha => ?_, hrefuses afterwards⟩
  obtain ⟨h, -, rfl⟩ := List.mem_map.mp ha
  exact hrefuses h

/-- The token of a handshake that can be written fits a header. -/
theorem headerValue_of_noFault {u : Url} {token : Option String} (hf : fault? u token = none) :
    (token.map Http.authCookie).any (!Http.isHeaderValue ·) = false := by
  rw [fault?] at hf
  cases ht : Http.Target.read u.text with
  | error e => simp [ht] at hf
  | ok t =>
      cases hv : (token.map Http.authCookie).any (!Http.isHeaderValue ·) with
      | false => rfl
      | true => simp [ht, hv] at hf

end Handshake

namespace ApiClient

/-- The client of settings asks a host, encrypted or not, by paths of segments. -/
theorem base_of_config {c : Config} {client : ApiClient} (hc : ofConfig c = .ok client) :
    client.base.host.isSome = true ∧ (∃ list, client.base.path = .segments list) ∧
      (client.base.scheme = "http" ∨ client.base.scheme = "https") := by
  obtain ⟨base, hbase, rfl⟩ := ofConfig_eq_ok_iff.mp hc
  obtain ⟨v, hr, hscheme, rfl⟩ := Config.apiUrl_eq_ok_iff.mp hbase
  exact ⟨(Config.clear_of_read hr (Config.web_of_api hscheme)).host_isSome, ⟨_, rfl⟩, hscheme⟩

/-- Nothing but its length keeps an address of the web from being asked by a client whose token fits
a header. -/
theorem noFault_iff {c : ApiClient} {u : Url} (hhost : u.host.isSome = true)
    (hscheme : u.scheme = "http" ∨ u.scheme = "https")
    (hcookie : (c.token.map Http.authCookie).any (!Http.isHeaderValue ·) = false) :
    c.fault? u = none ↔ (Http.Target.read u.withoutUserInfo.text).toOption.isSome = true := by
  have hsome : u.host.isNone = false := by
    rw [← Option.not_isSome, hhost]
    rfl
  have hallowed : ¬(u.scheme ≠ "http" ∧ u.scheme ≠ "https") :=
    fun ⟨hplain, hsecure⟩ => hscheme.elim hplain hsecure
  rw [fault?, hcookie, hsome, if_neg hallowed]
  cases ht : (Http.Target.read u.withoutUserInfo.text).toOption <;> simp

/-- A client whose base has a path of segments has every endpoint, at the origin of its base. -/
theorem endpoint_of_segments {c : ApiClient} {list : List String}
    (hlist : c.base.path = .segments list) (segments : List String) :
    ∃ u, c.endpoint segments = .ok u ∧ u.host = c.base.host ∧ u.scheme = c.base.scheme := by
  simp [endpoint, Url.extendPath?, hlist]

end ApiClient

namespace App

/-- A channel that stands has written a handshake. -/
theorem noFault_of_connected {c : Config} {b : Backend} {u : Url}
    (h : (connection c b u).1 = true) : Handshake.fault? u c.authToken = none ∧
      Handshake.lateFault? u c.authToken = none := by
  refine Classical.byContradiction fun hf => ?_
  have hbarred : (connection c b u).2.session.channel.Barred :=
    Stage.steady_barred.waitConnected
      (Channel.barred_connect (Handshake.refuses_ofHandshakes hf ..) ..) _
  have hno := hbarred.isConnected_eq (coherent_connection c b u)
  cases h.symm.trans hno

variable {c : Config} {exercise : String} {b : Backend} {a : App}

/-- Once an application has started, whatever it asks for of the back end gets there if the back end
can be reached, but for an address that no request can hold. -/
theorem Begun.reaches (h : Begun c exercise b a) (segments : List String) :
    ∃ u, a.client.endpoint segments = .ok u ∧ ∀ x, a.client.Reaches segments x u ↔
      x.isSent = true ∧ (Http.Target.read u.withoutUserInfo.text).toOption.isSome = true := by
  obtain ⟨client, hc, -, hclient, -⟩ := h.signedIn
  have hbase : a.client.base = client.base := by
    rw [hclient]
    exact logIn_base c client b
  obtain ⟨hhost, ⟨list, hlist⟩, hscheme⟩ := ApiClient.base_of_config hc
  have hcookie := Handshake.headerValue_of_noFault (noFault_of_connected h.connected).1
  rw [h.config_eq] at hcookie
  rw [← hbase] at hhost hlist hscheme
  obtain ⟨u, hu, huhost, huscheme⟩ := ApiClient.endpoint_of_segments hlist segments
  have hnofault := ApiClient.noFault_iff (u := u) (huhost ▸ hhost) (huscheme ▸ hscheme) hcookie
  exact ⟨u, hu, fun x => ⟨fun hr => ⟨hr.sent, hnofault.mp hr.noFault⟩,
    fun ⟨hx, ht⟩ => ⟨hu, hnofault.mpr ht, hx⟩⟩⟩

end App

end ExerciseClient
