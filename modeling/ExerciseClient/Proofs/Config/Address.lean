import ExerciseClient.Api.Client
import ExerciseClient.Proofs.Url.Reading

/-! The addresses that settings give. The channel and the API share the origin: user info, host and
the port that is connected to. The scheme alone decides which of the two there are, and the channel
is encrypted where the API is. Nothing that the settings say makes a query or a fragment of either
address. -/

namespace ExerciseClient

namespace Url

variable {u : Url}

/-! ### The text of an address -/

theorem unmarked_userInfo (h : u.ClearAuthority) : Unmarked u.userInfo.toList := by
  rw [userInfo]
  split
  · exact Unmarked.nil
  · rw [String.toList_append]
    exact h.username.append (by decide)
  · rename_i password hpassword
    simp only [String.toList_append]
    exact ((h.username.append (by decide)).append (h.password password hpassword)).append
      (by decide)

theorem unmarked_authority (h : u.ClearAuthority) : Unmarked u.authority.toList := by
  obtain ⟨host, hhost, hclear⟩ := h.host
  rw [authority, hhost]
  simp only [String.toList_append]
  refine ((Unmarked.append (by decide) (unmarked_userInfo h)).append hclear).append ?_
  cases u.port with
  | none => exact Unmarked.nil
  | some port =>
      have htext : (s!":{port}").toList = ':' :: (toString port).toList := by
        rw [String.toList_append]
        rfl
      rw [htext]
      exact Unmarked.cons_iff.mpr ⟨by decide, Unmarked.toString port⟩

/-- A text without query and fragment has neither of their marks. -/
theorem unmarked_text (hscheme : Unmarked u.scheme.toList) (h : u.ClearAuthority)
    (hpath : Unmarked u.path.text.toList) (hquery : u.query = none)
    (hfragment : u.fragment = none) : Unmarked u.text.toList := by
  rw [text, hquery, hfragment]
  simp only [String.toList_append]
  exact ((((hscheme.append (by decide)).append (unmarked_authority h)).append hpath).append
    Unmarked.nil).append Unmarked.nil

/-- A scheme with the same default port connects to the same port. -/
theorem effectivePort_withScheme {scheme : String}
    (h : defaultPort? scheme = defaultPort? u.scheme) :
    (u.withScheme scheme).effectivePort = u.effectivePort := by
  simp only [effectivePort, withScheme, h]
  by_cases hport : u.port = defaultPort? u.scheme
  · rw [if_pos hport, hport, Option.none_or, Option.or_self]
  · rw [if_neg hport]

end Url

namespace Config

variable {c : Config} {u w : Url}

/-! ### What becomes of the origin -/

/-- The schemes whose origins a channel is connected to. -/
def webSchemes : List String := ["http", "https", "ws", "wss"]

theorem origin_of_ok (h : Url.read c.serverOrigin = .ok u) : c.origin = .ok u.bare := by
  rw [origin, h]

theorem addresses_of_error {e : Url.UrlError} (h : Url.read c.serverOrigin = .error e) :
    c.channelUrl = .error (.invalidUrl c.serverOrigin e) ∧
      c.apiUrl = .error (.invalidUrl c.serverOrigin e) := by
  have horigin : c.origin = .error (.invalidUrl c.serverOrigin e) := by rw [origin, h]
  rw [channelUrl, apiUrl, horigin]
  exact ⟨rfl, rfl⟩

theorem channelUrl_of_ok (h : Url.read c.serverOrigin = .ok u) :
    c.channelUrl =
      match channelScheme? u.scheme with
      | none => .error (.unsupportedScheme u.scheme)
      | some scheme => .ok ((u.bare.withScheme scheme).withPath c.wsPath) := by
  rw [channelUrl, origin_of_ok h]
  rfl

theorem apiUrl_of_ok (h : Url.read c.serverOrigin = .ok u) :
    c.apiUrl =
      if u.scheme = "http" ∨ u.scheme = "https" then .ok (u.bare.withPath c.apiBasePath)
      else .error (.unsupportedScheme u.scheme) := by
  rw [apiUrl, origin_of_ok h]
  rfl

/-- A channel's scheme is secure where the origin's is. -/
theorem channelScheme?_eq_some {scheme : String} (h : scheme ∈ webSchemes) :
    ∃ s, channelScheme? scheme = some s ∧ Url.defaultPort? s = Url.defaultPort? scheme ∧
      s ∈ ["ws", "wss"] ∧ (s = "wss" ↔ scheme = "https" ∨ scheme = "wss") ∧
      (s = "ws" ↔ scheme = "http" ∨ scheme = "ws") := by
  simp only [webSchemes, List.mem_cons, List.not_mem_nil, or_false] at h
  rcases h with rfl | rfl | rfl | rfl
  · exact ⟨"ws", by decide⟩
  · exact ⟨"wss", by decide⟩
  · exact ⟨"ws", by decide⟩
  · exact ⟨"wss", by decide⟩

theorem channelScheme?_eq_none {scheme : String} (h : scheme ∉ webSchemes) :
    channelScheme? scheme = none := by
  simp only [webSchemes, List.mem_cons, List.not_mem_nil, or_false, not_or] at h
  simp [channelScheme?, h]

/-- An address for the channel comes of an origin that is read and has a scheme of the web. -/
theorem channelUrl_eq_ok_iff : c.channelUrl = .ok w ↔
    ∃ u scheme, Url.read c.serverOrigin = .ok u ∧ u.scheme ∈ webSchemes ∧
      channelScheme? u.scheme = some scheme ∧
      w = (u.bare.withScheme scheme).withPath c.wsPath := by
  constructor
  · intro h
    cases hr : Url.read c.serverOrigin with
    | error e =>
        rw [(addresses_of_error hr).1] at h
        cases h
    | ok u =>
        rw [channelUrl_of_ok hr] at h
        cases hs : channelScheme? u.scheme with
        | none => simp [hs] at h
        | some scheme =>
            rw [hs] at h
            refine ⟨u, scheme, rfl, ?_, hs, (Except.ok.inj h).symm⟩
            refine Classical.byContradiction fun hweb => ?_
            rw [channelScheme?_eq_none hweb] at hs
            cases hs
  · rintro ⟨u, scheme, hr, -, hs, rfl⟩
    rw [channelUrl_of_ok hr, hs]

theorem apiUrl_eq_ok_iff : c.apiUrl = .ok w ↔
    ∃ u, Url.read c.serverOrigin = .ok u ∧ (u.scheme = "http" ∨ u.scheme = "https") ∧
      w = u.bare.withPath c.apiBasePath := by
  constructor
  · intro h
    cases hr : Url.read c.serverOrigin with
    | error e =>
        rw [(addresses_of_error hr).2] at h
        cases h
    | ok u =>
        rw [apiUrl_of_ok hr] at h
        by_cases hs : u.scheme = "http" ∨ u.scheme = "https"
        · rw [if_pos hs] at h
          exact ⟨u, rfl, hs, (Except.ok.inj h).symm⟩
        · simp [hs] at h
  · rintro ⟨u, hr, hs, rfl⟩
    rw [apiUrl_of_ok hr, if_pos hs]

/-! ### One origin -/

/-- The addresses of a channel and of an API: which of them there are, and what they share. -/
structure OneOrigin (c : Config) : Prop where
  channel_iff : (∃ w, c.channelUrl = .ok w) ↔
    ∃ u, Url.read c.serverOrigin = .ok u ∧ u.scheme ∈ webSchemes
  channel_scheme : ∀ u w, Url.read c.serverOrigin = .ok u → c.channelUrl = .ok w →
    (w.scheme = "wss" ↔ u.scheme = "https" ∨ u.scheme = "wss") ∧
      (w.scheme = "ws" ↔ u.scheme = "http" ∨ u.scheme = "ws")
  api_iff : (∃ a, c.apiUrl = .ok a) ↔
    ∃ u, Url.read c.serverOrigin = .ok u ∧ (u.scheme = "http" ∨ u.scheme = "https")
  api_scheme : ∀ u a, Url.read c.serverOrigin = .ok u → c.apiUrl = .ok a → a.scheme = u.scheme
  unreadable : ∀ e, Url.read c.serverOrigin = .error e →
    c.channelUrl = .error (.invalidUrl c.serverOrigin e) ∧
      c.apiUrl = .error (.invalidUrl c.serverOrigin e)
  channel_refuses : ∀ u, Url.read c.serverOrigin = .ok u → u.scheme ∉ webSchemes →
    c.channelUrl = .error (.unsupportedScheme u.scheme)
  api_refuses : ∀ u, Url.read c.serverOrigin = .ok u → ¬(u.scheme = "http" ∨ u.scheme = "https") →
    c.apiUrl = .error (.unsupportedScheme u.scheme)
  /-- Where there is an API there is a channel to the same place, and it is encrypted where the API
  is. -/
  shared : ∀ a, c.apiUrl = .ok a → ∃ w host port, c.channelUrl = .ok w ∧
    w.username = a.username ∧ w.password = a.password ∧
    (w.host = some host ∧ a.host = some host) ∧
    (w.effectivePort = some port ∧ a.effectivePort = some port) ∧
    (w.scheme = "wss" ↔ a.scheme = "https")
  /-- Neither address has a query or a fragment, and neither is begun in its text. -/
  bare : ∀ w, c.channelUrl = .ok w ∨ c.apiUrl = .ok w →
    w.query = none ∧ w.fragment = none ∧ Url.Unmarked w.text.toList

theorem exists_defaultPort {scheme : String} (h : scheme ∈ webSchemes) :
    ∃ port, Url.defaultPort? scheme = some port := by
  simp only [webSchemes, List.mem_cons, List.not_mem_nil, or_false] at h
  rcases h with rfl | rfl | rfl | rfl
  · exact ⟨80, by decide⟩
  · exact ⟨443, by decide⟩
  · exact ⟨80, by decide⟩
  · exact ⟨443, by decide⟩

theorem exists_effectivePort (h : u.scheme ∈ webSchemes) : ∃ port, u.effectivePort = some port := by
  obtain ⟨port, hport⟩ := exists_defaultPort h
  rw [Url.effectivePort, hport]
  cases u.port with
  | none => exact ⟨port, rfl⟩
  | some p => exact ⟨p, rfl⟩

/-- An origin with a scheme of the web has an authority. -/
theorem clear_of_read (h : Url.read c.serverOrigin = .ok u) (hs : u.scheme ∈ webSchemes) :
    u.ClearAuthority := by
  obtain ⟨port, hport⟩ := exists_defaultPort hs
  refine Url.gives_read c.serverOrigin u h ?_
  rw [Url.isSpecial, hport]
  rfl

theorem web_of_api (h : u.scheme = "http" ∨ u.scheme = "https") : u.scheme ∈ webSchemes := by
  rcases h with h | h <;> rw [h] <;> decide

theorem shared_of_api {a : Url} (h : c.apiUrl = .ok a) :
    ∃ w host port, c.channelUrl = .ok w ∧
      w.username = a.username ∧ w.password = a.password ∧
      (w.host = some host ∧ a.host = some host) ∧
      (w.effectivePort = some port ∧ a.effectivePort = some port) ∧
      (w.scheme = "wss" ↔ a.scheme = "https") := by
  obtain ⟨u, hr, hscheme, rfl⟩ := apiUrl_eq_ok_iff.mp h
  have hweb := web_of_api hscheme
  obtain ⟨scheme, hs, hport, -, hsecure, -⟩ := channelScheme?_eq_some hweb
  obtain ⟨host, hhost, -⟩ := (clear_of_read hr hweb).host
  obtain ⟨port, heffective⟩ := exists_effectivePort hweb
  refine ⟨_, host, port, channelUrl_eq_ok_iff.mpr ⟨u, scheme, hr, hweb, hs, rfl⟩, rfl, rfl,
    ⟨hhost, hhost⟩, ⟨?_, heffective⟩, ?_⟩
  · exact (Url.effectivePort_withScheme (u := u.bare) hport).trans heffective
  · change scheme = "wss" ↔ u.scheme = "https"
    rw [hsecure]
    constructor
    · rintro (h | h)
      · exact h
      · rcases hscheme with h' | h' <;> rw [h] at h' <;> exact absurd h' (by decide)
    · exact .inl

theorem bare_of_ok (h : c.channelUrl = .ok w ∨ c.apiUrl = .ok w) :
    w.query = none ∧ w.fragment = none ∧ Url.Unmarked w.text.toList := by
  rcases h with h | h
  · obtain ⟨u, scheme, hr, hweb, hs, rfl⟩ := channelUrl_eq_ok_iff.mp h
    obtain ⟨s, hs', -, hmem, -⟩ := channelScheme?_eq_some hweb
    obtain rfl := Option.some.inj (hs.symm.trans hs')
    have hclear := clear_of_read hr hweb
    have hscheme : Url.Unmarked scheme.toList := by
      have hall : ∀ s ∈ ["ws", "wss"], Url.Unmarked s.toList := by decide
      exact hall scheme hmem
    exact ⟨rfl, rfl, Url.unmarked_text hscheme ⟨hclear.host, hclear.username, hclear.password⟩
      (Url.Path.unmarked_ofChars _ _ _) rfl rfl⟩
  · obtain ⟨u, hr, hscheme, rfl⟩ := apiUrl_eq_ok_iff.mp h
    have hclear := clear_of_read hr (web_of_api hscheme)
    have hmarks : Url.Unmarked u.scheme.toList := by
      rcases hscheme with h | h <;> rw [h] <;> decide
    exact ⟨rfl, rfl, Url.unmarked_text hmarks ⟨hclear.host, hclear.username, hclear.password⟩
      (Url.Path.unmarked_ofChars _ _ _) rfl rfl⟩

/-- The channel and the API share their origin, and the channel is encrypted where the API is. -/
theorem one_origin (c : Config) : c.OneOrigin where
  channel_iff := by
    constructor
    · rintro ⟨w, hw⟩
      obtain ⟨u, -, hr, hweb, -⟩ := channelUrl_eq_ok_iff.mp hw
      exact ⟨u, hr, hweb⟩
    · rintro ⟨u, hr, hweb⟩
      obtain ⟨scheme, hs, -⟩ := channelScheme?_eq_some hweb
      exact ⟨_, channelUrl_eq_ok_iff.mpr ⟨u, scheme, hr, hweb, hs, rfl⟩⟩
  channel_scheme u w hr hw := by
    obtain ⟨u', scheme, hr', hweb, hs, rfl⟩ := channelUrl_eq_ok_iff.mp hw
    obtain rfl := Except.ok.inj (hr.symm.trans hr')
    obtain ⟨s, hs', -, -, hsecure, hplain⟩ := channelScheme?_eq_some hweb
    obtain rfl := Option.some.inj (hs.symm.trans hs')
    exact ⟨hsecure, hplain⟩
  api_iff := by
    constructor
    · rintro ⟨a, ha⟩
      obtain ⟨u, hr, hs, -⟩ := apiUrl_eq_ok_iff.mp ha
      exact ⟨u, hr, hs⟩
    · rintro ⟨u, hr, hs⟩
      exact ⟨_, apiUrl_eq_ok_iff.mpr ⟨u, hr, hs, rfl⟩⟩
  api_scheme u a hr ha := by
    obtain ⟨u', hr', -, rfl⟩ := apiUrl_eq_ok_iff.mp ha
    obtain rfl := Except.ok.inj (hr.symm.trans hr')
    rfl
  unreadable e := addresses_of_error
  channel_refuses u hr hs := by rw [channelUrl_of_ok hr, channelScheme?_eq_none hs]
  api_refuses u hr hs := by rw [apiUrl_of_ok hr, if_neg hs]
  shared a := shared_of_api
  bare w := bare_of_ok

end Config

/-- The client that settings give has the API's address for its base. -/
theorem ApiClient.ofConfig_eq_ok_iff {c : Config} {client : ApiClient} :
    ApiClient.ofConfig c = .ok client ↔
      ∃ base, c.apiUrl = .ok base ∧ client = ⟨base, c.authToken⟩ := by
  rw [ofConfig]
  cases c.apiUrl with
  | error e => simp [bind, Except.bind]
  | ok base => simp [bind, Except.bind, pure, Except.pure, eq_comm]

end ExerciseClient
