import ExerciseClient.App.Command
import ExerciseClient.Proofs.App.Course

/-! Secrets do not show. Two starts that differ in the password, in the token of the settings or in
the token that the log-in gives log the same lines and fail with the same errors, and so do all runs
and the shutdown. A secret decides nothing but what requests and handshakes carry: as long as it is
printable, every exchange goes as it goes with another one. -/

namespace ExerciseClient

open Http (Request Response Exchange)

/-! ### Printable tokens -/

/-- A text of printable ASCII characters. -/
def Printable (text : String) : Prop := ∀ c ∈ text.toList, 0x20 ≤ c.toNat ∧ c.toNat < 0x7F

theorem Printable.authCookie {token : String} (h : Printable token) :
    Printable (Http.authCookie token) := by
  intro c hc
  rw [Http.authCookie, String.toList_append, List.mem_append] at hc
  rcases hc with hc | hc
  · have hname : ((Http.authCookieName ++ "=").toList.all fun c =>
        decide (0x20 ≤ c.toNat ∧ c.toNat < 0x7F)) = true := by decide
    exact of_decide_eq_true (List.all_eq_true.mp hname c hc)
  · exact h c hc

theorem Printable.isHeaderValue {text : String} (h : Printable text) :
    Http.isHeaderValue text = true := by
  refine List.all_eq_true.mpr fun c hc => ?_
  obtain ⟨hlow, hhigh⟩ := h c hc
  simp [hlow, show c.toNat ≠ 0x7F by omega]

theorem Printable.isAscii {text : String} (h : Printable text) :
    text.toList.all (·.toNat < 0x80) = true :=
  List.all_eq_true.mpr fun c hc => decide_eq_true (Nat.lt_succ_of_lt (h c hc).2)

/-- A letter or digit has one of these codes. -/
theorem code_of_isAlphanum {c : Char} (h : c.isAlphanum = true) :
    (48 ≤ c.toNat ∧ c.toNat ≤ 57) ∨ (65 ≤ c.toNat ∧ c.toNat ≤ 90) ∨
      (97 ≤ c.toNat ∧ c.toNat ≤ 122) := by
  have hclass : (c.isUpper || c.isLower || c.isDigit) = true := h
  rw [Bool.or_eq_true, Bool.or_eq_true] at hclass
  rcases hclass with (hupper | hlower) | hdigit
  · have hrange : 65 ≤ c.toNat ∧ c.toNat ≤ 90 := of_decide_eq_true hupper
    exact .inr (.inl hrange)
  · obtain ⟨hlow, hhigh⟩ := (Bool.and_eq_true ..).mp hlower
    have hlow : 97 ≤ c.toNat := of_decide_eq_true hlow
    have hhigh : c.toNat ≤ 122 := of_decide_eq_true hhigh
    exact .inr (.inr ⟨hlow, hhigh⟩)
  · obtain ⟨hlow, hhigh⟩ := (Bool.and_eq_true ..).mp hdigit
    have hlow : 48 ≤ c.toNat := of_decide_eq_true hlow
    have hhigh : c.toNat ≤ 57 := of_decide_eq_true hhigh
    exact .inl ⟨hlow, hhigh⟩

theorem printable_of_isAlphanum {text : String} (h : ∀ c ∈ text.toList, c.isAlphanum = true) :
    Printable text := by
  intro c hc
  have hcode := code_of_isAlphanum (h c hc)
  omega

/-- Tokens of which one cannot be told from the other. -/
inductive Veiled : Option String → Option String → Prop where
  | same (token : Option String) : Veiled token token
  | printable {token token' : String} (h : Printable token) (h' : Printable token') :
      Veiled (some token) (some token')

section

variable {token token' : Option String} (h : Veiled token token')

include h

/-- A header can carry both or neither. -/
theorem Veiled.badHeader_eq : (token.map Http.authCookie).any (!Http.isHeaderValue ·) =
    (token'.map Http.authCookie).any (!Http.isHeaderValue ·) := by
  cases h with
  | same => rfl
  | printable h h' => simp [h.authCookie.isHeaderValue, h'.authCookie.isHeaderValue]

theorem Veiled.fault?_eq (u : Url) : Handshake.fault? u token = Handshake.fault? u token' := by
  simp only [Handshake.fault?, h.badHeader_eq]

theorem Veiled.lateFault?_eq (u : Url) :
    Handshake.lateFault? u token = Handshake.lateFault? u token' := by
  cases h with
  | same => rfl
  | printable h h' =>
      simp only [Handshake.lateFault?, Option.map_some, Option.bind_some, h.authCookie.isAscii,
        h'.authCookie.isAscii, if_true]

theorem Veiled.attempt_eq (u : Url) :
    Handshake.attempt u token = Handshake.attempt u token' := by
  funext handshake
  rw [Handshake.attempt.eq_def, h.fault?_eq, h.lateFault?_eq, ← Handshake.attempt.eq_def]

theorem Veiled.ofHandshakes_eq (u : Url) (script : List Handshake) (afterwards : Handshake) :
    Connector.ofHandshakes u token script afterwards =
      Connector.ofHandshakes u token' script afterwards := by
  simp only [Connector.ofHandshakes, h.attempt_eq]

end

/-! ### Clients -/

namespace ApiClient

/-- Clients that differ in tokens of which one cannot be told from the other. -/
structure Alike (c c' : ApiClient) : Prop where
  base_eq : c.base = c'.base
  token : Veiled c.token c'.token

variable {α : Type} {c c' : ApiClient}

theorem Alike.fault?_eq (h : Alike c c') (u : Url) : c.fault? u = c'.fault? u := by
  simp only [fault?, h.token.badHeader_eq]

theorem Alike.endpoint_eq (h : Alike c c') (segments : List String) :
    c.endpoint segments = c'.endpoint segments := by
  rw [endpoint, h.base_eq, endpoint]

/-- What comes of a request does not hang on what it carries. -/
theorem Alike.send_eq (h : Alike c c') (method : String) (u : Url)
    (body body' : Option Json.Value) (x : Exchange) :
    (c.send method u body x).1 = (c'.send method u body' x).1 := by
  simp only [send, h.fault?_eq]
  cases c'.fault? u with
  | some f => rfl
  | none => cases x <;> rfl

/-- What a call logs is what it is for. -/
theorem call_log (c : ApiClient) (name method : String) (segments : List String)
    (body : Option Json.Value) (x : Exchange) (use : Url → Response → Except ApiError α) :
    (c.call name method segments body x use).log =
      match c.endpoint segments with
      | .error _ => []
      | .ok u => [debug s!"{name}: {u.text}"] := by
  rw [call]
  cases c.endpoint segments <;> rfl

theorem Alike.call_eq (h : Alike c c') (name method : String) (segments : List String)
    (body body' : Option Json.Value) (x : Exchange) (use : Url → Response → Except ApiError α) :
    (c.call name method segments body x use).result =
      (c'.call name method segments body' x use).result ∧
    (c.call name method segments body x use).log =
      (c'.call name method segments body' x use).log := by
  constructor
  · rw [call, call, h.endpoint_eq]
    cases c'.endpoint segments with
    | error e => rfl
    | ok u => exact congrArg (·.bind (use u)) (h.send_eq method u body body' x)
  · rw [call_log, call_log, h.endpoint_eq]

theorem Alike.saveAnswer_eq (h : Alike c c') (exercise : String) :
    c.saveAnswer exercise = c'.saveAnswer exercise := by
  funext x
  obtain ⟨hresult, hlog⟩ := h.call_eq "保存草稿" "PUT" ["me", "exercises", exercise] none none x
    fun _ _ => Except.ok ()
  simp only [saveAnswer, hresult, hlog]

theorem Alike.store_eq (h : Alike c c') (b : Backend) (exercise : String) :
    b.store c exercise = b.store c' exercise := by
  rw [Backend.store, h.saveAnswer_eq, Backend.store]

end ApiClient

/-! ### The log-in -/

namespace Text

theorem isBlank_of_isAlphanum {c : Char} (h : c.isAlphanum = true) : isBlank c = false := by
  have hcode := code_of_isAlphanum h
  simp only [isBlank, Bool.or_eq_false_iff, Bool.and_eq_false_iff, beq_eq_false_iff_ne,
    decide_eq_false_iff_not]
  omega

/-- A text without blanks has none at its ends. -/
theorem trimmed_eq_self {cs : List Char} (h : ∀ c ∈ cs, isBlank c = false) : trimmed cs = cs := by
  have hdrop {l : List Char} (h : ∀ c ∈ l, isBlank c = false) : l.dropWhile isBlank = l := by
    cases l with
    | nil => rfl
    | cons c l => simp [h c]
  rw [trimmed, trimStart, hdrop h, trimEnd, hdrop (by simpa using h), List.reverse_reverse]

end Text

namespace Http

/-- A cookie that sets a token of letters and digits sets this token, whatever its attributes. -/
theorem readCookie?_authCookie {token attributes : String}
    (ht : ∀ c ∈ token.toList, c.isAlphanum = true)
    (ha : attributes = "" ∨ ∃ rest, attributes = ";" ++ rest) :
    readCookie? (authCookie token ++ attributes) = some (authCookieName, token) := by
  have hplain : ∀ c ∈ token.toList, c ≠ ';' ∧ c ≠ '"' := by
    intro c hc
    have hcode := code_of_isAlphanum (ht c hc)
    constructor <;> rintro rfl <;> revert hcode <;> decide
  have hpair : (authCookie token ++ attributes).toList.takeWhile (· != ';') =
      authCookieName.toList ++ '=' :: token.toList := by
    have hbefore : ∀ c ∈ authCookieName.toList ++ '=' :: token.toList, (c != ';') = true := by
      intro c hc
      rcases List.mem_append.mp hc with hc | hc
      · exact List.all_eq_true.mp (show authCookieName.toList.all (· != ';') = true by decide) c hc
      · rcases List.mem_cons.mp hc with rfl | hc
        · decide
        · simpa using (hplain c hc).1
    have hafter : attributes.toList.takeWhile (· != ';') = [] := by
      rcases ha with rfl | ⟨rest, rfl⟩
      · rfl
      · simp
    have htext : (authCookie token ++ attributes).toList =
        (authCookieName.toList ++ '=' :: token.toList) ++ attributes.toList := by
      simp [authCookie]
    rw [htext, List.takeWhile_append_of_pos hbefore, hafter, List.append_nil]
  have hname : ∀ c ∈ authCookieName.toList, (c != '=') = true :=
    List.all_eq_true.mp (by decide)
  have htrimmed : Text.trimmed authCookieName.toList = authCookieName.toList := by decide
  have hvalue : withoutQuotes (Text.trimmed token.toList) = token.toList := by
    rw [Text.trimmed_eq_self fun c hc => Text.isBlank_of_isAlphanum (ht c hc)]
    cases hcs : token.toList with
    | nil => rfl
    | cons c cs =>
        have hquote : c ≠ '"' := (hplain c (hcs ▸ List.mem_cons_self)).2
        rw [withoutQuotes]
        intro rest hrest
        exact hquote (List.cons.inj hrest).1
  have hdrop : ('=' :: token.toList).dropWhile (· != '=') = '=' :: token.toList := rfl
  have htake : ('=' :: token.toList).takeWhile (· != '=') = [] := rfl
  rw [readCookie?, hpair, List.dropWhile_append_of_pos hname, List.takeWhile_append_of_pos hname,
    hdrop, htake]
  simp only [hvalue]
  rw [List.append_nil, htrimmed]
  simp [authCookieName]

namespace Response

/-- The first token that some values of `Set-Cookie` give. -/
def tokenIn? (values : List String) : Option String :=
  (values.filterMap readCookie?).findSome? fun c =>
    if c.1 = authCookieName ∧ c.2 ≠ "" then some c.2 else none

theorem authToken?_eq (r : Response) : r.authToken? = tokenIn? (r.valuesOf "set-cookie") := rfl

theorem tokenIn?_append (a b : List String) : tokenIn? (a ++ b) = (tokenIn? a).or (tokenIn? b) := by
  simp [tokenIn?]

theorem tokenIn?_cons {value token : String} (h : readCookie? value = some (authCookieName, token))
    (hne : token ≠ "") (values : List String) : tokenIn? (value :: values) = some token := by
  simp [tokenIn?, h, hne]

theorem valuesOf_append (status : Nat) (a b : List (String × String)) (body : List UInt8)
    (name : String) : valuesOf ⟨status, a ++ b, body⟩ name =
      valuesOf ⟨status, a, body⟩ name ++ valuesOf ⟨status, b, body⟩ name := by
  simp [valuesOf]

theorem valuesOf_cons (status : Nat) (h : String × String) (headers : List (String × String))
    (body : List UInt8) (name : String) : valuesOf ⟨status, h :: headers, body⟩ name =
      if Text.lowerAscii h.1.toList == name.toList then
        h.2 :: valuesOf ⟨status, headers, body⟩ name
      else valuesOf ⟨status, headers, body⟩ name := by
  simp only [valuesOf, List.filter_cons]
  split <;> rfl

end Response

/-- Answers that differ in the token of one cookie that they set. -/
inductive SameButToken : Response → Response → Prop where
  | same (r : Response) : SameButToken r r
  | token {status : Nat} {before after : List (String × String)} {body : List UInt8}
      {name value value' token token' : String}
      (hv : readCookie? value = some (authCookieName, token))
      (hv' : readCookie? value' = some (authCookieName, token'))
      (hne : token ≠ "") (hne' : token' ≠ "") (h : Printable token) (h' : Printable token') :
      SameButToken ⟨status, before ++ (name, value) :: after, body⟩
        ⟨status, before ++ (name, value') :: after, body⟩

/-- Exchanges that go the same way to such answers. -/
inductive GoesSameButToken : Exchange → Exchange → Prop where
  | answered {r r' : Response} (h : SameButToken r r') :
      GoesSameButToken (.answered r) (.answered r')
  | redirected (target : String) {x x' : Exchange} (h : GoesSameButToken x x') :
      GoesSameButToken (.redirected target x) (.redirected target x')

namespace SameButToken

variable {r r' : Response}

theorem authToken? (h : SameButToken r r') : Veiled r.authToken? r'.authToken? := by
  cases h with
  | same => exact .same _
  | @token status before after body name value value' token token' hv hv' hne hne' h h' =>
      simp only [Response.authToken?_eq, Response.valuesOf_append, Response.valuesOf_cons]
      split
      · rw [Response.tokenIn?_append, Response.tokenIn?_append, Response.tokenIn?_cons hv hne,
          Response.tokenIn?_cons hv' hne']
        cases Response.tokenIn? (Response.valuesOf ⟨status, before, body⟩ "set-cookie") with
        | some first => exact .same _
        | none => exact .printable h h'
      · exact .same _

/-- Cookies that are written with tokens of letters and digits differ in these. -/
theorem of_isAlphanum (status : Nat) (before after : List (String × String)) (body : List UInt8)
    (name attributes : String) {token token' : String} (hne : token ≠ "") (hne' : token' ≠ "")
    (h : token.toList.all Char.isAlphanum = true) (h' : token'.toList.all Char.isAlphanum = true)
    (ha : attributes = "" ∨ ∃ rest, attributes = ";" ++ rest) :
    SameButToken ⟨status, before ++ (name, authCookie token ++ attributes) :: after, body⟩
      ⟨status, before ++ (name, authCookie token' ++ attributes) :: after, body⟩ :=
  .token (readCookie?_authCookie (List.all_eq_true.mp h) ha)
    (readCookie?_authCookie (List.all_eq_true.mp h') ha) hne hne'
    (printable_of_isAlphanum (List.all_eq_true.mp h))
    (printable_of_isAlphanum (List.all_eq_true.mp h'))

theorem status_eq (h : SameButToken r r') : r.status = r'.status := by
  cases h <;> rfl

theorem body_eq (h : SameButToken r r') : r.body = r'.body := by
  cases h <;> rfl

end SameButToken

end Http

namespace ApiClient

variable {c c' : ApiClient}

theorem outcome_sameButToken {x x' : Exchange} (h : Http.GoesSameButToken x x') (url : String) :
    ∃ r r', outcome url x = .ok r ∧ outcome url x' = .ok r' ∧ Http.SameButToken r r' := by
  induction h generalizing url with
  | answered h => exact ⟨_, _, rfl, rfl, h⟩
  | redirected target _ ih => exact ih target

/-- What is made of answers that differ in a token decides; all else goes alike. -/
theorem call_sameButToken {α : Type} {x x' : Exchange} (h : Http.GoesSameButToken x x')
    (c : ApiClient) (name method : String) (segments : List String) (body : Option Json.Value)
    (use : Url → Response → Except ApiError α) :
    (∃ e, (c.call name method segments body x use).result = .error e ∧
      (c.call name method segments body x' use).result = .error e) ∨
    ∃ u r r', (c.call name method segments body x use).result = use u r ∧
      (c.call name method segments body x' use).result = use u r' ∧ Http.SameButToken r r' := by
  cases he : c.endpoint segments with
  | error e => exact .inl ⟨e, by simp only [call, he], by simp only [call, he]⟩
  | ok u =>
      cases hf : c.fault? u with
      | some f =>
          refine .inl ⟨.requestFailed u.text f, ?_, ?_⟩ <;> simp only [call, he, send, hf] <;> rfl
      | none =>
          obtain ⟨r, r', ho, ho', hr⟩ := outcome_sameButToken h u.withoutUserInfo.text
          have hsuccess : r.isSuccess = r'.isSuccess := by
            rw [Response.isSuccess, hr.status_eq, Response.isSuccess]
          simp only [call, he, send, hf, ho, ho', hsuccess, hr.status_eq, hr.body_eq]
          cases r'.isSuccess with
          | true => exact .inr ⟨u, r, r', rfl, rfl, hr⟩
          | false => exact .inl ⟨_, rfl, rfl⟩

/-- The token that the answer to a log-in sets. -/
def tokenOf (u : Url) (r : Response) : Except ApiError String :=
  match r.authToken? with
  | some token => .ok token
  | none => .error (.missingAuthCookie u.text)

/-- The call that a log-in makes. -/
def loginCall (c : ApiClient) (email password : String) (x : Exchange) : ApiCall String :=
  c.call "登录" "POST" ["auth", "login"] (some (loginJson email password)) x tokenOf

theorem login_eq (c : ApiClient) (email password : String) (x : Exchange) :
    c.login email password x =
      let r := c.loginCall email password x
      match r.result with
      | .ok token =>
        { r with
          log := r.log ++ [info s!"✓ 已登录: {email}"]
          client := { c with token := some token } }
      | .error _ => r :=
  rfl

/-- Outcomes of log-ins of which one cannot be told from the other. -/
inductive GivesAlike : Except ApiError String → Except ApiError String → Prop where
  | failed (e : ApiError) : GivesAlike (.error e) (.error e)
  | given {token token' : String} (h : Veiled (some token) (some token')) :
      GivesAlike (.ok token) (.ok token')

theorem GivesAlike.refl (r : Except ApiError String) : GivesAlike r r := by
  cases r with
  | error e => exact .failed e
  | ok token => exact .given (.same _)

theorem givesAlike_tokenOf {r r' : Response} (h : Veiled r.authToken? r'.authToken?) (u : Url) :
    GivesAlike (tokenOf u r) (tokenOf u r') := by
  rw [tokenOf, tokenOf]
  generalize r.authToken? = given at h
  generalize r'.authToken? = given' at h
  cases h with
  | same => exact .refl _
  | printable h h' => exact .given (.printable h h')

/-- Log-ins of which one cannot be told from the other: they give tokens alike, if any. -/
structure Indistinct (l l' : ApiCall String) : Prop where
  result_eq : l.result.map (fun _ => ()) = l'.result.map fun _ => ()
  log_eq : l.log = l'.log
  client : Alike l.client l'.client

theorem Alike.refl (c : ApiClient) : Alike c c := ⟨rfl, .same _⟩

/-- A log-in shows no more than the outcome of its call. -/
theorem indistinct_login (c : ApiClient) (email password password' : String) (x x' : Exchange)
    (h : GivesAlike (c.loginCall email password x).result
      (c.loginCall email password' x').result) :
    Indistinct (c.login email password x) (c.login email password' x') := by
  have hlog : (c.loginCall email password x).log = (c.loginCall email password' x').log := by
    rw [loginCall, call_log, loginCall, call_log]
  have hclient : (c.loginCall email password x).client =
      (c.loginCall email password' x').client := by
    rw [loginCall, call_client, loginCall, call_client]
  rw [login_eq, login_eq]
  generalize c.loginCall email password x = l at h hlog hclient ⊢
  generalize c.loginCall email password' x' = l' at h hlog hclient ⊢
  obtain ⟨result, requests, log, client⟩ := l
  obtain ⟨result', requests', log', client'⟩ := l'
  obtain rfl : log = log' := hlog
  obtain rfl : client = client' := hclient
  cases h with
  | failed e => exact ⟨rfl, rfl, .refl client⟩
  | given ht => exact ⟨rfl, rfl, rfl, ht⟩

/-- The password decides nothing. -/
theorem login_password (c : ApiClient) (email password password' : String) (x : Exchange) :
    Indistinct (c.login email password x) (c.login email password' x) := by
  refine c.indistinct_login email password password' x x ?_
  have hsame := ((Alike.refl c).call_eq "登录" "POST" ["auth", "login"]
    (some (loginJson email password)) (some (loginJson email password')) x tokenOf).1
  rw [loginCall, hsame]
  exact .refl _

/-- The token that the answer sets decides nothing but what comes later carries. -/
theorem login_token {x x' : Exchange} (h : Http.GoesSameButToken x x') (c : ApiClient)
    (email password : String) :
    Indistinct (c.login email password x) (c.login email password x') := by
  refine c.indistinct_login email password password _ _ ?_
  rcases call_sameButToken h c "登录" "POST" ["auth", "login"] (some (loginJson email password))
    tokenOf with ⟨e, he, he'⟩ | ⟨u, r, r', hu, hu', hr⟩
  · rw [loginCall, loginCall, he, he']
    exact .failed e
  · rw [loginCall, loginCall, hu, hu']
    exact givesAlike_tokenOf hr.authToken? u

end ApiClient

/-! ### Settings -/

/-- The settings without what must not show. -/
def Config.withoutSecrets (c : Config) : Config := { c with authToken := none, password := none }

/-- What does not look at secrets does not tell them. -/
theorem Config.eq_of_withoutSecrets {α : Type} {c c' : Config}
    (h : c.withoutSecrets = c'.withoutSecrets) (f : Config → α)
    (hf : ∀ c, f c.withoutSecrets = f c) : f c = f c' := by
  rw [← hf c, h, hf]

/-- Whether there is a log-in, and for whom, does not hang on the password. -/
theorem Config.credentials_of_password (c : Config) (password password' : String) :
    ({ c with password := some password }.loginCredentials = none ∧
      { c with password := some password' }.loginCredentials = none) ∨
    ∃ email, { c with password := some password }.loginCredentials = some (email, password) ∧
      { c with password := some password' }.loginCredentials = some (email, password') := by
  simp only [loginCredentials]
  cases c.authToken with
  | some token => exact .inl ⟨rfl, rfl⟩
  | none =>
      cases c.email with
      | none => exact .inl ⟨rfl, rfl⟩
      | some email => exact .inr ⟨email, rfl, rfl⟩

/-- Settings and back ends that differ in one secret: in the password, in the token of the settings,
or in the token that the answer to the log-in sets. -/
inductive SameButSecret : Config → Backend → Config → Backend → Prop where
  | password (c : Config) (b : Backend) (password password' : String) :
      SameButSecret { c with password := some password } b { c with password := some password' } b
  | token (c : Config) (b : Backend) {token token' : String} (h : Printable token)
      (h' : Printable token') :
      SameButSecret { c with authToken := some token } b { c with authToken := some token' } b
  | cookie (c : Config) (b : Backend) {x x' : Exchange} (h : Http.GoesSameButToken x x') :
      SameButSecret c { b with login := x } c { b with login := x' }

namespace SameButSecret

variable {c c' : Config} {b b' : Backend}

theorem withoutSecrets_eq (h : SameButSecret c b c' b') : c.withoutSecrets = c'.withoutSecrets := by
  cases h <;> rfl

theorem banner_eq (h : SameButSecret c b c' b') (exercise : String) :
    c.banner exercise = c'.banner exercise := by
  cases h with
  | password c b password password' =>
      rcases c.credentials_of_password password password' with ⟨hn, hn'⟩ | ⟨email, hs, hs'⟩
      · rw [Config.banner, hn, Config.banner, hn']
      · rw [Config.banner, hs, Config.banner, hs']
  | token => rfl
  | cookie => rfl

/-- The back ends differ at most in the answer to the log-in. -/
theorem backend_eq (h : SameButSecret c b c' b') : ∃ login, b' = { b with login } := by
  cases h <;> exact ⟨_, rfl⟩

/-- Both give a client, or neither does. -/
theorem ofConfig (h : SameButSecret c b c' b') :
    (∃ e, ApiClient.ofConfig c = .error e ∧ ApiClient.ofConfig c' = .error e) ∨
    ∃ client client', ApiClient.ofConfig c = .ok client ∧ ApiClient.ofConfig c' = .ok client' ∧
      client.Alike client' := by
  have hurl : c.apiUrl = c'.apiUrl :=
    Config.eq_of_withoutSecrets h.withoutSecrets_eq Config.apiUrl fun _ => rfl
  have htoken : Veiled c.authToken c'.authToken := by
    cases h with
    | password | cookie => exact .same _
    | token c b h h' => exact .printable h h'
  rw [ApiClient.ofConfig, ApiClient.ofConfig, hurl]
  cases c'.apiUrl with
  | error e => exact .inl ⟨e, rfl, rfl⟩
  | ok u => exact .inr ⟨_, _, rfl, rfl, rfl, htoken⟩

/-- Both log-ins go alike, and leave clients alike. -/
theorem logIn (h : SameButSecret c b c' b') {client client' : ApiClient}
    (hc : ApiClient.ofConfig c = .ok client) (hc' : ApiClient.ofConfig c' = .ok client') :
    (App.logIn c client b).result = (App.logIn c' client' b').result ∧
      (App.logIn c client b).log = (App.logIn c' client' b').log ∧
      (App.logIn c client b).client.Alike (App.logIn c' client' b').client := by
  have halike : client.Alike client' := by
    rcases h.ofConfig with ⟨e, he, -⟩ | ⟨_, _, hk, hk', ha⟩
    · cases hc.symm.trans he
    · cases hc.symm.trans hk
      cases hc'.symm.trans hk'
      exact ha
  cases h with
  | password c b password password' =>
      obtain rfl : client = client' := Except.ok.inj (hc.symm.trans hc')
      rcases c.credentials_of_password password password' with ⟨hn, hn'⟩ | ⟨email, hs, hs'⟩
      · rw [App.logIn_of_none hn, App.logIn_of_none hn']
        exact ⟨rfl, rfl, halike⟩
      · have hlogin := client.login_password email password password' b.login
        simp only [App.logIn, hs, hs']
        exact ⟨hlogin.result_eq, hlogin.log_eq, hlogin.client⟩
  | token c b ht ht' => exact ⟨rfl, rfl, halike⟩
  | cookie c b hr =>
      obtain rfl : client = client' := Except.ok.inj (hc.symm.trans hc')
      cases hs : c.loginCredentials with
      | none =>
          rw [App.logIn_of_none hs, App.logIn_of_none hs]
          exact ⟨rfl, rfl, halike⟩
      | some credentials =>
          have hlogin := client.login_token hr credentials.1 credentials.2
          simp only [App.logIn, hs]
          exact ⟨hlogin.result_eq, hlogin.log_eq, hlogin.client⟩

end SameButSecret

/-! ### Applications -/

namespace App

/-- Applications that differ in secrets and in what they sent. -/
structure Alike (a a' : App) : Prop where
  config_eq : a.config.withoutSecrets = a'.config.withoutSecrets
  opening_eq : a.opening = a'.opening
  stage_eq : a.stage = a'.stage

namespace Alike

variable {a a' : App}

theorem log_eq (h : Alike a a') : a.log = a'.log := by
  rw [log, h.opening_eq, h.stage_eq, log]

theorem shutdown (h : Alike a a') : Alike a.shutdown a'.shutdown :=
  ⟨h.config_eq, h.opening_eq, congrArg Stage.finish h.stage_eq⟩

/-- Runs end alike and leave applications alike. -/
theorem run (h : Alike a a') (files : Files) (path : String) :
    (a.run files path).1 = (a'.run files path).1 ∧
      Alike (a.run files path).2 (a'.run files path).2 := by
  cases hcode : files.readText path with
  | error e =>
      rw [a.run_of_unreadable hcode, a'.run_of_unreadable hcode]
      exact ⟨rfl, h⟩
  | ok code =>
      have hlanguage : a.config.language = a'.config.language :=
        Config.eq_of_withoutSecrets h.config_eq Config.language fun _ => rfl
      have hover : a.runOver path code = a'.runOver path code := by
        simp only [runOver, drafted, runLine, h.stage_eq, hlanguage]
      obtain ⟨run, outcome, hr, ho⟩ := a.ended_runOver path code
      have hr' := hr
      rw [hover, h.stage_eq] at hr'
      rw [a.run_of_readable hcode hr ho, a'.run_of_readable hcode hr' ho]
      exact ⟨rfl, h.config_eq, h.opening_eq, congrArg (Stage.record _) hover⟩

theorem runAll (h : Alike a a') (sources : List (Files × String)) :
    (a.runAll sources).1 = (a'.runAll sources).1 ∧
      Alike (a.runAll sources).2 (a'.runAll sources).2 := by
  induction sources generalizing a a' with
  | nil => exact ⟨rfl, h⟩
  | cons source sources ih =>
      obtain ⟨hresult, hrest⟩ := h.run source.1 source.2
      obtain ⟨hresults, hlast⟩ := ih hrest
      refine ⟨?_, hlast⟩
      simp only [App.runAll, hresult, hresults]

end Alike

/-- What is logged while a client asks about the exercise. -/
def askedLog (client : ApiClient) (exercise : String) (b : Backend) : Log :=
  let progress := client.progress exercise b.progress
  let described := client.exercise exercise b.exercise
  progress.log ++ [(restore progress.result).2] ++ described.log ++
    [(kindOf described.result (savedBy client exercise b)).2]

theorem openingLog_eq (c : Config) (client : ApiClient) (exercise : String) (b : Backend) :
    openingLog c client exercise b = c.banner exercise ++ (logIn c client b).log ++
      askedLog (logIn c client b).client exercise b := by
  simp only [openingLog, askedLog, List.append_assoc]

/-- Starts of which one cannot be told from the other. -/
structure Matches (l l' : Launch) : Prop where
  log_eq : l.log = l'.log
  outcome : (∃ e, l.outcome = .error e ∧ l'.outcome = .error e) ∨
    ∃ a a', l.outcome = .ok a ∧ l'.outcome = .ok a' ∧ a.Alike a'

section

variable {c c' : Config} {client client' : ApiClient} (hs : c.withoutSecrets = c'.withoutSecrets)
  (ht : Veiled c.authToken c'.authToken) (b : Backend) (login : Exchange)

include hs ht

theorem connection_eq (u : Url) :
    connection c b u = connection c' { b with login } u := by
  have hbackoff : c.backoff = c'.backoff :=
    Config.eq_of_withoutSecrets hs Config.backoff fun _ => rfl
  have htimeout : c.connectTimeoutSecs = c'.connectTimeoutSecs :=
    Config.eq_of_withoutSecrets hs Config.connectTimeoutSecs fun _ => rfl
  simp only [connection, ht.ofHandshakes_eq, hbackoff, htimeout]

/-- Sessions that are opened with clients alike match. -/
theorem matches_openSession (hk : client.Alike client') (exercise : String) (kind : ExerciseKind)
    (saved : Option Submission) (log : Log) (requests requests' : List Request) :
    Matches (openSession c client exercise b kind saved log requests)
      (openSession c' client' exercise { b with login } kind saved log requests') := by
  have hurl : c.channelUrl = c'.channelUrl :=
    Config.eq_of_withoutSecrets hs Config.channelUrl fun _ => rfl
  cases hu : c.channelUrl with
  | error e =>
      rw [openSession_of_address hu, openSession_of_address (hurl ▸ hu)]
      exact ⟨rfl, .inl ⟨_, rfl, rfl⟩⟩
  | ok u =>
      have hu' := hurl ▸ hu
      have hconnection := connection_eq hs ht b login u
      cases hn : (connection c b u).1 with
      | false =>
          have htimeout : c.connectTimeoutSecs = c'.connectTimeoutSecs :=
            Config.eq_of_withoutSecrets hs Config.connectTimeoutSecs fun _ => rfl
          rw [openSession_of_fails hu _ _ _ _ _ _ hn,
            openSession_of_fails hu' _ _ _ _ _ _ (hconnection ▸ hn), ← hconnection, htimeout]
          exact ⟨rfl, .inl ⟨_, rfl, rfl⟩⟩
      | true =>
          have hsession (channel : Channel) :
              Session.start c channel (b.store client exercise) exercise kind saved =
                Session.start c' channel ({ b with login }.store client' exercise) exercise kind
                  saved := by
            rw [hk.store_eq]
            exact Config.eq_of_withoutSecrets hs
              (Session.start · channel (b.store client' exercise) exercise kind saved) fun _ => rfl
          rw [openSession_of_stands hu _ _ _ _ _ _ hn,
            openSession_of_stands hu' _ _ _ _ _ _ (hconnection ▸ hn), ← hconnection, ← hsession]
          exact ⟨rfl, .inr ⟨_, _, rfl, rfl, hs, rfl, rfl⟩⟩

end

/-- Clients alike find out the same, and log the same meanwhile. -/
theorem asked_alike {client client' : ApiClient} (hk : client.Alike client') (exercise : String)
    (b : Backend) (login : Exchange) :
    savedBy client exercise b = savedBy client' exercise { b with login } ∧
      kindBy client exercise b = kindBy client' exercise { b with login } ∧
      askedLog client exercise b = askedLog client' exercise { b with login } := by
  obtain ⟨hprogress, hprogressLog⟩ := hk.call_eq "获取练习进度" "GET" ["me", "exercises", exercise]
    none none b.progress (ApiClient.readBody Progress.decode)
  obtain ⟨hexercise, hexerciseLog⟩ := hk.call_eq "获取练习" "GET" ["exercises", exercise] none none
    b.exercise (ApiClient.readBody Exercise.decode)
  simp only [savedBy, kindBy, askedLog, ApiClient.progress, ApiClient.exercise, hprogress,
    hprogressLog, hexercise, hexerciseLog, and_self]

/-- Starts that differ in one secret match. -/
theorem matches_launch {c c' : Config} {b b' : Backend} (h : SameButSecret c b c' b')
    (exercise : String) : Matches (launch c exercise b) (launch c' exercise b') := by
  rcases h.ofConfig with ⟨e, hc, hc'⟩ | ⟨client, client', hc, hc', -⟩
  · rw [launch_of_address hc, launch_of_address hc', h.banner_eq]
    exact ⟨rfl, .inl ⟨_, rfl, rfl⟩⟩
  · obtain ⟨hresult, hlog, hk⟩ := h.logIn hc hc'
    cases hl : (logIn c client b).result with
    | error e =>
        rw [launch_of_login hc hl, launch_of_login hc' (hresult ▸ hl), h.banner_eq, hlog]
        exact ⟨rfl, .inl ⟨_, rfl, rfl⟩⟩
    | ok _ =>
        rw [launch_of_signedIn hc hl, launch_of_signedIn hc' (hresult ▸ hl), openingLog_eq,
          openingLog_eq, h.banner_eq, hlog]
        obtain ⟨login, hb⟩ := h.backend_eq
        obtain ⟨hsaved, hkind, hasked⟩ := asked_alike hk exercise b login
        rw [← hb] at hsaved hkind hasked
        rw [hsaved, hkind, hasked]
        have hsettings : { c with authToken := (logIn c client b).client.token }.withoutSecrets =
            { c' with authToken := (logIn c' client' b').client.token }.withoutSecrets :=
          h.withoutSecrets_eq
        have hopen := matches_openSession hsettings hk.token b login hk
        rw [← hb] at hopen
        exact hopen ..

/-- What shows of two starts, and of what comes after them, is the same. -/
structure Concealed (exercise : String) (c : Config) (b : Backend) (c' : Config) (b' : Backend) :
    Prop where
  log_eq : (launch c exercise b).log = (launch c' exercise b').log
  error_iff : ∀ e, (launch c exercise b).outcome = .error e ↔
    (launch c' exercise b').outcome = .error e
  /-- Runs give the same results, errors among them, and log the same; so does the shutdown. -/
  runs : ∀ a a', (launch c exercise b).outcome = .ok a →
    (launch c' exercise b').outcome = .ok a' → ∀ sources : List (Files × String),
      (a.runAll sources).1 = (a'.runAll sources).1 ∧
        (a.runAll sources).2.log = (a'.runAll sources).2.log ∧
        (a.runAll sources).2.shutdown.log = (a'.runAll sources).2.shutdown.log
  /-- So do programs with these settings and back ends: their ends differ at most in requests and
  handshakes. -/
  ends : ∀ (i : Invocation) (source : String),
    let exit := { i with backend := b }.runWith exercise source c
    let exit' := { i with backend := b' }.runWith exercise source c'
    exit.code = exit'.code ∧ exit.stderr = exit'.stderr ∧ exit.stdout = exit'.stdout

/-- One secret does not show. -/
theorem secrets_concealed {c c' : Config} {b b' : Backend} (h : SameButSecret c b c' b')
    (exercise : String) : Concealed exercise c b c' b' := by
  obtain ⟨hlog, houtcome⟩ := matches_launch h exercise
  constructor
  case log_eq => exact hlog
  case error_iff =>
    intro e
    rcases houtcome with ⟨e', he, he'⟩ | ⟨a, a', ha, ha', -⟩
    · rw [he, he']
    · rw [ha, ha']
      exact ⟨nofun, nofun⟩
  case runs =>
    intro a a' ha ha' sources
    rcases houtcome with ⟨e, he, -⟩ | ⟨_, _, hb, hb', halike⟩
    · cases ha.symm.trans he
    · cases ha.symm.trans hb
      cases ha'.symm.trans hb'
      obtain ⟨hresults, hlast⟩ := halike.runAll sources
      exact ⟨hresults, hlast.log_eq, hlast.shutdown.log_eq⟩
  case ends =>
    intro i source
    have hverbose : c.verboseLogging = c'.verboseLogging :=
      Config.eq_of_withoutSecrets h.withoutSecrets_eq Config.verboseLogging fun _ => rfl
    simp only [Invocation.runWith, hlog, hverbose]
    rcases houtcome with ⟨e, he, he'⟩ | ⟨a, a', ha, ha', halike⟩
    · rw [he, he']
      exact ⟨rfl, rfl, rfl⟩
    · obtain ⟨hresult, hleft⟩ := halike.run i.files source
      rw [ha, ha']
      simp only [hresult, hleft.shutdown.log_eq]
      cases (a'.run i.files source).1 <;> exact ⟨rfl, rfl, rfl⟩

/-- The token that a log-in gives does not show, also where the log-in is sent on. -/
theorem token_of_login_concealed :
    let c := { Config.standard with
      serverOrigin := "https://codim.dev", email := some "learner", password := some "secret" }
    let answer (token : String) : Exchange := .redirected "https://codim.dev/in" (.answered
      ⟨200, [("content-length", "0")] ++ [("Set-Cookie", Http.authCookie token ++ "; Path=/")], []⟩)
    let b (token : String) : Backend :=
      { Backend.unreachable with
        login := answer token
        handshakes := [.accepted Line.plain] }
    Concealed "e" c (b "abc") c (b "xyz9") :=
  secrets_concealed (.cookie _
    { Backend.unreachable with handshakes := [.accepted Line.plain] }
    (.redirected _ (.answered (.of_isAlphanum 200 _ [] [] _ _ (by decide) (by decide) (by decide)
      (by decide) (.inr ⟨" Path=/", rfl⟩))))) "e"

end App

end ExerciseClient
