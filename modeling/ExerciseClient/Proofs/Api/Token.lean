import ExerciseClient.Proofs.App.Start

/-! The token that a client holds while it makes one call after the other. A log-in whose answer
sets a token replaces it; no other call does, and neither does a log-in that fails, however late it
fails. Each request carries the token that is held when it is made. -/

namespace ExerciseClient

open Http (Request Response Exchange)

/-- The answer sets a token: of the cookies with the token's name it is the first that is not
empty. -/
structure Http.Response.Sets (r : Response) (token : String) : Prop where
  usable : token ≠ ""
  first : ∃ before after, (r.valuesOf "set-cookie").filterMap readCookie? =
    before ++ ("auth_token", token) :: after ∧ ∀ c ∈ before, c.1 = "auth_token" → c.2 = ""

theorem Http.Response.isSuccess_iff (r : Response) :
    r.isSuccess = true ↔ 200 ≤ r.status ∧ r.status < 300 := by
  simp [isSuccess]

theorem Http.Response.authToken?_eq_some_iff (r : Response) (token : String) :
    r.authToken? = some token ↔ r.Sets token := by
  rw [authToken?, List.findSome?_eq_some_iff]
  constructor
  · rintro ⟨before, ⟨name, value⟩, after, he, hc, hbefore⟩
    obtain ⟨⟨hname, hvalue⟩, ht⟩ := Option.ite_none_right_eq_some.mp hc
    obtain rfl : name = "auth_token" := hname
    obtain rfl : value = token := Option.some.inj ht
    refine ⟨hvalue, before, after, he, fun c hm hn => ?_⟩
    have hc' := hbefore c hm
    simpa [authCookieName, hn] using hc'
  · rintro ⟨hne, before, after, he, hbefore⟩
    refine ⟨before, _, after, he, by simp [authCookieName, hne], fun c hm => ?_⟩
    have hempty := hbefore c hm
    rw [if_neg]
    exact fun h => h.2 (hempty h.1)

/-- An empty cookie is passed over. -/
example : Response.authToken?
    ⟨200, [("Set-Cookie", "auth_token="), ("set-cookie", "auth_token=t; Path=/")], []⟩ =
      some "t" := by
  decide

namespace ApiClient

/-- What a client is asked to do. -/
inductive Task where
  | login (email password : String)
  | exercise (id : String)
  | progress (id : String)
  | save (id : String) (request : SaveRequest)

/-- What a call that succeeds gives. -/
inductive Reply where
  | token (token : String)
  | exercise (e : Exercise)
  | progress (p : Progress)
  | saved

end ApiClient

/-- The call with something made of what it gives. -/
def ApiCall.map {α β : Type} (f : α → β) (r : ApiCall α) : ApiCall β where
  result := r.result.map f
  requests := r.requests
  log := r.log
  client := r.client

namespace ApiClient

/-- Makes a call whose exchange goes in a given way. -/
def perform (c : ApiClient) (x : Exchange) : Task → ApiCall Reply
  | .login email password => (c.login email password x).map .token
  | .exercise id => (c.exercise id x).map .exercise
  | .progress id => (c.progress id x).map .progress
  | .save id request => (c.save id request x).map fun _ => .saved

/-- A call that was made: by which client, what for, how its exchange went, and what came of it. -/
structure Performed where
  client : ApiClient
  task : Task
  exchange : Exchange
  call : ApiCall Reply

/-- The token that a log-in gave. -/
def Performed.given? (p : Performed) : Option String :=
  match p.call.result with
  | .ok (.token t) => some t
  | _ => none

/-- The request of the call was sent, and this is the answer that the client is given. -/
def Performed.IsAnswered (p : Performed) (r : Response) : Prop :=
  p.call.requests ≠ [] ∧ p.exchange.answer? = some r

/-- Calls made one after the other, each by the client that the one before left. -/
def performAll (c : ApiClient) : List (Task × Exchange) → List Performed
  | [] => []
  | (task, x) :: rest => ⟨c, task, x, c.perform x task⟩ :: (c.perform x task).client.performAll rest

/-- The client that calls leave. -/
def afterAll (c : ApiClient) (calls : List (Task × Exchange)) : ApiClient :=
  calls.foldl (fun c call => (c.perform call.2 call.1).client) c

/-- The token that is held after some calls: the newest one that a log-in gave, or else the one
that was held before. -/
def heldAfter (first : Option String) (calls : List Performed) : Option String :=
  ((calls.filterMap Performed.given?).getLast?).or first

/-- How a call treats the token that is held when it is made. -/
structure Performed.MindsToken (p : Performed) : Prop where
  /-- The client makes one request at most, and it carries the token if there is one. -/
  carries : p.call.requests.length ≤ 1 ∧
    ∀ q ∈ p.call.requests, q.cookie = p.client.token.map ("auth_token=" ++ ·)
  /-- A token is given by a log-in whose answer is a success and sets it, and by nothing else. -/
  gives_iff : ∀ token, p.call.result = .ok (.token token) ↔
    (∃ email password, p.task = .login email password) ∧
      ∃ r, p.IsAnswered r ∧ (200 ≤ r.status ∧ r.status < 300) ∧ r.Sets token
  /-- A log-in that succeeds gives a token. -/
  gives : ∀ email password reply, p.task = .login email password →
    p.call.result = .ok reply → ∃ token, reply = .token token
  gained : ∀ token, p.call.result = .ok (.token token) →
    p.call.client = { p.client with token := some token }
  /-- Any other call leaves the client as it was, and so does a log-in that fails. -/
  kept : (∀ token, p.call.result ≠ .ok (.token token)) → p.call.client = p.client

section

variable {α : Type} (c : ApiClient) (name method : String) (segments : List String)
  (body : Option Json.Value) (x : Exchange) (use : Url → Response → Except ApiError α)

theorem call_sends : (c.call name method segments body x use).requests.length ≤ 1 ∧
    ∀ q ∈ (c.call name method segments body x use).requests,
      q.cookie = c.token.map ("auth_token=" ++ ·) := by
  constructor
  · rcases c.call_cases name method segments body x use with ⟨u, -, he⟩ | ⟨-, he, -⟩ <;> simp [he]
  · intro q hq
    exact (c.call_carries name method segments body x use q hq).2

/-- A call succeeds if its request is answered with a success of which something can be made. -/
theorem call_ok_iff_answered {v : α} {P : Response → Prop}
    (hP : ∀ u r, use u r = .ok v ↔ P r) :
    (c.call name method segments body x use).result = .ok v ↔
      ∃ r, ((c.call name method segments body x use).requests ≠ [] ∧ x.answer? = some r) ∧
        r.isSuccess = true ∧ P r := by
  have hsent := c.call_cases name method segments body x use
  rw [call_ok_iff]
  constructor
  · rintro ⟨u, r, hu, hx, hr, hv⟩
    refine ⟨r, ⟨?_, hx⟩, hr, (hP u r).mp hv⟩
    rcases hsent with ⟨_, -, he⟩ | ⟨hnot, -⟩
    · simp [he]
    · exact absurd hu (hnot u)
  · rintro ⟨r, ⟨hne, hx⟩, hr, hv⟩
    rcases hsent with ⟨u, hu, -⟩ | ⟨-, hnone, -⟩
    · exact ⟨u, r, hu, hx, hr, (hP u r).mpr hv⟩
    · exact absurd hnone hne

end

section

variable (c : ApiClient) (email password : String) (x : Exchange)

theorem login_requests : (c.login email password x).requests.length ≤ 1 ∧
    ∀ q ∈ (c.login email password x).requests, q.cookie = c.token.map ("auth_token=" ++ ·) := by
  rw [login]
  split <;> exact c.call_sends ..

/-- A log-in gives the token that its answer sets. -/
theorem login_ok_iff (token : String) : (c.login email password x).result = .ok token ↔
    ∃ r, ((c.login email password x).requests ≠ [] ∧ x.answer? = some r) ∧
      r.isSuccess = true ∧ r.Sets token := by
  rw [login]
  split
  all_goals
    refine c.call_ok_iff_answered _ _ _ _ _ _ fun u r => ?_
    rw [← r.authToken?_eq_some_iff]
    cases r.authToken? <;> simp

/-- A log-in that gives a token leaves the client with it; any other leaves it as it was. -/
theorem login_client :
    (∀ token, (c.login email password x).result = .ok token →
      (c.login email password x).client = { c with token := some token }) ∧
    ((∀ token, (c.login email password x).result ≠ .ok token) →
      (c.login email password x).client = c) := by
  rw [login]
  split
  case h_1 token he =>
    refine ⟨fun token' ht => ?_, fun h => absurd he (h token)⟩
    obtain rfl : token = token' := Except.ok.inj (he.symm.trans ht)
    rfl
  case h_2 e he =>
    exact ⟨fun token ht => absurd (he.symm.trans ht) (by simp), fun _ => c.call_client ..⟩

end

/-! ### A single call -/

theorem map_eq_ok {ε α β : Type} {f : α → β} {r : Except ε α} {b : β} :
    r.map f = .ok b ↔ ∃ a, r = .ok a ∧ f a = b := by
  cases r <;> simp [Except.map]

theorem mindsToken_of_read {α : Type} {c : ApiClient} {x : Exchange} {task : Task}
    {r : ApiCall α} {f : α → Reply} (htask : ∀ email password, task ≠ .login email password)
    (hsent : r.requests.length ≤ 1 ∧
      ∀ q ∈ r.requests, q.cookie = c.token.map ("auth_token=" ++ ·))
    (hf : ∀ a token, f a ≠ .token token) (hclient : r.client = c) :
    Performed.MindsToken ⟨c, task, x, r.map f⟩ := by
  have hnone : ∀ token, (r.map f).result ≠ .ok (.token token) := by
    intro token h
    obtain ⟨a, -, ha⟩ := map_eq_ok.mp h
    exact hf a token ha
  constructor
  case carries => exact hsent
  case gives_iff =>
    intro token
    refine ⟨fun h => absurd h (hnone token), ?_⟩
    rintro ⟨⟨email, password, he⟩, -⟩
    exact absurd he (htask email password)
  case gives => exact fun email password _ he => absurd he (htask email password)
  case gained => exact fun token h => absurd h (hnone token)
  case kept => exact fun _ => hclient

theorem mindsToken_of_login (c : ApiClient) (email password : String) (x : Exchange) :
    Performed.MindsToken ⟨c, .login email password, x, c.perform x (.login email password)⟩ := by
  have hiff (token : String) : (c.perform x (.login email password)).result = .ok (.token token) ↔
      (c.login email password x).result = .ok token := by
    rw [perform, ApiCall.map, map_eq_ok]
    simp
  obtain ⟨hgained, hkept⟩ := c.login_client email password x
  constructor
  case carries => exact c.login_requests email password x
  case gives_iff =>
    intro token
    rw [hiff, login_ok_iff]
    simp only [Response.isSuccess_iff]
    exact ⟨fun h => ⟨⟨email, password, rfl⟩, h⟩, fun h => h.2⟩
  case gives =>
    intro _ _ reply _ h
    obtain ⟨token, -, rfl⟩ := map_eq_ok.mp h
    exact ⟨token, rfl⟩
  case gained => exact fun token h => hgained token ((hiff token).mp h)
  case kept => exact fun h => hkept fun token ht => h token ((hiff token).mpr ht)

/-- Whatever is asked for, the call minds the token. -/
theorem perform_mindsToken (c : ApiClient) (x : Exchange) (task : Task) :
    Performed.MindsToken ⟨c, task, x, c.perform x task⟩ := by
  cases task with
  | login email password => exact c.mindsToken_of_login email password x
  | exercise | progress | save =>
      exact mindsToken_of_read nofun (c.call_sends ..) nofun (c.call_client ..)

/-! ### Calls one after the other -/

theorem heldAfter_cons (first : Option String) (p : Performed) (rest : List Performed) :
    heldAfter first (p :: rest) = heldAfter (p.given?.or first) rest := by
  simp only [heldAfter, List.filterMap_cons]
  cases p.given? with
  | none => rfl
  | some token =>
      rw [List.getLast?_cons]
      cases (rest.filterMap Performed.given?).getLast? <;> rfl

/-- A call that minds the token leaves the newest one. -/
theorem Performed.MindsToken.token_eq {p : Performed} (h : p.MindsToken) :
    p.call.client.token = p.given?.or p.client.token := by
  rw [given?]
  split
  case h_1 token he => rw [h.gained token he]; rfl
  case h_2 hne => rw [h.kept hne]; rfl

theorem Performed.MindsToken.client_eq {p : Performed} (h : p.MindsToken) :
    p.call.client = { p.client with token := p.call.client.token } := by
  by_cases hgiven : ∃ token, p.call.result = .ok (.token token)
  · obtain ⟨token, he⟩ := hgiven
    rw [h.gained token he]
  · rw [h.kept fun token he => hgiven ⟨token, he⟩]

/-- What becomes of the token over a sequence of calls. -/
structure TokenKept (c : ApiClient) (calls : List (Task × Exchange)) : Prop where
  /-- Each call is made. -/
  made : (c.performAll calls).map (fun p => (p.task, p.exchange)) = calls
  minds : ∀ p ∈ c.performAll calls, p.MindsToken
  /-- A call is made with the newest token that a log-in gave before it. -/
  held : ∀ earlier p later, c.performAll calls = earlier ++ p :: later →
    p.client = { c with token := heldAfter c.token earlier }
  left : c.afterAll calls = { c with token := heldAfter c.token (c.performAll calls) }

theorem held_of_split {c : ApiClient} {calls : List (Task × Exchange)}
    {earlier later : List Performed} {p : Performed}
    (h : c.performAll calls = earlier ++ p :: later) :
    p.client = { c with token := heldAfter c.token earlier } := by
  induction calls generalizing c earlier with
  | nil => simp [performAll] at h
  | cons call calls ih =>
      obtain ⟨task, x⟩ := call
      have hminds := c.perform_mindsToken x task
      rw [performAll] at h
      cases earlier with
      | nil =>
          obtain ⟨rfl, -⟩ := List.cons.inj h
          rfl
      | cons first earlier =>
          obtain ⟨rfl, hrest⟩ := List.cons.inj h
          rw [ih hrest, heldAfter_cons, ← hminds.token_eq, hminds.client_eq]

theorem afterAll_eq (c : ApiClient) (calls : List (Task × Exchange)) :
    c.afterAll calls = { c with token := heldAfter c.token (c.performAll calls) } := by
  induction calls generalizing c with
  | nil => rfl
  | cons call calls ih =>
      obtain ⟨task, x⟩ := call
      have hminds := c.perform_mindsToken x task
      have hrest := ih (c.perform x task).client
      rw [afterAll, List.foldl_cons, ← afterAll, hrest, performAll, heldAfter_cons,
        ← hminds.token_eq, hminds.client_eq]

theorem performAll_made (c : ApiClient) (calls : List (Task × Exchange)) :
    (c.performAll calls).map (fun p => (p.task, p.exchange)) = calls := by
  induction calls generalizing c with
  | nil => rfl
  | cons call calls ih => rw [performAll, List.map_cons, ih]

theorem mindsToken_of_mem {c : ApiClient} {calls : List (Task × Exchange)} {p : Performed}
    (h : p ∈ c.performAll calls) : p.MindsToken := by
  induction calls generalizing c with
  | nil => simp [performAll] at h
  | cons call calls ih =>
      rcases List.mem_cons.mp h with rfl | h
      · exact c.perform_mindsToken call.2 call.1
      · exact ih h

/-- Only a log-in that succeeds changes the token, and every request carries the one that is
held. -/
theorem token_kept (c : ApiClient) (calls : List (Task × Exchange)) : TokenKept c calls where
  made := c.performAll_made calls
  minds _ h := mindsToken_of_mem h
  held _ _ _ h := held_of_split h
  left := c.afterAll_eq calls

end ApiClient

end ExerciseClient
