import ExerciseClient.Proofs.Url.Marks

/-! What is known of a URL that was read. Behind an authority only path, query and fragment are
added, so a URL of a special scheme has a host, and neither its user info nor its host has a mark of
a query or a fragment. -/

namespace ExerciseClient

/-- All that a computation gives has a property. -/
def Gives {ε α : Type} (P : α → Prop) (r : Except ε α) : Prop := ∀ a, r = .ok a → P a

namespace Gives

variable {ε α β : Type} {P : α → Prop} {Q : β → Prop}

theorem ok {a : α} (h : P a) : Gives P (.ok a : Except ε α) := by
  rintro _ ⟨⟩
  exact h

theorem bind_of {x : Except ε β} {f : β → Except ε α} (hx : Gives Q x)
    (h : ∀ b, Q b → Gives P (f b)) : Gives P (x >>= f) := by
  cases x with
  | error e => exact nofun
  | ok b => exact h b (hx b rfl)

theorem bind {x : Except ε β} {f : β → Except ε α} (h : ∀ b, Gives P (f b)) :
    Gives P (x >>= f) :=
  bind_of (fun _ _ => trivial) fun b _ => h b

/-- Nothing comes of what stands behind a refusal. -/
theorem throw_bind {e : ε} {f : β → Except ε α} : Gives P ((throw e : Except ε β) >>= f) := nofun

theorem ite {c : Prop} [Decidable c] {x y : Except ε α} (hx : Gives P x) (hy : Gives P y) :
    Gives P (if c then x else y) := by
  split <;> assumption

end Gives

namespace Url

theorem readTail_eq (u : Url) (cs : List Char) :
    ∃ query fragment, readTail u cs = { u with query, fragment } := by
  unfold readTail
  split
  · exact ⟨_, _, rfl⟩
  · exact ⟨u.query, _, rfl⟩

/-- Behind an authority a path is added, and a query and a fragment. -/
theorem readPath_eq (u : Url) (cs : List Char) :
    ∃ path query fragment, readPath u cs = { u with path, query, fragment } := by
  simp only [readPath]
  obtain ⟨query, fragment, he⟩ := readTail_eq { u with path := _ } _
  exact ⟨_, query, fragment, he⟩

theorem readTail_scheme (u : Url) (cs : List Char) : (readTail u cs).scheme = u.scheme := by
  obtain ⟨query, fragment, he⟩ := readTail_eq u cs
  rw [he]

theorem readPath_scheme (u : Url) (cs : List Char) : (readPath u cs).scheme = u.scheme := by
  obtain ⟨path, query, fragment, he⟩ := readPath_eq u cs
  rw [he]

/-- A URL has a host, and no query or fragment begins in its host or in its user info. -/
structure ClearAuthority (u : Url) : Prop where
  host : ∃ h, u.host = some h ∧ Unmarked h.text.toList
  username : Unmarked u.username.toList
  password : ∀ password, u.password = some password → Unmarked password.toList

namespace ClearAuthority

variable {u : Url}

theorem host_isSome (h : u.ClearAuthority) : u.host.isSome = true := by
  obtain ⟨host, he, -⟩ := h.host
  rw [he]
  rfl

theorem readPath (h : u.ClearAuthority) (cs : List Char) : (readPath u cs).ClearAuthority := by
  obtain ⟨path, query, fragment, he⟩ := readPath_eq u cs
  rw [he]
  exact ⟨h.host, h.username, h.password⟩

end ClearAuthority

theorem gives_host (cs : List Char) : Gives (fun h => Unmarked h.text.toList) (Host.read cs) :=
  fun _ => Host.unmarked_read

theorem gives_opaqueHost (cs : List Char) :
    Gives (fun h => Unmarked h.text.toList) (Host.readOpaque cs) :=
  fun _ => Host.unmarked_readOpaque

section

variable (scheme : String) {username : String} {password : Option String}
  (huser : Unmarked username.toList ∧ ∀ p, password = some p → Unmarked p.toList)

include huser

/-- A URL whose path is read behind a user info and a host. -/
theorem gives_readPath {host : Host} (hhost : Unmarked host.text.toList) (port : Option Nat)
    (rest : List Char) :
    Gives ClearAuthority (Except.ok (readPath
      { scheme, username, password, host := some host, port, path := .segments [],
        query := none, fragment := none } rest) : Except UrlError Url) :=
  Gives.ok (ClearAuthority.readPath ⟨⟨host, rfl, hhost⟩, huser.1, huser.2⟩ rest)

end

theorem unmarked_noUserInfo : Unmarked "".toList ∧
    ∀ p, (none : Option String) = some p → Unmarked p.toList :=
  ⟨Unmarked.nil, nofun⟩

theorem gives_readAuthority (scheme : String) (cs : List Char) :
    Gives ClearAuthority (readAuthority scheme cs) := by
  rw [readAuthority]
  dsimp only
  -- Whatever is read on the way, the URL is given by a path read behind a user info and a host.
  cases splitUserInfo (cs.takeWhile (!endsAuthority (isSpecial scheme) ·))
  all_goals
    dsimp only
    repeat' first
      | exact Gives.throw_bind
      | refine Gives.ite ?_ ?_
      | refine Gives.bind_of (gives_host _) fun host hhost => ?_
      | refine Gives.bind_of (gives_opaqueHost _) fun host hhost => ?_
      | refine Gives.bind fun _ => ?_
      | exact gives_readPath scheme unmarked_noUserInfo ‹_› _ _
      | exact gives_readPath scheme (unmarked_readUserInfo _) ‹_› _ _
      | split

theorem gives_readFile (cs : List Char) : Gives ClearAuthority (readFile cs) := by
  unfold readFile
  repeat' first
    | exact gives_readPath "file" unmarked_noUserInfo (by decide) _ _
    | exact gives_readPath "file" unmarked_noUserInfo ‹_› _ _
    | refine Gives.bind_of (gives_host _) fun host hhost => ?_
    | refine Gives.bind fun _ => ?_
    | refine Gives.ite ?_ ?_
    | split

/-- A URL of a special scheme has an authority. -/
theorem gives_read (text : String) :
    Gives (fun u => isSpecial u.scheme = true → u.ClearAuthority) (read text) := by
  intro u h
  rw [read] at h
  cases hs : readScheme (cleaned text) with
  | none => simp [hs] at h
  | some scheme =>
      rw [hs] at h
      dsimp only at h
      split at h
      · exact fun _ => gives_readFile _ u h
      · split at h
        · exact fun _ => gives_readAuthority _ _ u h
        · rename_i hother
          revert u
          change Gives _ _
          unfold readOther
          split
          · exact fun u h _ => gives_readAuthority _ _ u h
          · refine Gives.ok fun hs => absurd ?_ hother
            rwa [readPath_scheme] at hs
          · refine Gives.ok fun hs => absurd ?_ hother
            rwa [readTail_scheme] at hs

end Url

end ExerciseClient
