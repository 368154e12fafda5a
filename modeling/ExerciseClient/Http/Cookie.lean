import ExerciseClient.Http.Message

/-!
The cookie that proves who the learner is: how it is read from an answer and written into a request.
-/

namespace ExerciseClient.Http

/-- The name of the cookie. -/
def authCookieName : String := "auth_token"

/-- The cookie of a request that carries a token. -/
def authCookie (token : String) : String := authCookieName ++ "=" ++ token

/-- A header can carry a text that has no control characters but tabs. -/
def isHeaderValue (text : String) : Bool :=
  text.toList.all fun c => c == '\t' || (0x20 ≤ c.toNat && c.toNat != 0x7F)

/-- Drops one pair of quotes. -/
def withoutQuotes (cs : List Char) : List Char :=
  match cs with
  | '"' :: rest => if rest.getLast? = some '"' then rest.dropLast else cs
  | _ => cs

/-- Reads name and value of a cookie that an answer sets; without an equals sign or a name there is
none. -/
def readCookie? (header : String) : Option (String × String) :=
  let pair := header.toList.takeWhile (· != ';')
  match pair.dropWhile (· != '=') with
  | [] => none
  | _ :: value =>
    match Text.trimmed (pair.takeWhile (· != '=')) with
    | [] => none
    | name => some (String.ofList name, String.ofList (withoutQuotes (Text.trimmed value)))

/-- The token that an answer sets: the first one that is not empty. -/
def Response.authToken? (r : Response) : Option String :=
  ((r.valuesOf "set-cookie").filterMap readCookie?).findSome? fun c =>
    if c.1 = authCookieName ∧ c.2 ≠ "" then some c.2 else none

end ExerciseClient.Http
