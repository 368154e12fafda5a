/-!
Texts split at separators, and parts put together with a separator between them.
-/

namespace ExerciseClient.Text

/-- The parts between separators; one more than there are separators. -/
def splitWhere (isSeparator : Char → Bool) : List Char → List (List Char)
  | [] => [[]]
  | c :: cs =>
    if isSeparator c then [] :: splitWhere isSeparator cs
    else
      match splitWhere isSeparator cs with
      | [] => [[c]]
      | part :: parts => (c :: part) :: parts

/-- The parts between occurrences of a character. -/
def splitAt (separator : Char) : List Char → List (List Char) :=
  splitWhere (· == separator)

/-- Parts with a character between them. -/
def joinWith (separator : Char) : List (List Char) → List Char
  | [] => []
  | [part] => part
  | part :: next :: parts => part ++ separator :: joinWith separator (next :: parts)

end ExerciseClient.Text
