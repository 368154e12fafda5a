/-!
Texts cut to a length, counted in characters.
-/

namespace ExerciseClient.Text

/-- The text itself if it has at most `limit` characters, otherwise its first `limit` characters
and three dots. -/
def truncated (text : String) (limit : Nat) : String :=
  let cs := text.toList
  if limit < cs.length then String.ofList (cs.take limit ++ ['.', '.', '.']) else text

end ExerciseClient.Text
