import ExerciseClient.Text.Blank

/-!
Source languages and the files that code is kept in.
-/

namespace ExerciseClient.Language

/-- The known languages with the extension of their files. -/
def extensions : List (String × String) :=
  [("python", "py"), ("javascript", "js"), ("node", "js")]

/-- The file extension of a language, whatever its case and the blanks around it; a language that
is not known has `txt`. -/
def extensionOf (language : String) : String :=
  let key := String.ofList (Text.lowerAscii (Text.trimmed language.toList))
  (extensions.lookup key).getD "txt"

/-- The file that holds the code of an exercise. -/
def entryFile (language : String) : String :=
  "main." ++ extensionOf language

end ExerciseClient.Language
