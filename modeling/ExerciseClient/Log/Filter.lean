import ExerciseClient.Log
import ExerciseClient.Text.Blank
import ExerciseClient.Text.Split

/-!
Which log lines are shown. A filter is a list of rules, each a level for all lines or for those of a
source whose name starts with a text; the rule with the longest text decides. All lines of this
program have one source.
-/

namespace ExerciseClient

/-- How much is shown: `0` is nothing, `1` errors, and so on down to `5`, everything. -/
abbrev Detail := Nat

/-- The detail at which lines of a level are shown. -/
def Level.detail : Level → Detail
  | error => 1
  | warn => 2
  | info => 3
  | debug => 4

/-- A rule of a filter; without a source it is for all lines. -/
structure FilterRule where
  source : Option String
  detail : Detail
deriving DecidableEq, Repr

/-- A filter. -/
abbrev LogFilter := List FilterRule

namespace LogFilter

/-- The source of this program's lines. -/
def programSource : String := "codim_client"

/-- Details by name. -/
def detailNames : List (String × Detail) :=
  [("", 1), ("off", 0), ("error", 1), ("warn", 2), ("info", 3), ("debug", 4), ("trace", 5),
    ("0", 0), ("1", 1), ("2", 2), ("3", 3), ("4", 4), ("5", 5)]

/-- Reads a detail; its name may stand in any case. -/
def readDetail? (cs : List Char) : Option Detail :=
  detailNames.lookup (String.ofList (Text.lowerAscii cs))

/-- Reads a rule: a detail, a source, or a source with its detail. -/
def readRule? (cs : List Char) : Option FilterRule :=
  let cs := Text.trimmed cs
  match cs.dropWhile (· != '=') with
  | [] =>
    match readDetail? cs with
    | some d => some ⟨none, d⟩
    | none =>
      if cs.head?.any fun c => c.isAlphanum || c == '-' || c == ':' || c == '_' then
        some ⟨some (String.ofList cs), 5⟩
      else none
  | _ :: detail =>
    (readDetail? detail).map fun d => ⟨some (String.ofList (cs.takeWhile (· != '='))), d⟩

/-- Reads a filter; an empty one shows errors. -/
def read? (text : String) : Option LogFilter :=
  match (Text.splitAt ',' text.toList).filter (!·.isEmpty) with
  | [] => some [⟨none, 1⟩]
  | parts => parts.mapM readRule?

/-- The filter without settings of its own. -/
def standard (verbose : Bool) : LogFilter := [⟨some programSource, if verbose then 4 else 3⟩]

/-- The filter that an environment asks for. -/
def ofEnvironment (text : Option String) (verbose : Bool) : LogFilter :=
  (text.bind read?).getD (standard verbose)

/-- How closely a rule fits this program; `none` if it does not. -/
def fit (r : FilterRule) : Option Nat :=
  match r.source with
  | none => some 0
  | some s => if s.toList.isPrefixOf programSource.toList then some (s.length + 1) else none

/-- The rule that decides: the closest one, and of two equal ones the later. -/
def deciding (f : LogFilter) : Option FilterRule :=
  (f.foldl (fun (best : Option (Nat × FilterRule)) r =>
    match fit r, best with
    | none, best => best
    | some n, none => some (n, r)
    | some n, some (m, b) => if m ≤ n then some (n, r) else some (m, b)) none).map (·.2)

/-- A line is shown. -/
def passes (f : LogFilter) (l : LogLine) : Bool :=
  match f.deciding with
  | none => false
  | some r => l.level.detail ≤ r.detail

end LogFilter

/-- The lines of a log as they are shown; a message with line ends goes on in the next lines. -/
def Log.shown (f : LogFilter) (log : Log) : List String :=
  (log.filter f.passes).flatMap fun l =>
    (Text.splitAt '\n' (l.level.name ++ " " ++ l.message).toList).map String.ofList

end ExerciseClient
