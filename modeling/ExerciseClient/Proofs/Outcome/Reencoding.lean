import ExerciseClient.Proofs.Json.Numbers
import ExerciseClient.Proofs.Outcome.Classification

/-! A result that is written again is read again as it is. Every field is written under its own name
and what may be left out is read as what is left out; the id is written as a text, whether it was
one or not, and it is never empty. -/

namespace ExerciseClient

open Json Typing
open Decimal (Binary64)

namespace CheckResult

theorem isReread_toJson (c : CheckResult) : c.toJson.IsReread :=
  ⟨trivial, trivial, trivial, trivial⟩

theorem depth_toJson (c : CheckResult) : c.toJson.depth = 1 := rfl

/-- A written report is a report of the same. -/
theorem report_toJson (c : CheckResult) : Report c.toJson.sorted c := by
  obtain ⟨es, hes⟩ : ∃ es, c.toJson.sorted = .obj es := ⟨_, rfl⟩
  have hchecker : es.lookup "type" = some (.str c.checker) := by
    simp [lookup_sorted hes, List.lookup_cons, Value.sorted]
  have hsuccess : es.lookup "success" = some (.bool c.success) := by
    simp [lookup_sorted hes, List.lookup_cons, Value.sorted]
  have hmessage : es.lookup "message" = some (.str c.message) := by
    simp [lookup_sorted hes, Value.sorted]
  rw [hes]
  refine .object ⟨?_, ?_, ?_⟩
  · exact hchecker ▸ .value nofun (.mk _)
  · exact hsuccess ▸ .value nofun (.mk _)
  · exact hmessage ▸ .value nofun (.mk _)

theorem listed_toJson (cs : List CheckResult) :
    Listed Report (.arr (Value.sortedItems (cs.map toJson))) cs := by
  constructor
  induction cs with
  | nil => exact .nil
  | cons c cs ih => exact .cons c.report_toJson ih

theorem itemsReread_toJson (cs : List CheckResult) : Value.ItemsReread (cs.map toJson) := by
  induction cs with
  | nil => trivial
  | cons c cs ih => exact ⟨c.isReread_toJson, ih⟩

theorem itemsDepth_toJson (cs : List CheckResult) : Value.itemsDepth (cs.map toJson) ≤ 1 := by
  induction cs with
  | nil => exact Nat.zero_le 1
  | cons c cs ih =>
      rw [List.map_cons, Value.itemsDepth, depth_toJson]
      omega

end CheckResult

namespace RunResult

/-- What it takes for a result to be read as it is written. -/
structure Writable (r : RunResult) : Prop where
  jobId : r.jobId ≠ ""
  exitCode : -2 ^ 63 ≤ r.exitCode ∧ r.exitCode ≤ 2 ^ 63 - 1
  reward : ∀ n, r.reward = some n → -2 ^ 63 ≤ n ∧ n ≤ 2 ^ 63 - 1
  time : (Number.real r.time).IsReread
  memory : (Number.real r.memory).IsReread
  cpu : (Number.real r.cpu).IsReread

theorem bounds_of_int64 {v : Value} {i : Int} (h : Int64 v i) : -2 ^ 63 ≤ i ∧ i ≤ 2 ^ 63 - 1 := by
  cases h with
  | mk hlow hhigh => exact ⟨hlow, hhigh⟩

/-- A result that was read can be written, if its real numbers can. -/
theorem Describes.writable {ms : List (String × Value)} {r : RunResult} (h : Describes ms r)
    (hreal : ∀ x ∈ [r.time, r.memory, r.cpu], decodeText Decoder.real x.interchangeText = .ok x) :
    Writable r := by
  have hreread (x : Binary64) (hx : x ∈ [r.time, r.memory, r.cpu]) : (Number.real x).IsReread :=
    Number.isReread_real (hreal x hx)
  refine ⟨?_, ?_, ?_, hreread _ (by simp), hreread _ (by simp), hreread _ (by simp)⟩
  · obtain ⟨v, -, hid⟩ := h.jobId
    generalize r.jobId = id at hid
    cases hid with
    | text hs => exact hs
    | @number n => exact n.text_ne_empty
  · have hexit := h.exitCode
    generalize r.exitCode = i, ms.lookup "exit_code" = v at hexit
    cases hexit with
    | absent | null => decide
    | value _ hi => exact bounds_of_int64 hi
  · intro n hn
    have hreward := h.reward
    rw [hn] at hreward
    generalize ms.lookup "reward" = v at hreward
    cases hreward with
    | value _ hpresent =>
        cases hpresent with
        | mk hi => exact bounds_of_int64 hi

theorem Writable.isReread_toJson {r : RunResult} (h : Writable r) : r.toJson.IsReread := by
  have hint {i : Int} (hi : -2 ^ 63 ≤ i ∧ i ≤ 2 ^ 63 - 1) : (Number.int i).IsReread :=
    Number.isReread_int hi.1 (by omega)
  have hoptional (name : String) (s : Option String) :
      Value.MembersReread (optionalMember name (s.map .str)) := by
    cases s with
    | none => trivial
    | some s => exact ⟨trivial, trivial⟩
  have hreward : Value.MembersReread (optionalMember "reward" (r.reward.map .ofInt)) := by
    cases hr : r.reward with
    | none => trivial
    | some n => exact ⟨hint (h.reward n hr), trivial⟩
  have hfields : Value.MembersReread [
      ("job_id", .str r.jobId), ("stdout", .str r.stdout), ("stderr", .str r.stderr),
      ("exit_code", .ofInt r.exitCode), ("time", .num (.real r.time)),
      ("memory", .num (.real r.memory)), ("cpu", .num (.real r.cpu)),
      ("checker_results", .arr (r.checks.map CheckResult.toJson)), ("passed", .bool r.passed)] :=
    ⟨trivial, trivial, trivial, hint h.exitCode, h.time, h.memory, h.cpu,
      CheckResult.itemsReread_toJson r.checks, trivial, trivial⟩
  simp only [toJson, Value.IsReread, Value.membersReread_append]
  exact ⟨⟨⟨hfields, hoptional _ _⟩, hoptional _ _⟩, hreward⟩

theorem lookup_optionalMember (name key : String) (v : Option Value) :
    (optionalMember name v).reverse.lookup key = if key = name then v else none := by
  cases v with
  | none => simp [optionalMember]
  | some v =>
      by_cases hkey : key = name
      · simp [optionalMember, hkey]
      · simp [optionalMember, KeyedMap.lookup_cons_of_ne (e := (name, v)) hkey, hkey]

/-- A written result describes itself. -/
theorem Writable.describes {r : RunResult} (h : Writable r) {es : List (String × Value)}
    (hes : r.toJson.sorted = .obj es) : Describes es r := by
  have hget := lookup_sorted hes
  simp only [List.reverse_append, List.lookup_append, lookup_optionalMember] at hget
  have htext (s : String) : Holds Text "" (some (.str s)) s := .value nofun (.mk s)
  have hreal (x : Binary64) : Holds Real Binary64.zero (some (.num (.real x))) x :=
    .value nofun (.mk (.real x))
  have hmaybe (s : Option String) : Holds (Present Text) none (s.map .str) s := by
    cases s with
    | none => exact .absent
    | some s => exact .value nofun (.mk (.mk s))
  have hreward : Holds (Present Int64) none (r.reward.map .ofInt) r.reward := by
    have hbounds := h.reward
    generalize r.reward = reward at hbounds ⊢
    cases reward with
    | none => exact .absent
    | some n => exact .value nofun (.mk (.mk (hbounds n rfl).1 (hbounds n rfl).2))
  have hmaybeSorted (s : Option String) :
      (s.map Value.str).map Value.sorted = s.map Value.str := by cases s <;> rfl
  have hrewardSorted : (r.reward.map Value.ofInt).map Value.sorted = r.reward.map .ofInt := by
    cases r.reward <;> rfl
  exact {
    jobId := ⟨.str r.jobId, by simp [hget, List.lookup_cons, Value.sorted], .text h.jobId⟩
    stdout := by simpa [hget, List.lookup_cons, Value.sorted] using htext r.stdout
    stderr := by simpa [hget, List.lookup_cons, Value.sorted] using htext r.stderr
    exitCode := by
      have hexit : Holds Int64 0 (some (.ofInt r.exitCode)) r.exitCode :=
        .value nofun (.mk h.exitCode.1 h.exitCode.2)
      simpa [hget, List.lookup_cons, Value.ofInt, Value.sorted] using hexit
    time := by simpa [hget, List.lookup_cons, Value.sorted] using hreal r.time
    memory := by simpa [hget, List.lookup_cons, Value.sorted] using hreal r.memory
    cpu := by simpa [hget, List.lookup_cons, Value.sorted] using hreal r.cpu
    checks := by
      have hchecks : Holds (Listed CheckResult.Report) []
          (some (.arr (Value.sortedItems (r.checks.map CheckResult.toJson)))) r.checks :=
        .value nofun (CheckResult.listed_toJson r.checks)
      simpa [hget, List.lookup_cons, Value.sorted] using hchecks
    passed := by
      have hpassed : Holds Truth false (some (.bool r.passed)) r.passed := .value nofun (.mk _)
      simpa [hget, List.lookup_cons, Value.sorted] using hpassed
    nextLesson := by
      simpa [hget, List.lookup_cons, hmaybeSorted] using hmaybe r.nextLesson
    nextExercise := by
      simpa [hget, List.lookup_cons, hmaybeSorted] using hmaybe r.nextExercise
    reward := by
      simpa [hget, List.lookup_cons, hrewardSorted] using hreward }

theorem depth_toJson (r : RunResult) : r.toJson.depth ≤ 3 := by
  have hchecks := CheckResult.itemsDepth_toJson r.checks
  have hoptional (name : String) (v : Option Value) (hv : ∀ w, v = some w → w.depth = 0) :
      Value.membersDepth (optionalMember name v) = 0 := by
    cases v with
    | none => rfl
    | some w => simp [optionalMember, Value.membersDepth, hv w rfl]
  have htext (s : Option String) (w : Value) (hw : s.map Value.str = some w) : w.depth = 0 := by
    obtain ⟨s, -, rfl⟩ := Option.map_eq_some_iff.mp hw
    rfl
  have hreward (w : Value) (hw : r.reward.map Value.ofInt = some w) : w.depth = 0 := by
    obtain ⟨n, -, rfl⟩ := Option.map_eq_some_iff.mp hw
    rfl
  simp only [toJson, Value.depth, membersDepth_append, hoptional _ _ (htext _),
    hoptional _ _ hreward, Value.membersDepth, Value.ofInt]
  omega

theorem Writable.parse_text {r : RunResult} (h : Writable r) :
    parse r.toJson.text = .ok r.toJson.sorted := by
  have hdepth : r.toJson.depth ≤ maxDepth := Nat.le_trans r.depth_toJson (by decide)
  rw [parse, decodeText_text _ h.isReread_toJson, Decoder.value, toValue_tree, if_pos hdepth]

/-- A result that can be written is read from its own text. -/
theorem Writable.classify_text {r : RunResult} (h : Writable r) :
    Frame.classify r.toJson.text = .result r := by
  obtain ⟨es, hes⟩ : ∃ es, r.toJson.sorted = .obj es := ⟨_, rfl⟩
  have hparse := h.parse_text
  rw [hes] at hparse
  exact Frame.classify_eq_result.mpr ⟨es, parse_eq_ok_iff.mp hparse, h.describes hes⟩

/-- The id is written as a text. -/
theorem Writable.field?_jobId {r : RunResult} (h : Writable r) :
    field? r.toJson.text "job_id" = some (.str r.jobId) := by
  rw [field?, h.parse_text]
  simp only [toJson, get?_sorted_obj, List.reverse_append, List.lookup_append,
    lookup_optionalMember]
  simp [List.lookup_cons, Value.sorted]

end RunResult

/-- What a text frame is classified as is written to a text that is classified as the same, if the
three real numbers in it are read as they are printed. Whatever the id was, there it is a text. -/
theorem Frame.classify_reencoded {text : String} {r : RunResult} (h : classify text = .result r)
    (hreal : ∀ x ∈ [r.time, r.memory, r.cpu],
      decodeText Decoder.real x.interchangeText = .ok x) :
    classify r.toJson.text = .result r ∧
      field? r.toJson.text "job_id" = some (.str r.jobId) := by
  obtain ⟨ms, -, hdescribes⟩ := classify_eq_result.mp h
  have hwritable := hdescribes.writable hreal
  exact ⟨hwritable.classify_text, hwritable.field?_jobId⟩

/-- A numeric id, numbers with and without a fraction, a report as an array and one that lacks
fields, and fields that are left out or `null`. -/
theorem Frame.classify_reencoded_sparse :
    let text := "\x7b\"job_id\":4.5e20,\"time\":0.25,\"memory\":128,\"cpu\":1e-7," ++
      "\"stderr\":null,\"checker_results\":[[\"io\",true],\x7b\"message\":\"\\u0001\"\x7d]," ++
      "\"reward\":-7\x7d"
    let r : RunResult := ⟨"4.5e+20", "", "", 0, ⟨false, 1021 * 2 ^ 52, by decide⟩,
      ⟨false, 1030 * 2 ^ 52, by decide⟩, ⟨false, 4502148214488346440, by decide⟩,
      [⟨"io", true, ""⟩, ⟨"", false, "\x01"⟩], false, none, none, some (-7)⟩
    classify text = .result r ∧
      (∀ x ∈ [r.time, r.memory, r.cpu], decodeText Decoder.real x.interchangeText = .ok x) ∧
      classify r.toJson.text = .result r ∧
      field? r.toJson.text "job_id" = some (.str r.jobId) := by
  intro text r
  have h : classify text = .result r := by decide +kernel
  have hreal : ∀ x ∈ [r.time, r.memory, r.cpu],
      decodeText Decoder.real x.interchangeText = .ok x := by decide +kernel
  exact ⟨h, hreal, classify_reencoded h hreal⟩

end ExerciseClient
