import ExerciseClient.Outcome.Frame
import ExerciseClient.Proofs.Json.Typed

/-! Which text frames are results, which are ignored and which are malformed, over all texts. The
rules speak of what a text denotes and of what stands under its known names. -/

namespace ExerciseClient

open Json Decoder Typing
open Decimal (Binary64)

/-! ### The report of a checker -/

namespace CheckResult

/-- The members of an object say what a checker says. -/
structure Says (ms : List (String × Value)) (c : CheckResult) : Prop where
  checker : Holds Text "" (ms.lookup "type") c.checker
  success : Holds Truth false (ms.lookup "success") c.success
  message : Holds Text "" (ms.lookup "message") c.message

/-- The report of a checker: an object, or an array with the same values in the order of the
fields, in which the last may be left out. -/
inductive Report : Typing CheckResult where
  | object {ms c} (h : Says ms c) : Report (.obj ms) c
  | array {vs c} (hlength : vs.length ≤ 3) (h : Says (["type", "success", "message"].zip vs) c) :
      Report (.arr vs) c

def slots : List (Slot Draft) := [
  ⟨String, "type", false, (·.checker), fun a r => { r with checker := some a },
    .orDefault "" .text⟩,
  ⟨Bool, "success", false, (·.success), fun a r => { r with success := some a },
    .orDefault false .bool⟩,
  ⟨String, "message", false, (·.message), fun a r => { r with message := some a },
    .orDefault "" .text⟩]

theorem lawful : Lawful schema slots where
  fields := rfl
  apart := by simp [slots, Slot.apart_iff]
  kept := by simp [slots]
  blank := by simp [slots, schema]
  ext := by
    rintro ⟨⟩ ⟨⟩ h
    simp_all [slots]

theorem decode_eq_ok {p : Place} {t : Tree} {c : CheckResult} :
    decode p t = .ok c ↔ ∃ r, schema.read p t = .ok r ∧ r.checker.getD "" = c.checker ∧
      r.success.getD false = c.success ∧ r.message.getD "" = c.message := by
  obtain ⟨checker, success, message⟩ := c
  rw [decode]
  cases schema.read p t <;> simp

/-- The members of an object are read as what they say. -/
theorem says_iff {room : Nat} {ms : List (String × Value)} (hkeys : (ms.map (·.1)).Nodup)
    (hfits : ∀ key v, ms.lookup key = some v → v.Fits room) {c : CheckResult} :
    decode ⟨.value, room + 1⟩ (.obj (Value.treeMembers ms)) = .ok c ↔ Says ms c := by
  have hchecker := fills_orDefault (text_is room) "" c.checker (hfits "type")
  have hsuccess := fills_orDefault (bool_is room) false c.success (hfits "success")
  have hmessage := fills_orDefault (text_is room) "" c.message (hfits "message")
  simp only [decode_eq_ok, lawful.read_obj_eq_ok hkeys]
  constructor
  · rintro ⟨r, hfills, hc, hs, hm⟩
    simp only [slots, List.forall_mem_cons] at hfills
    exact ⟨hchecker.mp ⟨_, hfills.1.1, hc⟩, hsuccess.mp ⟨_, hfills.2.1.1, hs⟩,
      hmessage.mp ⟨_, hfills.2.2.1.1, hm⟩⟩
  · rintro ⟨hc, hs, hm⟩
    obtain ⟨checker, hcfills, hc⟩ := hchecker.mpr hc
    obtain ⟨success, hsfills, hs⟩ := hsuccess.mpr hs
    obtain ⟨message, hmfills, hm⟩ := hmessage.mpr hm
    refine ⟨⟨checker, success, message⟩, ?_, hc, hs, hm⟩
    simp [slots, hcfills, hsfills, hmfills]

theorem decode_is (room : Nat) : decode.Is Report (room + 1) := by
  intro v hv c
  cases v with
  | obj ms =>
      rw [Value.tree, says_iff hv.nodup fun _ _ => hv.member]
      constructor
      · exact .object
      · rintro ⟨h⟩
        exact h
  | arr vs =>
      have hoptional : ∀ a ∈ slots, a.required = false := by simp [slots]
      have hfits (key) (w) (hw : (Lawful.named slots vs).lookup key = some w) : w.Fits room :=
        hv.item (Lawful.mem_of_lookup_named hw)
      have hread : decode ⟨.value, room + 1⟩ (.arr (Value.treeItems vs)) = .ok c ↔
          vs.length ≤ 3 ∧ Says (Lawful.named slots vs) c := by
        rw [← says_iff (lawful.nodup_named vs) hfits]
        simp only [decode_eq_ok, lawful.read_arr_eq_ok hoptional, and_assoc, exists_and_left]
        rfl
      rw [Value.tree, hread]
      constructor
      · exact fun ⟨hlength, h⟩ => .array hlength h
      · rintro (_ | ⟨hlength, h⟩)
        exact ⟨hlength, h⟩
  | null | bool | num | str =>
      constructor
      · intro h
        simp [Value.tree, decode, Schema.read] at h
      · rintro ⟨⟩

end CheckResult

/-! ### The result of a run -/

namespace RunResult

/-- A job id: a text that is not empty, or a number that is not zero, which is kept as its text.
A zero with a minus sign is a real number, and zero. -/
inductive JobId : Typing String where
  | text {s} (h : s ≠ "") : JobId (.str s) s
  | number {n} (h : n.isZero = false) : JobId (.num n) n.text

/-- The members of an object describe the result of a run. -/
structure Describes (ms : List (String × Value)) (r : RunResult) : Prop where
  jobId : ∃ v, ms.lookup "job_id" = some v ∧ JobId v r.jobId
  stdout : Holds Text "" (ms.lookup "stdout") r.stdout
  stderr : Holds Text "" (ms.lookup "stderr") r.stderr
  exitCode : Holds Int64 0 (ms.lookup "exit_code") r.exitCode
  time : Holds Real Binary64.zero (ms.lookup "time") r.time
  memory : Holds Real Binary64.zero (ms.lookup "memory") r.memory
  cpu : Holds Real Binary64.zero (ms.lookup "cpu") r.cpu
  checks : Holds (Listed CheckResult.Report) [] (ms.lookup "checker_results") r.checks
  passed : Holds Truth false (ms.lookup "passed") r.passed
  nextLesson : Holds (Present Text) none (ms.lookup "next_lesson_uuid") r.nextLesson
  nextExercise : Holds (Present Text) none (ms.lookup "next_exercise_uuid") r.nextExercise
  reward : Holds (Present Int64) none (ms.lookup "reward") r.reward

def slots : List (Slot Draft) := [
  ⟨String, "job_id", true, (·.jobId), fun a r => { r with jobId := some a }, decodeJobId⟩,
  ⟨String, "stdout", false, (·.stdout), fun a r => { r with stdout := some a },
    .orDefault "" .text⟩,
  ⟨String, "stderr", false, (·.stderr), fun a r => { r with stderr := some a },
    .orDefault "" .text⟩,
  ⟨Int, "exit_code", false, (·.exitCode), fun a r => { r with exitCode := some a },
    .orDefault 0 .int64⟩,
  ⟨Binary64, "time", false, (·.time), fun a r => { r with time := some a },
    .orDefault Binary64.zero .real⟩,
  ⟨Binary64, "memory", false, (·.memory), fun a r => { r with memory := some a },
    .orDefault Binary64.zero .real⟩,
  ⟨Binary64, "cpu", false, (·.cpu), fun a r => { r with cpu := some a },
    .orDefault Binary64.zero .real⟩,
  ⟨List CheckResult, "checker_results", false, (·.checks), fun a r => { r with checks := some a },
    .orDefault [] (.list CheckResult.decode)⟩,
  ⟨Bool, "passed", false, (·.passed), fun a r => { r with passed := some a },
    .orDefault false .bool⟩,
  ⟨Option String, "next_lesson_uuid", false, (·.nextLesson),
    fun a r => { r with nextLesson := some a }, .optional .text⟩,
  ⟨Option String, "next_exercise_uuid", false, (·.nextExercise),
    fun a r => { r with nextExercise := some a }, .optional .text⟩,
  ⟨Option Int, "reward", false, (·.reward), fun a r => { r with reward := some a },
    .optional .int64⟩]

theorem lawful : Lawful schema slots where
  fields := rfl
  apart := by simp [slots, Slot.apart_iff]
  kept := by simp [slots]
  blank := by simp [slots, schema]
  ext := by
    rintro ⟨⟩ ⟨⟩ h
    simp_all [slots]

/-- What a job id is read from, empty or zero or not. -/
inductive Id : Typing String where
  | text (s) : Id (.str s) s
  | number (n) : Id (.num n) n.text

theorem decodeJobId_is (room : Nat) : decodeJobId.Is Id room := by
  intro v _ id
  constructor
  · intro h
    simp only [decodeJobId, toValue_tree] at h
    split at h
    · cases v <;> simp only [Value.sorted, ok_bind, reduceCtorEq] at h
      · obtain rfl := Except.ok.inj h
        exact .number _
      · obtain rfl := Except.ok.inj h
        exact .text _
    · simp at h
  · rintro (s | n)
    · rfl
    · rfl

/-- The id of a draft, as it is kept. -/
theorem fills_jobId {room : Nat} {v : Option Value} (hv : ∀ w, v = some w → w.Fits room)
    (id : String) :
    (∃ kept, decodeJobId.Fills ⟨.value, room⟩ v none kept ∧ kept.isSome = true ∧
      kept.getD "" = id) ↔ ∃ w, v = some w ∧ Id w id := by
  cases v with
  | none => simp [Fills]
  | some w =>
      simp only [Fills, Option.some.injEq, exists_eq_left', ← decodeJobId_is room w (hv w rfl)]
      constructor
      · rintro ⟨_, ⟨x, hx, rfl⟩, -, rfl⟩
        exact hx
      · exact fun hx => ⟨some id, ⟨id, hx, rfl⟩, rfl, rfl⟩

theorem decode_eq_ok {p : Place} {t : Tree} {r : RunResult} :
    decode p t = .ok r ↔ ∃ d, schema.read p t = .ok d ∧ d.finish = r := by
  rw [decode]
  cases schema.read p t <;> simp

theorem jobId_iff {ms : List (String × Value)} {id : String} :
    (∃ v, ms.lookup "job_id" = some v ∧ JobId v id) ↔
      (∃ v, ms.lookup "job_id" = some v ∧ Id v id) ∧ Frame.hasJobId (.obj ms) = true := by
  cases hv : ms.lookup "job_id" with
  | none => simp
  | some v =>
      simp only [Option.some.injEq, exists_eq_left', Frame.hasJobId, Value.get?, hv]
      constructor
      · rintro (hs | hn)
        · exact ⟨.text _, by simpa using hs⟩
        · exact ⟨.number _, by simpa using hn⟩
      · rintro ⟨_ | _, h⟩
        · exact .text (by simpa using h)
        · exact .number (by simpa using h)

/-- The members of an object with a job id are read as what they describe. -/
theorem describes_iff {ms : List (String × Value)} (hms : (Value.obj ms).Fits maxDepth)
    {r : RunResult} :
    decodeValue decode (.obj ms) = .ok r ∧ Frame.hasJobId (.obj ms) = true ↔ Describes ms r := by
  have hfits (key : String) (v : Value) (hv : ms.lookup key = some v) : v.Fits 126 :=
    hms.member hv
  -- below the object there are 126 levels, and 124 below a checker's report in its list
  have hjobId := fills_jobId (hfits "job_id") r.jobId
  have htext (key : String) (a : String) := fills_orDefault (text_is 126) "" a (hfits key)
  have hexitCode := fills_orDefault (int64_is 126) 0 r.exitCode (hfits "exit_code")
  have hreal (key : String) (a : Binary64) := fills_orDefault (real_is 126) Binary64.zero a
    (hfits key)
  have hchecks := fills_orDefault (list_is (CheckResult.decode_is 124)) [] r.checks
    (hfits "checker_results")
  have hpassed := fills_orDefault (bool_is 126) false r.passed (hfits "passed")
  have hmaybe (key : String) (a : Option String) := fills_optional (text_is 126) a (hfits key)
  have hreward := fills_optional (int64_is 126) r.reward (hfits "reward")
  have hread : decodeValue decode (.obj ms) = .ok r ↔
      ∃ d : Draft, (∀ a ∈ slots, a.decoder.Fills ⟨.value, 126⟩ (ms.lookup a.name) none (a.get d) ∧
        (a.required = true → (a.get d).isSome = true)) ∧ d.finish = r := by
    simp only [decodeValue, decode_eq_ok, Value.tree, maxDepth, lawful.read_obj_eq_ok hms.nodup]
  rw [hread]
  constructor
  · rintro ⟨⟨d, hfills, rfl⟩, hjob⟩
    simp only [slots, List.forall_mem_cons] at hfills
    obtain ⟨h1, h2, h3, h4, h5, h6, h7, h8, h9, h10, h11, h12, -⟩ := hfills
    exact {
      jobId := jobId_iff.mpr ⟨hjobId.mp ⟨_, h1.1, h1.2 trivial, rfl⟩, hjob⟩
      stdout := (htext _ _).mp ⟨_, h2.1, rfl⟩
      stderr := (htext _ _).mp ⟨_, h3.1, rfl⟩
      exitCode := hexitCode.mp ⟨_, h4.1, rfl⟩
      time := (hreal _ _).mp ⟨_, h5.1, rfl⟩
      memory := (hreal _ _).mp ⟨_, h6.1, rfl⟩
      cpu := (hreal _ _).mp ⟨_, h7.1, rfl⟩
      checks := hchecks.mp ⟨_, h8.1, rfl⟩
      passed := hpassed.mp ⟨_, h9.1, rfl⟩
      nextLesson := (hmaybe _ _).mp ⟨_, h10.1, rfl⟩
      nextExercise := (hmaybe _ _).mp ⟨_, h11.1, rfl⟩
      reward := hreward.mp ⟨_, h12.1, rfl⟩ }
  · intro h
    obtain ⟨hid, hjob⟩ := jobId_iff.mp h.jobId
    obtain ⟨jobId, f1, hset, e1⟩ := hjobId.mpr hid
    obtain ⟨stdout, f2, e2⟩ := (htext _ _).mpr h.stdout
    obtain ⟨stderr, f3, e3⟩ := (htext _ _).mpr h.stderr
    obtain ⟨exitCode, f4, e4⟩ := hexitCode.mpr h.exitCode
    obtain ⟨time, f5, e5⟩ := (hreal _ _).mpr h.time
    obtain ⟨memory, f6, e6⟩ := (hreal _ _).mpr h.memory
    obtain ⟨cpu, f7, e7⟩ := (hreal _ _).mpr h.cpu
    obtain ⟨checks, f8, e8⟩ := hchecks.mpr h.checks
    obtain ⟨passed, f9, e9⟩ := hpassed.mpr h.passed
    obtain ⟨nextLesson, f10, e10⟩ := (hmaybe _ _).mpr h.nextLesson
    obtain ⟨nextExercise, f11, e11⟩ := (hmaybe _ _).mpr h.nextExercise
    obtain ⟨reward, f12, e12⟩ := hreward.mpr h.reward
    refine ⟨⟨⟨jobId, stdout, stderr, exitCode, time, memory, cpu, checks, passed, nextLesson,
      nextExercise, reward⟩, ?_, ?_⟩, hjob⟩
    · simp [slots, f1, f2, f3, f4, f5, f6, f7, f8, f9, f10, f11, f12, hset]
    · simp [Draft.finish, e1, e2, e3, e4, e5, e6, e7, e8, e9, e10, e11, e12]

end RunResult

/-! ### Text frames -/

namespace Frame

/-- A value without a job id: it is no object, or what stands under `job_id` is nothing, `null`,
`false`, the empty text or zero. -/
inductive Passed : Value → Prop where
  | other {v} (h : ∀ ms, v ≠ .obj ms) : Passed v
  | absent {ms} (h : ms.lookup "job_id" = none) : Passed (.obj ms)
  | null {ms} (h : ms.lookup "job_id" = some .null) : Passed (.obj ms)
  | no {ms} (h : ms.lookup "job_id" = some (.bool false)) : Passed (.obj ms)
  | empty {ms} (h : ms.lookup "job_id" = some (.str "")) : Passed (.obj ms)
  | zero {ms n} (h : ms.lookup "job_id" = some (.num n)) (hn : n.isZero = true) : Passed (.obj ms)

theorem passed_iff {v : Value} : Passed v ↔ hasJobId v = false := by
  constructor
  · intro h
    cases h with
    | other h =>
        cases v with
        | obj ms => exact absurd rfl (h ms)
        | null | bool | num | str | arr => rfl
    | absent h | null h | no h => simp only [hasJobId, Value.get?, h]
    | empty h => simp [hasJobId, Value.get?, h]
    | zero h hn => simp [hasJobId, Value.get?, h, hn]
  · intro h
    cases v with
    | obj ms =>
        simp only [hasJobId, Value.get?] at h
        split at h
        · exact .absent ‹_›
        · exact .null ‹_›
        · exact .no ‹_›
        · rename_i s hs
          obtain rfl : s = "" := by simpa using h
          exact .empty hs
        · rename_i n hn
          exact .zero hn (by simpa using h)
        · simp at h
    | null | bool | num | str | arr => exact .other fun ms => by simp

/-- Which frame a text is. -/
structure Classified (text : String) : Prop where
  /-- It is ignored if it denotes a value without a job id. -/
  ignored : classify text = .ignored ↔ ∃ v, Denotes text v ∧ Passed v
  /-- It is a result if it denotes an object that describes this result. -/
  result : ∀ r, classify text = .result r ↔ ∃ ms, Denotes text (.obj ms) ∧ RunResult.Describes ms r
  /-- It is malformed if it is neither. -/
  malformed : (∃ reason, classify text = .malformed reason) ↔
    (∀ v, Denotes text v → ¬ Passed v) ∧
      ∀ ms r, Denotes text (.obj ms) → ¬ RunResult.Describes ms r
  /-- Another object with the same under every known name is the same frame. -/
  known : ∀ text' ms ms', Denotes text (.obj ms) → Denotes text' (.obj ms') →
    (∀ name ∈ RunResult.schema.fields.map (·.name), ms.lookup name = ms'.lookup name) →
    classify text = classify text'

theorem classify_of_denotes {text : String} {v : Value} (h : Denotes text v) :
    classify text =
      if hasJobId v then
        match decodeValue RunResult.decode v with
        | .ok r => result r
        | .error e => malformed e.message
      else ignored := by
  cases hread : decodeValue RunResult.decode v <;>
    simp [classify, parse_eq_ok_iff.mpr h, hread]

theorem classify_eq_ignored {text : String} :
    classify text = .ignored ↔ ∃ v, Denotes text v ∧ Passed v := by
  constructor
  · intro h
    cases hv : parse text with
    | error e => simp [classify, hv] at h
    | ok v =>
        have hdenotes : Denotes text v := parse_eq_ok_iff.mp hv
        refine ⟨v, hdenotes, passed_iff.mpr ?_⟩
        rw [classify_of_denotes hdenotes] at h
        cases hjob : hasJobId v with
        | false => rfl
        | true =>
            rw [hjob, if_pos rfl] at h
            split at h <;> simp at h
  · rintro ⟨v, hv, hpassed⟩
    simp [classify_of_denotes hv, passed_iff.mp hpassed]

/-- A value with a job id is an object. -/
theorem exists_members {v : Value} (h : hasJobId v = true) : ∃ ms, v = .obj ms := by
  cases v with
  | obj ms => exact ⟨ms, rfl⟩
  | null | bool | num | str | arr => simp [hasJobId, Value.get?] at h

theorem classify_eq_result {text : String} {r : RunResult} :
    classify text = .result r ↔ ∃ ms, Denotes text (.obj ms) ∧ RunResult.Describes ms r := by
  constructor
  · intro h
    cases hv : parse text with
    | error e => simp [classify, hv] at h
    | ok v =>
        have hdenotes : Denotes text v := parse_eq_ok_iff.mp hv
        rw [classify_of_denotes hdenotes] at h
        split at h
        case isFalse => simp at h
        case isTrue hjob =>
          obtain ⟨ms, rfl⟩ := exists_members hjob
          split at h
          case h_2 => simp at h
          case h_1 r' hr =>
            obtain rfl := Frame.result.inj h
            exact ⟨ms, hdenotes, (RunResult.describes_iff hdenotes.fits).mp ⟨hr, hjob⟩⟩
  · rintro ⟨ms, hdenotes, h⟩
    obtain ⟨hr, hjob⟩ := (RunResult.describes_iff hdenotes.fits).mpr h
    simp [classify_of_denotes hdenotes, hjob, hr]

theorem malformed_iff {text : String} :
    (∃ reason, classify text = .malformed reason) ↔
      classify text ≠ .ignored ∧ ∀ r, classify text ≠ .result r := by
  cases classify text <;> simp

theorem classify_congr {text text' : String} {ms ms' : List (String × Value)}
    (h : Denotes text (.obj ms)) (h' : Denotes text' (.obj ms'))
    (hknown : ∀ name ∈ RunResult.schema.fields.map (·.name), ms.lookup name = ms'.lookup name) :
    classify text = classify text' := by
  have hjob : hasJobId (.obj ms) = hasJobId (.obj ms') := by
    have hid : ms.lookup "job_id" = ms'.lookup "job_id" := hknown _ List.mem_cons_self
    simp only [hasJobId, Value.get?, hid]
  have hread : decodeValue RunResult.decode (.obj ms) = decodeValue RunResult.decode (.obj ms') := by
    simp only [decodeValue, RunResult.decode, Value.tree]
    rw [RunResult.schema.read_obj_congr _ h.fits.ascending h'.fits.ascending hknown]
  rw [classify_of_denotes h, classify_of_denotes h', hjob, hread]

/-- Over all texts: which frames are results and of what, which are ignored, and which are
malformed. -/
theorem classified (text : String) : Classified text where
  ignored := classify_eq_ignored
  result _ := classify_eq_result
  malformed := by
    rw [malformed_iff, Ne, classify_eq_ignored]
    simp only [Ne, classify_eq_result, not_exists, not_and]
    exact and_congr_right fun _ => forall_comm
  known _ _ _ := classify_congr

example : classify "\x7b\"job_id\":-0\x7d" = .ignored := by decide +kernel

example : classify "\x7b\"job_id\":7,\"job_id\":8,\"checker_results\":[[\"io\"]]\x7d" =
    .result ⟨"8", "", "", 0, Binary64.zero, Binary64.zero, Binary64.zero, [⟨"io", false, ""⟩],
      false, none, none, none⟩ := by
  decide +kernel

end Frame

end ExerciseClient
