import ExerciseClient.Config.Basic
import ExerciseClient.Proofs.Json.Grammar

/-! How the environment overrides settings. Each field has a variable of its own: if it is set to
something the field can be read from, the field takes that value, and it keeps its own otherwise.
Numbers that cannot be read are logged, each once; a truth value that cannot be read is kept in
silence. -/

namespace ExerciseClient

namespace Config

/-! ### What is read from a variable -/

/-- A natural number of 64 bits: digits, with or without a plus sign before them. -/
structure WritesNat (text : String) (n : Nat) : Prop where
  digits : ∃ ds, (text.toList = ds ∨ text.toList = '+' :: ds) ∧ Json.AreDigits ds ∧
    Json.digitsValue ds = n
  fits : n < 2 ^ 64

/-- A truth value is one of two words. -/
inductive WritesBool : String → Bool → Prop where
  | yes : WritesBool "true" true
  | no : WritesBool "false" false

/-- The characters after a plus sign, if there is one. -/
def afterPlus : List Char → List Char
  | '+' :: rest => rest
  | cs => cs

theorem afterPlus_eq_iff {cs ds : List Char} (h : Json.AreDigits ds) :
    afterPlus cs = ds ↔ cs = ds ∨ cs = '+' :: ds := by
  rw [afterPlus.eq_def]
  split
  case h_1 rest =>
    constructor
    · exact fun he => .inr (he ▸ rfl)
    · rintro (rfl | he)
      · have hplus := h.isDigit '+' List.mem_cons_self
        simp [Char.isDigit] at hplus
      · exact (List.cons.inj he).2
  case h_2 hne =>
    constructor
    · exact .inl
    · exact fun he => he.resolve_right fun hplus => hne ds hplus

theorem areDigits_iff {ds : List Char} :
    Json.AreDigits ds ↔ (ds.isEmpty || !ds.all Char.isDigit) = false := by
  constructor
  · intro h
    simp [h.ne_nil, List.all_eq_true.mpr h.isDigit]
  · intro h
    simp only [Bool.or_eq_false_iff, List.isEmpty_eq_false_iff, Bool.not_eq_eq_eq_not,
      Bool.not_false] at h
    exact ⟨h.1, List.all_eq_true.mp h.2⟩

theorem readNat64?_eq (text : String) :
    readNat64? text =
      if (afterPlus text.toList).isEmpty || !(afterPlus text.toList).all Char.isDigit then none
      else if Json.digitsValue (afterPlus text.toList) < 2 ^ 64 then
        some (Json.digitsValue (afterPlus text.toList))
      else none := rfl

theorem readNat64?_eq_some_iff {text : String} {n : Nat} :
    readNat64? text = some n ↔ WritesNat text n := by
  rw [readNat64?_eq]
  constructor
  · intro h
    split at h
    case isTrue => simp at h
    case isFalse hdigits =>
      have hdigits := areDigits_iff.mpr (Bool.not_eq_true _ ▸ hdigits)
      obtain ⟨hfits, hn⟩ := Option.ite_none_right_eq_some.mp h
      obtain rfl := Option.some.inj hn
      exact ⟨⟨_, (afterPlus_eq_iff hdigits).mp rfl, hdigits, rfl⟩, hfits⟩
  · rintro ⟨⟨ds, htext, hdigits, rfl⟩, hfits⟩
    rw [(afterPlus_eq_iff hdigits).mpr htext, areDigits_iff.mp hdigits]
    simp only [Bool.false_eq_true, if_false, hfits, if_true]

theorem readBool?_eq_some_iff {text : String} {b : Bool} :
    readBool? text = some b ↔ WritesBool text b := by
  constructor
  · intro h
    rw [readBool?] at h
    split at h
    case isTrue ht =>
      obtain rfl := Option.some.inj h
      exact ht ▸ .yes
    case isFalse =>
      split at h
      case isTrue ht =>
        obtain rfl := Option.some.inj h
        exact ht ▸ .no
      case isFalse => simp at h
  · rintro (_ | _) <;> rfl

/-! ### Variables and their fields -/

/-- A variable, the field that it overrides, and what its values stand for. -/
structure Variable where
  name : String
  Kind : Type
  field : Config → Kind
  Writes : String → Kind → Prop
  read : String → Option Kind
  read_iff : ∀ text a, read text = some a ↔ Writes text a

namespace Variable

def text (name : String) (field : Config → String) : Variable :=
  ⟨name, String, field, Eq, some, fun _ _ => Option.some_inj⟩

def optionalText (name : String) (field : Config → Option String) : Variable :=
  ⟨name, Option String, field, fun text a => some text = a, fun text => some (some text),
    fun _ _ => Option.some_inj⟩

def number (name : String) (field : Config → Nat) : Variable :=
  ⟨name, Nat, field, WritesNat, readNat64?, fun _ _ => readNat64?_eq_some_iff⟩

def truth (name : String) (field : Config → Bool) : Variable :=
  ⟨name, Bool, field, WritesBool, readBool?, fun _ _ => readBool?_eq_some_iff⟩

/-- The variable is set, but its value stands for nothing. -/
def Refused (lookup : Lookup) (v : Variable) : Prop :=
  ∃ text, lookup v.name = some text ∧ ∀ a, ¬ v.Writes text a

theorem refused_iff (lookup : Lookup) (v : Variable) :
    v.Refused lookup ↔ ((lookup v.name).any fun text => (v.read text).isNone) = true := by
  simp only [Refused, Option.any_eq_true, Option.isNone_iff_eq_none,
    Option.eq_none_iff_forall_ne_some, ne_eq, v.read_iff]

instance (lookup : Lookup) (v : Variable) : Decidable (v.Refused lookup) :=
  decidable_of_iff _ (v.refused_iff lookup).symm

end Variable

/-- The numbers, each with its variable. -/
def numbers : List (String × (Config → Nat)) :=
  [("CODIM_BACKOFF_BASE_MS", (·.backoffBaseMs)), ("CODIM_BACKOFF_MAX_MS", (·.backoffMaxMs)),
    ("CODIM_AUTOSAVE_INTERVAL_SECS", (·.autosaveIntervalSecs)),
    ("CODIM_RESULT_TIMEOUT_SECS", (·.resultTimeoutSecs)),
    ("CODIM_CONNECT_TIMEOUT_SECS", (·.connectTimeoutSecs))]

/-- The variable of the only truth value. -/
def verbosity : Variable := .truth "CODIM_VERBOSE_LOGGING" (·.verboseLogging)

/-- All variables. -/
def allVariables : List Variable :=
  [.text "CODIM_SERVER_ORIGIN" (·.serverOrigin), .text "CODIM_WS_PATH" (·.wsPath),
    .text "CODIM_API_BASE_PATH" (·.apiBasePath), .optionalText "CODIM_AUTH_TOKEN" (·.authToken),
    .optionalText "CODIM_EMAIL" (·.email), .optionalText "CODIM_PASSWORD" (·.password)] ++
  numbers.map (fun (name, field) => .number name field) ++
  [.text "CODIM_LANGUAGE" (·.language), verbosity]

/-- No field is without a variable. -/
theorem eq_of_fields {c c' : Config} (h : ∀ v ∈ allVariables, v.field c = v.field c') : c = c' := by
  obtain ⟨⟩ := c
  obtain ⟨⟩ := c'
  simp_all [allVariables, numbers, verbosity, Variable.text, Variable.optionalText, Variable.number,
    Variable.truth]

/-! ### What is overridden -/

/-- What a field is after its variable was looked up. -/
inductive Overrides {α : Type} (Writes : String → α → Prop) (current : α) : Option String → α → Prop
    where
  | unset : Overrides Writes current none current
  | set {text a} (h : Writes text a) : Overrides Writes current (some text) a
  | kept {text} (h : ∀ a, ¬ Writes text a) : Overrides Writes current (some text) current

/-- A field is overridden in one way. -/
theorem Overrides.unique {v : Variable} {current a b : v.Kind} {text : Option String}
    (ha : Overrides v.Writes current text a) (hb : Overrides v.Writes current text b) : a = b := by
  cases ha with
  | unset =>
      cases hb
      rfl
  | set ha =>
      cases hb with
      | set hb =>
          rw [← v.read_iff] at ha hb
          exact Option.some.inj (ha.symm.trans hb)
      | kept hb => exact absurd ha (hb _)
  | kept ha =>
      cases hb with
      | set hb => exact absurd hb (ha _)
      | kept => rfl

/-- A field that takes what can be read, and keeps its own value otherwise, is overridden. -/
theorem Variable.overrides (v : Variable) (current : v.Kind) (value : Option String) :
    Overrides v.Writes current value ((value.bind v.read).getD current) := by
  cases value with
  | none => exact .unset
  | some text =>
      cases h : v.read text with
      | none =>
          simp only [Option.bind_some, h, Option.getD_none]
          refine .kept fun a ha => ?_
          rw [← v.read_iff, h] at ha
          cases ha
      | some a =>
          simp only [Option.bind_some, h, Option.getD_some]
          exact .set ((v.read_iff _ _).mp h)

theorem overrideNat_fst (lookup : Lookup) (name : String) (current : Nat) :
    (overrideNat lookup name current).1 = ((lookup name).bind readNat64?).getD current := by
  rw [overrideNat]
  cases lookup name with
  | none => rfl
  | some text => cases h : readNat64? text <;> simp [h]

theorem field_withOverrides (c : Config) (lookup : Lookup) :
    ∀ v ∈ allVariables,
      v.field (c.withOverrides lookup).1 = ((lookup v.name).bind v.read).getD (v.field c) := by
  have htext (name : String) (current : String) :
      (lookup name).getD current = ((lookup name).bind some).getD current := by
    cases lookup name <;> rfl
  have hoptional (name : String) (current : Option String) :
      (lookup name).or current =
        ((lookup name).bind fun text => some (some text)).getD current := by
    cases lookup name <;> rfl
  have hnumber (name : String) (current : Nat) := overrideNat_fst lookup name current
  simp only [allVariables, numbers, List.map_cons, List.map_nil, List.cons_append, List.nil_append,
    List.forall_mem_cons, List.not_mem_nil, false_imp_iff, implies_true, and_true]
  exact ⟨htext _ _, htext _ _, htext _ _, hoptional _ _, hoptional _ _, hoptional _ _,
    hnumber _ _, hnumber _ _, hnumber _ _, hnumber _ _, hnumber _ _, htext _ _, rfl⟩

/-! ### What is logged -/

/-- The warning about a number that cannot be read. -/
def warning (lookup : Lookup) (c : Config) (number : String × (Config → Nat)) : LogLine :=
  let value := (lookup number.1).getD ""
  let current := number.2 c
  warn s!"环境变量 {number.1} 的值 '{value}' 无法解析为整数，使用 {current}"

/-- The numbers whose variable is set to something else. -/
def refusedNumbers (lookup : Lookup) : List (String × (Config → Nat)) :=
  numbers.filter fun number => (Variable.number number.1 number.2).Refused lookup

/-- The variables that are set to something that their field cannot be read from. -/
def refused (lookup : Lookup) : List Variable := allVariables.filter fun v => v.Refused lookup

theorem overrideNat_snd (lookup : Lookup) (c : Config) (number : String × (Config → Nat)) :
    (overrideNat lookup number.1 (number.2 c)).2 =
      if (Variable.number number.1 number.2).Refused lookup then [warning lookup c number]
      else [] := by
  simp only [Variable.refused_iff]
  rw [overrideNat]
  cases h : lookup number.1 with
  | none => simp [Variable.number, h]
  | some text =>
      cases hread : readNat64? text <;> simp [Variable.number, h, hread, warning]

theorem log_withOverrides (c : Config) (lookup : Lookup) :
    (c.withOverrides lookup).2 = (refusedNumbers lookup).map (warning lookup c) := by
  have hall (ns : List (String × (Config → Nat))) :
      ns.flatMap (fun number => (overrideNat lookup number.1 (number.2 c)).2) =
        (ns.filter fun number => (Variable.number number.1 number.2).Refused lookup).map
          (warning lookup c) := by
    induction ns with
    | nil => rfl
    | cons number ns ih =>
        rw [List.flatMap_cons, overrideNat_snd, ih, List.filter_cons]
        by_cases h : (Variable.number number.1 number.2).Refused lookup <;> simp [h]
  rw [refusedNumbers, ← hall]
  simp [withOverrides, numbers]

theorem not_refused_text (lookup : Lookup) (name : String) (field : Config → String) :
    ¬ (Variable.text name field).Refused lookup := fun ⟨text, _, h⟩ => h text rfl

theorem not_refused_optionalText (lookup : Lookup) (name : String)
    (field : Config → Option String) : ¬ (Variable.optionalText name field).Refused lookup :=
  fun ⟨text, _, h⟩ => h (some text) rfl

/-- Beside the numbers only the truth value can be refused. -/
theorem length_refused (lookup : Lookup) :
    (refused lookup).length =
      (refusedNumbers lookup).length + if verbosity.Refused lookup then 1 else 0 := by
  have hnumbers : ((numbers.map fun (name, field) => Variable.number name field).filter
      fun v => v.Refused lookup).length = (refusedNumbers lookup).length := by
    rw [List.filter_map, List.length_map]
    rfl
  by_cases h : verbosity.Refused lookup <;>
    simp [refused, allVariables, not_refused_text, not_refused_optionalText, hnumbers, h]

/-- What the environment makes of settings. -/
structure Overridden (c : Config) (lookup : Lookup) : Prop where
  /-- Every field is overridden by its own variable. -/
  fields : ∀ v ∈ allVariables,
    Overrides v.Writes (v.field c) (lookup v.name) (v.field (c.withOverrides lookup).1)
  /-- Nothing else is changed: no other settings have all fields overridden so. -/
  whole : ∀ c' : Config, (∀ v ∈ allVariables,
    Overrides v.Writes (v.field c) (lookup v.name) (v.field c')) → c' = (c.withOverrides lookup).1
  /-- Each number that is refused is logged once, in order, and nothing else is. -/
  log : (c.withOverrides lookup).2 = (refusedNumbers lookup).map (warning lookup c)
  /-- So all that is refused is logged exactly if it is not the truth value that is. -/
  reported : (c.withOverrides lookup).2.length = (refused lookup).length ↔
    ¬ verbosity.Refused lookup

/-- For all settings and all variables. -/
theorem overridden_exactly (c : Config) (lookup : Lookup) : Overridden c lookup := by
  have hfields : ∀ v ∈ allVariables,
      Overrides v.Writes (v.field c) (lookup v.name) (v.field (c.withOverrides lookup).1) := by
    intro v hv
    rw [field_withOverrides c lookup v hv]
    exact v.overrides (v.field c) (lookup v.name)
  refine ⟨hfields, ?_, log_withOverrides c lookup, ?_⟩
  · intro c' h
    exact eq_of_fields fun v hv => (h v hv).unique (hfields v hv)
  · rw [log_withOverrides, List.length_map, length_refused]
    by_cases h : verbosity.Refused lookup <;> simp [h]

/-- A truth value that cannot be read is not logged. -/
theorem refused_verbosity_silent :
    let lookup : Lookup := fun name => if name = "CODIM_VERBOSE_LOGGING" then some "yes" else none
    verbosity.Refused lookup ∧ (refused lookup).length = 1 ∧
      (standard.withOverrides lookup).2 = [] := by
  intro lookup
  exact ⟨by decide, by decide, by decide⟩

end Config

end ExerciseClient
