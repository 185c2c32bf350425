import Oval.Config
import Oval.Proofs.Failure

/-! # The layers of a configuration

A configuration is made of three layers: the environment, the file and the defaults.  Each field is
taken from the first layer that has it.  Loading validates the result, but the file by itself as
well, before the environment is looked at: a value that is out of range in the file is refused even
if the environment has another one in its place.
-/
namespace Oval

namespace Toml

def present {α : Type} (f : Toml → Option α) : Option Toml → Option (Option α)
  | some v => (f v).map some
  | none => some none

theorem defaulted_eq {α : Type} (default : α) (f : Toml → Option α) (v : Option Toml) :
    defaulted default f v = (present f v).map (·.getD default) := by
  cases v with
  | none => rfl
  | some v => simp [defaulted, present, Function.comp_def]

/-- What is read from the two fields of a section; a section that is not there has neither. -/
def section? {α β : Type} (names : List String) (f : Toml → Option α) (g : Toml → Option β) :
    Option Toml → Option (Option α × Option β)
  | some v => do
    match ← v.fields? names with
    | [a, b] => some (← present f a, ← present g b)
    | _ => none
  | none => some (none, none)

theorem defaulted_eq_section? {α β γ : Type} {names : List String} {f : Toml → Option α}
    {g : Toml → Option β} {a₀ : α} {b₀ : β} (mk : α → β → γ) {read : Toml → Option γ}
    (hread : ∀ v, read v = (do
      match ← v.fields? names with
      | [a, b] => some (mk (← defaulted a₀ f a) (← defaulted b₀ g b))
      | _ => none))
    (v : Option Toml) :
    defaulted (mk a₀ b₀) read v =
      (section? names f g v).map fun (a, b) => mk (a.getD a₀) (b.getD b₀) := by
  cases v with
  | none => rfl
  | some v =>
    rw [defaulted, hread, section?]
    cases v.fields? names with
    | none => rfl
    | some fields =>
      simp only [Option.bind_eq_bind, Option.bind_some]
      split
      · rename_i a b
        rw [defaulted_eq, defaulted_eq]
        cases present f a <;> cases present g b <;> rfl
      · rfl

end Toml

/-- A value for each field, or none where the layer has none. -/
structure Layer where
  logLevel : Option String
  logFormat : Option String
  cacheResults : Option Bool
  maxDiagnostics : Option Nat
  deriving DecidableEq, Repr

namespace Layer

def ofToml? (v : Toml) : Option Layer := do
  match ← v.fields? ["general", "oval"] with
  | [general, oval] =>
    let (logLevel, logFormat) ←
      Toml.section? ["log_level", "log_format"] Toml.string? Toml.string? general
    let (cacheResults, maxDiagnostics) ←
      Toml.section? ["cache_results", "max_diagnostics"] Toml.bool? Toml.word? oval
    some { logLevel, logFormat, cacheResults, maxDiagnostics }
  | _ => none

def ofText? (text : String) : Option Layer :=
  (Toml.read? text).bind fun entries => ofToml? (.table .header entries)

/-- The fields that variables are set for, as far as the value of the variable can be read. -/
def ofEnvironment (env : Environment) : Layer where
  logLevel := env "OVALGUARD_GENERAL_LOG_LEVEL"
  logFormat := env "OVALGUARD_GENERAL_LOG_FORMAT"
  cacheResults := (env "OVALGUARD_OVAL_CACHE_RESULTS").bind Config.readBool
  maxDiagnostics := (env "OVALGUARD_OVAL_MAX_DIAGNOSTICS").bind fun s => Text.word? s.toList

def above (x y : Layer) : Layer where
  logLevel := x.logLevel.or y.logLevel
  logFormat := x.logFormat.or y.logFormat
  cacheResults := x.cacheResults.or y.cacheResults
  maxDiagnostics := x.maxDiagnostics.or y.maxDiagnostics

def complete (x : Layer) : Config :=
  let defaults : Config := {}
  { general := {
      logLevel := x.logLevel.getD defaults.general.logLevel
      logFormat := x.logFormat.getD defaults.general.logFormat }
    oval := {
      cacheResults := x.cacheResults.getD defaults.oval.cacheResults
      maxDiagnostics := x.maxDiagnostics.getD defaults.oval.maxDiagnostics } }

/-- The environment on top of the file on top of the defaults. -/
def effective (env : Environment) (file : Layer) : Config :=
  ((ofEnvironment env).above file).complete

end Layer

namespace Config

theorem general_eq_section? (v : Option Toml) :
    Toml.defaulted {} General.ofToml? v =
      (Toml.section? ["log_level", "log_format"] Toml.string? Toml.string? v).map fun (a, b) =>
        { logLevel := a.getD "info", logFormat := b.getD "json" } :=
  Toml.defaulted_eq_section? General.mk (fun _ => rfl) v

theorem settings_eq_section? (v : Option Toml) :
    Toml.defaulted {} Settings.ofToml? v =
      (Toml.section? ["cache_results", "max_diagnostics"] Toml.bool? Toml.word? v).map
        fun (a, b) => { cacheResults := a.getD true, maxDiagnostics := b.getD 1000 } :=
  Toml.defaulted_eq_section? Settings.mk (fun _ => rfl) v

theorem ofToml?_eq (v : Toml) : ofToml? v = (Layer.ofToml? v).map Layer.complete := by
  rw [ofToml?, Layer.ofToml?]
  cases v.fields? ["general", "oval"] with
  | none => rfl
  | some fields =>
    match fields with
    | [] | [_] | _ :: _ :: _ :: _ => rfl
    | [general, oval] =>
      simp only [Option.bind_eq_bind, Option.bind_some, general_eq_section?, settings_eq_section?]
      cases Toml.section? ["log_level", "log_format"] Toml.string? Toml.string? general <;>
        cases Toml.section? ["cache_results", "max_diagnostics"] Toml.bool? Toml.word? oval <;> rfl

theorem ofText_eq (text : String) :
    ofText text = match Layer.ofText? text with
      | some file => .ok file.complete
      | none => .error (.configParse "TOML parse error") := by
  unfold ofText Layer.ofText?
  cases Toml.read? text with
  | none => rfl
  | some entries =>
    simp only [Option.bind_some, ofToml?_eq]
    cases Layer.ofToml? (.table .header entries) <;> rfl

theorem value_overrideWith {α : Type} (expected : Expected) (read : String → Option α)
    (env : Environment) (key : String) (present : α) :
    (overrideWith expected read env key present).value = ((env key).bind read).getD present := by
  unfold overrideWith
  split
  · rename_i h
    rw [h]
    rfl
  · rename_i value h
    rw [h, Option.bind_some]
    split
    · rename_i a ha
      rw [ha]
      rfl
    · rename_i hnone
      rw [hnone]
      rfl

theorem value_override_complete (file : Layer) (env : Environment) :
    (file.complete.override env).value = Layer.effective env file := by
  simp only [override, Traced.value_bind, Traced.value_pure, value_overrideWith, overrideText,
    Layer.effective, Layer.complete, Layer.above, Layer.ofEnvironment, Option.getD_or]

theorem settings_validate_of_validate {c : Config} (h : c.validate = .ok ()) :
    c.oval.validate = .ok () := by
  cases hvalid : c.oval.isValid with
  | true => simp [Settings.validate, hvalid]
  | false =>
    have hfault : c.fault? ≠ none := by
      unfold fault?
      split
      · simp
      · split <;> simp [hvalid]
    unfold validate at h
    split at h
    · cases h
    · contradiction

theorem ofFile_eq (f : File) :
    ofFile f = f.read.bind fun text =>
      match Layer.ofText? text with
      | some file => do
        file.complete.validate
        pure file.complete
      | none => .error (.configParse "TOML parse error") := by
  unfold ofFile
  cases f.read with
  | error e => rfl
  | ok text =>
    simp only [bind, Except.bind, ofText_eq]
    cases Layer.ofText? text <;> rfl

/-- What loading gives for the text of a file: the values of the file are validated by themselves
before the environment is put on top, and the effective configuration after it. -/
theorem value_load (f : File) (env : Environment) :
    (load f env).value = f.read.bind fun text =>
      match Layer.ofText? text with
      | some file => do
        file.complete.validate
        (Layer.effective env file).validate
        pure (Layer.effective env file)
      | none => .error (.configParse "TOML parse error") := by
  rw [load, ofFile_eq]
  cases f.read with
  | error e => rfl
  | ok text =>
    simp only [Except.bind]
    cases Layer.ofText? text with
    | none => rfl
    | some file =>
      simp only [bind, Except.bind]
      cases file.complete.validate with
      | error e => rfl
      | ok _ =>
        rw [← value_override_complete file env]
        change (file.complete.override env).value.validate.map
          (fun _ => (file.complete.override env).value) = _
        cases (file.complete.override env).value.validate <;> rfl

theorem value_load_eq_ok_iff {f : File} {env : Environment} {c : Config} :
    (load f env).value = .ok c ↔
      ∃ text file, f.read = .ok text ∧ Layer.ofText? text = some file ∧
        file.complete.validate = .ok () ∧ (Layer.effective env file).validate = .ok () ∧
        c = Layer.effective env file := by
  rw [value_load]
  constructor
  · intro h
    obtain ⟨text, hread, h⟩ := bind_eq_ok_iff.mp h
    split at h
    · rename_i file htext
      obtain ⟨⟨⟩, hfile, h⟩ := bind_eq_ok_iff.mp h
      obtain ⟨⟨⟩, heffective, h⟩ := bind_eq_ok_iff.mp h
      cases h
      exact ⟨text, file, hread, htext, hfile, heffective, rfl⟩
    · cases h
  · rintro ⟨text, file, hread, htext, hfile, heffective, rfl⟩
    rw [hread, Except.bind, htext]
    dsimp only
    rw [hfile, heffective]
    rfl

theorem read_toUTF8 (text : String) : (File.bytes text.toUTF8).read = .ok text := by
  have h : String.fromUTF8? text.toUTF8 = some text := dif_pos text.isValidUTF8
  rw [File.read, h]

/-- Loading gives the effective configuration, and nothing else, exactly if the file can be read and
both what the file has and the effective configuration are valid.  A fault of what the file has is
what loading fails with, whatever the environment has in its place. -/
theorem load_effective (f : File) (env : Environment) :
    (∀ c, (load f env).value = .ok c ↔
      ∃ text file, f.read = .ok text ∧ Layer.ofText? text = some file ∧
        file.complete.validate = .ok () ∧ (Layer.effective env file).validate = .ok () ∧
        c = Layer.effective env file) ∧
    (∀ c, (load f env).value = .ok c → c.oval.validate = .ok ()) ∧
    (∀ text, f.read = .ok text → Layer.ofText? text = none →
      (load f env).value = .error (.configParse "TOML parse error")) ∧
    (∀ text file fault, f.read = .ok text → Layer.ofText? text = some file →
      file.complete.validate = .error fault → (load f env).value = .error fault) := by
  refine ⟨fun c => value_load_eq_ok_iff, fun c h => ?_, fun text hread htext => ?_,
    fun text file fault hread htext h => ?_⟩
  · obtain ⟨_, file, -, -, -, heffective, rfl⟩ := value_load_eq_ok_iff.mp h
    exact settings_validate_of_validate heffective
  · rw [value_load, hread, Except.bind, htext]
  · rw [value_load, hread, Except.bind, htext]
    dsimp only
    rw [h]
    rfl

/-- The environment has the last word on what both sides give. -/
theorem load_effective_overridden :
    let text := "[oval]\nmax_diagnostics = 7\ncache_results = false\n"
    let env : Environment := fun key =>
      if key = "OVALGUARD_OVAL_MAX_DIAGNOSTICS" then some "5" else none
    let c : Config := { oval := { cacheResults := false, maxDiagnostics := 5 } }
    (load (.bytes text.toUTF8) env).value = .ok c ∧ c.oval.validate = .ok () := by
  intro text env c
  have htext : Layer.ofText? text = some ⟨none, none, some false, some 7⟩ := by decide +kernel
  obtain ⟨hload, hvalid, -, -⟩ := load_effective (.bytes text.toUTF8) env
  have hloaded := (hload c).mpr
    ⟨text, _, read_toUTF8 text, htext, by decide +kernel, by decide +kernel, by decide +kernel⟩
  exact ⟨hloaded, hvalid c hloaded⟩

/-- A number that is out of range in the file is refused though the environment has a valid one in
its place. -/
theorem load_refuses_repaired :
    let text := "[oval]\nmax_diagnostics = 0\n"
    let env : Environment := fun key =>
      if key = "OVALGUARD_OVAL_MAX_DIAGNOSTICS" then some "5" else none
    ∃ file, (File.bytes text.toUTF8).read = .ok text ∧ Layer.ofText? text = some file ∧
      Layer.effective env file = { oval := { maxDiagnostics := 5 } } ∧
      (Layer.effective env file).validate = .ok () ∧
      (load (.bytes text.toUTF8) env).value =
        .error (.configValue "oval.max_diagnostics" Settings.limitReason) := by
  intro text env
  have htext : Layer.ofText? text = some ⟨none, none, none, some 0⟩ := by decide +kernel
  refine ⟨_, read_toUTF8 text, htext, by decide +kernel, by decide +kernel, ?_⟩
  rw [value_load, read_toUTF8]
  simp only [Except.bind, htext]
  rfl

end Config
end Oval
