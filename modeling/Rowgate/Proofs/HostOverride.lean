import Mathlib
import Rowgate.Proofs.Exchange
import Rowgate.Proofs.Layers
import Rowgate.Proofs.OtherHost
/-
The host of a file, where the environment names another.

A host that is not empty and stands in the environment replaces the one of the file, so of the
file's host only one thing can show: a file is checked before its host is replaced, and a host that
is empty does not pass. What is checked a second time is the same for the check as the first, as it
only asks whether the host is empty (`AppConfig.validate_withDatabaseHost`).

The main result is `load_eq_of_hosts`, which says what becomes of two files whose documents differ in
the host, and exactly when it is the same.
-/
set_option autoImplicit false

namespace Rowgate

/-! ## Checks -/

/-- What is said of an empty host of the database. -/
def emptyHostText : String := "Database host cannot be empty"

/-- A check that is refused is refused by its first guard or by what follows it. -/
theorem eq_error_of_guard {ε α : Type} {p : Prop} [Decidable p] {e e' : ε}
    {next : PUnit → Except ε α} (h : (if p then throw e >>= next else next ⟨⟩) = .error e') :
    (p ∧ e = e') ∨ next ⟨⟩ = .error e' := by
  by_cases hp : p
  · rw [if_pos hp] at h
    exact .inl ⟨hp, Except.error.inj h⟩
  · rw [if_neg hp] at h
    exact .inr h

namespace DatabaseConfig

theorem validate_of_empty {c : DatabaseConfig} (h : c.host = "") :
    c.validate = .error (.invalid emptyHostText) := by
  rw [validate, h]
  rfl

/-- Of two hosts that are not empty the check sees no difference. -/
theorem validate_withHost {c : DatabaseConfig} (h : c.host ≠ "") {host : String}
    (hhost : host ≠ "") : (c.withHost host).validate = c.validate := by
  have hold : c.host.isEmpty = false := by simpa using h
  have hnew : host.isEmpty = false := by simpa using hhost
  rw [validate, validate, withHost, hold, hnew]

/-- A refused configuration is invalid, and its host is only named if it is empty. -/
theorem validate_eq_error {c : DatabaseConfig} {e : ConfigError} (h : c.validate = .error e) :
    ∃ text, e = .invalid text ∧ (text = emptyHostText → c.host = "") := by
  rw [validate] at h
  rcases eq_error_of_guard h with ⟨hempty, rfl⟩ | h
  · exact ⟨_, rfl, fun _ => by simpa using hempty⟩
  rcases eq_error_of_guard h with ⟨-, rfl⟩ | h
  · exact ⟨_, rfl, fun heq => absurd heq (by decide)⟩
  rcases eq_error_of_guard h with ⟨-, rfl⟩ | h
  · refine ⟨_, rfl, fun heq => ?_⟩
    have hfirst := congrArg (fun text => text.toList.head?) heq
    simp [emptyHostText] at hfirst
  rcases eq_error_of_guard h with ⟨-, rfl⟩ | h
  · exact ⟨_, rfl, fun heq => absurd heq (by decide)⟩
  rcases eq_error_of_guard h with ⟨-, rfl⟩ | h
  · exact ⟨_, rfl, fun heq => absurd heq (by decide)⟩
  rcases eq_error_of_guard h with ⟨-, rfl⟩ | h
  · exact ⟨_, rfl, fun heq => absurd heq (by decide)⟩
  split at h
  · exact ⟨_, (Except.error.inj h).symm, fun heq => absurd heq (by decide)⟩
  · contradiction

end DatabaseConfig

theorem ServerConfig.validate_eq_error {c : ServerConfig} {e : ConfigError}
    (h : c.validate = .error e) : ∃ text, e = .invalid text ∧ text ≠ emptyHostText := by
  rw [validate] at h
  rcases eq_error_of_guard h with ⟨-, rfl⟩ | h
  · exact ⟨_, rfl, by decide⟩
  split at h
  · exact ⟨_, (Except.error.inj h).symm, by decide⟩
  · contradiction

namespace AppConfig

theorem validate_of_empty {c : AppConfig} (h : c.database.host = "") :
    c.validate = .error (.invalid emptyHostText) := by
  rw [validate, DatabaseConfig.validate_of_empty h]
  rfl

theorem validate_withDatabaseHost {c : AppConfig} (h : c.database.host ≠ "") {host : String}
    (hhost : host ≠ "") : (c.withDatabaseHost host).validate = c.validate := by
  rw [validate, validate]
  exact congrArg (· >>= fun _ => c.server.validate) (DatabaseConfig.validate_withHost h hhost)

theorem validate_eq_error {c : AppConfig} {e : ConfigError} (h : c.validate = .error e) :
    ∃ text, e = .invalid text ∧ (text = emptyHostText → c.database.host = "") := by
  rw [validate] at h
  cases hdatabase : c.database.validate with
  | error e' =>
    rw [hdatabase] at h
    obtain rfl : e' = e := Except.error.inj h
    exact DatabaseConfig.validate_eq_error hdatabase
  | ok _ =>
    rw [hdatabase] at h
    obtain ⟨text, he, hne⟩ := ServerConfig.validate_eq_error h
    exact ⟨text, he, fun heq => absurd heq hne⟩

/-! ## What becomes of a file -/

/-- What becomes of a configuration from a file where the environment names a host: it is checked
with the host of the file and again with the other one. -/
def finish (host : String) (c : AppConfig) : Except ConfigError AppConfig :=
  if c.database.host = "" then .error (.invalid emptyHostText)
  else (c.withDatabaseHost host).validate.map fun _ => c.withDatabaseHost host

/-- The host of the file does not show, if it is not empty. -/
theorem finish_withDatabaseHost {c : AppConfig} (h : c.database.host ≠ "") (host : String)
    {host' : String} (hhost' : host' ≠ "") :
    finish host (c.withDatabaseHost host') = finish host c := by
  have hne : (c.withDatabaseHost host').database.host ≠ "" := hhost'
  rw [finish, finish, if_neg hne, if_neg h]
  rfl

theorem finish_eq_error {c : AppConfig} {host : String} (hhost : host ≠ "") {e : ConfigError}
    (h : finish host c = .error e) :
    ∃ text, e = .invalid text ∧ (text = emptyHostText → c.database.host = "") := by
  unfold finish at h
  by_cases hempty : c.database.host = ""
  · rw [if_pos hempty] at h
    exact ⟨_, (Except.error.inj h).symm, fun _ => hempty⟩
  · rw [if_neg hempty] at h
    cases hvalid : (c.withDatabaseHost host).validate with
    | error e' =>
      rw [hvalid] at h
      obtain rfl : e' = e := Except.error.inj h
      obtain ⟨text, he, hhost'⟩ := validate_eq_error hvalid
      exact ⟨text, he, fun heq => absurd (hhost' heq) hhost⟩
    | ok _ =>
      rw [hvalid] at h
      contradiction

theorem finish_of_empty {c : AppConfig} (h : c.database.host = "") (host : String) :
    finish host c = .error (.invalid emptyHostText) := if_pos h

/-- Two configurations that differ in the host of the database come to the same exactly if both have
none or both have one. -/
theorem finish_eq_iff {c : AppConfig} {override : String} (hoverride : override ≠ "")
    (host' : String) :
    finish override c = finish override (c.withDatabaseHost host') ↔
      (c.database.host = "" ↔ host' = "") := by
  have hrefused {d : AppConfig} (h : finish override d = .error (.invalid emptyHostText)) :
      d.database.host = "" := by
    obtain ⟨text, he, hhost⟩ := finish_eq_error hoverride h
    exact hhost (ConfigError.invalid.inj he).symm
  constructor
  · intro heq
    constructor
    · intro hempty
      rw [finish_of_empty hempty] at heq
      exact hrefused heq.symm
    · intro hempty
      have hother : (c.withDatabaseHost host').database.host = "" := hempty
      rw [finish_of_empty hother] at heq
      exact hrefused heq
  · intro hiff
    by_cases hempty : c.database.host = ""
    · have hother : (c.withDatabaseHost host').database.host = "" := hiff.mp hempty
      rw [finish_of_empty hempty, finish_of_empty hother]
    · exact (finish_withDatabaseHost hempty override fun h => hempty (hiff.mpr h)).symm

/-- What is checked twice is checked once, since the two hosts do not differ for the check. -/
theorem ofToml_withEnvironment {env : Config.Environment} {host : String}
    (hhost : DatabaseConfig.NamesHost env host) (diagnose : String → Toml.Diagnosis)
    (text : String) :
    (do
      let c ← ofToml diagnose text
      let c := c.withEnvironment env
      c.validate
      return c) = (read diagnose text).bind (finish host) := by
  have hover (c : AppConfig) : c.withEnvironment env = c.withDatabaseHost host :=
    congrArg (AppConfig.mk · c.server) (DatabaseConfig.withEnvironment_of_names hhost c.database)
  rw [ofToml]
  cases read diagnose text with
  | error e => rfl
  | ok c =>
    show ((c.validate >>= fun _ => Except.ok c) >>= fun c => (c.withEnvironment env).validate >>=
      fun _ => Except.ok (c.withEnvironment env)) = finish host c
    rw [finish]
    by_cases hempty : c.database.host = ""
    -- an empty host is refused before the environment can replace it
    · rw [if_pos hempty, validate_of_empty hempty]
      rfl
    · rw [if_neg hempty, ← validate_withDatabaseHost hempty hhost.2]
      cases hvalid : (c.withDatabaseHost host).validate with
      | error e => rfl
      | ok _ =>
        show ((c.withEnvironment env).validate >>= fun _ => Except.ok (c.withEnvironment env)) = _
        rw [hover, hvalid]
        rfl

/-- Where a text spells no configuration, a text whose document has another host spells none. -/
theorem spelled?_eq_none_of_differ {text text' : String} {v v' : Toml.Value} {host host' : String}
    (hv : Toml.parse? text = some v) (hv' : Toml.parse? text' = some v')
    (hdiffer : v.DifferInHost v' host host') (hnone : spelled? text = none) :
    spelled? text' = none := by
  cases hspelled : spelled? text' with
  | none => rfl
  -- what the second text spells is spelled by the first one too, with its host
  | some c =>
    have hback := hdiffer.symm (Toml.parse?_isDocument hv)
    obtain ⟨-, hspelled'⟩ := spelled?_differ hv' hv hback hspelled
    rw [hnone] at hspelled'
    contradiction

end AppConfig

namespace Config

/-! ## Files -/

variable {wording : Wording} {env : ProcessEnvironment} {effective : Environment}
  {system system' : FileSystem}

/-- The result of loading from a file, where the environment names a host. -/
theorem load_of_file {host path text : String}
    (heffective : effectiveEnvironment wording env system = .ok effective)
    (hhost : DatabaseConfig.NamesHost effective host)
    (hsource : selectSource effective system = .file path)
    (htext : system.read path = .ok (Utf8.encode text)) :
    load wording env system =
      (AppConfig.read wording.document text).bind (AppConfig.finish host) := by
  rw [← AppConfig.ofToml_withEnvironment hhost, load, heffective]
  have hread : readSource wording effective system (selectSource effective system) =
      AppConfig.ofToml wording.document text := by
    rw [hsource, readSource, htext, AppConfig.ofFile, Utf8.decode?_encode]
  show (readSource wording effective system (selectSource effective system) >>= _) = _
  rw [hread]

theorem selectSource_of_differIn {bytes bytes' : List UInt8}
    (hsystem : system.DifferIn system' bytes bytes') (effective : Environment) :
    selectSource effective system' = selectSource effective system := by
  rw [selectSource, selectSource, hsystem.contains]

/-- The selected source is a file that spells the one text, and the other after the exchange. -/
def Exchanged (effective : Environment) (system system' : FileSystem) (text text' : String) : Prop :=
  ∃ path, selectSource effective system = .file path ∧
    system.read path = .ok (Utf8.encode text) ∧ system'.read path = .ok (Utf8.encode text')

/-- A file that is not read can be exchanged. -/
theorem load_of_not_exchanged {text text' : String}
    (heffective : effectiveEnvironment wording env system = .ok effective)
    (heffective' : effectiveEnvironment wording env system' = .ok effective)
    (hsystem : system.DifferIn system' (Utf8.encode text) (Utf8.encode text'))
    (hnot : ¬ Exchanged effective system system' text text') :
    load wording env system = load wording env system' := by
  have hread : readSource wording effective system' (selectSource effective system) =
      readSource wording effective system (selectSource effective system) := by
    cases hsource : selectSource effective system with
    -- the defaults read no file, and another file reads as before
    | defaults => rfl
    | file path =>
      rcases hsystem.read path with hsame | ⟨hold, hnew⟩
      · rw [readSource, readSource, hsame]
      · exact absurd ⟨path, hsource, hold, hnew⟩ hnot
  rw [load, load, heffective, heffective']
  show (readSource wording effective system (selectSource effective system) >>= _) =
    (readSource wording effective system' (selectSource effective system') >>= _)
  rw [selectSource_of_differIn hsystem, hread]

/-! ## Main result -/

/-- **Which of two hosts a file gives does not show, where the environment names another and both
are not empty.** For every environment that names a host which is not empty, and every two systems of
files that differ in one file, with documents that differ in the text of the host of the database
only: where the file is not read, the result is the same. Where it is read and its document is a
configuration, the result is the same, be it a configuration or an error, exactly if the two hosts are
both empty or both not; a file is checked before its host is replaced, so with an empty host it is
refused. Where its document is no configuration, each file is refused with what its reader says of
it. -/
theorem load_eq_of_hosts {override text text' host host' : String} {v v' : Toml.Value}
    (heffective : effectiveEnvironment wording env system = .ok effective)
    (heffective' : effectiveEnvironment wording env system' = .ok effective)
    (hoverride : effective.get? DatabaseConfig.hostVariable = some override)
    (hnonempty : override ≠ "")
    (hsystem : system.DifferIn system' (Utf8.encode text) (Utf8.encode text'))
    (hv : Toml.parse? text = some v) (hv' : Toml.parse? text' = some v')
    (hdiffer : v.DifferInHost v' host host') :
    let result := load wording env system
    let result' := load wording env system'
    let exchanged := Exchanged effective system system' text text'
    (¬ exchanged → result = result') ∧
    (exchanged → AppConfig.spelled? text ≠ none →
      (host = "" → result = .error (.invalid "Database host cannot be empty")) ∧
      (host' = "" → result' = .error (.invalid "Database host cannot be empty")) ∧
      (result = result' ↔ (host = "" ↔ host' = ""))) ∧
    (exchanged → AppConfig.spelled? text = none →
      result = .error (.malformedFile (wording.document text)) ∧
      result' = .error (.malformedFile (wording.document text'))) := by
  intro result result' exchanged
  have hnames : DatabaseConfig.NamesHost effective override := ⟨hoverride, hnonempty⟩
  have hresult : exchanged →
      result = (AppConfig.read wording.document text).bind (AppConfig.finish override) ∧
      result' = (AppConfig.read wording.document text').bind (AppConfig.finish override) := by
    rintro ⟨path, hsource, htext, htext'⟩
    have hsource' := (selectSource_of_differIn hsystem effective).trans hsource
    exact ⟨load_of_file heffective hnames hsource htext,
      load_of_file heffective' hnames hsource' htext'⟩
  refine ⟨load_of_not_exchanged heffective heffective' hsystem, ?_, ?_⟩
  · intro hexchanged hspelled
    obtain ⟨c, hc⟩ := Option.ne_none_iff_exists'.mp hspelled
    obtain ⟨rfl, hc'⟩ := AppConfig.spelled?_differ hv hv' hdiffer hc
    obtain ⟨hfirst, hsecond⟩ := hresult hexchanged
    rw [AppConfig.read, hc] at hfirst
    rw [AppConfig.read, hc'] at hsecond
    have hfirst : result = AppConfig.finish override c := hfirst
    have hsecond : result' = AppConfig.finish override (c.withDatabaseHost host') := hsecond
    rw [hfirst, hsecond]
    exact ⟨fun hempty => AppConfig.finish_of_empty hempty override,
      fun hempty => AppConfig.finish_of_empty hempty override,
      AppConfig.finish_eq_iff hnonempty host'⟩
  · intro hexchanged hnone
    have hnone' := AppConfig.spelled?_eq_none_of_differ hv hv' hdiffer hnone
    obtain ⟨hfirst, hsecond⟩ := hresult hexchanged
    rw [AppConfig.read, hnone] at hfirst
    rw [AppConfig.read, hnone'] at hsecond
    exact ⟨hfirst, hsecond⟩

/-- Though the environment names a host, a file with an empty one is refused, and a file with any
other host is not. -/
theorem load_eq_of_hosts_empty :
    let wording : Wording := ⟨fun _ => ⟨"invalid", none⟩, fun _ => "invalid"⟩
    let env : ProcessEnvironment := [("WINDOWS_HOST", Utf8.encode "172.20.0.1")]
    let text := "[database]\nhost = ''"
    let text' := "[database]\nhost = 'db'"
    let files : Files := {
      workingDirectory := ["srv"]
      entries := [("/srv", .directory), ("/srv/routehaus.toml", .file (Utf8.encode text))] }
    let files' := files.exchange "/srv/routehaus.toml" (Utf8.encode text')
    load wording env files.system = .error (.invalid "Database host cannot be empty") ∧
      load wording env files.system ≠ load wording env files'.system := by
  intro wording env text text' files files'
  let effective : Environment := [("WINDOWS_HOST", "172.20.0.1")]
  have heffective : effectiveEnvironment wording env files.system = .ok effective := by
    decide +kernel
  have heffective' : effectiveEnvironment wording env files'.system = .ok effective := by
    decide +kernel
  have hoverride : effective.get? DatabaseConfig.hostVariable = some "172.20.0.1" := by decide
  have hfile : files.entries.get? "/srv/routehaus.toml" = some (.file (Utf8.encode text)) := rfl
  have hsystem := Files.differIn_exchange hfile (Utf8.encode text')
  have hv : Toml.parse? text = some (.table [("database", .table [("host", .string "")])]) := by
    cbv
  have hv' : Toml.parse? text' = some (.table [("database", .table [("host", .string "db")])]) := by
    cbv
  have hdiffer : Toml.Value.DifferInHost (.table [("database", .table [("host", .string "")])])
      (.table [("database", .table [("host", .string "db")])]) "" "db" := ⟨by cbv, by cbv⟩
  have hexchanged : Exchanged effective files.system files'.system text text' := by
    refine ⟨usualPath, ?_, ?_, ?_⟩ <;> decide +kernel
  have hspelled : AppConfig.spelled? text ≠ none := by decide +kernel
  obtain ⟨-, hread, -⟩ := load_eq_of_hosts heffective heffective' hoverride (by decide) hsystem
    hv hv' hdiffer
  obtain ⟨hrefused, -, hsame⟩ := hread hexchanged hspelled
  refine ⟨hrefused rfl, fun h => ?_⟩
  exact absurd ((hsame.mp h).mp rfl) (by decide)

end Config

end Rowgate
