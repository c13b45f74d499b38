import Rowgate.Config.Load
import Rowgate.Proofs.Configuration
/-
The layers of a configuration.

The file of variables comes first: it supplies what the process does not have and never replaces
what it has (`effectiveEnvironment_supplements`). The environment that results selects the source: a
file that it names, the usual file, or the defaults. A file decides the fields that it gives a
value, and the defaults decide the others. Last comes the host of the database, which the
environment replaces where it names one that is not empty, whatever the source.

The main result is `load_layers`.
-/
set_option autoImplicit false

namespace Rowgate

/-! ## The host of the database -/

namespace DatabaseConfig

/-- The environment names a host that is not empty. -/
def NamesHost (env : Config.Environment) (host : String) : Prop :=
  env.get? hostVariable = some host ∧ host ≠ ""

theorem withEnvironment_of_names {env : Config.Environment} {host : String}
    (h : NamesHost env host) (c : DatabaseConfig) : c.withEnvironment env = c.withHost host := by
  have hfilter : (env.get? hostVariable).filter (!·.isEmpty) = some host := by
    rw [h.1, Option.filter_some]
    simp [h.2]
  rw [withEnvironment, hfilter]

theorem withEnvironment_of_not_names {env : Config.Environment}
    (h : ∀ host, ¬ NamesHost env host) (c : DatabaseConfig) : c.withEnvironment env = c := by
  have hfilter : (env.get? hostVariable).filter (!·.isEmpty) = none := by
    refine Option.filter_eq_none_iff.mpr fun host hget hnonempty => ?_
    exact h host ⟨hget, by simpa using hnonempty⟩
  rw [withEnvironment, hfilter]

theorem withHost_withHost (c : DatabaseConfig) (host host' : String) :
    (c.withHost host).withHost host' = c.withHost host' := rfl

/-- The environment replaces the host and nothing else. -/
theorem withEnvironment_eq (c : DatabaseConfig) (env : Config.Environment) :
    c.withEnvironment env = c.withHost (c.withEnvironment env).host := by
  by_cases h : ∃ host, NamesHost env host
  · obtain ⟨host, hhost⟩ := h
    rw [withEnvironment_of_names hhost]
    rfl
  · rw [withEnvironment_of_not_names (not_exists.mp h)]
    rfl

/-- Replaced once, the host is not replaced again. -/
theorem withEnvironment_withEnvironment (c : DatabaseConfig) (env : Config.Environment) :
    (c.withEnvironment env).withEnvironment env = c.withEnvironment env := by
  by_cases h : ∃ host, NamesHost env host
  · obtain ⟨host, hhost⟩ := h
    rw [withEnvironment_of_names hhost, withEnvironment_of_names hhost, withHost_withHost]
  · rw [withEnvironment_of_not_names (not_exists.mp h)]

end DatabaseConfig

namespace Config

/-! ## Variables -/

/-- Every variable of the one environment has its value in the other. -/
def Supplements (env effective : Environment) : Prop :=
  ∀ key value, env.get? key = some value → effective.get? key = some value

namespace EnvFile

/-- A line leaves the variables that are set as they are. -/
theorem supply_supplements {env env' : Environment} {key value : String}
    (h : supply env key value = .ok env') : Supplements env env' := by
  intro k v hget
  unfold supply at h
  split at h
  · cases h
    exact hget
  · split at h
    · contradiction
    · rename_i hunset _
      cases h
      rw [Keyed.get?_insert]
      by_cases hkey : k = key
      -- the key has no value yet, so it is not this one
      · rw [hkey] at hget
        rw [hget] at hunset
        exact absurd rfl hunset
      · rw [if_neg hkey]
        exact hget

theorem readLines_supplements {env env' : Environment} {lines : List (List Char)}
    (h : readLines env lines = .ok env') : Supplements env env' := by
  induction lines generalizing env with
  | nil =>
    cases h
    exact fun _ _ hget => hget
  | cons line lines ih =>
    unfold readLines at h
    split at h
    · contradiction
    · exact ih h
    · obtain ⟨supplied, hsupply, h⟩ := bind_eq_ok.mp h
      exact fun key value hget => ih h key value (supply_supplements hsupply key value hget)

theorem extend_supplements {env env' : Environment} {file : List UInt8}
    (h : extend env file = .ok env') : Supplements env env' := by
  unfold extend at h
  simp only at h
  split at h
  · contradiction
  · exact readLines_supplements h

end EnvFile

theorem ProcessEnvironment.readable_cons (name : String) (bytes : List UInt8)
    (env : ProcessEnvironment) :
    ProcessEnvironment.readable ((name, bytes) :: env) =
      match Utf8.decode? bytes with
      | some value => (name, value) :: env.readable
      | none => env.readable := by
  rw [readable, List.filterMap_cons]
  simp only
  cases Utf8.decode? bytes <;> rfl

/-- A variable that holds a text is read as that text. -/
theorem ProcessEnvironment.get?_readable {env : ProcessEnvironment} {key value : String}
    {bytes : List UInt8} (hget : Keyed.get? key env = some bytes)
    (htext : Utf8.decode? bytes = some value) : Keyed.get? key env.readable = some value := by
  induction env with
  | nil => contradiction
  | cons entry env ih =>
    obtain ⟨name, held⟩ := entry
    rw [Keyed.get?] at hget
    rw [readable_cons]
    by_cases hkey : key = name
    · rw [if_pos hkey] at hget
      obtain rfl := Option.some.inj hget
      rw [htext]
      exact if_pos hkey
    -- another variable is read or left out, and is not the one that is asked for
    · rw [if_neg hkey] at hget
      have ih := ih hget
      cases Utf8.decode? held with
      | none => exact ih
      | some other => exact (if_neg hkey).trans ih

/-- **The file of variables only supplies what is missing**, and without one nothing is added. -/
theorem effectiveEnvironment_supplements {wording : Wording} {env : ProcessEnvironment}
    {effective : Environment} {system : FileSystem}
    (h : effectiveEnvironment wording env system = .ok effective) :
    Supplements env.readable effective ∧
      (system.nearest? variablesFile = none → effective = env.readable) := by
  unfold effectiveEnvironment at h
  split at h
  · cases h
    exact ⟨fun _ _ hget => hget, fun _ => rfl⟩
  · cases h
    exact ⟨fun _ _ hget => hget, fun _ => rfl⟩
  · contradiction
  · rename_i file hfile
    refine ⟨?_, fun hnone => ?_⟩
    · cases hextend : EnvFile.extend env.readable file with
      | error fault =>
        rw [hextend] at h
        contradiction
      | ok env' =>
        rw [hextend] at h
        cases h
        exact EnvFile.extend_supplements hextend
    · rw [hfile] at hnone
      contradiction

/-! ## Sources -/

/-- The file at a path can be read, and its document spells the configuration. -/
inductive InFile (system : FileSystem) (path : String) (c : AppConfig) : Prop where
  | read {bytes : List UInt8} {text : String} {v : Toml.Value}
    (hbytes : system.read path = .ok bytes) (htext : Utf8.decode? bytes = some text)
    (hdocument : Toml.parse? text = some v) (hfrom : AppConfig.ReadFrom v c) :
    InFile system path c

/-- The configuration is that of the source which the environment selects. -/
inductive Selected (env : Environment) (system : FileSystem) : AppConfig → Prop where
  /-- the file that the variable names, be it there or not -/
  | named {path : String} {c : AppConfig} (hvariable : env.get? pathVariable = some path)
    (hfile : InFile system path c) : Selected env system c
  /-- the usual file, if it exists -/
  | usual {c : AppConfig} (hvariable : env.get? pathVariable = none)
    (hexists : system.contains usualPath = true) (hfile : InFile system usualPath c) :
    Selected env system c
  /-- the defaults, where no file is named and the usual one does not exist -/
  | defaults (hvariable : env.get? pathVariable = none)
    (hmissing : system.contains usualPath = false) : Selected env system {}

theorem inFile_of_ofFile {diagnose : String → Toml.Diagnosis} {system : FileSystem} {path : String}
    {c : AppConfig} (h : AppConfig.ofFile diagnose (system.read path) = .ok c) :
    InFile system path c := by
  unfold AppConfig.ofFile at h
  split at h
  · contradiction
  · split at h
    · contradiction
    · rename_i bytes hbytes _ text htext
      obtain ⟨c', hread, h⟩ := bind_eq_ok.mp h
      obtain ⟨_, -, h⟩ := bind_eq_ok.mp h
      cases h
      unfold AppConfig.read at hread
      split at hread
      · rename_i hspelled
        cases hread
        obtain ⟨v, hdocument, -, hfrom⟩ := (AppConfig.spelled?_eq_some_iff text c).mp hspelled
        exact .read hbytes htext hdocument hfrom
      · contradiction

/-- What is read is the configuration of the selected source, or the defaults with the host from the
environment. -/
theorem readSource_selected {wording : Wording} {env : Environment} {system : FileSystem}
    {c : AppConfig} (h : readSource wording env system (selectSource env system) = .ok c) :
    ∃ base, Selected env system base ∧ c.withEnvironment env = base.withEnvironment env := by
  unfold selectSource at h
  split at h
  · rename_i path hpath
    exact ⟨c, .named hpath (inFile_of_ofFile h), rfl⟩
  · rename_i hunset
    split at h
    · rename_i hexists
      exact ⟨c, .usual hunset hexists (inFile_of_ofFile h), rfl⟩
    · rename_i hmissing
      cases h
      refine ⟨{}, .defaults hunset (by simpa using hmissing), ?_⟩
      exact congrArg (AppConfig.mk · _) (DatabaseConfig.withEnvironment_withEnvironment {} env)

/-! ## Main result -/

/-- **Where every field of a loaded configuration comes from.** Whatever the environment of the
process, the file of variables and the files are: a configuration that is loaded is valid, its host
of the database is the one that the effective environment names, if it is not empty, and otherwise
that of the selected source, and every other field is that of the source. The effective environment
has the variables of the process, as far as they hold texts, and what the file of variables adds. The
source is the file that the effective environment names, else the usual file if it exists, else the
defaults; a document gives a field the value under its key, and the fields that it does not give have
their defaults. -/
theorem load_layers {wording : Wording} {env : ProcessEnvironment} {system : FileSystem}
    {c : AppConfig} (h : load wording env system = .ok c) :
    c.validate = .ok () ∧ ∃ effective base,
      effectiveEnvironment wording env system = .ok effective ∧
      (∀ key bytes value, Keyed.get? key env = some bytes → Utf8.decode? bytes = some value →
        effective.get? key = some value) ∧
      (system.nearest? variablesFile = none → effective = env.readable) ∧
      Selected effective system base ∧
      (∀ host, effective.get? DatabaseConfig.hostVariable = some host → host ≠ "" →
        c.database.host = host) ∧
      ((∀ host, effective.get? DatabaseConfig.hostVariable = some host → host = "") →
        c.database.host = base.database.host) ∧
      c = { base with database := base.database.withHost c.database.host } := by
  obtain ⟨effective, heffective, h⟩ := bind_eq_ok.mp h
  obtain ⟨source, hsource, h⟩ := bind_eq_ok.mp h
  obtain ⟨⟨⟩, hvalid, h⟩ := bind_eq_ok.mp h
  cases h
  obtain ⟨base, hbase, hsame⟩ := readSource_selected hsource
  obtain ⟨hsupplements, hnone⟩ := effectiveEnvironment_supplements heffective
  rw [hsame] at hvalid ⊢
  refine ⟨hvalid, effective, base, heffective, ?_, hnone, hbase, ?_, ?_, ?_⟩
  · intro key bytes value hget htext
    exact hsupplements key value (ProcessEnvironment.get?_readable hget htext)
  · intro host hget hnonempty
    have hdatabase := DatabaseConfig.withEnvironment_of_names ⟨hget, hnonempty⟩ base.database
    exact congrArg DatabaseConfig.host hdatabase
  · intro hempty
    have hnot (host : String) : ¬ DatabaseConfig.NamesHost effective host :=
      fun hnames => hnames.2 (hempty host hnames.1)
    exact congrArg DatabaseConfig.host (DatabaseConfig.withEnvironment_of_not_names hnot _)
  · exact congrArg (AppConfig.mk · base.server) (base.database.withEnvironment_eq effective)

/-- A file of variables above the working directory names a file in a directory and a host, and the
process has another host. The file that is named gives a host as well and a port; all else is as
usual. -/
theorem load_layers_file :
    let wording : Wording := ⟨fun _ => ⟨"invalid", none⟩, fun _ => "invalid"⟩
    let env : ProcessEnvironment := [("WINDOWS_HOST", Utf8.encode "db")]
    let files : Files := {
      workingDirectory := ["app", "srv"]
      entries := [
        ("/srv", .directory),
        ("/srv/.env", .file (Utf8.encode
          "ROUTEHAUS_CONFIG=config/production.toml\nWINDOWS_HOST=other")),
        ("/srv/app", .directory),
        ("/srv/app/config", .directory),
        ("/srv/app/config/production.toml", .file (Utf8.encode
          "[database]\nport = 6000\nhost = 'here'"))] }
    let c : AppConfig := { database := { host := "db", port := 6000 } }
    load wording env files.system = .ok c ∧ ∃ effective base,
      effectiveEnvironment wording env files.system = .ok effective ∧
      effective.get? DatabaseConfig.hostVariable = some "db" ∧
      Selected effective files.system base ∧ base.database.port = 6000 := by
  intro wording env files c
  have hload : load wording env files.system = .ok c := by decide +kernel
  obtain ⟨-, effective, base, heffective, hprocess, -, hbase, -, -, hc⟩ := load_layers hload
  have hhost : effective.get? DatabaseConfig.hostVariable = some "db" :=
    hprocess "WINDOWS_HOST" (Utf8.encode "db") "db" rfl (by decide +kernel)
  have hdatabase : c.database = base.database.withHost c.database.host :=
    congrArg AppConfig.database hc
  have hport : 6000 = base.database.port := congrArg DatabaseConfig.port hdatabase
  exact ⟨hload, effective, base, heffective, hhost, hbase, hport.symm⟩

end Config

end Rowgate
