import Rowgate.Config.Files
import Rowgate.Proofs.Checked
/-
Files of which one is exchanged.

What a path leads to depends on which names stand in which directories, and on the contents of no
file. So with other contents in one file every path leads where it led before, and what is read there
is what was read before, unless it is the one file (`Files.differIn_exchange`).
-/
set_option autoImplicit false

namespace Rowgate

/-- Two systems of files that differ in the contents of one file, by whatever paths it is read. -/
structure FileSystem.DifferIn (system system' : FileSystem) (bytes bytes' : List UInt8) :
    Prop where
  contains (path : String) : system'.contains path = system.contains path
  read (path : String) : system'.read path = system.read path ∨
    (system.read path = .ok bytes ∧ system'.read path = .ok bytes')

namespace Files

/-- The files with a file of the given contents at an absolute path. -/
def exchange (files : Files) (place : String) (bytes : List UInt8) : Files :=
  { files with entries := files.entries.insert place (.file bytes) }

variable {files : Files} {place : String} {bytes : List UInt8}

/-- A name stands for what it stood for, or for the one file. -/
theorem under?_exchange (hfile : files.entries.get? place = some (.file bytes))
    (bytes' : List UInt8) (dir : Directory) (name : String) :
    (files.exchange place bytes').under? dir name = files.under? dir name ∨
      (files.under? dir name = some (.file bytes) ∧
        (files.exchange place bytes').under? dir name = some (.file bytes')) := by
  have hentry : (files.exchange place bytes').under? dir name =
      if absolute (name :: dir) = place then some (.file bytes') else files.under? dir name :=
    Keyed.get?_insert ..
  by_cases hplace : absolute (name :: dir) = place
  -- the file was there before, so no name stands for more than it did
  · refine .inr ⟨?_, hentry.trans (if_pos hplace)⟩
    rw [under?, hplace, hfile]
  · exact .inl (hentry.trans (if_neg hplace))

/-- A path leads where it led. -/
theorem follow_exchange (hfile : files.entries.get? place = some (.file bytes))
    (bytes' : List UInt8) (path : String) :
    (files.exchange place bytes').follow path = files.follow path := by
  have hsub : (files.exchange place bytes').subdirectory? = files.subdirectory? := by
    funext dir name
    rw [subdirectory?, subdirectory?]
    rcases under?_exchange hfile bytes' dir name with hsame | ⟨hold, hnew⟩
    · rw [hsame]
    · rw [hold, hnew]
      rfl
  have henter : (files.exchange place bytes').enter = files.enter := by
    funext dir name
    rw [enter, enter, hsub]
    rcases under?_exchange hfile bytes' dir name with hsame | ⟨hold, hnew⟩
    · rw [hsame]
    · rw [hold, hnew]
      rfl
  rw [follow, follow, hsub, henter]
  rfl

/-- At a path there is what there was, or the one file. -/
theorem resolve_exchange (hfile : files.entries.get? place = some (.file bytes))
    (bytes' : List UInt8) (path : String) :
    (files.exchange place bytes').resolve path = files.resolve path ∨
      (files.resolve path = .ok (.file bytes) ∧
        (files.exchange place bytes').resolve path = .ok (.file bytes')) := by
  rw [resolve, resolve, follow_exchange hfile]
  cases files.follow path with
  | error e => exact .inl rfl
  | ok spot =>
    show spot.entry _ = spot.entry _ ∨ spot.entry _ = _ ∧ spot.entry _ = _
    cases spot with
    | directory => exact .inl rfl
    | named dir name asDirectory =>
      rw [Spot.entry, Spot.entry]
      by_cases hlong : maxNameLength < name.utf8ByteSize
      · exact .inl (by rw [if_pos hlong, if_pos hlong])
      · rw [if_neg hlong, if_neg hlong]
        rcases under?_exchange hfile bytes' dir name with hsame | ⟨hold, hnew⟩
        · exact .inl (by rw [hsame])
        · rw [hold, hnew]
          cases asDirectory with
          | true => exact .inl rfl
          | false => exact .inr ⟨rfl, rfl⟩

/-- **Only what is read of the one file shows that it was exchanged.** -/
theorem differIn_exchange (hfile : files.entries.get? place = some (.file bytes))
    (bytes' : List UInt8) :
    files.system.DifferIn (files.exchange place bytes').system bytes bytes' where
  contains path := by
    show ((files.exchange place bytes').resolve path).toOption.isSome = _
    rcases resolve_exchange hfile bytes' path with hsame | ⟨hold, hnew⟩
    · rw [hsame]
      rfl
    · rw [hnew]
      exact (congrArg (·.toOption.isSome) hold).symm
  read path := by
    have hread (files : Files) : files.system.read path = files.resolve path >>= Entry.read := rfl
    rw [hread, hread]
    rcases resolve_exchange hfile bytes' path with hsame | ⟨hold, hnew⟩
    · exact .inl (by rw [hsame])
    · rw [hold, hnew]
      exact .inr ⟨rfl, rfl⟩

end Files

end Rowgate
