import Rowgate.Config.Files
/-
A sample system of files: a working directory among the usual directories.
-/
set_option autoImplicit false

namespace Rowgate.Sample

/-- The names of the directories at the root. -/
def rootDirectories : List String :=
  ["bin", "boot", "dev", "etc", "home", "lib", "media", "mnt", "opt", "proc", "root", "run", "sbin",
    "srv", "sys", "tmp", "usr", "var"]

/-- The files of a system that has the given ones in its working directory. -/
def folder (files : List (String × List UInt8)) : Files where
  workingDirectory := ["work", "tmp"]
  entries := Keyed.ofPairs (rootDirectories.map (fun name => ("/" ++ name, .directory)) ++
    ("/tmp/work", .directory) :: files.map fun (name, bytes) => ("/tmp/work/" ++ name, .file bytes))

end Rowgate.Sample
