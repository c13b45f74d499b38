import Rowgate.Sample.Script
import Rowgate.Sample.World
/-
Operations that do as they are told.
-/
set_option autoImplicit false

namespace Rowgate.Sample

open Operation (Report)

/-! ## Replaying a report -/

/-- The output of a replayed report; one that is sealed cannot be written. -/
structure Replayed where
  tag : String := ""
  text : String := ""
  isSealed : Bool := false
deriving DecidableEq, Repr, Inhabited

namespace Replayed

/-- Why a sealed output is not written. -/
def refusal : String := "output refuses to serialize"

def write (output : Replayed) : Except String Json :=
  if output.isSealed then .error refusal
  else .ok (.object [("tag", .string output.tag), ("text", .string output.text)])

end Replayed

/-- Reports what the input spells, and writes down the tag and a text from it. An input that spells
no report is an error. -/
def replay (reader : Script.Reader) : Operation Act Json Replayed where
  perform context input _ :=
    let isSealed := input.member? "unserializable" == some (.bool true)
    let report := (reader.report? input).getD (.failed (.invalidArgument "no report"))
    return (⟨context.tag, Script.text input "text", isSealed⟩, report)

/-- Any input at all. -/
def replayCodec : Http.Codec Json Replayed :=
  ⟨fun fields => .ok (Input.Source.request fields).toJson, Replayed.write⟩

/-! ## Echoing -/

/-- Gives back its input. -/
def echo : Operation Act Json Json where
  perform _ input _ := return (input, .success)

def echoCodec : Http.Codec Json Json :=
  ⟨fun fields => .ok (Input.Source.request fields).toJson, .ok⟩

/-! ## Counting calls -/

/-- The output of a counted call: the input, and whether the output was clean. -/
structure Counted where
  text : String := ""
  clean : Bool := false
deriving DecidableEq, Repr, Inhabited

/-- How often the operation ran, and what it reports next. -/
structure Counter where
  calls : Nat := 0
  report : Report := {}

/-- Counts its calls and notes whether it was given a clean output. -/
def counting : Operation (StateM Counter) String Counted where
  perform _ input output := do
    let counter ← get
    set { counter with calls := counter.calls + 1 }
    return (⟨input, output == default⟩, counter.report)

end Rowgate.Sample
