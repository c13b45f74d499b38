import Rowgate.Operation.Status
/-
What is declared of a handler.

The settings are chosen step by step before the handler is built. Building adds the two statuses
that every handler declares, so they are there whatever the steps were.
-/
set_option autoImplicit false

namespace Rowgate.Handler

open Operation (Status StatusSet)

/-- Settings of a handler that document it. -/
structure Settings where
  tags : List String := []
  summary : Option String := none
  description : Option String := none
  deprecated : Bool := false
  expectedErrors : StatusSet := .empty

namespace Settings

/-- Adds a tag that is not there yet. -/
def addTag (settings : Settings) (tag : String) : Settings :=
  if settings.tags.contains tag then settings else { settings with tags := settings.tags ++ [tag] }

/-- The settings a handler starts with. -/
def tagged (tag : String) : Settings := ({} : Settings).addTag tag

/-- One choice. `configure` is any change of the settings at all. -/
inductive Step where
  | tag (tag : String)
  | summary (text : String)
  | description (text : String)
  | deprecated (value : Bool)
  | expectedError (status : Status)
  | configure (change : Settings → Settings)

def apply (settings : Settings) : Step → Settings
  | .tag tag => settings.addTag tag
  | .summary text => { settings with summary := some text }
  | .description text => { settings with description := some text }
  | .deprecated value => { settings with deprecated := value }
  | .expectedError s => { settings with expectedErrors := settings.expectedErrors.insert s }
  | .configure change => change settings

def run (settings : Settings) (steps : List Step) : Settings := steps.foldl apply settings

end Settings

/-- The statuses that every handler declares. -/
def declaredErrors : List Status := [.alreadyExists, .notFound]

/-- The declared side of a handler: its settings and the names of its types. -/
structure Descriptor where
  settings : Settings
  inputType : String
  outputType : String

namespace Descriptor

/-- Closes the settings: the declared statuses are added. -/
def build (settings : Settings) (inputType outputType : String) : Descriptor :=
  { settings := { settings with
      expectedErrors := declaredErrors.foldl StatusSet.insert settings.expectedErrors }
    inputType, outputType }

def tags (d : Descriptor) : List String := d.settings.tags

/-- The tag that requests are handled under, or an empty one. -/
def mainTag (d : Descriptor) : String := d.tags.head?.getD ""

def expectedErrors (d : Descriptor) : List Status := d.settings.expectedErrors.toList

def declares (d : Descriptor) (s : Status) : Bool := d.settings.expectedErrors.contains s

/-- The descriptor as an object; absent texts are left out. -/
def toJson (d : Descriptor) : Json :=
  .object ([("tags", .array (d.tags.map .string))] ++
    Json.present "summary" (d.settings.summary.map .string) ++
    Json.present "description" (d.settings.description.map .string) ++
    [("deprecated", .bool d.settings.deprecated),
      ("expected_errors", .array (d.expectedErrors.map Status.toJson)),
      ("input_type", .string d.inputType), ("output_type", .string d.outputType)])

end Descriptor

end Rowgate.Handler
