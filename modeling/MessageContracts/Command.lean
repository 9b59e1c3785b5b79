import MessageContracts.Command.Invocation
import MessageContracts.Disk
import MessageContracts.Manifest.Codec
import MessageContracts.Manifest.Render
import MessageContracts.Model.Codec

/-!
# Performing tasks

A task reads its inputs from a disk, writes to standard output or to one file, and reports what it
does. Nothing is written before all inputs have been accepted.
-/

namespace MessageContracts

/-- Why a task failed. -/
inductive CommandError where
  /-- The manifest at a path cannot be read as text. -/
  | unreadableManifest (path : String)
  /-- The manifest's text describes no manifest. -/
  | manifestSyntax (fault : DocumentFault)
  /-- The manifest is not accepted. -/
  | invalidManifest (fault : ManifestFault)
  /-- The model at a path cannot be read. -/
  | unreadableModel (path : String)
  /-- The file at a path describes no model. -/
  | modelSyntax (path : String) (fault : DocumentFault)
  /-- The output file cannot be created. -/
  | uncreatableOutput (path : String)
  /-- The output cannot be delivered. -/
  | delivery (error : RenderError)
deriving DecidableEq, Repr

/-- What failed, without the causes behind it. -/
def CommandError.message : CommandError → String
  | .unreadableManifest path => "Failed to read manifest: " ++ Text.quoted path
  | .manifestSyntax _ => "Failed to parse manifest"
  | .invalidManifest fault => fault.message
  | .unreadableModel path => "Failed to read model: " ++ Text.quoted path
  | .modelSyntax path _ => "Failed to parse model: " ++ Text.quoted path
  | .uncreatableOutput path => "Failed to create output file: " ++ Text.quoted path
  | .delivery error => error.message

/-- What a task has done. -/
structure Outcome where
  /-- What went to standard output. -/
  printed : ByteArray
  /-- The path and new content of the file that was created or replaced. -/
  written : Option (String × ByteArray)
  /-- Everything reported, in order. -/
  trace : List TraceRecord
  /-- Why the task failed, if it did. -/
  failure : Option CommandError

namespace Outcome

/-- The outcome of a task that failed before it wrote anything. -/
def failed (trace : List TraceRecord) (error : CommandError) : Outcome :=
  ⟨.empty, none, trace, some error⟩

/-- The exit code of the outcome. -/
def exitCode (outcome : Outcome) : Nat := if outcome.failure.isNone then 0 else 1

end Outcome

namespace Manifest

/-- The manifest that is looked up when none is named. -/
def stockPath : String := "codedsl.toml"

/-- The manifest at a path, accepted or not. -/
def ofFile (disk : Disk) (path : String) : Except CommandError Manifest :=
  match disk.text? path with
  | none => .error (.unreadableManifest path)
  | some text => (ofToml text).mapError .manifestSyntax

/-- The manifest itself, if it is accepted. -/
def accepted (manifest : Manifest) : Except CommandError Manifest :=
  match manifest.fault? with
  | none => .ok manifest
  | some fault => .error (.invalidManifest fault)

/-- The path of the manifest that a task uses: the named one, or else the one at the stock path if
something stands there. -/
def chosenPath (disk : Disk) (named : Option String) : Option String :=
  named <|> if disk.exists? stockPath then some stockPath else none

/-- The accepted manifest that a task uses; without a path the stock manifest. -/
def load (disk : Disk) (named : Option String) : Except CommandError Manifest :=
  match chosenPath disk named with
  | some path => ofFile disk path >>= accepted
  | none => stock.accepted

/-- What the choice of a manifest reports. -/
def loadTrace (disk : Disk) (named : Option String) : List TraceRecord :=
  if (chosenPath disk named).isSome then []
  else [⟨.debug, "codedsl::manifest", "no manifest found, using defaults", []⟩]

/-- A name, or that there is none. -/
def nameOrNone (name : Option String) : String := name.getD "(none)"

/-- What a check shows of an interface rule. -/
def ruleLine (rule : InterfaceRule) : String :=
  "    " ++ rule.name.source ++ " <- [" ++ ", ".intercalate rule.tags ++ "]\n"

/-- What a check shows of an accepted manifest. -/
def description (manifest : Manifest) : String :=
  let settings := manifest.settings
  "✓ Namespace: " ++ nameOrNone settings.namespaceToOpen ++ "\n"
  ++ "✓ Region: " ++ nameOrNone settings.regionToOpen ++ "\n"
  ++ "✓ Interfaces: " ++ settings.interfaces.length.repr ++ "\n"
  ++ String.join (settings.interfaces.map ruleLine)
  ++ "\nManifest is valid!\n"

end Manifest

/-- The model at a path. -/
def Model.ofFile (disk : Disk) (path : String) : Except CommandError Model :=
  match disk.content? path with
  | none => .error (.unreadableModel path)
  | some document => (ofJson document).mapError (.modelSyntax path)

namespace Task

/-- The accepted inputs of a generation. -/
def inputs (disk : Disk) (model : String) (manifest : Option String) :
    Except CommandError (Manifest × Model) := do
  let manifest ← Manifest.load disk manifest
  let model ← Model.ofFile disk model
  return (manifest, model)

/-- What the completion of an output file reports. -/
def writtenTrace (path : String) : TraceRecord :=
  ⟨.info, "codedsl::generate", "wrote generated source", [("output", .plain path)]⟩

/-- How much output is held back on its way to a file or device. -/
def heldSize : Nat := 8192

/-- The delivery of output to a device without room: what is held back counts as taken, until the
flush finds that it is not. -/
def deliverNowhere (manifest : Manifest) (model : Model) : Delivery :=
  let delivery := manifest.render model (.create (some heldSize) .diskFull)
  match delivery.result with
  | .error _ => delivery
  | .ok _ =>
    if delivery.store.content.isEmpty then delivery
    else { delivery with result := .error (.flush Refusal.diskFull.fault) }

/-- The delivery of output to a destination. -/
def deliverTo (destination : Destination) (manifest : Manifest) (model : Model) : Delivery :=
  match destination with
  | .full => deliverNowhere manifest model
  | .standardOutput | .file | .void => manifest.render model .unlimited

/-- Deliver the output for accepted inputs; `trace` has been reported before. -/
def deliver (disk : Disk) (manifest : Manifest) (model : Model) (output : Option String)
    (trace : List TraceRecord) : Outcome :=
  match output.map fun path => (path, disk.destination? path) with
  | some (path, none) => .failed trace (.uncreatableOutput path)
  | target =>
    let destination := (target.bind (·.2)).getD .standardOutput
    let delivery := deliverTo destination manifest model
    let trace := trace ++ delivery.events.map Event.record
    let content := delivery.store.content
    let printed := if destination = .standardOutput then content else .empty
    let written := if destination = .file then output.map (·, content) else none
    match delivery.result with
    | .ok _ => ⟨printed, written, trace ++ output.toList.map writtenTrace, none⟩
    | .error error => ⟨printed, written, trace, some (.delivery error)⟩

/-- Generate source text. -/
def generateOn (disk : Disk) (model : String) (manifest output : Option String) : Outcome :=
  let trace := Manifest.loadTrace disk manifest
  match inputs disk model manifest with
  | .error error => .failed trace error
  | .ok (manifest, model) => deliver disk manifest model output trace

/-- Check a manifest. The path is shown first. -/
def checkOn (disk : Disk) (manifest : Option String) : Outcome :=
  let path := manifest.getD Manifest.stockPath
  let title := "Checking manifest: " ++ path ++ "\n"
  match Manifest.ofFile disk path >>= Manifest.accepted with
  | .error error => ⟨title.toUTF8, none, [], some error⟩
  | .ok manifest => ⟨(title ++ manifest.description).toUTF8, none, [], none⟩

/-- Perform a task. -/
def perform (disk : Disk) : Task → Outcome
  | .generate model manifest output => generateOn disk model manifest output
  | .check manifest => checkOn disk manifest
  | .defaults => ⟨Manifest.stock.toToml.toUTF8, none, [], none⟩

end Task

/-- What a request for the version shows. -/
def versionText : String := "codedsl 0.3.0\n"

end MessageContracts
