import Mathlib.Data.List.Basic
import MessageContracts.Command
import MessageContracts.Disk.FileTree
import MessageContracts.Proofs.CommandLine
import MessageContracts.Proofs.CosmeticLayout

/-!
# Inputs are accepted first

A generation begins no output before its manifest and its model have been accepted. If one of them
is refused, nothing is shown and every file stays as it is, the output file among them, even where
it is one of the inputs. Once both are accepted, the output is what a delivery with unlimited room
writes, and it goes to one place only.
-/

namespace MessageContracts

namespace Manifest

/-- Whether the manifest of a generation is at a path: a named one, or else the stock one if
something stands there. -/
def IsAt (disk : Disk) (named : Option String) (path : String) : Prop :=
  named = some path ∨ named = none ∧ path = stockPath ∧ disk.exists? stockPath = true

/-- Why the manifest of a generation is refused. -/
inductive Refused (disk : Disk) (named : Option String) : CommandError → Prop where
  /-- It cannot be read as text. -/
  | unreadable {path : String} (here : IsAt disk named path) (unread : disk.text? path = none) :
    Refused disk named (.unreadableManifest path)
  /-- The text describes no manifest. -/
  | syntax_fault {path text : String} {fault : DocumentFault} (here : IsAt disk named path)
    (read : disk.text? path = some text) (described : ofToml text = .error fault) :
    Refused disk named (.manifestSyntax fault)
  /-- The manifest that the text describes has a fault. -/
  | faulty {path text : String} {manifest : Manifest} {fault : ManifestFault}
    (here : IsAt disk named path) (read : disk.text? path = some text)
    (described : ofToml text = .ok manifest) (found : manifest.fault? = some fault) :
    Refused disk named (.invalidManifest fault)

/-- The manifest that a generation accepts. -/
inductive Accepted (disk : Disk) (named : Option String) : Manifest → Prop where
  /-- It is described by the text at its path and has no fault. -/
  | read {path text : String} {manifest : Manifest} (here : IsAt disk named path)
    (read : disk.text? path = some text) (described : ofToml text = .ok manifest)
    (faultless : manifest.fault? = none) : Accepted disk named manifest
  /-- It is the stock manifest, because none is named and nothing stands at the stock path. -/
  | stock (unnamed : named = none) (absent : disk.exists? stockPath = false) :
    Accepted disk named stock

variable {disk : Disk} {named : Option String}

/-- The path that is chosen is where the manifest is. -/
theorem chosenPath_eq_some_iff {path : String} :
    chosenPath disk named = some path ↔ IsAt disk named path := by
  cases named with
  | some given => simp [chosenPath, IsAt]
  | none =>
    cases present : disk.exists? stockPath with
    | false => simp [chosenPath, IsAt, present]
    | true => simp [chosenPath, IsAt, present, eq_comm]

/-- A manifest is loaded from where it is. -/
theorem load_of_isAt {path : String} (here : IsAt disk named path) :
    load disk named = ofFile disk path >>= accepted := by
  rw [load, chosenPath_eq_some_iff.mpr here]

/-- A refused manifest is not loaded. -/
theorem load_of_refused {error : CommandError} (refused : Refused disk named error) :
    load disk named = .error error := by
  cases refused with
  | unreadable here unread => rw [load_of_isAt here, ofFile, unread]; rfl
  | syntax_fault here read described =>
    rw [load_of_isAt here, ofFile, read]
    simp only [described]
    rfl
  | faulty here read described found =>
    rw [load_of_isAt here, ofFile, read]
    simp only [described, Except.mapError]
    change accepted _ = _
    rw [accepted, found]

/-- An accepted manifest is loaded. -/
theorem load_of_accepted {manifest : Manifest} (fine : Accepted disk named manifest) :
    load disk named = .ok manifest := by
  cases fine with
  | read here read described faultless =>
    rw [load_of_isAt here, ofFile, read]
    simp only [described, Except.mapError]
    change accepted _ = _
    rw [accepted, faultless]
  | stock unnamed absent =>
    rw [load, chosenPath, unnamed, absent]
    rfl

/-- Every manifest is refused or accepted. -/
theorem refused_or_accepted (disk : Disk) (named : Option String) :
    (∃ error, Refused disk named error) ∨ ∃ manifest, Accepted disk named manifest := by
  cases chosen : chosenPath disk named with
  | none =>
    cases named with
    | some given => cases chosen
    | none =>
      cases present : disk.exists? stockPath with
      | true => simp [chosenPath, present] at chosen
      | false => exact .inr ⟨_, .stock rfl present⟩
  | some path =>
    have here := chosenPath_eq_some_iff.mp chosen
    cases read : disk.text? path with
    | none => exact .inl ⟨_, .unreadable here read⟩
    | some text =>
      cases described : ofToml text with
      | error fault => exact .inl ⟨_, .syntax_fault here read described⟩
      | ok manifest =>
        cases found : manifest.fault? with
        | some fault => exact .inl ⟨_, .faulty here read described found⟩
        | none => exact .inr ⟨_, .read here read described found⟩

end Manifest

namespace Model

/-- Why the model of a generation is refused. -/
inductive Refused (disk : Disk) (path : String) : CommandError → Prop where
  /-- It cannot be read. -/
  | unreadable (unread : disk.content? path = none) : Refused disk path (.unreadableModel path)
  /-- The document describes no model. -/
  | syntax_fault {document : ByteArray} {fault : DocumentFault}
    (read : disk.content? path = some document) (described : ofJson document = .error fault) :
    Refused disk path (.modelSyntax path fault)

/-- Whether a generation accepts a model: the document at its path describes it. -/
def Accepted (disk : Disk) (path : String) (model : Model) : Prop :=
  ∃ document, disk.content? path = some document ∧ ofJson document = .ok model

variable {disk : Disk} {path : String}

/-- A refused model is not loaded. -/
theorem ofFile_of_refused {error : CommandError} (refused : Refused disk path error) :
    ofFile disk path = .error error := by
  cases refused with
  | unreadable unread => rw [ofFile, unread]
  | syntax_fault read described => rw [ofFile, read]; simp only [described]; rfl

/-- An accepted model is loaded. -/
theorem ofFile_of_accepted {model : Model} (fine : Accepted disk path model) :
    ofFile disk path = .ok model := by
  obtain ⟨document, read, described⟩ := fine
  rw [ofFile, read]
  simp only [described]
  rfl

/-- Every model is refused or accepted. -/
theorem refused_or_accepted (disk : Disk) (path : String) :
    (∃ error, Refused disk path error) ∨ ∃ model, Accepted disk path model := by
  cases read : disk.content? path with
  | none => exact .inl ⟨_, .unreadable read⟩
  | some document =>
    cases described : ofJson document with
    | error fault => exact .inl ⟨_, .syntax_fault read described⟩
    | ok model => exact .inr ⟨model, document, read, described⟩

end Model

/-- Byte arrays compare by their bytes. -/
instance lawfulBEqByteArray : LawfulBEq ByteArray where
  eq_of_beq {a b} same := ByteArray.ext (beq_iff_eq.mp (same : (a.data == b.data) = true))
  rfl {a} := beq_self_eq_true a.data

namespace FileTree

variable {tree : FileTree} {outcome : Outcome}

/-- The place of a file below the home. -/
def fileBelow? (tree : FileTree) (path : String) : Option Place := (tree.place? path).bind below?

/-- The tree with a file in place of what stood there. -/
def replace (tree : FileTree) (place : Place) (content : ByteArray) : FileTree :=
  { tree with files := (place, content) :: tree.files.filter (·.1 != place) }

/-- The tree after a task: the file that the task wrote has its new content. -/
def after (tree : FileTree) (outcome : Outcome) : FileTree :=
  match outcome.written.bind fun (path, content) => tree.change? path content with
  | none => tree
  | some (place, content) => tree.replace place content

/-- A file is looked up in the same way among the others. -/
theorem lookup_filter_bne {files : List (Place × ByteArray)} {target place : Place}
    (other : place ≠ target) :
    (files.filter (·.1 != target)).lookup place = files.lookup place := by
  induction files with
  | nil => rfl
  | cons file files ih =>
    obtain ⟨name, content⟩ := file
    by_cases same : name = target
    · subst same
      have unlike : (place == name) = false := beq_eq_false_iff_ne.mpr other
      rw [List.filter_cons_of_neg (by simp), ih, List.lookup_cons, unlike]
    · rw [List.filter_cons_of_pos (by simpa using same), List.lookup_cons, List.lookup_cons, ih]

/-- A file that is put in place is there, and the others are as before. -/
theorem file?_replace (tree : FileTree) (target place : Place) (content : ByteArray) :
    (tree.replace target content).file? place =
      if place = target then some content else tree.file? place := by
  rw [file?, replace, List.lookup_cons]
  by_cases same : place = target
  · rw [same, beq_self_eq_true, if_pos rfl]
  · rw [beq_eq_false_iff_ne.mpr same, if_neg same]
    exact lookup_filter_bne same

/-- A task that wrote no file leaves the tree as it is. -/
theorem after_of_unwritten (unwritten : outcome.written = none) : tree.after outcome = tree := by
  rw [after, unwritten]
  rfl

/-- A task makes no directory and removes none. -/
theorem directories_after (tree : FileTree) (outcome : Outcome) :
    (tree.after outcome).directories = tree.directories := by
  rw [after]
  split <;> rfl

/-- A file changes where it is below the home and has another content. -/
theorem change?_eq (tree : FileTree) (path : String) (content : ByteArray) :
    tree.change? path content = (tree.fileBelow? path).bind fun place =>
      if tree.file? place == some content then none else some (place, content) := by
  unfold change? fileBelow?
  cases (tree.place? path).bind below? <;> rfl

/-- The file that a task wrote has its new content, and every other file the one that it had. -/
theorem file?_after {path : String} {content : ByteArray}
    (written : outcome.written = some (path, content)) (place : Place) :
    (tree.after outcome).file? place =
      if tree.fileBelow? path = some place then some content else tree.file? place := by
  rw [after, written, Option.bind_some]
  simp only [change?_eq]
  cases tree.fileBelow? path with
  | none => rfl
  | some target =>
    simp only [Option.bind_some, Option.some.injEq]
    by_cases same : tree.file? target = some content
    · -- The file has this content already.
      simp only [same, beq_self_eq_true, if_true]
      split
      next here => rw [← here, same]
      next => rfl
    · simp only [beq_iff_eq, if_neg same, file?_replace, eq_comm (a := place)]

/-- A task that wrote its output where this is due has changed the output file alone. -/
theorem file?_after_output {due : Prop} [Decidable due] {output : Option String}
    {content : ByteArray}
    (written : outcome.written = if due then output.map (·, content) else none) (place : Place) :
    (tree.after outcome).file? place =
      if due ∧ output.bind tree.fileBelow? = some place then some content
      else tree.file? place := by
  by_cases filed : due
  · rw [if_pos filed] at written
    cases output with
    | none => rw [after_of_unwritten written, if_neg (by simp)]
    | some path =>
      rw [file?_after written, Option.bind_some]
      simp only [filed, true_and]
  · rw [if_neg filed] at written
    rw [after_of_unwritten written, if_neg fun both => filed both.1]

end FileTree

/-- Whether a destination takes these bytes: a device that never has room takes none. -/
def Destination.Takes (destination : Destination) (content : ByteArray) : Prop :=
  destination = .full → content = .empty

namespace Task

/-- What takes the output: standard output, or else what the path of the output leads to, if
anything there does. -/
def target (disk : Disk) : Option String → Option Destination
  | none => some .standardOutput
  | some path => disk.destination? path

/-- A device that never has room takes an output that is empty. -/
theorem deliverNowhere_of_empty {manifest : Manifest} {model : Model}
    (empty : (manifest.render model .unlimited).store.content = .empty) :
    (∃ summary, (deliverNowhere manifest model).result = .ok summary) ∧
      (deliverNowhere manifest model).store.content = .empty := by
  let store := Store.create (some heldSize) .diskFull
  have nothing : (manifest.source model).toUTF8 = .empty :=
    (Manifest.render_unlimited manifest model).2.symm.trans empty
  have fits : store.Fits (manifest.source model).toUTF8 := by
    rw [nothing]
    exact Store.fits_empty
  obtain ⟨content, outcome⟩ := Manifest.render_of_fits manifest model store fits
  rw [nothing, Store.offered_empty] at outcome
  rw [nothing] at content
  have held : (manifest.render model store).store.content = .empty := content
  rcases outcome with done | ⟨full, -⟩
  · have whole : deliverNowhere manifest model = manifest.render model store := by
      rw [deliverNowhere, done, held]
      rfl
    rw [whole]
    exact ⟨⟨_, done⟩, held⟩
  · cases full

/-- A destination that takes the output gets all of it. -/
theorem deliverTo_of_takes {destination : Destination} {manifest : Manifest} {model : Model}
    (takes : destination.Takes (manifest.render model .unlimited).store.content) :
    (∃ summary, (deliverTo destination manifest model).result = .ok summary) ∧
      (deliverTo destination manifest model).store.content =
        (manifest.render model .unlimited).store.content := by
  have done := (Manifest.render_unlimited manifest model).1
  cases destination with
  | standardOutput | file | void => exact ⟨⟨_, done⟩, rfl⟩
  | full =>
    have empty := takes rfl
    rw [empty]
    exact deliverNowhere_of_empty empty

/-- With accepted inputs and a destination that takes the output, a task succeeds. The output is
shown, or it is the content of the output file. -/
theorem deliver_of_takes {disk : Disk} {manifest : Manifest} {model : Model}
    {output : Option String} {destination : Destination} (trace : List TraceRecord)
    (chosen : target disk output = some destination)
    (takes : destination.Takes (manifest.render model .unlimited).store.content) :
    let outcome := deliver disk manifest model output trace
    let content := (manifest.render model .unlimited).store.content
    outcome.failure = none ∧
      outcome.printed = (if destination = .standardOutput then content else .empty) ∧
      outcome.written = if destination = .file then output.map (·, content) else none := by
  obtain ⟨⟨summary, done⟩, whole⟩ := deliverTo_of_takes takes
  intro outcome content
  cases output with
  | none =>
    cases chosen
    simp only [outcome, deliver, Option.map_none, Option.bind_none, Option.getD_none, done, whole]
    exact ⟨trivial, rfl, trivial⟩
  | some path =>
    have found : disk.destination? path = some destination := chosen
    simp only [outcome, deliver, Option.map_some, found, Option.bind_some, Option.getD_some, done,
      whole]
    exact ⟨trivial, rfl, rfl⟩

/-- Where nothing takes the output, no output is begun. -/
theorem deliver_of_untaken {disk : Disk} {output : Option String}
    (untaken : target disk output = none) (manifest : Manifest) (model : Model)
    (trace : List TraceRecord) :
    ∃ error, deliver disk manifest model output trace = .failed trace error := by
  cases output with
  | none => cases untaken
  | some path =>
    have found : disk.destination? path = none := untaken
    refine ⟨.uncreatableOutput path, ?_⟩
    rw [deliver, Option.map_some, found]

section Inputs

variable {disk : Disk} {model : String} {manifest : Option String}

/-- Whether one of the inputs of a generation is refused. -/
def Refused (disk : Disk) (model : String) (manifest : Option String) : Prop :=
  (∃ error, Manifest.Refused disk manifest error) ∨ ∃ error, Model.Refused disk model error

/-- Whether the inputs of a generation are accepted as this manifest and this model. -/
def Accepted (disk : Disk) (model : String) (manifest : Option String) (loaded : Manifest)
    (described : Model) : Prop :=
  Manifest.Accepted disk manifest loaded ∧ Model.Accepted disk model described

/-- The inputs of a generation are refused or accepted. -/
theorem refused_or_accepted (disk : Disk) (model : String) (manifest : Option String) :
    Refused disk model manifest ∨
      ∃ loaded described, Accepted disk model manifest loaded described := by
  rcases Manifest.refused_or_accepted disk manifest with bad | ⟨loaded, fine⟩
  · exact .inl (.inl bad)
  · rcases Model.refused_or_accepted disk model with bad | ⟨described, described_fine⟩
    · exact .inl (.inr bad)
    · exact .inr ⟨loaded, described, fine, described_fine⟩

/-- With accepted inputs, a task goes on to deliver its output. -/
theorem generateOn_of_accepted (output : Option String) {loaded : Manifest} {described : Model}
    (fine : Accepted disk model manifest loaded described) :
    generateOn disk model manifest output =
      deliver disk loaded described output (Manifest.loadTrace disk manifest) := by
  have read : inputs disk model manifest = .ok (loaded, described) := by
    rw [inputs, Manifest.load_of_accepted fine.1, Model.ofFile_of_accepted fine.2]
    rfl
  rw [generateOn, read]

/-- With a refused input, a task loads no inputs. -/
theorem exists_inputs_eq_error (bad : Refused disk model manifest) :
    ∃ error, inputs disk model manifest = .error error := by
  rcases Manifest.refused_or_accepted disk manifest with ⟨error, refused⟩ | ⟨loaded, fine⟩
  · exact ⟨error, by rw [inputs, Manifest.load_of_refused refused]; rfl⟩
  · rcases bad with ⟨error, refused⟩ | ⟨error, refused⟩
    · cases (Manifest.load_of_refused refused).symm.trans (Manifest.load_of_accepted fine)
    · refine ⟨error, ?_⟩
      rw [inputs, Manifest.load_of_accepted fine, Model.ofFile_of_refused refused]
      rfl

/-- With a refused input, or with nothing that takes the output, a task ends before it begins any
output. -/
theorem generateOn_of_stopped {output : Option String}
    (stopped : Refused disk model manifest ∨ target disk output = none) :
    ∃ error, generateOn disk model manifest output =
      .failed (Manifest.loadTrace disk manifest) error := by
  have ended (bad : Refused disk model manifest) : ∃ error,
      generateOn disk model manifest output =
        .failed (Manifest.loadTrace disk manifest) error := by
    obtain ⟨error, failed⟩ := exists_inputs_eq_error bad
    exact ⟨error, by rw [generateOn, failed]⟩
  rcases refused_or_accepted disk model manifest with bad | ⟨loaded, described, fine⟩
  · exact ended bad
  · rcases stopped with bad | untaken
    · exact ended bad
    · rw [generateOn_of_accepted output fine]
      exact deliver_of_untaken untaken loaded described _

end Inputs

/-- A generation begins no output until its inputs are accepted, and refuses every input that it
does not accept. With a refused input, or with nothing that takes the output, it fails, shows
nothing and leaves every file as it is, even one that is input and output at once. With accepted
inputs and a destination that takes the output, it succeeds, and the output is what the manifest
writes for the model with unlimited room: it is shown, or it is the content of the output file,
which is the only file that changes. -/
theorem generate_waits_for_inputs (tree : FileTree) (model : String)
    (manifest output : Option String) :
    let outcome := perform tree.disk (.generate model manifest output)
    (IsOptionValue model → (∀ path ∈ manifest, IsOptionValue path) →
      (∀ path ∈ output, IsOptionValue path) →
        Invocation.ofArguments ("generate" :: optionArguments model manifest output) =
          .ok ⟨false, .generate model manifest output⟩) ∧
    (Refused tree.disk model manifest ∨
      ∃ loaded described, Accepted tree.disk model manifest loaded described) ∧
    (Refused tree.disk model manifest ∨ target tree.disk output = none →
      outcome.exitCode = 1 ∧ outcome.printed = .empty ∧ outcome.written = none ∧
        tree.after outcome = tree) ∧
    ∀ loaded described, Accepted tree.disk model manifest loaded described →
      let content := (loaded.render described .unlimited).store.content
      ∀ destination, target tree.disk output = some destination → destination.Takes content →
        outcome.exitCode = 0 ∧
        outcome.printed = (if destination = .standardOutput then content else .empty) ∧
        outcome.written = (if destination = .file then output.map (·, content) else none) ∧
        (tree.after outcome).directories = tree.directories ∧
        ∀ place, (tree.after outcome).file? place =
          if destination = .file ∧ output.bind tree.fileBelow? = some place then some content
          else tree.file? place := by
  intro outcome
  refine ⟨Invocation.ofArguments_generate, refused_or_accepted _ _ _, fun stopped => ?_, ?_⟩
  · obtain ⟨error, ended⟩ := generateOn_of_stopped stopped
    have failed : outcome = .failed (Manifest.loadTrace tree.disk manifest) error := ended
    rw [failed]
    exact ⟨rfl, rfl, rfl, FileTree.after_of_unwritten rfl⟩
  · intro loaded described fine content destination chosen takes
    obtain ⟨succeeded, printed, written⟩ := deliver_of_takes
      (Manifest.loadTrace tree.disk manifest) chosen takes
    rw [← generateOn_of_accepted output fine] at succeeded printed written
    have exit : outcome.exitCode = 0 := if_pos (Option.isNone_iff_eq_none.mpr succeeded)
    exact ⟨exit, printed, written, FileTree.directories_after tree outcome,
      FileTree.file?_after_output written⟩

/-- A tree with a model of one contract and an older output. -/
def draftTree : FileTree := ⟨[], [(["model.json"],
    "\x7b\"contracts\":[\x7b\"name\":\"A\",\"members\":[]\x7d],\"entities\":[]\x7d".toUTF8),
  (["out.cs"], "old".toUTF8)]⟩

/-- The older output gives way to the new one. Where it is to be the model, it is refused and stays
as it is. -/
theorem generate_waits_for_inputs_draft :
    let done := perform draftTree.disk (.generate "model.json" none (some "out.cs"))
    let refused := perform draftTree.disk (.generate "out.cs" none (some "out.cs"))
    Accepted draftTree.disk "model.json" none .stock ⟨[⟨"A", [], []⟩], []⟩ ∧
      done.exitCode = 0 ∧
      (draftTree.after done).file? ["out.cs"] =
        some (Manifest.stock.render ⟨[⟨"A", [], []⟩], []⟩ .unlimited).store.content ∧
      (draftTree.after done).file? ["model.json"] = draftTree.file? ["model.json"] ∧
      Refused draftTree.disk "out.cs" none ∧ refused.exitCode = 1 ∧
      draftTree.after refused = draftTree := by
  have manifest : Manifest.Accepted draftTree.disk none .stock := .stock rfl (by decide +kernel)
  have model : Model.Accepted draftTree.disk "model.json" ⟨[⟨"A", [], []⟩], []⟩ :=
    ⟨_, rfl, by decide +kernel⟩
  have malformed : Model.ofJson "old".toUTF8 = .error .malformed := by decide +kernel
  have output : target draftTree.disk (some "out.cs") = some .file := by decide +kernel
  have place : draftTree.fileBelow? "out.cs" = some ["out.cs"] := by decide +kernel
  have bad : Refused draftTree.disk "out.cs" none := .inr ⟨_, .syntax_fault rfl malformed⟩
  obtain ⟨-, -, -, delivers⟩ :=
    generate_waits_for_inputs draftTree "model.json" none (some "out.cs")
  obtain ⟨exit, -, -, -, files⟩ := delivers _ _ ⟨manifest, model⟩ _ output nofun
  obtain ⟨-, -, stops, -⟩ := generate_waits_for_inputs draftTree "out.cs" none (some "out.cs")
  obtain ⟨failed, -, -, same⟩ := stops (.inl bad)
  refine ⟨⟨manifest, model⟩, exit, ?_, ?_, bad, failed, same⟩
  · rw [files, Option.bind_some, place, if_pos ⟨rfl, rfl⟩]
  · rw [files, Option.bind_some, place, if_neg (by simp)]

end Task

end MessageContracts
