import MessageContracts.Proofs.AcceptedInputs
import MessageContracts.Proofs.ManifestDocuments

/-!
# A check says what a generation does

A check looks for the manifest at the path that is named, or else at the stock path; a generation
that finds nothing at the stock path uses the stock manifest instead. Wherever a generation reads a
manifest at all, the two read the same one and refuse it for the same reason. A check that passes
has read one, so no generation with the same options fails because of the manifest. It writes no
file, and it shows every interface of the manifest.
-/

namespace MessageContracts

/-- Whether a task failed because of its manifest. -/
def CommandError.BlamesManifest : CommandError → Prop
  | .unreadableManifest _ | .manifestSyntax _ | .invalidManifest _ => True
  | .unreadableModel _ | .modelSyntax _ _ | .uncreatableOutput _ | .delivery _ => False

namespace Manifest

/-- The path at which a check looks for the manifest. -/
def checkedPath (named : Option String) : String := named.getD stockPath

/-- The first line that a check shows. -/
def titleLine (named : Option String) : String := "Checking manifest: " ++ checkedPath named

/-- The line that a check shows of an interface: its name and its tags. -/
def interfaceLine (rule : InterfaceRule) : String :=
  "    " ++ rule.name.source ++ " <- [" ++ ", ".intercalate rule.tags ++ "]"

/-- The lines that a check shows of a manifest that passes, with one of them for each interface. -/
def passedLines (manifest : Manifest) : List String :=
  ["✓ Namespace: " ++ manifest.settings.namespaceToOpen.getD "(none)",
    "✓ Region: " ++ manifest.settings.regionToOpen.getD "(none)",
    "✓ Interfaces: " ++ manifest.settings.interfaces.length.repr] ++
  manifest.settings.interfaces.map interfaceLine ++ ["", "Manifest is valid!"]

/-- Lines as they are shown, each with its end. -/
def shownLines (lines : List String) : ByteArray := (String.join (lines.map (· ++ "\n"))).toUTF8

variable {disk : Disk} {named : Option String}

/-- A refused manifest is to blame. -/
theorem Refused.blamesManifest {error : CommandError} (refused : Refused disk named error) :
    error.BlamesManifest := by
  cases refused <;> trivial

/-- Where a generation reads a manifest, it loads what a check loads. -/
theorem load_eq_load_checkedPath (here : IsAt disk named (checkedPath named)) :
    load disk named = load disk (some (checkedPath named)) := by
  rw [load_of_isAt here, load_of_isAt (.inl rfl)]

/-- A generation reads a manifest where a check does if one is named or something stands at the
stock path. -/
theorem isAt_checkedPath (given : named.isSome ∨ disk.exists? stockPath = true) :
    IsAt disk named (checkedPath named) := by
  cases named with
  | some path => exact .inl rfl
  | none => exact .inr ⟨rfl, rfl, given.resolve_left Bool.false_ne_true⟩

/-- The line of an interface ends as in the description of a manifest. -/
theorem map_interfaceLine (rules : List InterfaceRule) :
    (rules.map interfaceLine).map (· ++ "\n") = rules.map ruleLine := by
  rw [List.map_map]
  refine List.map_congr_left fun rule _ => ?_
  rw [Function.comp_apply, interfaceLine, ruleLine, String.append_assoc]
  rfl

/-- The lines that a check shows are a title and, of a manifest that passes, its description. -/
theorem shownLines_passedLines (named : Option String) (manifest : Manifest) :
    shownLines (titleLine named :: passedLines manifest) =
      (titleLine named ++ "\n" ++ manifest.description).toUTF8 := by
  have last : "" ++ ("\n" ++ ("Manifest is valid!" ++ ("\n" ++ ""))) =
      "\nManifest is valid!\n" := by
    decide +kernel
  refine congrArg String.toUTF8 ?_
  unfold passedLines description
  simp only [List.cons_append, List.nil_append, List.map_cons, List.map_append, List.map_nil,
    map_interfaceLine, String.join_cons, String.join_append, String.join_nil, nameOrNone,
    String.append_assoc, last]

/-- The title alone is a line. -/
theorem shownLines_titleLine (named : Option String) :
    shownLines [titleLine named] = (titleLine named ++ "\n").toUTF8 := by
  rw [shownLines, List.map_singleton, String.join_cons, String.join_nil, String.append_empty]

end Manifest

/-- What can be read as text stands there. -/
theorem FileTree.exists_of_text? {tree : FileTree} {path text : String}
    (read : tree.disk.text? path = some text) : tree.disk.exists? path = true := by
  obtain ⟨content, found, -⟩ := Option.bind_eq_some_iff.mp read
  obtain ⟨place, leads, stands⟩ := Option.bind_eq_some_iff.mp found
  simp only [disk, leads, Option.any_some, stands, Option.isSome_some, Bool.or_true]

namespace Task

/-- What a check has found that passes, and what follows for every generation. -/
structure Passes (tree : FileTree) (named : Option String) (manifest : Manifest) : Prop where
  /-- The text at the path describes the manifest, which has no fault. -/
  described : ∃ text, tree.disk.text? (Manifest.checkedPath named) = some text ∧
    Manifest.ofToml text = .ok manifest ∧ manifest.fault? = none
  /-- The manifest's lines are shown behind the title. -/
  shown : (perform tree.disk (.check named)).printed =
    Manifest.shownLines (Manifest.titleLine named :: manifest.passedLines)
  /-- A generation loads the same manifest from the same place. -/
  loaded : Manifest.IsAt tree.disk named (Manifest.checkedPath named) ∧
    Manifest.load tree.disk named = .ok manifest
  /-- With that manifest it goes on to deliver its output, unless the model is refused. -/
  delivered : ∀ model output,
    (∃ error, Model.Refused tree.disk model error ∧
      perform tree.disk (.generate model named output) =
        .failed (Manifest.loadTrace tree.disk named) error) ∨
    ∃ described, Model.Accepted tree.disk model described ∧
      perform tree.disk (.generate model named output) =
        deliver tree.disk manifest described output (Manifest.loadTrace tree.disk named)
  /-- It never fails because of the manifest. -/
  blameless : ∀ model output, ∀ error ∈ (perform tree.disk (.generate model named output)).failure,
    ¬error.BlamesManifest
  /-- It succeeds if the model is accepted and something takes the output. -/
  succeeds : ∀ model output described destination, Model.Accepted tree.disk model described →
    target tree.disk output = some destination →
    destination.Takes (manifest.render described .unlimited).store.content →
    (perform tree.disk (.generate model named output)).exitCode = 0

/-- What a check has found that fails, and what follows for every generation. -/
structure Fails (tree : FileTree) (named : Option String) (error : CommandError) : Prop where
  /-- The check has failed because of the manifest. -/
  refused : (perform tree.disk (.check named)).failure = some error ∧ error.BlamesManifest
  /-- Nothing is shown but the title. -/
  shown : (perform tree.disk (.check named)).printed =
    Manifest.shownLines [Manifest.titleLine named]
  /-- A generation that reads a manifest fails for the same reason. -/
  stopped : named.isSome ∨ tree.disk.exists? Manifest.stockPath = true → ∀ model output,
    perform tree.disk (.generate model named output) =
      .failed (Manifest.loadTrace tree.disk named) error

section Checks

variable {disk : Disk} {named : Option String}

/-- A check of a refused manifest fails with its title. -/
theorem checkOn_of_refused {error : CommandError}
    (refused : Manifest.Refused disk (some (Manifest.checkedPath named)) error) :
    checkOn disk named =
      ⟨Manifest.shownLines [Manifest.titleLine named], none, [], some error⟩ := by
  have loaded := Manifest.load_of_refused refused
  rw [Manifest.load_of_isAt (.inl rfl), Manifest.checkedPath] at loaded
  rw [checkOn, Manifest.shownLines_titleLine]
  simp only [loaded]
  rfl

/-- A check of an accepted manifest shows its lines. -/
theorem checkOn_of_accepted {manifest : Manifest}
    (fine : Manifest.Accepted disk (some (Manifest.checkedPath named)) manifest) :
    checkOn disk named =
      ⟨Manifest.shownLines (Manifest.titleLine named :: manifest.passedLines), none, [], none⟩ := by
  have loaded := Manifest.load_of_accepted fine
  rw [Manifest.load_of_isAt (.inl rfl), Manifest.checkedPath] at loaded
  rw [checkOn, Manifest.shownLines_passedLines]
  simp only [loaded]
  rfl

/-- A refused model is not the manifest's fault. -/
theorem not_blamesManifest_of_refused {model : String} {error : CommandError}
    (refused : Model.Refused disk model error) : ¬error.BlamesManifest := by
  cases refused <;> exact id

/-- A delivery that fails is not the manifest's fault. -/
theorem not_blamesManifest_of_deliver {manifest : Manifest} {model : Model}
    {output : Option String} {trace : List TraceRecord} {error : CommandError}
    (failed : error ∈ (deliver disk manifest model output trace).failure) :
    ¬error.BlamesManifest := by
  rw [deliver] at failed
  split at failed
  next path unplaced =>
    cases failed
    exact id
  next placed =>
    dsimp only at failed
    split at failed
    next => cases failed
    next cause lost =>
      cases failed
      exact id

/-- A generation goes on with an accepted manifest, unless the model is refused. -/
theorem generateOn_of_accepted_manifest {manifest : Manifest}
    (fine : Manifest.Accepted disk named manifest) (model : String) (output : Option String) :
    (∃ error, Model.Refused disk model error ∧
      generateOn disk model named output = .failed (Manifest.loadTrace disk named) error) ∨
    ∃ described, Model.Accepted disk model described ∧
      generateOn disk model named output =
        deliver disk manifest described output (Manifest.loadTrace disk named) := by
  rcases Model.refused_or_accepted disk model with ⟨error, refused⟩ | ⟨described, accepted⟩
  · have read : inputs disk model named = .error error := by
      rw [inputs, Manifest.load_of_accepted fine, Model.ofFile_of_refused refused]
      rfl
    exact .inl ⟨error, refused, by rw [generateOn, read]⟩
  · exact .inr ⟨described, accepted, generateOn_of_accepted output ⟨fine, accepted⟩⟩

/-- So an accepted manifest is never to blame. -/
theorem not_blamesManifest_of_accepted {manifest : Manifest}
    (fine : Manifest.Accepted disk named manifest) {model : String} {output : Option String}
    {error : CommandError} (failed : error ∈ (generateOn disk model named output).failure) :
    ¬error.BlamesManifest := by
  rcases generateOn_of_accepted_manifest fine model output with
    ⟨cause, refused, same⟩ | ⟨described, -, same⟩
  · rw [same] at failed
    cases failed
    exact not_blamesManifest_of_refused refused
  · rw [same] at failed
    exact not_blamesManifest_of_deliver failed

end Checks

section Verdicts

variable {tree : FileTree} {named : Option String}

/-- A check passes where the manifest at its path is accepted. -/
theorem passes_of_accepted {manifest : Manifest}
    (fine : Manifest.Accepted tree.disk (some (Manifest.checkedPath named)) manifest) :
    Passes tree named manifest := by
  have shown := checkOn_of_accepted fine
  cases fine with
  | stock unnamed => cases unnamed
  | read here read described faultless =>
    obtain ⟨⟨⟩⟩ | ⟨⟨⟩, -⟩ := here
    -- What has been read stands there, so a generation does not fall back to the stock manifest.
    have here : Manifest.IsAt tree.disk named (Manifest.checkedPath named) := by
      cases named with
      | some path => exact Manifest.isAt_checkedPath (.inl rfl)
      | none => exact Manifest.isAt_checkedPath (.inr (FileTree.exists_of_text? read))
    have fine : Manifest.Accepted tree.disk named manifest := .read here read described faultless
    refine ⟨⟨_, read, described, faultless⟩, ?_, ⟨here, Manifest.load_of_accepted fine⟩,
      generateOn_of_accepted_manifest fine, fun model output error => ?_, ?_⟩
    · rw [perform, shown]
    · exact not_blamesManifest_of_accepted fine
    · intro model output described destination accepted chosen takes
      obtain ⟨done, -⟩ := deliver_of_takes (Manifest.loadTrace tree.disk named) chosen takes
      rw [← generateOn_of_accepted output ⟨fine, accepted⟩] at done
      exact if_pos (Option.isNone_iff_eq_none.mpr done)

/-- A check fails where the manifest at its path is refused. -/
theorem fails_of_refused {error : CommandError}
    (refused : Manifest.Refused tree.disk (some (Manifest.checkedPath named)) error) :
    Fails tree named error := by
  have failed := checkOn_of_refused refused
  refine ⟨⟨?_, refused.blamesManifest⟩, ?_, fun given model output => ?_⟩
  · rw [perform, failed]
  · rw [perform, failed]
  · have loaded := Manifest.load_eq_load_checkedPath (Manifest.isAt_checkedPath given)
    rw [Manifest.load_of_refused refused] at loaded
    rw [perform, generateOn, inputs, loaded]
    rfl

end Verdicts

/-- A check passes or fails, and a generation with the same options agrees. If the check passes, the
generation loads just the manifest that the check has read, and it never fails because of the
manifest. If a manifest is named or something stands at the stock path, a generation that does not
fail because of the manifest has one that passes. A check changes no file; it shows a title and, if
it passes, the manifest's lines. -/
theorem check_agrees_with_generate (tree : FileTree) (named : Option String) :
    let checked := perform tree.disk (.check named)
    ((∀ path ∈ named, IsOptionValue path) →
      Invocation.ofArguments ("check" :: named.toList.flatMap Switch.manifest.arguments) =
        .ok ⟨false, .check named⟩) ∧
    checked.written = none ∧ tree.after checked = tree ∧
    ((checked.exitCode = 0 ∧ ∃ manifest, Passes tree named manifest) ∨
      checked.exitCode = 1 ∧ ∃ error, Fails tree named error) ∧
    (named.isSome ∨ tree.disk.exists? Manifest.stockPath = true → ∀ model output,
      (∀ error ∈ (perform tree.disk (.generate model named output)).failure,
        ¬error.BlamesManifest) → checked.exitCode = 0) := by
  intro checked
  refine ⟨Invocation.ofArguments_check, ?_⟩
  rcases Manifest.refused_or_accepted tree.disk (some (Manifest.checkedPath named)) with
    ⟨error, refused⟩ | ⟨manifest, fine⟩
  · have failed : checked = ⟨_, none, [], some error⟩ := checkOn_of_refused refused
    have fails : Fails tree named error := fails_of_refused refused
    rw [failed]
    refine ⟨rfl, FileTree.after_of_unwritten rfl, .inr ⟨rfl, error, fails⟩, ?_⟩
    intro given model output blameless
    have stopped := fails.stopped given model output
    exact absurd fails.refused.2 (blameless error (congrArg Outcome.failure stopped))
  · have passed : checked = ⟨_, none, [], none⟩ := checkOn_of_accepted fine
    rw [passed]
    exact ⟨rfl, FileTree.after_of_unwritten rfl,
      .inl ⟨rfl, manifest, passes_of_accepted fine⟩, fun _ _ _ _ => rfl⟩

/-- A tree with a manifest at the stock path and with a file that holds none. -/
def shopTree : FileTree := ⟨[], [
  (["codedsl.toml"], "[generator]\nnamespace = \"\"\"It's a \"shop\"\"\"\"\n".toUTF8),
  (["draft.toml"], "=".toUTF8)]⟩

/-- What is shown of the manifest at the stock path. -/
def shopLines : List String :=
  ["Checking manifest: codedsl.toml", "✓ Namespace: It's a \"shop\"",
    "✓ Region: Generated by Code DSL", "✓ Interfaces: 2",
    "    public interface I\x7b0\x7dAggregate <- [?]",
    "    public interface I\x7b0\x7dAggregateState <- [!]", "", "Manifest is valid!"]

/-- The manifest at the stock path passes, with a line for each of the two stock interfaces. The
other file fails a check, and it stops every generation. -/
theorem check_agrees_with_generate_shopTree :
    let passed := perform shopTree.disk (.check none)
    let failed := perform shopTree.disk (.check (some "draft.toml"))
    passed.exitCode = 0 ∧ passed.printed = Manifest.shownLines shopLines ∧
      Manifest.load shopTree.disk none = .ok Manifest.quotedShop ∧
      failed.exitCode = 1 ∧
      failed.printed = Manifest.shownLines ["Checking manifest: draft.toml"] ∧
      ∀ model output, (perform shopTree.disk (.generate model (some "draft.toml") output)).failure =
        some (.manifestSyntax .malformed) := by
  have shop : Manifest.Accepted shopTree.disk (some "codedsl.toml") Manifest.quotedShop :=
    .read (.inl rfl) (by decide +kernel) Manifest.ofToml_quotedShop (by decide +kernel)
  have draft : Manifest.Refused shopTree.disk (some "draft.toml") (.manifestSyntax .malformed) :=
    .syntax_fault (.inl rfl) (by decide +kernel : _ = some "=") (by decide +kernel)
  have lines : Manifest.titleLine none :: Manifest.passedLines .quotedShop = shopLines := by
    decide +kernel
  obtain ⟨-, -, -, verdict, -⟩ := check_agrees_with_generate shopTree none
  have passes : (perform shopTree.disk (.check none)).exitCode = 0 ∧
      Passes shopTree none .quotedShop := by
    rcases verdict with ⟨exit, manifest, passes⟩ | ⟨-, error, fails⟩
    · have same := (Manifest.load_eq_load_checkedPath passes.loaded.1).symm.trans passes.loaded.2
      cases (Manifest.load_of_accepted shop).symm.trans same
      exact ⟨exit, passes⟩
    · have accepted := congrArg Outcome.failure (@checkOn_of_accepted _ none _ shop)
      cases accepted.symm.trans fails.refused.1
  obtain ⟨-, -, -, verdict, -⟩ := check_agrees_with_generate shopTree (some "draft.toml")
  have fails : (perform shopTree.disk (.check (some "draft.toml"))).exitCode = 1 ∧
      Fails shopTree (some "draft.toml") (.manifestSyntax .malformed) := by
    rcases verdict with ⟨-, manifest, passes⟩ | ⟨exit, error, fails⟩
    · cases (Manifest.load_of_refused draft).symm.trans passes.loaded.2
    · have refused := congrArg Outcome.failure (@checkOn_of_refused _ (some "draft.toml") _ draft)
      cases refused.symm.trans fails.refused.1
      exact ⟨exit, fails⟩
  refine ⟨passes.1, lines ▸ passes.2.shown, passes.2.loaded.2, fails.1, fails.2.shown, ?_⟩
  exact fun model output => congrArg Outcome.failure (fails.2.stopped (.inl rfl) model output)

end Task

end MessageContracts
