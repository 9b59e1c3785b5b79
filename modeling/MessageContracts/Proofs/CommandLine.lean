import Mathlib.Data.List.Basic
import MessageContracts.Command.Invocation

/-!
# The command lines of a generation and a check

The options of a generation and of a check may be given by their letters, each with its value behind
it. A value is not empty and does not look like an option itself. The task that such a command line
names has just these values.
-/

namespace MessageContracts

/-- Whether an argument can be the value of an option. -/
def IsOptionValue (argument : String) : Prop :=
  argument ≠ "" ∧ GivenOptions.looksLikeOption argument = false

/-- An option given by its letter, with its value behind it. -/
def Switch.arguments (switch : Switch) (value : String) : List String :=
  [String.ofList ['-', switch.letter], value]

/-- The options of a generation as they are given. -/
def Task.optionArguments (model : String) (manifest output : Option String) : List String :=
  Switch.model.arguments model ++ (manifest.toList.flatMap Switch.manifest.arguments ++
    output.toList.flatMap Switch.output.arguments)

namespace GivenOptions

variable {allowed : List Switch} {switch : Switch} {given : GivenOptions}

/-- An option and its value are added. -/
theorem addAll_arguments {value : String} (takes : switch.takesValue = true)
    (known : allowed.find? (·.letter == switch.letter) = some switch)
    (fit : IsOptionValue value) (fresh : given.lookup switch = none) (rest : List String) :
    addAll allowed (switch.arguments value ++ rest) given =
      addAll allowed rest ((switch, value) :: given) := by
  obtain ⟨filled, plain⟩ := fit
  have added : given.add switch value = .ok ((switch, value) :: given) := by
    rw [add, fresh]
    cases switch <;> simp_all [Switch.takesValue]
  have letters : given.addLetters allowed [switch.letter] = .ok (given, some switch) := by
    rw [addLetters, known]
    simp only [takes, if_true]
  have argument : given.addArgument allowed ['-', switch.letter] =
      some (.ok (given, some switch)) := by
    rw [addArgument, letters]
    all_goals cases switch <;> simp [Switch.letter]
  rw [Switch.arguments, List.cons_append, List.cons_append, List.nil_append, addAll,
    String.toList_ofList, argument]
  simp only [plain, added]
  rfl

/-- An option that may be absent is added with its value if it is there. -/
theorem addAll_optional {value : Option String} (takes : switch.takesValue = true)
    (known : allowed.find? (·.letter == switch.letter) = some switch)
    (fit : ∀ text ∈ value, IsOptionValue text) (fresh : given.lookup switch = none)
    (rest : List String) :
    addAll allowed (value.toList.flatMap switch.arguments ++ rest) given =
      addAll allowed rest (value.toList.map (switch, ·) ++ given) := by
  cases value with
  | none => rfl
  | some text =>
    rw [Option.toList_some, List.flatMap_singleton]
    exact addAll_arguments takes known (fit text rfl) fresh rest

/-- The options of a generation are added one after the other. -/
theorem addAll_optionArguments {model : String} {manifest output : Option String}
    (named : IsOptionValue model) (manifests : ∀ text ∈ manifest, IsOptionValue text)
    (outputs : ∀ text ∈ output, IsOptionValue text) :
    addAll ([.verbose, .help] ++ Task.switches "generate")
        (Task.optionArguments model manifest output) [] =
      .ok (output.toList.map (.output, ·) ++
        (manifest.toList.map (.manifest, ·) ++ [(.model, model)]), []) := by
  have fresh : List.lookup Switch.output
      (manifest.toList.map (Switch.manifest, ·) ++ [(Switch.model, model)]) = none := by
    cases manifest <;> rfl
  rw [Task.optionArguments, addAll_arguments rfl rfl named rfl,
    addAll_optional rfl rfl manifests rfl,
    ← List.append_nil (output.toList.flatMap Switch.output.arguments),
    addAll_optional rfl rfl outputs fresh, addAll]

end GivenOptions

namespace Invocation

/-- A task's name, and its options behind it, name the task. -/
theorem ofArguments_name {name : String} {arguments : List String} {own : GivenOptions}
    {task : Task} (listed : name ∈ ["generate", "check", "defaults"])
    (read : GivenOptions.addAll ([.verbose, .help] ++ Task.switches name) arguments [] =
      .ok (own, []))
    (quiet : own.any (·.1 = .verbose) = false) (named : Task.ofOptions name own = .ok task) :
    ofArguments (name :: arguments) = .ok ⟨false, task⟩ := by
  -- The name is a word, and neither an unknown one nor the one that asks for help.
  have word : GivenOptions.addArgument [.verbose, .help, .version] name.toList [] = none ∧
      name ≠ "help" ∧ Task.names.contains name = true := by
    simp only [List.mem_cons, List.not_mem_nil, or_false] at listed
    rcases listed with rfl | rfl | rfl <;> decide
  obtain ⟨plain, no_help, known⟩ := word
  have silent : ([] ++ own).any (·.1 = Switch.verbose) = false := quiet
  rw [ofArguments, GivenOptions.addAll, plain]
  simp only [bind, Except.bind, known, if_true, read, true_or, named, silent]
  rfl

/-- The arguments of a generation name it. -/
theorem ofArguments_generate {model : String} {manifest output : Option String}
    (named : IsOptionValue model) (manifests : ∀ text ∈ manifest, IsOptionValue text)
    (outputs : ∀ text ∈ output, IsOptionValue text) :
    ofArguments ("generate" :: Task.optionArguments model manifest output) =
      .ok ⟨false, .generate model manifest output⟩ := by
  refine ofArguments_name (by decide)
    (GivenOptions.addAll_optionArguments named manifests outputs) ?_ ?_
  · cases manifest <;> cases output <;> rfl
  · cases manifest <;> cases output <;> rfl

/-- The arguments of a check name it. -/
theorem ofArguments_check {manifest : Option String}
    (manifests : ∀ text ∈ manifest, IsOptionValue text) :
    ofArguments ("check" :: manifest.toList.flatMap Switch.manifest.arguments) =
      .ok ⟨false, .check manifest⟩ := by
  have own : GivenOptions.addAll ([.verbose, .help] ++ Task.switches "check")
      (manifest.toList.flatMap Switch.manifest.arguments) [] =
        .ok (manifest.toList.map (.manifest, ·) ++ [], []) := by
    rw [← List.append_nil (manifest.toList.flatMap _),
      GivenOptions.addAll_optional rfl rfl manifests rfl, GivenOptions.addAll]
  refine ofArguments_name (by decide) own ?_ ?_
  · cases manifest <;> rfl
  · cases manifest <;> rfl

end Invocation

end MessageContracts
