/-!
# Command lines

A command line names a task and its options. Options are given by letter or by name; letters may
stand together, and a value may be attached or follow as an argument of its own. No option is given
twice on the same side of the task's name, a value is never empty, and an argument that looks like
an option is no value. A request for help or for the version counts as soon as it is met.
-/

namespace MessageContracts

/-- What the program is asked to do. -/
inductive Task where
  /-- Generate source text from the model at a path. -/
  | generate (model : String) (manifest output : Option String)
  /-- Check a manifest. -/
  | check (manifest : Option String)
  /-- Show the stock manifest. -/
  | defaults
deriving DecidableEq, Repr

/-- A command line that names a task. -/
structure Invocation where
  /-- Whether steps are logged too. -/
  verbose : Bool
  /-- What to do. -/
  task : Task
deriving DecidableEq, Repr

/-- How a command line ends that names no task to perform. -/
inductive Ending where
  /-- The command line is not understood. -/
  | misuse
  /-- Help is asked for. -/
  | help
  /-- The version is asked for. -/
  | version
deriving DecidableEq, Repr

/-- An option of a command line. -/
inductive Switch where
  /-- Log steps too. -/
  | verbose
  /-- Show help. -/
  | help
  /-- Show the version. -/
  | version
  /-- The path of the model. -/
  | model
  /-- The path of the manifest. -/
  | manifest
  /-- The path of the output. -/
  | output
deriving DecidableEq, Repr

namespace Switch

/-- The letter of an option. -/
def letter : Switch → Char
  | verbose => 'v'
  | help => 'h'
  | version => 'V'
  | model => 'm'
  | manifest => 'c'
  | output => 'o'

/-- The name of an option. -/
def name : Switch → String
  | verbose => "verbose"
  | help => "help"
  | version => "version"
  | model => "model"
  | manifest => "manifest"
  | output => "output"

/-- Whether an option takes a value. -/
def takesValue : Switch → Bool
  | model | manifest | output => true
  | verbose | help | version => false

end Switch

/-- The options given so far, with their values. -/
abbrev GivenOptions := List (Switch × String)

namespace GivenOptions

/-- Add an option. -/
def add (given : GivenOptions) (switch : Switch) (value : String) : Except Ending GivenOptions :=
  if switch = .help then .error .help
  else if switch = .version then .error .version
  else if (given.lookup switch).isSome || (switch.takesValue && value == "") then .error .misuse
  else .ok ((switch, value) :: given)

/-- Add the options of a row of letters. An option that still needs a value is returned. -/
def addLetters (allowed : List Switch) :
    List Char → GivenOptions → Except Ending (GivenOptions × Option Switch)
  | [], given => .ok (given, none)
  | letter :: rest, given =>
    match allowed.find? (·.letter == letter) with
    | none => .error .misuse
    | some switch =>
      if switch.takesValue then
        match rest with
        | [] => .ok (given, some switch)
        | '=' :: value => do return (← given.add switch (String.ofList value), none)
        | value => do return (← given.add switch (String.ofList value), none)
      else do addLetters allowed rest (← given.add switch "")

/-- Add an option by name, with a value after an equals sign if it takes one. An option that still
needs a value is returned. -/
def addName (allowed : List Switch) (word : List Char) (given : GivenOptions) :
    Except Ending (GivenOptions × Option Switch) :=
  let name := String.ofList (word.takeWhile (· != '='))
  match allowed.find? (·.name == name), word.dropWhile (· != '=') with
  | none, _ => .error .misuse
  | some switch, [] =>
    if switch.takesValue then .ok (given, some switch)
    else do return (← given.add switch "", none)
  | some switch, _ :: value =>
    if switch.takesValue then do return (← given.add switch (String.ofList value), none)
    else .error .misuse

/-- Whether an argument looks like an option: a dash with something after it. -/
def looksLikeOption (argument : String) : Bool :=
  match argument.toList with
  | '-' :: _ :: _ => true
  | _ => false

/-- Add the options that an argument gives, if it gives any: a word, a lone dash and a double dash
give none. An option that still needs a value is returned. -/
def addArgument (allowed : List Switch) (argument : List Char) (given : GivenOptions) :
    Option (Except Ending (GivenOptions × Option Switch)) :=
  match argument with
  | ['-'] | ['-', '-'] => none
  | '-' :: '-' :: word => some (given.addName allowed word)
  | '-' :: letters => some (given.addLetters allowed letters)
  | _ => none

/-- Add the options at the front of the arguments, up to the first word that is none. A lone dash
is a word, and a double dash ends the options. -/
def addAll (allowed : List Switch) :
    List String → GivenOptions → Except Ending (GivenOptions × List String)
  | [], given => .ok (given, [])
  | argument :: rest, given =>
    match given.addArgument allowed argument.toList with
    | none => .ok (given, argument :: rest)
    | some (.error ending) => .error ending
    | some (.ok (given, none)) => addAll allowed rest given
    | some (.ok (given, some switch)) =>
      match rest with
      | [] => .error .misuse
      | value :: rest =>
        if looksLikeOption value then .error .misuse
        else do addAll allowed rest (← given.add switch value)

end GivenOptions

namespace Task

/-- The names of tasks. -/
def names : List String := ["generate", "check", "defaults", "help"]

/-- The options of a task's own. -/
def switches (name : String) : List Switch :=
  match name with
  | "generate" => [.model, .manifest, .output]
  | "check" => [.manifest]
  | _ => []

/-- The task of a name with its options. -/
def ofOptions (name : String) (given : GivenOptions) : Except Ending Task :=
  match name with
  | "generate" =>
    match given.lookup .model with
    | some model => .ok (.generate model (given.lookup .manifest) (given.lookup .output))
    | none => .error .misuse
  | "check" => .ok (.check (given.lookup .manifest))
  | "defaults" => .ok .defaults
  | _ => .error .misuse

end Task

namespace Invocation

/-- How a request for help ends that may name tasks. -/
def helpOn : List String → Ending
  | [] => .help
  | [name] => if Task.names.contains name then .help else .misuse
  | _ => .misuse

/-- Read a command line. -/
def ofArguments (arguments : List String) : Except Ending Invocation := do
  let (common, rest) ← GivenOptions.addAll [.verbose, .help, .version] arguments []
  match rest with
  | [] => .error .misuse
  | "help" :: rest => .error (helpOn rest)
  | name :: rest =>
    if Task.names.contains name then
      let (own, rest) ← GivenOptions.addAll ([.verbose, .help] ++ Task.switches name) rest []
      if rest = [] ∨ rest = ["--"] then
        let verbose := (common ++ own).any (·.1 = .verbose)
        return ⟨verbose, ← Task.ofOptions name own⟩
      else .error .misuse
    else .error .misuse

end Invocation

end MessageContracts
