/-!
# Arguments

What the arguments of the program ask for. An option may stand before or after the operand, take its
value after an equals sign, directly or as the next argument, and short flags may share a dash. An
argument that is no option, a repeated option or a missing value makes the whole line a misuse. A
line is read from the left: who asks for help gets it, unless there was a misuse before.
-/

namespace BpmnWorkflow

inductive OutputFormat
  | json
  | yaml
  deriving DecidableEq, Repr

def OutputFormat.ofLabel? : String → Option OutputFormat
  | "json" => some json
  | "yaml" => some yaml
  | _ => none

inductive Command
  | compile (input : String) (name output : Option String) (format : OutputFormat) (strict : Bool)
  | check (input : String) (name : Option String)
  deriving DecidableEq, Repr

def Command.input : Command → String
  | compile input .. => input
  | check input _ => input

inductive Verb
  | compile
  | check
  deriving DecidableEq, Repr

def Verb.ofName? : String → Option Verb
  | "compile" => some compile
  | "check" => some check
  | _ => none

inductive HelpTopic
  | program
  | verb (verb : Verb)
  | help
  deriving DecidableEq, Repr

inductive Invocation
  | version
  | help (topic : HelpTopic)
  | run (quiet : Bool) (command : Command)
  deriving DecidableEq, Repr

namespace CommandLine

/-! ### Options of a command -/

/-- What one argument, or an option with its value, says. -/
inductive Setting
  | help
  | quiet
  | strict
  | name (value : String)
  | output (path : String)
  | format (format : OutputFormat)
  | operand (text : String)
  deriving DecidableEq, Repr

/-- An option stands for itself or takes a value, which it may refuse. -/
inductive Switch
  | flag (setting : Setting)
  | valued (setting? : String → Option Setting)

def outputPath? (path : String) : Option Setting := if path.isEmpty then none else some (.output path)

def Switch.ofWord? : Verb → String → Option Switch
  | _, "help" => some (.flag .help)
  | _, "quiet" => some (.flag .quiet)
  | _, "name" => some (.valued (some ∘ .name))
  | .compile, "output" => some (.valued outputPath?)
  | .compile, "format" => some (.valued fun label => (OutputFormat.ofLabel? label).map .format)
  | .compile, "strict" => some (.flag .strict)
  | _, _ => none

def Switch.ofLetter? (verb : Verb) : Char → Option Switch
  | 'h' => ofWord? verb "help"
  | 'q' => ofWord? verb "quiet"
  | 'n' => ofWord? verb "name"
  | 'o' => ofWord? verb "output"
  | _ => none

/-- The settings in one argument, and what still waits for its value in the next one. -/
structure Found where
  settings : List Setting
  waiting : Option (String → Option Setting) := none

/-- Reads the letters after a dash: flags, and last an option with a value or without. Nothing is read
after a request for help. -/
def readLetters (verb : Verb) : List Char → Option Found
  | [] => some ⟨[], none⟩
  | letter :: rest =>
    match Switch.ofLetter? verb letter with
    | none => none
    | some (.flag .help) => some ⟨[.help], none⟩
    | some (.flag setting) =>
      (readLetters verb rest).map fun found => { found with settings := setting :: found.settings }
    | some (.valued setting?) =>
      match rest with
      | [] => some ⟨[], setting?⟩
      | '=' :: value => (setting? (.ofList value)).map fun setting => ⟨[setting], none⟩
      | value => (setting? (.ofList value)).map fun setting => ⟨[setting], none⟩

def readWord (verb : Verb) (word : List Char) : Option Found :=
  match Switch.ofWord? verb (.ofList (word.takeWhile (· != '='))), word.dropWhile (· != '=') with
  | some (.flag setting), [] => some ⟨[setting], none⟩
  | some (.valued setting?), [] => some ⟨[], setting?⟩
  | some (.valued setting?), _ :: value =>
    (setting? (.ofList value)).map fun setting => ⟨[setting], none⟩
  | _, _ => none

def readArgument (verb : Verb) (argument : String) : Option Found :=
  match argument.toList with
  | '-' :: '-' :: word => readWord verb word
  | '-' :: letter :: letters => readLetters verb (letter :: letters)
  | _ => some ⟨[.operand argument], none⟩

def isValue (argument : String) : Bool := argument == "-" || argument.toList.head? != some '-'

/-- The settings of a line. Two dashes end the options; a request for help ends the line. -/
def settings (verb : Verb) : List String → Option (List Setting)
  | [] => some []
  | "--" :: rest => some (rest.map .operand)
  | argument :: rest =>
    match readArgument verb argument, rest with
    | none, _ => none
    | some ⟨found, none⟩, rest =>
      if found.contains .help then some found else (settings verb rest).map (found ++ ·)
    | some ⟨_, some _⟩, [] => none
    | some ⟨found, some setting?⟩, value :: rest =>
      if isValue value then
        match setting? value with
        | none => none
        | some setting => (settings verb rest).map (found ++ setting :: ·)
      else none

/-! ### From settings to a command -/

/-- The one setting that `pick` finds, or none; more than one is a misuse. -/
def atMostOne {α : Type} (pick : Setting → Option α) (found : List Setting) : Option (Option α) :=
  match found.filterMap pick with
  | [] => some none
  | [one] => some (some one)
  | _ => none

def Setting.isQuiet? : Setting → Option Unit
  | quiet => some ()
  | _ => none

def Setting.isStrict? : Setting → Option Unit
  | strict => some ()
  | _ => none

def Setting.name? : Setting → Option String
  | name value => some value
  | _ => none

def Setting.output? : Setting → Option String
  | output path => some path
  | _ => none

def Setting.format? : Setting → Option OutputFormat
  | format f => some f
  | _ => none

def Setting.operand? : Setting → Option String
  | operand text => some text
  | _ => none

/-- What settings ask for. The only operand is the input, which help does without. -/
def invocation? (verb : Verb) (quiet : Bool) (found : List Setting) : Option Invocation := do
  let quieter ← atMostOne Setting.isQuiet? found
  let strict ← atMostOne Setting.isStrict? found
  let name ← atMostOne Setting.name? found
  let output ← atMostOne Setting.output? found
  let format ← atMostOne Setting.format? found
  let operand ← atMostOne Setting.operand? found
  if operand == some "" then none
  if found.contains .help then return .help (.verb verb)
  let input ← operand
  let command : Command :=
    match verb with
    | .compile => .compile input name output (format.getD .json) strict.isSome
    | .check => .check input name
  return .run (quiet || quieter.isSome) command

/-! ### Before the command -/

inductive Opening
  | version
  | help
  | command (quiet : Bool)

/-- Reads the letters after a dash; asking for the version or for help settles the line. -/
def openingLetters (quiet : Bool) : List Char → Option Opening
  | [] => some (.command quiet)
  | 'V' :: _ => some .version
  | 'h' :: _ => some .help
  | 'q' :: rest => if quiet then none else openingLetters true rest
  | _ => none

def opening (quiet : Bool) (argument : String) : Option Opening :=
  if argument == "--version" then some .version
  else if argument == "--help" then some .help
  else if argument == "--quiet" then if quiet then none else some (.command true)
  else
    match argument.toList with
    | '-' :: letter :: letters => openingLetters quiet (letter :: letters)
    | _ => none

def helpTopic? : List String → Option HelpTopic
  | [] => some .program
  | ["help"] => some .help
  | [name] => (Verb.ofName? name).map .verb
  | _ => none

/-- Reads a line of arguments, of which a quiet flag may already have been read. -/
def parseFrom (quiet : Bool) : List String → Option Invocation
  | [] => none
  | "help" :: topic => (helpTopic? topic).map .help
  | argument :: rest =>
    match Verb.ofName? argument with
    | some verb => (settings verb rest).bind (invocation? verb quiet)
    | none =>
      match opening quiet argument with
      | none => none
      | some .version => some .version
      | some .help => some (.help .program)
      | some (.command quiet) => parseFrom quiet rest

end CommandLine

def Invocation.ofArguments? (arguments : List String) : Option Invocation :=
  CommandLine.parseFrom false arguments

end BpmnWorkflow
