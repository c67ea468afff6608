import BpmnWorkflow.CommandLine.Arguments

/-!
# Lines of arguments

Every command can be asked for: `ofArguments?_line` reads it off the line on which each option has its value attached
and the input stands behind two dashes, whatever the value and the input begin with.
-/

namespace BpmnWorkflow

def OutputFormat.label : OutputFormat → String
  | json => "json"
  | yaml => "yaml"

@[simp] theorem OutputFormat.ofLabel?_label (format : OutputFormat) : ofLabel? format.label = some format := by
  cases format <;> rfl

def Verb.name : Verb → String
  | compile => "compile"
  | check => "check"

namespace CommandLine

def Setting.argument : Setting → String
  | help => "--help"
  | quiet => "--quiet"
  | strict => "--strict"
  | name value => "--name=" ++ value
  | output path => "--output=" ++ path
  | format f => "--format=" ++ f.label
  | operand text => text

def optionsOf : Command → List Setting
  | .compile _ name output format strict =>
    name.toList.map .name ++ output.toList.map .output ++ [.format format] ++ if strict then [.strict] else []
  | .check _ name => name.toList.map .name

def verbOf : Command → Verb
  | .compile .. => .compile
  | .check .. => .check

/-- Neither the input nor the path to write to is empty. -/
def IsGiven : Command → Prop
  | .compile input _ output _ _ => input ≠ "" ∧ output ≠ some ""
  | .check input _ => input ≠ ""

def line (c : Command) : List String :=
  (verbOf c).name :: ((optionsOf c).map Setting.argument ++ ["--", c.input])

variable {verb : Verb} {argument : String} {rest : List String} {found : List Setting} {c : Command}

theorem settings_cons (read : readArgument verb argument = some ⟨found, none⟩) (onward : .help ∉ found) :
    settings verb (argument :: rest) = (settings verb rest).map (found ++ ·) := by
  rw [settings.eq_def]
  split
  · rename_i nothing
    cases nothing
  · rename_i dashes
    cases dashes
    cases read
  · rename_i whole
    cases whole
    simp only [read]
    rw [if_neg (mt List.contains_iff_mem.mp onward)]

theorem settings_operands (read : ∀ s ∈ found, readArgument verb s.argument = some ⟨[s], none⟩)
    (onward : .help ∉ found) (operand : String) :
    settings verb (found.map Setting.argument ++ ["--", operand]) = some (found ++ [.operand operand]) := by
  induction found with
  | nil => rfl
  | cons s rest ih =>
    rw [List.forall_mem_cons] at read
    rw [List.mem_cons, not_or] at onward
    have first : .help ∉ [s] := fun member => onward.1 (List.mem_singleton.mp member)
    rw [List.map_cons, List.cons_append, settings_cons read.1 first, ih read.2 onward.2]
    rfl

theorem readArgument_name (verb : Verb) (value : String) :
    readArgument verb (Setting.name value).argument = some ⟨[.name value], none⟩ := by
  cases verb <;> simp [Setting.argument, readArgument, readWord, Switch.ofWord?]

theorem readArgument_output {path : String} (given : path ≠ "") :
    readArgument .compile (Setting.output path).argument = some ⟨[.output path], none⟩ := by
  simp [Setting.argument, readArgument, readWord, Switch.ofWord?, outputPath?, given]

theorem readArgument_format (format : OutputFormat) :
    readArgument .compile (Setting.format format).argument = some ⟨[.format format], none⟩ := by
  simp [Setting.argument, readArgument, readWord, Switch.ofWord?]

theorem readArgument_strict : readArgument .compile Setting.strict.argument = some ⟨[.strict], none⟩ := rfl

theorem readArgument_optionsOf (given : IsGiven c) :
    ∀ s ∈ optionsOf c, readArgument (verbOf c) s.argument = some ⟨[s], none⟩ := by
  have named (verb : Verb) (name : Option String) :
      ∀ s ∈ name.toList.map Setting.name, readArgument verb s.argument = some ⟨[s], none⟩ := by
    intro s member
    obtain ⟨value, _, rfl⟩ := List.mem_map.mp member
    exact readArgument_name verb value
  cases c with
  | check input name => exact named .check name
  | compile input name output format strict =>
    intro s member
    simp only [optionsOf, List.mem_append, or_assoc] at member
    obtain member | member | member | member := member
    · exact named .compile name s member
    · obtain ⟨path, present, rfl⟩ := List.mem_map.mp member
      exact readArgument_output fun empty => given.2 (by rw [← empty]; exact Option.mem_toList.mp present)
    · obtain rfl := List.mem_singleton.mp member
      exact readArgument_format format
    · split at member
      · obtain rfl := List.mem_singleton.mp member
        exact readArgument_strict
      · cases member

theorem help_notMem_optionsOf (c : Command) : .help ∉ optionsOf c := by
  intro member
  cases c with
  | check input name =>
    obtain ⟨_, _, same⟩ := List.mem_map.mp member
    cases same
  | compile input name output format strict =>
    simp only [optionsOf, List.mem_append, List.mem_map, List.mem_singleton, reduceCtorEq, and_false, exists_false,
      or_false, false_or] at member
    split at member
    · cases List.mem_singleton.mp member
    · cases member

theorem invocation?_optionsOf (given : IsGiven c) :
    invocation? (verbOf c) false (optionsOf c ++ [.operand c.input]) = some (.run false c) := by
  cases c with
  | check input name =>
    have nonempty : input ≠ "" := given
    cases name <;> simp [optionsOf, verbOf, Command.input, invocation?, atMostOne, List.filterMap_cons, Setting.isQuiet?,
      Setting.isStrict?, Setting.name?, Setting.output?, Setting.format?, Setting.operand?, nonempty]
  | compile input name output format strict =>
    have nonempty : input ≠ "" := given.1
    cases name <;> cases output <;> cases strict <;> simp [optionsOf, verbOf, Command.input, invocation?, atMostOne,
      List.filterMap_cons, Setting.isQuiet?, Setting.isStrict?, Setting.name?, Setting.output?, Setting.format?,
      Setting.operand?, nonempty]

theorem ofArguments?_line (given : IsGiven c) : Invocation.ofArguments? (line c) = some (.run false c) := by
  have read : settings (verbOf c) ((optionsOf c).map Setting.argument ++ ["--", c.input]) =
      some (optionsOf c ++ [.operand c.input]) := settings_operands (readArgument_optionsOf given)
        (help_notMem_optionsOf c) c.input
  have called : Verb.ofName? (verbOf c).name = some (verbOf c) := by cases c <;> rfl
  have other : ∀ v : Verb, v.name ≠ "help" := by
    intro v
    cases v <;> decide
  rw [Invocation.ofArguments?, line, parseFrom, called]
  · simp only [read, Option.bind_some]
    exact invocation?_optionsOf given
  · exact other (verbOf c)

end CommandLine

end BpmnWorkflow
