import BpmnWorkflow.Json.Draft
import BpmnWorkflow.Workflow.Basic

/-!
# Reading workflows

Reads workflows, steps and transitions from JSON. A text is judged from front to back and the first
problem found is the one reported; a step is taken in whole before its fields are looked at.
-/

namespace BpmnWorkflow

open Json (Draft)

inductive ReadError
  /-- The text is not JSON, or there is more after it. -/
  | malformed
  | missingField (name : String)
  | duplicateField (name : String)
  | unknownStepType (given : String)
  | unknownTaskType (given : String)
  | invalidType
  | invalidLength
  | invalidValue
  deriving DecidableEq, Repr

namespace ReadError

def message : ReadError → String
  | malformed => "malformed text"
  | missingField name => s!"missing field `{name}`"
  | duplicateField name => s!"duplicate field `{name}`"
  | unknownStepType given =>
    s!"unknown variant `{given}`, expected one of `task`, `condition`, `end`"
  | unknownTaskType given => s!"unknown variant `{given}`, expected `ai-executed` or `guideline`"
  | invalidType => "invalid type"
  | invalidLength => "invalid length"
  | invalidValue => "invalid value"

end ReadError

abbrev Reading (α : Type) := Except ReadError α

namespace Reading

/-! ### Texts -/

/-- Refuses a value that is not of the kind wanted: it may not even be a value. -/
def wrongKind {α : Type} : Draft → Reading α
  | .fault | .string none => .error .malformed
  | .number _ magnitude => .error (if Json.overflows magnitude then .malformed else .invalidType)
  | _ => .error .invalidType

def text : Draft → Reading String
  | .string (some s) => .ok s
  | other => wrongKind other

/-- A text, or null for none. -/
def optionalText : Draft → Reading (Option String)
  | .null => .ok none
  | other => (text other).map some

/-! ### Fields of an array -/

def next {α : Type} (read : Draft → Reading α) : List Draft → Reading (α × List Draft)
  | [] => .error .invalidLength
  | item :: rest => (read item).map (·, rest)

def nextIfAny {α : Type} (read : Draft → Reading α) (absent : α) :
    List Draft → Reading (α × List Draft)
  | [] => .ok (absent, [])
  | item :: rest => (read item).map (·, rest)

def finish {α : Type} (value : α) : List Draft → Reading α
  | [] => .ok value
  | _ :: _ => .error .invalidLength

/-! ### Fields of an object -/

/-- Goes through the members in order: a known field may not be repeated, and `check` tests every
value. A key that stands for no text is not read past. -/
def checkMembers (fields : List String) (check : String → Draft → Reading Unit) (seen : List String) :
    List (Option String × Draft) → Reading Unit
  | [] => .ok ()
  | (none, _) :: _ => .error .malformed
  | (some key, value) :: rest =>
    if key ∈ fields ∧ key ∈ seen then .error (.duplicateField key)
    else do
      check key value
      checkMembers fields check (key :: seen) rest

def tested {α : Type} (value : Reading α) : Reading Unit := value.map fun _ => ()

def member? (members : List (Option String × Draft)) (key : String) : Option Draft :=
  members.lookup (some key)

def required {α : Type} (read : Draft → Reading α) (key : String)
    (members : List (Option String × Draft)) : Reading α :=
  match member? members key with
  | some value => read value
  | none => .error (.missingField key)

def optional {α : Type} (read : Draft → Reading α) (key : String) (absent : α)
    (members : List (Option String × Draft)) : Reading α :=
  match member? members key with
  | some value => read value
  | none => .ok absent

end Reading

open Reading

/-! ### Transitions and task types -/

namespace Transition

def fieldNames : List String := ["stepName", "buttonText", "answer"]

def checkField : String → Draft → Reading Unit
  | "stepName", value => tested (text value)
  | "buttonText", value => tested (text value)
  | "answer", value => tested (optionalText value)
  | _, _ => .ok ()

def ofMembers (members : List (Option String × Draft)) : Reading Transition := do
  checkMembers fieldNames checkField [] members
  let stepName ← required text "stepName" members
  let buttonText ← required text "buttonText" members
  let answer ← optional optionalText "answer" none members
  return ⟨stepName, buttonText, answer⟩

/-- The fields in order; the answer may be left off. -/
def ofItems (items : List Draft) : Reading Transition := do
  let (stepName, items) ← next text items
  let (buttonText, items) ← next text items
  let (answer, items) ← nextIfAny optionalText none items
  finish ⟨stepName, buttonText, answer⟩ items

def ofDraft : Draft → Reading Transition
  | .array items => ofItems items
  | .object members => ofMembers members
  | other => wrongKind other

def listOfDraft : Draft → Reading (List Transition)
  | .array items => items.mapM ofDraft
  | other => wrongKind other

end Transition

namespace TaskType

def ofLabel (label : String) : Reading TaskType :=
  match ofLabel? label with
  | some t => .ok t
  | none => .error (.unknownTaskType label)

/-- A label, or an object whose only member has the label as key and nothing as value. -/
def ofDraft : Draft → Reading TaskType
  | .string (some label) => ofLabel label
  | .object [(some label, value)] => do
    let t ← ofLabel label
    match value with
    | .null | .object [] => return t
    | other => wrongKind other
  | .object _ => .error .invalidValue
  | other => wrongKind other

end TaskType

/-! ### Steps -/

inductive StepType
  | task
  | condition
  | terminal
  deriving DecidableEq, Repr

namespace StepType

def ofLabel : String → Reading StepType
  | "task" => .ok task
  | "condition" => .ok condition
  | "end" => .ok terminal
  | label => .error (.unknownStepType label)

def ofDraft (d : Draft) : Reading StepType := do ofLabel (← text d)

def fieldNames : StepType → List String
  | task => ["title", "prompt", "taskType", "outgoing"]
  | condition => ["title", "prompt", "outgoing"]
  | terminal => ["title"]

def checkField : StepType → String → Draft → Reading Unit
  | _, "title", value => tested (text value)
  | task, "prompt", value | condition, "prompt", value => tested (text value)
  | task, "taskType", value => tested (TaskType.ofDraft value)
  | task, "outgoing", value => tested (Transition.ofDraft value)
  | condition, "outgoing", value => tested (Transition.listOfDraft value)
  | _, _, _ => .ok ()

end StepType

namespace Step

def ofMembers (type : StepType) (members : List (Option String × Draft)) : Reading Step := do
  checkMembers type.fieldNames type.checkField [] members
  let title ← required text "title" members
  match type with
  | .task => do
    let prompt ← required text "prompt" members
    let taskType ← required TaskType.ofDraft "taskType" members
    let outgoing ← required Transition.ofDraft "outgoing" members
    return task title prompt taskType outgoing
  | .condition => do
    let prompt ← required text "prompt" members
    let outgoing ← required Transition.listOfDraft "outgoing" members
    return condition title prompt outgoing
  | .terminal => return terminal title

def ofItems (type : StepType) (items : List Draft) : Reading Step := do
  let (title, items) ← next text items
  match type with
  | .task => do
    let (prompt, items) ← next text items
    let (taskType, items) ← next TaskType.ofDraft items
    let (outgoing, items) ← next Transition.ofDraft items
    finish (task title prompt taskType outgoing) items
  | .condition => do
    let (prompt, items) ← next text items
    let (outgoing, items) ← next Transition.listOfDraft items
    finish (condition title prompt outgoing) items
  | .terminal => finish (terminal title) items

/-- Takes all members in and finds the one that gives the type. -/
def findType (room : Nat) (found : Option StepType) : List (Option String × Draft) → Reading StepType
  | [] =>
    match found with
    | some type => .ok type
    | none => .error (.missingField "type")
  | (none, _) :: _ => .error .malformed
  | (some key, value) :: rest =>
    if key = "type" then
      match found with
      | some _ => .error (.duplicateField "type")
      | none => do findType room (some (← StepType.ofDraft value)) rest
    else if value.isSound room then findType room found rest
    else .error .malformed

/-- Reads a step in which containers may stand `room` deep, the step itself included. -/
def ofDraft (room : Nat) : Draft → Reading Step
  | .object members =>
    if room = 0 then .error .malformed
    else do
      let type ← findType (room - 1) none members
      ofMembers type (members.filter (·.1 != some "type"))
  | .array [] => .error (if room = 0 then .malformed else .missingField "type")
  | .array (type :: items) =>
    if room = 0 then .error .malformed
    else do
      let type ← StepType.ofDraft type
      if Draft.areSound (room - 1) items then ofItems type items else .error .malformed
  | other => wrongKind other

end Step

/-! ### Whole texts -/

/-- How deep containers may stand in a text whose values are kept. -/
def depthLimit : Nat := 127

/-- What `read` makes of the value of a text that holds nothing else. -/
def Reading.ofText {α : Type} (read : Draft → Reading α) (text : String) : Reading α := do
  let (draft, rest) := Draft.ofText text
  let value ← read draft
  if rest.isEmpty then return value else .error .malformed

def Step.ofJson (text : String) : Reading Step := Reading.ofText (Step.ofDraft depthLimit) text

namespace Workflow

/-- A step stands inside the workflow and the table of steps. -/
def readStep : Option String × Draft → Reading (String × Step)
  | (none, _) => .error .malformed
  | (some id, value) => (Step.ofDraft (depthLimit - 2) value).map (id, ·)

def readSteps : Draft → Reading (OrderedMap Step)
  | .object members => (members.mapM readStep).map .ofEntries
  | other => wrongKind other

def fieldNames : List String := ["name", "entryPoint", "steps"]

/-- An unknown member may hold anything that is complete. -/
def checkField : String → Draft → Reading Unit
  | "name", value => tested (text value)
  | "entryPoint", value => tested (text value)
  | "steps", value => tested (readSteps value)
  | _, value => if value.isComplete then .ok () else .error .malformed

def ofMembers (members : List (Option String × Draft)) : Reading Workflow := do
  checkMembers fieldNames checkField [] members
  let name ← required text "name" members
  let entryPoint ← required text "entryPoint" members
  let steps ← optional readSteps "steps" .empty members
  return ⟨name, entryPoint, steps⟩

/-- The fields in order; the steps may be left off. The text must end after them. -/
def ofItems (items : List Draft) : Reading Workflow := do
  let (name, items) ← next text items
  let (entryPoint, items) ← next text items
  let (steps, items) ← nextIfAny readSteps .empty items
  if items.isEmpty then return ⟨name, entryPoint, steps⟩ else .error .malformed

def ofDraft : Draft → Reading Workflow
  | .array items => ofItems items
  | .object members => ofMembers members
  | other => wrongKind other

def ofJson (text : String) : Reading Workflow := Reading.ofText ofDraft text

end Workflow

end BpmnWorkflow
