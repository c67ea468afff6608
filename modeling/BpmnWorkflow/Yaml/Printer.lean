import BpmnWorkflow.Outline
import BpmnWorkflow.Yaml.Scalar

/-!
# YAML text

An outline in block style. A table below a key stands two columns deeper, a list at the column of
its key.
-/

namespace BpmnWorkflow.Yaml

/-- Blocks below each other, the first of which already has its place. -/
def stacked (indent : Nat) (blocks : List (List Char)) : List Char :=
  (spaces indent).intercalate blocks

def isBelowKey : Outline → Bool
  | .text _ | .list [] | .table [] => false
  | _ => true

def columnBelow (indent : Nat) : Outline → Nat
  | .list _ => indent
  | _ => indent + 2

/-- A key that fits stands before a colon, any other one has lines of its own. -/
def withKey (indent : Nat) (key : String) (value : Outline) (block : Nat → List Char) : List Char :=
  if isSimpleKey key then
    if isBelowKey value then
      let column := columnBelow indent value
      simpleKey key.toList ++ ':' :: '\n' :: spaces column ++ block column
    else simpleKey key.toList ++ ':' :: ' ' :: block (indent + 2)
  else
    '?' :: ' ' :: scalarLine (indent + 2) key.toList ++ spaces indent ++
      ':' :: ' ' :: block (indent + 2)

mutual

def block (indent : Nat) : Outline → List Char
  | .text s => scalarLine indent s.toList
  | .list [] => ['[', ']', '\n']
  | .list items => stacked indent (blockItems indent items)
  | .table [] => ['{', '}', '\n']
  | .table rows => stacked indent (blockRows indent rows)

def blockItems (indent : Nat) : List Outline → List (List Char)
  | [] => []
  | item :: rest => ('-' :: ' ' :: block (indent + 2) item) :: blockItems indent rest

def blockRows (indent : Nat) : List (String × Outline) → List (List Char)
  | [] => []
  | (key, value) :: rest =>
    withKey indent key value (fun column => block column value) :: blockRows indent rest

end

end BpmnWorkflow.Yaml

namespace BpmnWorkflow.Outline

def toYaml (o : Outline) : String := .ofList (Yaml.block 0 o)

end BpmnWorkflow.Outline
