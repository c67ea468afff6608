import BpmnWorkflow.Json.Quoted
import BpmnWorkflow.Outline

/-!
# JSON text

An outline as JSON, once without any space and once with one item per line.
-/

namespace BpmnWorkflow.Json

def commaSeparated (parts : List (List Char)) : List Char := [','].intercalate parts

/-! ### Without space -/

mutual

def compact : Outline → List Char
  | .text s => quoted s
  | .list items => '[' :: commaSeparated (compactItems items) ++ [']']
  | .table rows => '{' :: commaSeparated (compactRows rows) ++ ['}']

def compactItems : List Outline → List (List Char)
  | [] => []
  | item :: rest => compact item :: compactItems rest

def compactRows : List (String × Outline) → List (List Char)
  | [] => []
  | (key, value) :: rest => (quoted key ++ ':' :: compact value) :: compactRows rest

end

/-! ### One item per line -/

def newLine (depth : Nat) : List Char := '\n' :: List.replicate (2 * depth) ' '

/-- Brackets around lines that stand one level deeper; nothing between them if there are none. -/
def bracketed (opening closing : Char) (depth : Nat) (lines : List (List Char)) : List Char :=
  if lines.isEmpty then [opening, closing]
  else
    opening :: commaSeparated (lines.map (newLine (depth + 1) ++ ·)) ++ newLine depth ++ [closing]

mutual

def pretty (depth : Nat) : Outline → List Char
  | .text s => quoted s
  | .list items => bracketed '[' ']' depth (prettyItems (depth + 1) items)
  | .table rows => bracketed '{' '}' depth (prettyRows (depth + 1) rows)

def prettyItems (depth : Nat) : List Outline → List (List Char)
  | [] => []
  | item :: rest => pretty depth item :: prettyItems depth rest

def prettyRows (depth : Nat) : List (String × Outline) → List (List Char)
  | [] => []
  | (key, value) :: rest =>
    (quoted key ++ ':' :: ' ' :: pretty depth value) :: prettyRows depth rest

end

end BpmnWorkflow.Json

namespace BpmnWorkflow.Outline

def toCompactJson (o : Outline) : String := .ofList (Json.compact o)

def toPrettyJson (o : Outline) : String := .ofList (Json.pretty 0 o)

end BpmnWorkflow.Outline
