/-!
# Lines

A text as its lines. A line feed ends a line, together with a carriage return right before it; any
other carriage return is part of its line.
-/

namespace BpmnWorkflow.Text

/-- The lines of a text. What follows the last line feed is a line unless it is empty. -/
def lines : List Char → List (List Char)
  | [] => []
  | '\n' :: rest | '\r' :: '\n' :: rest => [] :: lines rest
  | c :: rest =>
    match lines rest with
    | [] => [[c]]
    | line :: others => (c :: line) :: others

end BpmnWorkflow.Text
