/-!
# Outlines

A tree of texts: what a workflow looks like before a format gives it brackets or indentation.
-/

namespace BpmnWorkflow

/-- A text, a row of outlines or a table whose rows have keys. -/
inductive Outline
  | text (s : String)
  | list (items : List Outline)
  | table (rows : List (String × Outline))
  deriving Repr, Inhabited

end BpmnWorkflow
