import BpmnWorkflow.Xml.Document

/-!
# The pieces of a text, counted

`readPieces` ends because each piece uses text up. For a given text it is easier to say how many pieces there are:
`piecesWithin` reads at most so many and finds the same.
-/

namespace BpmnWorkflow.Xml

def piecesWithin : Nat → List Char → Option (List Markup)
  | _, [] => some []
  | 0, _ :: _ => none
  | n + 1, c :: s => (readMarkup (c :: s)).bind fun (piece, rest) => (piecesWithin n rest).map (piece :: ·)

theorem readPieces_of_readMarkup {c : Char} {s rest : List Char} {piece : Markup}
    (read : readMarkup (c :: s) = some (piece, rest)) : readPieces (c :: s) = (readPieces rest).map (piece :: ·) := by
  rw [readPieces]
  split
  · rename_i none
    rw [read] at none
    cases none
  · rename_i piece' rest' found
    rw [read] at found
    cases found
    rfl

theorem readPieces_of_piecesWithin {n : Nat} {s : List Char} {pieces : List Markup}
    (read : piecesWithin n s = some pieces) : readPieces s = some pieces := by
  induction n generalizing s pieces with
  | zero =>
    cases s with
    | nil =>
      rw [readPieces]
      exact read
    | cons c s => cases read
  | succ n ih =>
    cases s with
    | nil =>
      rw [readPieces]
      exact read
    | cons c s =>
      simp only [piecesWithin, Option.bind_eq_some_iff, Option.map_eq_some_iff] at read
      obtain ⟨⟨piece, rest⟩, first, others, more, rfl⟩ := read
      rw [readPieces_of_readMarkup first, ih more]
      rfl

/-- The tree of a text is the nesting of its pieces, however these are counted. -/
theorem parse?_of_piecesWithin {text : String} {n : Nat} {s : List Char} {pieces : List Markup} {nodes : List Node}
    (preamble : readPreamble text.toList = some s) (read : piecesWithin n s = some pieces)
    (nested : nest [] [] pieces = some nodes)
    (whole : (nodes.countP Node.isElement = 1 && areScoped [] nodes) = true) : Document.parse? text = some ⟨nodes⟩ := by
  rw [Document.parse?, preamble]
  simp only [Option.bind_eq_bind, Option.bind_some, readPieces_of_piecesWithin read, nested, whole, if_true]

end BpmnWorkflow.Xml
