import Mathlib.Data.List.Forall2
import BpmnWorkflow.Json.Printer
import BpmnWorkflow.Proofs.Json.Spelling

/-!
# Outlines spell their drafts

Written without space or one item per line, an outline is read as the same draft: `ofText_compact`
and `ofText_pretty`.
-/

namespace BpmnWorkflow

open Json

/-! ### Drafts of outlines -/

namespace Outline

mutual

def draft : Outline → Draft
  | .text s => .string (some s)
  | .list items => .array (itemDrafts items)
  | .table rows => .object (rowDrafts rows)

def itemDrafts : List Outline → List Draft
  | [] => []
  | item :: rest => item.draft :: itemDrafts rest

def rowDrafts : List (String × Outline) → List (Option String × Draft)
  | [] => []
  | (key, value) :: rest => (some key, value.draft) :: rowDrafts rest

end

theorem itemDrafts_eq_map (items : List Outline) : itemDrafts items = items.map draft := by
  induction items with
  | nil => rfl
  | cons item rest ih => rw [itemDrafts, ih, List.map_cons]

theorem rowDrafts_eq_map (rows : List (String × Outline)) :
    rowDrafts rows = rows.map fun row => (some row.1, row.2.draft) := by
  induction rows with
  | nil => rfl
  | cons row rest ih => rw [rowDrafts, ih, List.map_cons]

mutual

theorem isComplete_draft : ∀ o : Outline, o.draft.isComplete = true
  | .text _ => rfl
  | .list items => areComplete_itemDrafts items
  | .table rows => haveComplete_rowDrafts rows

theorem areComplete_itemDrafts : ∀ items : List Outline, Draft.areComplete (itemDrafts items) = true
  | [] => rfl
  | item :: rest => by
    rw [itemDrafts, Draft.areComplete, isComplete_draft item, areComplete_itemDrafts rest, Bool.and_self]

theorem haveComplete_rowDrafts :
    ∀ rows : List (String × Outline), Draft.haveComplete (rowDrafts rows) = true
  | [] => rfl
  | (_, value) :: rest => by
    rw [rowDrafts, Draft.haveComplete, isComplete_draft value, haveComplete_rowDrafts rest, Bool.and_self]

end

end Outline

namespace Json

/-! ### Pieces of a printed text -/

namespace Spells

theorem quoted (s : String) : Spells (Json.quoted s) [.string (some s)] := token (.string (writesContent_escape s))

theorem newLine (depth : Nat) {cs : List Char} {row : List Token} (more : Spells cs row) :
    Spells (Json.newLine depth ++ cs) row := by
  refine .space (by decide) ?_
  induction 2 * depth with
  | zero => exact more
  | succ n ih => exact .space (by decide) ih

theorem commaSeparated {parts : List (List Char)} {rows : List (List Token)} (each : List.Forall₂ Spells parts rows) :
    Spells (Json.commaSeparated parts) (Draft.commaBetween rows) := by
  induction each with
  | nil => exact nil
  | @cons part row parts rows first others ih =>
    cases others with
    | nil =>
      rw [Json.commaSeparated, Draft.commaBetween, List.intercalate_singleton, List.intercalate_singleton]
      exact first
    | cons second others =>
      rw [Json.commaSeparated, Draft.commaBetween, List.intercalate_cons_cons, List.intercalate_cons_cons]
      exact (first.append (token .comma)).append ih

/-- Both ways to write a container put brackets around items that are separated by commas. -/
theorem enclosed {opening closing : Char} {start stop : Token} (opens : Spells [opening] [start])
    (closes : Spells [closing] [stop]) {parts : List (List Char)} {rows : List (List Token)}
    (each : List.Forall₂ Spells parts rows) :
    Spells (opening :: Json.commaSeparated parts ++ [closing]) (start :: Draft.commaBetween rows ++ [stop]) :=
  (opens.append (commaSeparated each)).append closes

theorem bracketed {opening closing : Char} {start stop : Token} (opens : Spells [opening] [start])
    (closes : Spells [closing] [stop]) (depth : Nat) {lines : List (List Char)} {rows : List (List Token)}
    (each : List.Forall₂ Spells lines rows) :
    Spells (Json.bracketed opening closing depth lines) (start :: Draft.commaBetween rows ++ [stop]) := by
  rw [Json.bracketed]
  split
  · rename_i empty
    rw [List.isEmpty_iff] at empty
    subst empty
    cases each
    exact opens.append closes
  · have indented : List.Forall₂ Spells (lines.map (Json.newLine (depth + 1) ++ ·)) rows := by
      rw [List.forall₂_map_left_iff]
      exact each.imp fun _ _ more => newLine (depth + 1) more
    rw [List.append_assoc]
    exact (opens.append (commaSeparated indented)).append (newLine depth closes)

end Spells

/-! ### The two writings -/

mutual

theorem spells_compact : ∀ o : Outline, Spells (compact o) o.draft.toTokens
  | .text s => Spells.quoted s
  | .list items => .enclosed (.token .beginArray) (.token .endArray) (spells_compactItems items)
  | .table rows => .enclosed (.token .beginObject) (.token .endObject) (spells_compactRows rows)

theorem spells_compactItems :
    ∀ items : List Outline, List.Forall₂ Spells (compactItems items) (Draft.itemTokens (Outline.itemDrafts items))
  | [] => .nil
  | item :: rest => .cons (spells_compact item) (spells_compactItems rest)

theorem spells_compactRows : ∀ rows : List (String × Outline),
    List.Forall₂ Spells (compactRows rows) (Draft.memberTokens (Outline.rowDrafts rows))
  | [] => .nil
  | (key, value) :: rest =>
    .cons ((Spells.quoted key).append (.cons .colon (spells_compact value)))
      (spells_compactRows rest)

end

mutual

theorem spells_pretty (depth : Nat) : ∀ o : Outline, Spells (pretty depth o) o.draft.toTokens
  | .text s => Spells.quoted s
  | .list items =>
    .bracketed (.token .beginArray) (.token .endArray) depth (spells_prettyItems (depth + 1) items)
  | .table rows =>
    .bracketed (.token .beginObject) (.token .endObject) depth (spells_prettyRows (depth + 1) rows)

theorem spells_prettyItems (depth : Nat) : ∀ items : List Outline,
    List.Forall₂ Spells (prettyItems depth items) (Draft.itemTokens (Outline.itemDrafts items))
  | [] => .nil
  | item :: rest => .cons (spells_pretty depth item) (spells_prettyItems depth rest)

theorem spells_prettyRows (depth : Nat) : ∀ rows : List (String × Outline),
    List.Forall₂ Spells (prettyRows depth rows) (Draft.memberTokens (Outline.rowDrafts rows))
  | [] => .nil
  | (key, value) :: rest =>
    .cons ((Spells.quoted key).append (.cons .colon (.space (by decide) (spells_pretty depth value))))
      (spells_prettyRows depth rest)

end

end Json

namespace Outline

theorem ofText_compact (o : Outline) : Draft.ofText o.toCompactJson = (o.draft, []) :=
  ofText_of_spells (String.toList_ofList ▸ spells_compact o) o.isComplete_draft

theorem ofText_pretty (o : Outline) : Draft.ofText o.toPrettyJson = (o.draft, []) :=
  ofText_of_spells (String.toList_ofList ▸ spells_pretty 0 o) o.isComplete_draft

end Outline

end BpmnWorkflow
