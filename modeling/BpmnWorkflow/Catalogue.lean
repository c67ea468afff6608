import Std.Data.HashMap

/-!
# Catalogues

A table in order of insertion, with an index from keys to positions. `lookup_eq_filter` says that
the index answers as a scan over the table would.
-/

namespace BpmnWorkflow

/-- The positions, in order, of the entries that satisfy `p`. -/
def positionsOf {α : Type} (p : α → Bool) (entries : List α) : List Nat :=
  (entries.zipIdx.filter (fun e => p e.1)).map Prod.snd

section PositionsOf

variable {α : Type} {p : α → Bool}

theorem positionsOf_append_singleton (entries : List α) (a : α) :
    positionsOf p (entries ++ [a]) =
      positionsOf p entries ++ if p a then [entries.length] else [] := by
  simp only [positionsOf, List.zipIdx_append, List.filter_append, List.map_append, List.zipIdx_cons,
    List.zipIdx_nil, List.filter_cons, List.filter_nil, Nat.zero_add]
  split <;> simp

theorem filterMap_positionsOf (entries : List α) :
    (positionsOf p entries).filterMap (entries[·]?) = entries.filter p := by
  have key : ∀ (xs : List α) (k : Nat) (table : List α), (∀ i, table[k + i]? = xs[i]?) →
      ((xs.zipIdx k).filter (fun e => p e.1)).filterMap (fun e => table[e.2]?) = xs.filter p := by
    intro xs
    induction xs with
    | nil => simp
    | cons x rest ih =>
      intro k table h
      have hx : table[k]? = some x := by simpa using h 0
      have hr : ∀ i, table[k + 1 + i]? = rest[i]? := fun i => by
        have := h (i + 1)
        simpa [Nat.add_assoc, Nat.add_comm 1 i] using this
      simp only [List.zipIdx_cons, List.filter_cons]
      split
      · simp [hx, ih (k + 1) table hr]
      · exact ih (k + 1) table hr
  have := key entries 0 entries (fun i => by simp)
  simpa [positionsOf, List.filterMap_map, Function.comp_def] using this

end PositionsOf

/-- A table in order of insertion; entries without a key are kept but not indexed. -/
structure Catalogue (α : Type) (key : α → Option String) where
  entries : Array α
  positions : Std.HashMap String (Array Nat)
  positions_eq : ∀ k, (positions.getD k #[]).toList = positionsOf (key · == some k) entries.toList

namespace Catalogue

variable {α : Type} {key : α → Option String}

def empty : Catalogue α key := ⟨#[], ∅, fun k => by simp [positionsOf]⟩

instance : Inhabited (Catalogue α key) := ⟨empty⟩

def add (c : Catalogue α key) (a : α) : Catalogue α key where
  entries := c.entries.push a
  positions :=
    match key a with
    | some k => c.positions.insert k ((c.positions.getD k #[]).push c.entries.size)
    | none => c.positions
  positions_eq k := by
    rw [Array.toList_push, positionsOf_append_singleton, ← c.positions_eq k]
    cases h : key a with
    | none => simp
    | some k' =>
      rw [Std.HashMap.getD_insert]
      by_cases hk : k' = k
      · subst hk; simp
      · simp [hk]

def lookup (c : Catalogue α key) (k : String) : List α :=
  (c.positions.getD k #[]).toList.filterMap (c.entries[·]?)

theorem lookup_eq_filter (c : Catalogue α key) (k : String) :
    c.lookup k = c.entries.toList.filter (key · == some k) := by
  rw [lookup, c.positions_eq k, ← filterMap_positionsOf]
  simp

@[simp] theorem entries_add (c : Catalogue α key) (a : α) :
    (c.add a).entries.toList = c.entries.toList ++ [a] := Array.toList_push

end Catalogue

end BpmnWorkflow
