import Mathlib.Data.List.Basic
import BpmnWorkflow.Catalogue

/-!
# Positions in a list and places in rows

`positionsOf` gives the positions of the entries with a property, each once and in order, and no other. `placesOf`
does the same for a table of rows, where a place is the number of a row and a position in it.
-/

namespace BpmnWorkflow

variable {α : Type} {p : α → Bool}

theorem mem_positionsOf_iff {entries : List α} {i : Nat} :
    i ∈ positionsOf p entries ↔ ∃ h : i < entries.length, p entries[i] = true := by
  rw [positionsOf, List.mem_map]
  constructor
  · rintro ⟨⟨a, j⟩, member, rfl⟩
    obtain ⟨indexed, accepted⟩ := List.mem_filter.mp member
    obtain ⟨bound, found⟩ := List.getElem?_eq_some_iff.mp (List.mem_zipIdx_iff_getElem?.mp indexed)
    exact ⟨bound, found ▸ accepted⟩
  · rintro ⟨bound, accepted⟩
    refine ⟨(entries[i], i), List.mem_filter.mpr ⟨?_, accepted⟩, rfl⟩
    exact List.mem_zipIdx_iff_getElem?.mpr (List.getElem?_eq_getElem bound)

theorem pairwise_positionsOf (entries : List α) : (positionsOf p entries).Pairwise (· < ·) := by
  have all : (entries.zipIdx.map Prod.snd).Pairwise (· < ·) := by
    rw [List.zipIdx_map_snd]
    exact List.pairwise_lt_range'
  exact all.sublist (List.filter_sublist.map _)

theorem map_getElem?_positionsOf (entries : List α) :
    (positionsOf p entries).map (entries[·]?) = (entries.filter p).map some := by
  have found : ∀ i ∈ positionsOf p entries, entries[i]?.map some = some entries[i]? := by
    intro i member
    obtain ⟨bound, _⟩ := mem_positionsOf_iff.mp member
    rw [List.getElem?_eq_getElem bound]
    rfl
  rw [← filterMap_positionsOf entries, List.map_filterMap, List.filterMap_congr found, List.filterMap_eq_map']

/-! ### Rows -/

/-- What stands at a place: the row first, then the position in the row. -/
def atPlace? (rows : List (List α)) (place : Nat × Nat) : Option α :=
  rows[place.1]?.bind (·[place.2]?)

def placesOf (p : α → Bool) (rows : List (List α)) : List (Nat × Nat) :=
  rows.zipIdx.flatMap fun (row, i) => (positionsOf p row).map (i, ·)

theorem mem_placesOf_iff {rows : List (List α)} {place : Nat × Nat} :
    place ∈ placesOf p rows ↔ ∃ a, atPlace? rows place = some a ∧ p a = true := by
  obtain ⟨i, j⟩ := place
  simp only [placesOf, atPlace?, List.mem_flatMap, List.mem_map, Prod.exists, Prod.mk.injEq,
    List.mem_zipIdx_iff_getElem?, Option.bind_eq_some_iff]
  constructor
  · rintro ⟨row, _, found, _, member, rfl, rfl⟩
    obtain ⟨bound, accepted⟩ := mem_positionsOf_iff.mp member
    exact ⟨_, ⟨row, found, List.getElem?_eq_getElem bound⟩, accepted⟩
  · rintro ⟨a, ⟨row, found, entry⟩, accepted⟩
    obtain ⟨bound, rfl⟩ := List.getElem?_eq_some_iff.mp entry
    exact ⟨row, i, found, j, mem_positionsOf_iff.mpr ⟨bound, accepted⟩, rfl, rfl⟩

theorem pairwise_placesOf (rows : List (List α)) :
    (placesOf p rows).Pairwise (Prod.Lex (· < ·) (· < ·)) := by
  rw [placesOf, List.pairwise_flatMap]
  constructor
  · rintro ⟨row, i⟩ _
    exact (pairwise_positionsOf row).map _ fun j k less => Prod.Lex.right i less
  · have numbered : (rows.zipIdx.map Prod.snd).Pairwise (· < ·) := by
      rw [List.zipIdx_map_snd]
      exact List.pairwise_lt_range'
    refine (List.pairwise_map.mp numbered).imp ?_
    rintro ⟨row, i⟩ ⟨later, k⟩ less place member place' member'
    obtain ⟨j, _, rfl⟩ := List.mem_map.mp member
    obtain ⟨j', _, rfl⟩ := List.mem_map.mp member'
    exact Prod.Lex.left j j' less

/-- Read at their places, the entries that satisfy `p` come in the order in which the rows list them. -/
theorem map_atPlace?_placesOf (rows : List (List α)) :
    (placesOf p rows).map (atPlace? rows) = (rows.flatMap (·.filter p)).map some := by
  have row : ∀ numbered ∈ rows.zipIdx,
      ((positionsOf p numbered.1).map (numbered.2, ·)).map (atPlace? rows) = (numbered.1.filter p).map some := by
    rintro ⟨row, i⟩ member
    rw [List.map_map, ← map_getElem?_positionsOf]
    refine List.map_congr_left fun j _ => ?_
    rw [Function.comp_apply, atPlace?, List.mem_zipIdx_iff_getElem?.mp member, Option.bind_some]
  have unnumbered : rows.flatMap (·.filter p) = rows.zipIdx.flatMap fun numbered => numbered.1.filter p := by
    conv =>
      lhs
      rw [← List.zipIdx_map_fst 0 rows]
    rw [List.flatMap_map]
  rw [placesOf, List.map_flatMap, unnumbered, List.map_flatMap]
  exact List.flatMap_congr row

end BpmnWorkflow
