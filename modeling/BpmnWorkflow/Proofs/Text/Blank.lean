import Mathlib.Data.List.DropRight
import BpmnWorkflow.Text.Blank

/-!
# Trimming a text that goes on

What trimming makes of a text and of the text that goes on after it: blanks at the end do not count, and as soon as there
is anything else the trimmed text goes on too.
-/

namespace BpmnWorkflow.Text

variable {kept lost : List Char}

theorem trimBlanks_eq (cs : List Char) : trimBlanks cs = (cs.dropWhile isBlank).rdropWhile isBlank := rfl

theorem trimBlanks_eq_nil_iff : trimBlanks kept = [] ↔ ∀ c ∈ kept, isBlank c = true := by
  rw [trimBlanks_eq, List.rdropWhile_eq_nil_iff]
  constructor
  · intro blank
    rw [← List.dropWhile_eq_nil_iff]
    cases left : kept.dropWhile isBlank with
    | nil => rfl
    | cons c rest =>
      have first := List.head_dropWhile_not isBlank (l := kept) (by rw [left]; exact List.cons_ne_nil c rest)
      have again := blank _ (List.head_mem (l := kept.dropWhile isBlank) (by rw [left]; exact List.cons_ne_nil c rest))
      rw [again] at first
      cases first
  · exact fun blank c member => blank c ((List.dropWhile_sublist isBlank).subset member)

theorem rdropWhile_append (cs more : List Char) : (cs ++ more).rdropWhile isBlank =
    if (more.rdropWhile isBlank).isEmpty then cs.rdropWhile isBlank else cs ++ more.rdropWhile isBlank := by
  simp only [List.rdropWhile, List.reverse_append, List.dropWhile_append, List.isEmpty_reverse]
  split
  · rfl
  · rw [List.reverse_append, List.reverse_reverse]

theorem trimBlanks_append_of_blank (blank : ∀ c ∈ lost, isBlank c = true) :
    trimBlanks (kept ++ lost) = trimBlanks kept := by
  rw [trimBlanks_eq, trimBlanks_eq, List.dropWhile_append]
  split
  · rename_i nothing
    rw [List.isEmpty_iff.mp nothing, List.dropWhile_eq_nil_iff.mpr blank]
  · rw [rdropWhile_append, List.rdropWhile_eq_nil_iff.mpr blank]
    rfl

theorem trimBlanks_append_of_not_blank (kept : List Char) (visible : ∃ c ∈ lost, isBlank c = false) :
    ∃ more, more ≠ [] ∧ trimBlanks (kept ++ lost) = trimBlanks kept ++ more := by
  have shows : ¬ ∀ c ∈ lost, isBlank c = true := by
    intro blank
    obtain ⟨c, member, seen⟩ := visible
    rw [blank c member] at seen
    cases seen
  by_cases nothing : (kept.dropWhile isBlank).isEmpty
  · refine ⟨trimBlanks lost, fun none => shows (trimBlanks_eq_nil_iff.mp none), ?_⟩
    rw [trimBlanks_eq, trimBlanks_eq kept, List.dropWhile_append, if_pos nothing, List.isEmpty_iff.mp nothing]
    rfl
  · have ends : lost.rdropWhile isBlank ≠ [] := fun none => shows (List.rdropWhile_eq_nil_iff.mp none)
    obtain ⟨rest, split⟩ := List.rdropWhile_prefix isBlank (kept.dropWhile isBlank)
    refine ⟨rest ++ lost.rdropWhile isBlank, List.append_ne_nil_of_right_ne_nil rest ends, ?_⟩
    rw [trimBlanks_eq, trimBlanks_eq, List.dropWhile_append, if_neg nothing, rdropWhile_append,
      if_neg (by rwa [List.isEmpty_iff]), ← List.append_assoc, split]

/-! ### Trimmed texts -/

theorem trimmed?_eq (s : String) :
    trimmed? s = if trimBlanks s.toList = [] then none else some (String.ofList (trimBlanks s.toList)) := by
  rw [trimmed?]
  cases trimBlanks s.toList <;> rfl

theorem trimmed?_append_of_blank {kept lost : String} (blank : ∀ c ∈ lost.toList, isBlank c = true) :
    trimmed? (kept ++ lost) = trimmed? kept := by
  rw [trimmed?_eq, trimmed?_eq, String.toList_append, trimBlanks_append_of_blank blank]

theorem toList_getD_trimmed? (s : String) : ((trimmed? s).getD "").toList = trimBlanks s.toList := by
  rw [trimmed?_eq]
  split
  · rename_i nothing
    rw [nothing]
    rfl
  · rw [Option.getD_some, String.toList_ofList]

end BpmnWorkflow.Text
