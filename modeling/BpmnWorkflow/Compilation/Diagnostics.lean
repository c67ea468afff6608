import BpmnWorkflow.Compilation.Notice

/-!
# Diagnostics

The channel that a compilation reports through. It delivers every notice in order, and of the
warnings it keeps two things for itself: how many there were and which was the first. Strict mode goes
by these two and never by what was delivered; that both agree is `Agrees`, kept by every operation.
-/

namespace BpmnWorkflow

structure Diagnostics where
  delivered : List Notice := []
  count : Nat := 0
  first? : Option Warning := none
  deriving DecidableEq, Repr

namespace Diagnostics

def note (s : Diagnostics) (n : Notice) : Diagnostics := { s with delivered := s.delivered ++ [n] }

def warn (s : Diagnostics) (w : Warning) : Diagnostics where
  delivered := s.delivered ++ [.warning w]
  count := s.count + 1
  first? := if s.first?.isNone then some w else s.first?

def warnAll (s : Diagnostics) (ws : List Warning) : Diagnostics := ws.foldl warn s

def warnings (s : Diagnostics) : List Warning := Notice.warnings s.delivered

def firstText (s : Diagnostics) : String := (s.first?.map Warning.text).getD ""

@[simp] theorem delivered_note (s : Diagnostics) (n : Notice) : (s.note n).delivered = s.delivered ++ [n] := rfl

@[simp] theorem delivered_warn (s : Diagnostics) (w : Warning) :
    (s.warn w).delivered = s.delivered ++ [.warning w] := rfl

@[simp] theorem delivered_warnAll (s : Diagnostics) (ws : List Warning) :
    (s.warnAll ws).delivered = s.delivered ++ ws.map .warning := by
  unfold warnAll
  induction ws generalizing s with
  | nil => exact (List.append_nil _).symm
  | cons w rest ih => rw [List.foldl_cons, ih, delivered_warn, List.append_assoc, List.map_cons, List.singleton_append]

@[simp] theorem warnings_note (s : Diagnostics) (n : Notice) :
    (s.note n).warnings = s.warnings ++ n.warning?.toList := by
  cases n <;> simp [warnings, Notice.warnings, Notice.warning?]

@[simp] theorem warnings_warn (s : Diagnostics) (w : Warning) : (s.warn w).warnings = s.warnings ++ [w] :=
  Notice.warnings_append _ _

@[simp] theorem warnings_warnAll (s : Diagnostics) (ws : List Warning) :
    (s.warnAll ws).warnings = s.warnings ++ ws := by
  rw [warnings, delivered_warnAll, Notice.warnings_append, Notice.warnings_map_warning, warnings]

/-! ### What is kept and what was delivered -/

/-- The count and the first warning are those of the warnings that were delivered. -/
structure Agrees (s : Diagnostics) : Prop where
  count_eq : s.count = s.warnings.length
  first?_eq : s.first? = s.warnings.head?

theorem agrees_empty : Agrees {} := ⟨rfl, rfl⟩

variable {s : Diagnostics}

theorem Agrees.note (agrees : s.Agrees) {n : Notice} (silent : n.warning? = none) : (s.note n).Agrees := by
  have same : (s.note n).warnings = s.warnings := by rw [warnings_note, silent, Option.toList_none, List.append_nil]
  constructor
  · rw [same]
    exact agrees.count_eq
  · rw [same]
    exact agrees.first?_eq

theorem Agrees.warn (agrees : s.Agrees) (w : Warning) : (s.warn w).Agrees := by
  constructor
  · rw [warnings_warn, List.length_append, ← agrees.count_eq]
    rfl
  · show (if s.first?.isNone then some w else s.first?) = _
    rw [warnings_warn, List.head?_append, agrees.first?_eq]
    cases s.warnings.head? <;> rfl

theorem Agrees.warnAll (agrees : s.Agrees) (ws : List Warning) : (s.warnAll ws).Agrees := by
  unfold Diagnostics.warnAll
  induction ws generalizing s with
  | nil => exact agrees
  | cons w rest ih => exact ih (agrees.warn w)

end Diagnostics

end BpmnWorkflow
