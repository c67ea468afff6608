import BpmnWorkflow.Compilation.Diagnostics
import BpmnWorkflow.Workflow.Redirection

/-!
# The state of a walk

A walk collects steps under the identifiers of the elements that it visits. Gateways with a single
way out become no step: they are bypassed, and what pointed at one is redirected to the element
that stands in for it. A replacement may be bypassed in its turn, but no chain of replacements goes on
for ever: a walk carries the proof, and `follow` goes along a chain to its end.
-/

namespace BpmnWorkflow

/-! ### Chains of replacements -/

/-- `next` is what replaced `id` when it was bypassed. -/
def Replaces (bypassed : List (String × String)) (next id : String) : Prop := bypassed.lookup id = some next

theorem wellFounded_replaces_nil : WellFounded (Replaces []) := by
  constructor
  intro id
  constructor
  intro next replaced
  cases replaced

/-- One more replacement keeps the chains finite if it is itself not bypassed. -/
theorem wellFounded_replaces_place {bypassed : List (String × String)} {gateway replacement : String}
    (ends : WellFounded (Replaces bypassed)) (unbypassed : bypassed.lookup replacement = none)
    (away : replacement ≠ gateway) : WellFounded (Replaces (OrderedMap.place gateway replacement bypassed)) := by
  have last : Acc (Replaces (OrderedMap.place gateway replacement bypassed)) replacement := by
    constructor
    intro next replaced
    rw [Replaces, OrderedMap.lookup_place, if_neg away, unbypassed] at replaced
    cases replaced
  constructor
  intro id
  -- a chain goes on as before until it comes to the gateway, and there it ends one step later
  induction id using ends.induction with
  | h id ih =>
    constructor
    intro next replaced
    rw [Replaces, OrderedMap.lookup_place] at replaced
    split at replaced
    · cases replaced
      exact last
    · exact ih next replaced

/-- Follows bypassed gateways to an identifier that is none, or to nothing once `gateway` is met. -/
def follow (bypassed : List (String × String)) (ends : WellFounded (Replaces bypassed)) (gateway current : String) :
    Option String :=
  if current = gateway then none
  else
    match _replaced : bypassed.lookup current with
    | some next => follow bypassed ends gateway next
    | none => some current
termination_by ends.wrap current

theorem end_of_follow {bypassed : List (String × String)} {ends : WellFounded (Replaces bypassed)}
    {gateway current last : String} (found : follow bypassed ends gateway current = some last) :
    bypassed.lookup last = none ∧ last ≠ gateway := by
  fun_induction follow bypassed ends gateway current with
  | case1 => cases found
  | case2 current away next replaced ih => exact ih found
  | case3 current away unbypassed =>
    cases found
    exact ⟨unbypassed, away⟩

/-! ### The state and its operations -/

/-- The workflow so far, the bypassed gateways with their replacements, and what was reported. -/
structure Walk where
  workflow : Workflow
  bypassed : List (String × String)
  /-- No chain of replacements goes on for ever. -/
  ends : WellFounded (Replaces bypassed)
  diagnostics : Diagnostics

namespace Walk

def start (name : String) (entry : Element) (diagnostics : Diagnostics) : Walk where
  workflow := { Workflow.named name with entryPoint := entry.id }
  bypassed := []
  ends := wellFounded_replaces_nil
  diagnostics := diagnostics

def notices (w : Walk) : List Notice := w.diagnostics.delivered

def note (w : Walk) (n : Notice) : Walk := { w with diagnostics := w.diagnostics.note n }

def warn (w : Walk) (warning : Warning) : Walk := { w with diagnostics := w.diagnostics.warn warning }

def warnAll (w : Walk) (warnings : List Warning) : Walk :=
  { w with diagnostics := w.diagnostics.warnAll warnings }

def isRegistered (w : Walk) (id : String) : Bool := w.workflow.steps.contains id

def replacement? (w : Walk) (id : String) : Option String := w.bypassed.lookup id

/-- An identifier is settled once it has a step or is bypassed. -/
def isSettled (w : Walk) (id : String) : Bool := w.isRegistered id || w.bypassed.any (·.1 == id)

def register (w : Walk) (id : String) (step : Step) : Walk :=
  if w.isRegistered id then w.note (.alreadyRegistered id)
  else { w with workflow := w.workflow.insertStep id step }

def redirect (w : Walk) (source target : String) : Walk :=
  let rewritten := (w.workflow.rewrite source target).run 0
  { w with workflow := rewritten.1 }.note (.redirected source target rewritten.2)

theorem redirect_eq (w : Walk) (source target : String) :
    w.redirect source target =
      { w with workflow := w.workflow.redirect source target }.note
        (.redirected source target (w.workflow.referenceCount source)) := by
  rw [redirect, Workflow.counts_rewrite source target w.workflow 0, Nat.zero_add]

@[simp] theorem workflow_redirect (w : Walk) (source target : String) :
    (w.redirect source target).workflow = w.workflow.redirect source target := by
  rw [redirect_eq]
  rfl

@[simp] theorem bypassed_redirect (w : Walk) (source target : String) :
    (w.redirect source target).bypassed = w.bypassed := rfl

def finalReplacement? (w : Walk) (gateway target : String) : Option String :=
  follow w.bypassed w.ends gateway target

/-- Leaves `gateway` out and points its predecessors at `replacement`, where the chain from `target` ends. -/
def bypass (w : Walk) {gateway target replacement : String}
    (found : w.finalReplacement? gateway target = some replacement) : Walk :=
  { w with
    bypassed := OrderedMap.place gateway replacement w.bypassed
    ends := wellFounded_replaces_place w.ends (end_of_follow found).1 (end_of_follow found).2
  }.redirect gateway replacement

/-! ### What each operation settles -/

@[simp] theorem isSettled_note (w : Walk) (n : Notice) (id : String) :
    (w.note n).isSettled id = w.isSettled id := rfl

@[simp] theorem isSettled_warn (w : Walk) (warning : Warning) (id : String) :
    (w.warn warning).isSettled id = w.isSettled id := rfl

@[simp] theorem isSettled_warnAll (w : Walk) (warnings : List Warning) (id : String) :
    (w.warnAll warnings).isSettled id = w.isSettled id := rfl

@[simp] theorem isSettled_redirect (w : Walk) (source target id : String) :
    (w.redirect source target).isSettled id = w.isSettled id := by
  simp [isSettled, isRegistered, OrderedMap.contains]

@[simp] theorem isSettled_register (w : Walk) (key : String) (step : Step) (id : String) :
    (w.register key step).isSettled id = (w.isSettled id || id == key) := by
  unfold register
  split
  · rename_i taken
    rw [isSettled_note]
    by_cases same : id = key
    · subst same
      rw [isSettled, taken]
      rfl
    · simp [same]
  · rw [Bool.eq_iff_iff]
    simp only [isSettled, isRegistered, Workflow.insertStep, Bool.or_eq_true, OrderedMap.contains_iff,
      OrderedMap.mem_keys_insert, beq_iff_eq]
    constructor
    · rintro ((h | h) | h)
      · exact .inl (.inl h)
      · exact .inr h
      · exact .inl (.inr h)
    · rintro ((h | h) | h)
      · exact .inl (.inl h)
      · exact .inr h
      · exact .inl (.inr h)

@[simp] theorem isSettled_bypass (w : Walk) {gateway target replacement : String}
    (found : w.finalReplacement? gateway target = some replacement) (id : String) :
    (w.bypass found).isSettled id = (w.isSettled id || id == gateway) := by
  rw [bypass, isSettled_redirect]
  simp only [isSettled, isRegistered, OrderedMap.any_place, Bool.or_assoc]

end Walk

end BpmnWorkflow
