import BpmnWorkflow.Compilation.LiveFlow
import BpmnWorkflow.Compilation.Walk

/-!
# Visiting an element

`visit` turns one element into at most one step and names the elements to visit next.
`unfollowed_visit` bounds their number by the flows that the visit uses up, which is why a walk ends.
-/

namespace BpmnWorkflow

/-- The identifier of the end step added after a task that leads nowhere. -/
def syntheticEndId (task : String) : String := s!"endEvent-{task}"

def syntheticEndTitle : String := "End of workflow"

def syntheticEndButton : String := "End the workflow"

def defaultButton : String := "Continue"

namespace Element

def taskType (e : Element) : TaskType :=
  if e.kind = .serviceTask then .aiExecuted else .guideline

def taskStep (e : Element) (outgoing : Transition) : Step :=
  .task e.title e.prompt e.taskType outgoing

def endStep (e : Element) : Step := .terminal e.title

end Element

namespace LiveFlow

def onward (f : LiveFlow) : Transition := ⟨f.target.id, f.label?.getD defaultButton, none⟩

/-- A branch of a condition; its label is both the button and the answer. -/
def branch (f : LiveFlow) : Transition := ⟨f.target.id, f.label?.getD "", f.label?⟩

end LiveFlow

namespace Walk

/-- A task has one way out: its first live flow, or a synthetic end. -/
def addTask (w : Walk) (e : Element) : List LiveFlow → Walk × List Element
  | [] =>
    let ended := (w.warn (.idleTask e.id)).register (syntheticEndId e.id) (.terminal syntheticEndTitle)
    (ended.register e.id (e.taskStep ⟨syntheticEndId e.id, syntheticEndButton, none⟩), [])
  | [first] => (w.register e.id (e.taskStep first.onward), [first.target])
  | first :: _ :: _ =>
    ((w.warn (.crowdedTask e.id)).register e.id (e.taskStep first.onward), [first.target])

/-- Bypasses a gateway, unless every way out of it runs through bypassed gateways back into it. -/
def skipGateway (w : Walk) (gateway successor : Element) : Walk × List Element :=
  let warned := w.warn (.bypassedGateway gateway.id)
  if ended : (warned.finalReplacement? gateway.id successor.id).isSome = true then
    (warned.bypass (Option.some_get ended).symm, [successor])
  else ((warned.warn (.gatewayRing gateway.id)).register gateway.id gateway.endStep, [])

theorem skipGateway_of_some {w : Walk} {gateway successor : Element} {replacement : String}
    (found : (w.warn (.bypassedGateway gateway.id)).finalReplacement? gateway.id successor.id = some replacement) :
    w.skipGateway gateway successor = ((w.warn (.bypassedGateway gateway.id)).bypass found, [successor]) := by
  have ended := Option.isSome_of_eq_some found
  obtain rfl := Option.get_of_eq_some ended found
  unfold skipGateway
  exact dif_pos ended

theorem skipGateway_of_none {w : Walk} {gateway successor : Element}
    (missed : (w.warn (.bypassedGateway gateway.id)).finalReplacement? gateway.id successor.id = none) :
    w.skipGateway gateway successor = (((w.warn (.bypassedGateway gateway.id)).warn (.gatewayRing gateway.id)).register
      gateway.id gateway.endStep, []) := by
  unfold skipGateway
  exact dif_neg (Option.not_isSome_iff_eq_none.mpr missed)

/-- A gateway becomes an end, nothing or a condition, by the number of its live flows. -/
def addGateway (w : Walk) (e : Element) : List LiveFlow → Walk × List Element
  | [] => ((w.warn (.idleGateway e.id)).register e.id e.endStep, [])
  | [only] => w.skipGateway e only.target
  | flows => (w.register e.id (.condition e.title e.prompt (flows.map LiveFlow.branch)), flows.map (·.target))

def expand (d : Diagram) (w : Walk) (e : Element) : Walk × List Element :=
  let dead := d.deadFlows e.id ElementKind.isFlowTarget
  let live := d.liveFlows e.id ElementKind.isFlowTarget
  let entered := (w.note (.visiting e.id e.kind)).warnAll (dead.map .unresolvedFlow)
  match e.kind with
  | .exclusiveGateway => entered.addGateway e live
  | .endEvent => (entered.register e.id e.endStep, live.map (·.target))
  | .startEvent | .task | .userTask | .serviceTask => entered.addTask e live

def visit (d : Diagram) (w : Walk) (e : Element) : Walk × List Element :=
  if w.isRegistered e.id then (w, [])
  else
    match w.replacement? e.id with
    | some replacement =>
      (w.redirect e.id ((w.finalReplacement? e.id replacement).getD replacement), [])
    | none => w.expand d e

/-! ### The flows that are still to be followed -/

def unfollowed (d : Diagram) (w : Walk) : Nat := d.flows.countP (fun f => !w.isSettled f.source)

theorem isSettled_addTask (w : Walk) (e : Element) (live : List LiveFlow) (id : String) :
    (w.isSettled id || id == e.id) = true → (w.addTask e live).1.isSettled id = true := by
  intro h
  simp only [Bool.or_eq_true] at h
  unfold addTask
  split <;> rcases h with h | h <;> simp [h]

theorem isSettled_addGateway (w : Walk) (e : Element) (live : List LiveFlow) (id : String) :
    (w.isSettled id || id == e.id) = true → (w.addGateway e live).1.isSettled id = true := by
  intro h
  simp only [Bool.or_eq_true] at h
  unfold addGateway
  split
  · rcases h with h | h <;> simp [h]
  · unfold skipGateway
    dsimp only
    split <;> rcases h with h | h <;> simp [h]
  · rcases h with h | h <;> simp [h]

theorem isSettled_expand (d : Diagram) (w : Walk) (e : Element) (id : String) :
    (w.isSettled id || id == e.id) = true → (w.expand d e).1.isSettled id = true := by
  intro h
  unfold expand
  dsimp only
  split
  · exact isSettled_addGateway _ _ _ _ (by simpa using h)
  · simpa using h
  all_goals exact isSettled_addTask _ _ _ _ (by simpa using h)

theorem length_addTask_le (w : Walk) (e : Element) (live : List LiveFlow) :
    (w.addTask e live).2.length ≤ live.length := by
  unfold addTask
  split <;> simp

theorem length_addGateway_le (w : Walk) (e : Element) (live : List LiveFlow) :
    (w.addGateway e live).2.length ≤ live.length := by
  unfold addGateway
  split
  · simp
  · unfold skipGateway
    dsimp only
    split <;> simp
  · simp

theorem length_expand_le (d : Diagram) (w : Walk) (e : Element) :
    (w.expand d e).2.length ≤ (d.outgoing e.id).length := by
  refine Nat.le_trans ?_ (d.length_liveFlows_le e.id ElementKind.isFlowTarget)
  unfold expand
  dsimp only
  split
  · exact length_addGateway_le _ _ _
  · simp
  all_goals exact length_addTask_le _ _ _

theorem isSettled_of_replacement? {w : Walk} {id replacement : String}
    (h : w.replacement? id = some replacement) : w.isSettled id = true := by
  obtain ⟨older, newer, split, _⟩ := List.lookup_eq_some_iff.mp h
  simp [isSettled, split]

theorem not_isSettled_of_none {w : Walk} {id : String} (fresh : w.isRegistered id = false)
    (h : w.replacement? id = none) : w.isSettled id = false := by
  have : w.bypassed.any (·.1 == id) = false := by
    unfold replacement? at h
    rw [List.lookup_eq_none_iff] at h
    rw [List.any_eq_false]
    intro entry member same
    have := h entry member
    simp_all
  simp [isSettled, fresh, this]

/-- An expansion uses up the flows out of its element and asks for no more visits than these. -/
theorem unfollowed_expand (d : Diagram) {w : Walk} {e : Element} (h : w.isSettled e.id = false) :
    unfollowed d (w.expand d e).1 + (w.expand d e).2.length ≤ unfollowed d w := by
  refine Nat.le_trans (Nat.add_le_add_left (length_expand_le d w e) _) ?_
  rw [d.outgoing_eq_filter, ← List.countP_eq_length_filter]
  unfold unfollowed
  induction d.flows with
  | nil => simp
  | cons f rest ih =>
    have kept : w.isSettled f.source = true → (w.expand d e).1.isSettled f.source = true := fun s =>
      isSettled_expand d w e _ (by simp [s])
    have own : f.origin? = some e.id →
        w.isSettled f.source = false ∧ (w.expand d e).1.isSettled f.source = true := by
      intro s
      have s' : f.source = e.id := by
        unfold Flow.origin? at s
        split at s
        · cases s
        · exact Option.some.inj s
      rw [s']
      exact ⟨h, isSettled_expand d w e _ (by simp)⟩
    simp only [List.countP_cons]
    by_cases ho : f.origin? = some e.id
    · obtain ⟨before, after⟩ := own ho
      simp only [ho, before, after]
      simp
      omega
    · cases hb : w.isSettled f.source with
      | true =>
        simp only [kept hb]
        simp [ho]
        omega
      | false =>
        simp [ho]
        split <;> omega

theorem unfollowed_visit (d : Diagram) (w : Walk) (e : Element) :
    unfollowed d (w.visit d e).1 + (w.visit d e).2.length ≤ unfollowed d w := by
  unfold visit
  split
  · simp
  · rename_i fresh
    split
    · simp [unfollowed]
    · rename_i none
      exact unfollowed_expand d (not_isSettled_of_none (by simpa using fresh) none)

/-- Visits the pending elements depth first, each followed at once by what it leads to. -/
def run (d : Diagram) (w : Walk) : List Element → Walk
  | [] => w
  | e :: pending => run d (w.visit d e).1 ((w.visit d e).2 ++ pending)
termination_by pending => unfollowed d w + pending.length
decreasing_by
  have := unfollowed_visit d w e
  simp only [List.length_append, List.length_cons]
  omega

end Walk

end BpmnWorkflow
