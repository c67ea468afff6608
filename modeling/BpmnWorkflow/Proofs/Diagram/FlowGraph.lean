import Mathlib
import BpmnWorkflow.Compilation.Entry
import BpmnWorkflow.Compilation.Visit

/-!
# The graph of live flows

What a diagram says about the workflow that it compiles to, read off the diagram alone: where the
live flows of an element lead, which gateways only pass on, and what an identifier stands for.
`resolved_entry_unambiguous` says that the entry element is the only one reached under its identifier.

The theory of walks is built on this module. It imports all of Mathlib for the compilations of single
documents there, which `cbv` evaluates by equations from all over the library.
-/

namespace BpmnWorkflow

open Relation (ReflTransGen TransGen)

namespace ElementKind

def isTask : ElementKind → Bool
  | exclusiveGateway | endEvent => false
  | startEvent | task | userTask | serviceTask => true

theorem isTask_eq_false_iff {k : ElementKind} : k.isTask = false ↔ k = exclusiveGateway ∨ k = endEvent := by
  cases k <;> simp [isTask]

end ElementKind

namespace Diagram

def live (d : Diagram) (e : Element) : List LiveFlow := d.liveFlows e.id ElementKind.isFlowTarget

/-- The live flows that count: of a task only the first. -/
def followed (d : Diagram) (e : Element) : List LiveFlow :=
  if e.kind.isTask then (d.live e).take 1 else d.live e

def successors (d : Diagram) (e : Element) : List Element := (d.followed e).map (·.target)

def LeadsTo (d : Diagram) (a b : Element) : Prop := b ∈ d.successors a

/-- `a` is a gateway with a single live flow, which leads to `b`. -/
def PassesTo (d : Diagram) (a b : Element) : Prop :=
  a.kind = .exclusiveGateway ∧ ∃ f, d.live a = [f] ∧ f.target = b

def IsBypass (d : Diagram) (e : Element) : Prop :=
  e.kind = .exclusiveGateway ∧ (d.live e).length = 1

def IsIdleTask (d : Diagram) (e : Element) : Prop := e.kind.isTask = true ∧ d.live e = []

def OnRing (d : Diagram) (e : Element) : Prop := TransGen d.PassesTo e e

/-- The step that an element makes unless it is bypassed. -/
def stepOf (d : Diagram) (e : Element) : Step :=
  if e.kind.isTask then
    match d.live e with
    | [] => e.taskStep ⟨syntheticEndId e.id, syntheticEndButton, none⟩
    | first :: _ => e.taskStep first.onward
  else if e.kind = .exclusiveGateway ∧ 2 ≤ (d.live e).length then
    .condition e.title e.prompt ((d.live e).map LiveFlow.branch)
  else e.endStep

instance (d : Diagram) (e : Element) : Decidable (d.IsBypass e) := inferInstanceAs (Decidable (_ ∧ _))

instance (d : Diagram) (e : Element) : Decidable (d.IsIdleTask e) := inferInstanceAs (Decidable (_ ∧ _))

section Passing

variable {d : Diagram} {a b c : Element}

theorem isBypass_iff : d.IsBypass a ↔ ∃ b, d.PassesTo a b := by
  constructor
  · rintro ⟨kind, single⟩
    obtain ⟨f, only⟩ := List.length_eq_one_iff.mp single
    exact ⟨f.target, kind, f, only, rfl⟩
  · rintro ⟨b, kind, f, only, _⟩
    exact ⟨kind, by rw [only]; rfl⟩

theorem PassesTo.isBypass (h : d.PassesTo a b) : d.IsBypass a := isBypass_iff.mpr ⟨b, h⟩

theorem PassesTo.unique (h : d.PassesTo a b) (h' : d.PassesTo a c) : b = c := by
  obtain ⟨_, f, only, rfl⟩ := h
  obtain ⟨_, g, only', rfl⟩ := h'
  rw [only] at only'
  obtain rfl := (List.cons.inj only').1
  rfl

theorem PassesTo.successors (h : d.PassesTo a b) : d.successors a = [b] := by
  obtain ⟨kind, f, only, rfl⟩ := h
  simp [Diagram.successors, followed, kind, ElementKind.isTask, only]

theorem PassesTo.leadsTo (h : d.PassesTo a b) : d.LeadsTo a b := by
  rw [LeadsTo, h.successors]
  exact List.mem_singleton_self b

theorem leadsTo_of_passesTo (chain : ReflTransGen d.PassesTo a b) : ReflTransGen d.LeadsTo a b := by
  have passes : d.PassesTo ≤ d.LeadsTo := fun _ _ step => step.leadsTo
  exact ReflTransGen.mono passes a b chain

theorem not_isBypass_of_isTask (task : a.kind.isTask = true) : ¬ d.IsBypass a := by
  rintro ⟨gateway, _⟩
  rw [gateway] at task
  cases task

theorem not_isIdleTask_of_not_isTask (other : a.kind.isTask = false) : ¬ d.IsIdleTask a := by
  rintro ⟨task, _⟩
  rw [other] at task
  cases task

/-! ### Successors -/

theorem successors_of_idle (idle : d.IsIdleTask a) : d.successors a = [] := by
  simp [successors, followed, idle.1, idle.2]

theorem successors_of_task {f : LiveFlow} {rest : List LiveFlow} (task : a.kind.isTask = true)
    (lives : d.live a = f :: rest) : d.successors a = [f.target] := by
  simp [successors, followed, task, lives]

theorem successors_of_not_isTask (other : a.kind.isTask = false) : d.successors a = (d.live a).map (·.target) := by
  simp [successors, followed, other]

/-! ### Steps -/

theorem stepOf_of_idle (idle : d.IsIdleTask a) :
    d.stepOf a = a.taskStep ⟨syntheticEndId a.id, syntheticEndButton, none⟩ := by
  simp [stepOf, idle.1, idle.2]

theorem stepOf_of_task {f : LiveFlow} {rest : List LiveFlow} (task : a.kind.isTask = true)
    (lives : d.live a = f :: rest) : d.stepOf a = a.taskStep f.onward := by
  simp [stepOf, task, lives]

theorem stepOf_of_choice (gateway : a.kind = .exclusiveGateway) (many : 2 ≤ (d.live a).length) :
    d.stepOf a = .condition a.title a.prompt ((d.live a).map LiveFlow.branch) := by
  simp [stepOf, gateway, many, ElementKind.isTask]

theorem stepOf_of_end (ended : a.kind = .endEvent) : d.stepOf a = a.endStep := by
  simp [stepOf, ended, ElementKind.isTask]

theorem stepOf_of_few (gateway : a.kind = .exclusiveGateway) (few : (d.live a).length < 2) :
    d.stepOf a = a.endStep := by
  have many : ¬ 2 ≤ (d.live a).length := by omega
  simp [stepOf, gateway, many, ElementKind.isTask]

theorem stepOf_of_bypass (bypass : d.IsBypass a) : d.stepOf a = a.endStep :=
  stepOf_of_few bypass.1 (by rw [bypass.2]; decide)

theorem target_stepOf {t : Transition} (member : t ∈ (d.stepOf a).transitions) :
    (d.IsIdleTask a ∧ t.stepName = syntheticEndId a.id) ∨ ∃ x ∈ d.successors a, t.stepName = x.id := by
  by_cases task : a.kind.isTask = true
  · rcases lives : d.live a with _ | ⟨first, rest⟩
    · rw [stepOf_of_idle ⟨task, lives⟩] at member
      obtain rfl := List.mem_singleton.mp member
      exact .inl ⟨⟨task, lives⟩, rfl⟩
    · rw [stepOf_of_task task lives] at member
      obtain rfl := List.mem_singleton.mp member
      refine .inr ⟨first.target, ?_, rfl⟩
      rw [successors_of_task task lives]
      exact List.mem_singleton_self _
  · rw [stepOf, if_neg task] at member
    split at member
    · obtain ⟨f, live, rfl⟩ := List.mem_map.mp member
      refine .inr ⟨f.target, ?_, rfl⟩
      rw [successors_of_not_isTask (Bool.eq_false_iff.mpr task)]
      exact List.mem_map_of_mem live
    · cases member

/-! ### Rings -/

theorem OnRing.isBypass (ring : d.OnRing a) : d.IsBypass a := by
  obtain ⟨b, first, _⟩ := TransGen.head'_iff.mp ring
  exact first.isBypass

theorem OnRing.onward (ring : d.OnRing a) (step : d.PassesTo a b) :
    d.OnRing b ∧ ReflTransGen d.PassesTo b a := by
  obtain ⟨c, first, back⟩ := TransGen.head'_iff.mp ring
  obtain rfl := first.unique step
  exact ⟨TransGen.tail' back step, back⟩

theorem OnRing.along (ring : d.OnRing a) (chain : ReflTransGen d.PassesTo a b) :
    d.OnRing b ∧ ReflTransGen d.PassesTo b a := by
  induction chain with
  | refl => exact ⟨ring, .refl⟩
  | tail _ step ih =>
    obtain ⟨onward, back⟩ := ih.1.onward step
    exact ⟨onward, back.trans ih.2⟩

end Passing

/-! ### Dead flows -/

section Dead

variable {d : Diagram} {id : String} {accept : ElementKind → Bool} {x : Element}

theorem deadFlows_eq_nil_iff :
    d.deadFlows id accept = [] ↔ ∀ f ∈ d.outgoing id, ∃ x, d.resolve f.target accept = .ok x := by
  rw [deadFlows, List.filterMap_eq_nil_iff]
  refine forall₂_congr fun f _ => ?_
  cases d.resolve f.target accept <;> simp

theorem length_live_add_dead (d : Diagram) (id : String) (accept : ElementKind → Bool) :
    (d.liveFlows id accept).length + (d.deadFlows id accept).length = (d.outgoing id).length := by
  rw [liveFlows, deadFlows]
  induction d.outgoing id with
  | nil => rfl
  | cons f rest ih =>
    rw [List.filterMap_cons, List.filterMap_cons, List.length_cons, ← ih]
    cases d.resolve f.target accept with
    | ok target => exact Nat.add_right_comm _ _ _
    | error failure => rfl

theorem single_flow_iff : (d.deadFlows id accept = [] ∧ ∃ f, d.liveFlows id accept = [f] ∧ f.target = x) ↔
    ∃ flow, d.outgoing id = [flow] ∧ d.resolve flow.target accept = .ok x := by
  constructor
  · rintro ⟨dead, f, live, rfl⟩
    have one := d.length_live_add_dead id accept
    rw [dead, live] at one
    obtain ⟨flow, only⟩ := List.length_eq_one_iff.mp one.symm
    refine ⟨flow, only, ?_⟩
    obtain ⟨target, named⟩ := deadFlows_eq_nil_iff.mp dead flow (only ▸ List.mem_singleton_self flow)
    rw [liveFlows, only, List.filterMap_cons, named, List.filterMap_nil] at live
    rw [named, ← (List.cons.inj live).1]
  · rintro ⟨flow, only, named⟩
    exact ⟨by simp [deadFlows, only, named], ⟨flow, x⟩, by simp [liveFlows, only, named], rfl⟩

end Dead

/-! ### What an identifier stands for -/

theorem resolve_eq_ok {d : Diagram} {id : String} {accept : ElementKind → Bool} {e : Element} :
    d.resolve id accept = .ok e ↔ (d.elementTable.lookup id).filter (accept ·.kind) = [e] := by
  rw [resolve]
  cases (d.elementTable.lookup id).filter (accept ·.kind) with
  | nil => simp
  | cons found rest => cases rest <;> simp

theorem id_of_resolve {d : Diagram} {id : String} {accept : ElementKind → Bool} {e : Element}
    (named : d.resolve id accept = .ok e) : e.id = id ∧ accept e.kind = true := by
  have only : e ∈ (d.elementTable.lookup id).filter (accept ·.kind) := by
    rw [resolve_eq_ok.mp named]
    exact List.mem_singleton_self e
  rw [lookup_elementTable, List.mem_filter, List.mem_filter] at only
  exact ⟨eq_of_beq only.1.2, only.2⟩

theorem mem_elements_of_resolve {d : Diagram} {id : String} {accept : ElementKind → Bool} {e : Element}
    (named : d.resolve id accept = .ok e) : e ∈ d.elements := by
  have only : e ∈ (d.elementTable.lookup id).filter (accept ·.kind) := by
    rw [resolve_eq_ok.mp named]
    exact List.mem_singleton_self e
  rw [lookup_elementTable] at only
  exact (List.mem_filter.mp (List.mem_filter.mp only).1).1

theorem resolve_target {d : Diagram} {id : String} {accept : ElementKind → Bool} {f : LiveFlow}
    (member : f ∈ d.liveFlows id accept) : d.resolve f.target.id accept = .ok f.target := by
  obtain ⟨flow, _, found⟩ := List.mem_filterMap.mp member
  split at found
  · rename_i target named
    obtain rfl := Option.some.inj found
    rwa [(id_of_resolve named).1]
  · cases found

theorem live_of_followed {d : Diagram} {e : Element} {f : LiveFlow} (member : f ∈ d.followed e) :
    f ∈ d.live e := by
  rw [followed] at member
  split at member
  · exact List.mem_of_mem_take member
  · exact member

/-- Among all that flows may lead to, `first` is the only element of its identifier. -/
def Unambiguous (d : Diagram) (first : Element) : Prop :=
  ∀ e, d.resolve first.id ElementKind.isFlowTarget = .ok e → e = first

/-- What a walk from `first` can meet: `first` itself, or what an identifier stands for. -/
def Meets (d : Diagram) (first e : Element) : Prop :=
  e = first ∨ d.resolve e.id ElementKind.isFlowTarget = .ok e

theorem LeadsTo.meets {d : Diagram} {a b : Element} (step : d.LeadsTo a b) (first : Element) :
    d.Meets first b := by
  obtain ⟨f, member, rfl⟩ := List.mem_map.mp step
  exact .inr (resolve_target (live_of_followed member))

theorem meets_of_reaches {d : Diagram} {first e : Element} (reached : ReflTransGen d.LeadsTo first e) :
    d.Meets first e := by
  induction reached with
  | refl => exact .inl rfl
  | tail _ step => exact step.meets first

theorem Meets.along {d : Diagram} {first a b : Element} (met : d.Meets first a)
    (chain : ReflTransGen d.PassesTo a b) : d.Meets first b := by
  induction chain with
  | refl => exact met
  | tail _ step => exact step.leadsTo.meets first

theorem Meets.eq_of_id_eq {d : Diagram} {first a b : Element} (unambiguous : d.Unambiguous first)
    (left : d.Meets first a) (right : d.Meets first b) (same : a.id = b.id) : a = b := by
  rcases left with rfl | left <;> rcases right with rfl | right
  · rfl
  · exact (unambiguous b (same ▸ right)).symm
  · exact unambiguous a (same ▸ left)
  · rw [same, right] at left
    exact (Except.ok.inj left).symm

theorem isFlowTarget_of_isTaskLike {k : ElementKind} (h : k.isTaskLike = true) : k.isFlowTarget = true := by
  rw [ElementKind.isFlowTarget, h, Bool.true_or]

theorem unambiguous_of_resolve {d : Diagram} {first : Element}
    (named : d.resolve first.id ElementKind.isTaskLike = .ok first) : d.Unambiguous first := by
  intro e found
  have member : first ∈ (d.elementTable.lookup first.id).filter (ElementKind.isFlowTarget ·.kind) := by
    have only : first ∈ (d.elementTable.lookup first.id).filter (ElementKind.isTaskLike ·.kind) := by
      rw [resolve_eq_ok.mp named]
      exact List.mem_singleton_self first
    rw [List.mem_filter] at only ⊢
    exact ⟨only.1, isFlowTarget_of_isTaskLike only.2⟩
  rw [resolve_eq_ok.mp found] at member
  exact (List.mem_singleton.mp member).symm

end Diagram

namespace Entry

variable {d : Diagram} {entry : Entry} {start : Element} {diagnostics : Diagnostics}

theorem live_of_ofStart (found : (ofStart d start diagnostics).1 = some entry) :
    ∃ f ∈ d.liveFlows start.id ElementKind.isTaskLike, f.target = entry.first := by
  unfold ofStart at found
  cases live : d.liveFlows start.id ElementKind.isTaskLike with
  | nil => simp [live] at found
  | cons flow rest =>
    refine ⟨flow, List.mem_cons_self, ?_⟩
    cases rest <;> simp only [live] at found <;> obtain rfl := Option.some.inj found <;> rfl

theorem ofStart_of_choose {starts : List Element} (found : (choose d starts diagnostics).1 = some entry) :
    ∃ start ∈ starts, ∃ before, (ofStart d start before).1 = some entry := by
  induction starts generalizing diagnostics with
  | nil => cases found
  | cons start rest ih =>
    rw [choose] at found
    split at found
    · rename_i offered
      refine ⟨start, List.mem_cons_self, diagnostics, ?_⟩
      rw [offered]
      exact found
    · obtain ⟨later, member, offered⟩ := ih found
      exact ⟨later, List.mem_cons_of_mem _ member, offered⟩

theorem live_of_choose {starts : List Element} (found : (choose d starts diagnostics).1 = some entry) :
    ∃ start ∈ starts, ∃ f ∈ d.liveFlows start.id ElementKind.isTaskLike, f.target = entry.first := by
  obtain ⟨start, member, _, offered⟩ := ofStart_of_choose found
  exact ⟨start, member, live_of_ofStart offered⟩

theorem resolve_first (found : (resolve d).1 = some entry) :
    d.resolve entry.first.id ElementKind.isTaskLike = .ok entry.first := by
  obtain ⟨start, _, f, live, same⟩ := live_of_choose found
  exact same ▸ Diagram.resolve_target live

/-- Nothing but the entry element itself is reached under its identifier. -/
theorem resolved_entry_unambiguous (found : (resolve d).1 = some entry) : d.Unambiguous entry.first :=
  Diagram.unambiguous_of_resolve (resolve_first found)

end Entry

namespace Diagram

/-- What the entry element leads to, by way of the live flows that count. -/
def Reaches (d : Diagram) (e : Element) : Prop :=
  ∃ entry, (Entry.resolve d).1 = some entry ∧ ReflTransGen d.LeadsTo entry.first e

theorem reaches_iff {d : Diagram} {entry : Entry} {e : Element} (found : (Entry.resolve d).1 = some entry) :
    d.Reaches e ↔ ReflTransGen d.LeadsTo entry.first e := by
  constructor
  · rintro ⟨other, again, chain⟩
    rw [found] at again
    exact Option.some.inj again ▸ chain
  · intro chain
    exact ⟨entry, found, chain⟩

theorem Reaches.mem_elements {d : Diagram} {e : Element} (reached : d.Reaches e) : e ∈ d.elements := by
  obtain ⟨entry, found, chain⟩ := reached
  rcases meets_of_reaches chain with rfl | named
  · exact mem_elements_of_resolve (Entry.resolve_first found)
  · exact mem_elements_of_resolve named

end Diagram

end BpmnWorkflow
