import Mathlib.Logic.Relation
import BpmnWorkflow.Compilation.Walk

/-!
# Chains of bypassed gateways

A bypassed gateway names its replacement, which may be bypassed later in its turn. `EndsAt` is where such a
chain comes to, and `Chases` the search for it, one replacement at a time, which `chases_finalReplacement?`
says the loop is. `endsAt_terminus` finds the end by a single pass over the gateways in the order in which
they were bypassed.
-/

namespace BpmnWorkflow

open Relation (ReflTransGen TransGen)

namespace Walk

/-- Where the chain of replacements that starts at `id` ends. -/
def terminus : List (String × String) → String → String
  | [], id => id
  | (gateway, replacement) :: newer, id => terminus newer (if id = gateway then replacement else id)

/-- No gateway is bypassed twice, and a replacement was not bypassed when its gateway was. -/
structure Ordered (bypassed : List (String × String)) : Prop where
  apart : bypassed.Pairwise fun older newer => newer.1 ≠ older.1 ∧ newer.2 ≠ older.1
  proper : ∀ b ∈ bypassed, b.2 ≠ b.1

theorem ordered_nil : Ordered [] := ⟨List.Pairwise.nil, by simp⟩

section Chain

variable {bypassed newer : List (String × String)} {gateway replacement id target : String}

theorem Ordered.tail {b : String × String} (ordered : Ordered (b :: newer)) : Ordered newer :=
  ⟨(List.pairwise_cons.mp ordered.apart).2, fun c member => ordered.proper c (List.mem_cons_of_mem _ member)⟩

theorem Ordered.snoc (ordered : Ordered bypassed) (fresh : gateway ∉ bypassed.map Prod.fst)
    (unbypassed : replacement ∉ bypassed.map Prod.fst) (proper : replacement ≠ gateway) :
    Ordered (bypassed ++ [(gateway, replacement)]) := by
  constructor
  · rw [List.pairwise_append]
    refine ⟨ordered.apart, List.pairwise_singleton _ _, ?_⟩
    intro older member newer same
    obtain rfl := List.mem_singleton.mp same
    have known : older.1 ∈ bypassed.map Prod.fst := List.mem_map_of_mem member
    constructor
    · rintro (e : gateway = older.1)
      exact fresh (e ▸ known)
    · rintro (e : replacement = older.1)
      exact unbypassed (e ▸ known)
  · intro b member
    rcases List.mem_append.mp member with old | new
    · exact ordered.proper b old
    · obtain rfl := List.mem_singleton.mp new
      exact proper

theorem bne_of_notMem (absent : id ∉ bypassed.map Prod.fst) : ∀ b ∈ bypassed, (id != b.1) = true := by
  intro b member
  rw [bne_iff_ne]
  rintro rfl
  exact absent (List.mem_map_of_mem member)

/-! ### The end of a chain -/

theorem terminus_of_notMem (absent : id ∉ bypassed.map Prod.fst) : terminus bypassed id = id := by
  induction bypassed with
  | nil => rfl
  | cons b newer ih =>
    simp only [List.map_cons, List.mem_cons, not_or] at absent
    rw [terminus, if_neg absent.1]
    exact ih absent.2

theorem terminus_append_singleton (bypassed : List (String × String)) (gateway replacement id : String) :
    terminus (bypassed ++ [(gateway, replacement)]) id =
      if terminus bypassed id = gateway then replacement else terminus bypassed id := by
  induction bypassed generalizing id with
  | nil => rfl
  | cons b newer ih => rw [List.cons_append, terminus, terminus, ih]

theorem terminus_eq_or_replacement (bypassed : List (String × String)) (id : String) :
    terminus bypassed id = id ∨ ∃ b ∈ bypassed, terminus bypassed id = b.2 := by
  induction bypassed generalizing id with
  | nil => exact .inl rfl
  | cons b newer ih =>
    rw [terminus]
    rcases ih (if id = b.1 then b.2 else id) with same | ⟨c, member, same⟩
    · rw [same]
      split
      · exact .inr ⟨b, List.mem_cons_self, rfl⟩
      · exact .inl rfl
    · exact .inr ⟨c, List.mem_cons_of_mem _ member, same⟩

theorem Ordered.terminus_ne_head {b : String × String} (ordered : Ordered (b :: newer)) (away : id ≠ b.1) :
    terminus newer id ≠ b.1 := by
  rcases terminus_eq_or_replacement newer id with same | ⟨c, member, same⟩
  · rwa [same]
  · rw [same]
    exact ((List.pairwise_cons.mp ordered.apart).1 c member).2

theorem Ordered.leave_ne_head {b : String × String} (ordered : Ordered (b :: newer)) (id : String) :
    (if id = b.1 then b.2 else id) ≠ b.1 := by
  split
  · exact ordered.proper b List.mem_cons_self
  · assumption

theorem Ordered.terminus_notMem (ordered : Ordered bypassed) (id : String) :
    terminus bypassed id ∉ bypassed.map Prod.fst := by
  induction bypassed generalizing id with
  | nil => simp
  | cons b newer ih =>
    rw [terminus, List.map_cons, List.mem_cons, not_or]
    exact ⟨ordered.terminus_ne_head (ordered.leave_ne_head id), ih ordered.tail _⟩

@[simp] theorem Ordered.terminus_terminus (ordered : Ordered bypassed) (id : String) :
    terminus bypassed (terminus bypassed id) = terminus bypassed id :=
  terminus_of_notMem (ordered.terminus_notMem id)

end Chain

/-! ### Where a chain comes to -/

def ReplacedBy (w : Walk) (id next : String) : Prop := w.replacement? id = some next

/-- `id` itself if it is not bypassed, or else where its replacement comes to. -/
inductive EndsAt (w : Walk) : String → String → Prop
  | unbypassed {id : String} : w.replacement? id = none → EndsAt w id id
  | onward {id next last : String} : w.ReplacedBy id next → EndsAt w next last → EndsAt w id last

section EndsAt

variable {w : Walk} {older newer : List (String × String)} {id current next last last' : String}

theorem replacement?_of_notMem (absent : id ∉ w.bypassed.map Prod.fst) : w.replacement? id = none :=
  List.lookup_eq_none_iff.mpr (bne_of_notMem absent)

theorem ReplacedBy.unique (replaced : w.ReplacedBy id next) (again : w.ReplacedBy id last) : next = last :=
  Option.some.inj (replaced.symm.trans again)

theorem not_replacedBy (unbypassed : w.replacement? id = none) (next : String) : ¬ w.ReplacedBy id next := by
  intro replaced
  rw [ReplacedBy, unbypassed] at replaced
  cases replaced

/-- Once the older gateways are left behind, the newer ones decide where a chain leads. -/
theorem endsAt_of_split (ordered : Ordered w.bypassed) (split : w.bypassed = older ++ newer)
    (away : id ∉ older.map Prod.fst) : w.EndsAt id (terminus newer id) := by
  induction newer generalizing older id with
  | nil =>
    rw [List.append_nil] at split
    exact .unbypassed (replacement?_of_notMem (split ▸ away))
  | cons b newer ih =>
    obtain ⟨gateway, replacement⟩ := b
    have rest : w.bypassed = (older ++ [(gateway, replacement)]) ++ newer := by
      rw [split, List.append_assoc, List.singleton_append]
    rw [terminus]
    by_cases same : id = gateway
    · subst same
      rw [if_pos rfl]
      refine .onward ?_ (ih rest ?_)
      · exact List.lookup_eq_some_iff.mpr ⟨older, newer, split, bne_of_notMem away⟩
      · -- what the gateway was replaced by was not bypassed then, so it is none of the older ones
        have apart := ordered.apart
        have proper := ordered.proper (id, replacement) (split ▸ List.mem_append_right _ List.mem_cons_self)
        rw [split, List.pairwise_append] at apart
        rw [List.map_append, List.mem_append, not_or]
        constructor
        · intro again
          obtain ⟨c, member, same⟩ := List.mem_map.mp again
          exact (apart.2.2 c member _ List.mem_cons_self).2 same.symm
        · exact List.not_mem_cons_of_ne_of_not_mem proper List.not_mem_nil
    · rw [if_neg same]
      refine ih rest ?_
      rw [List.map_append, List.mem_append, not_or]
      exact ⟨away, List.not_mem_cons_of_ne_of_not_mem same List.not_mem_nil⟩

theorem endsAt_terminus (ordered : Ordered w.bypassed) (id : String) : w.EndsAt id (terminus w.bypassed id) :=
  endsAt_of_split ordered (List.nil_append _).symm List.not_mem_nil

theorem EndsAt.unique (ends : w.EndsAt id last) (again : w.EndsAt id last') : last = last' := by
  induction ends with
  | unbypassed unbypassed =>
    cases again with
    | unbypassed => rfl
    | onward replaced _ => exact (not_replacedBy unbypassed _ replaced).elim
  | onward replaced _ ih =>
    cases again with
    | unbypassed unbypassed => exact (not_replacedBy unbypassed _ replaced).elim
    | onward replaced' rest =>
      obtain rfl := ReplacedBy.unique replaced replaced'
      exact ih rest

theorem endsAt_iff : w.EndsAt id last ↔ ReflTransGen w.ReplacedBy id last ∧ w.replacement? last = none := by
  constructor
  · intro ends
    induction ends with
    | unbypassed unbypassed => exact ⟨.refl, unbypassed⟩
    | onward replaced _ ih => exact ⟨.head replaced ih.1, ih.2⟩
  · rintro ⟨chain, unbypassed⟩
    induction chain using ReflTransGen.head_induction_on with
    | refl => exact .unbypassed unbypassed
    | head replaced _ ih => exact .onward replaced ih

theorem acyclic (w : Walk) (id : String) : ¬ TransGen w.ReplacedBy id id := by
  induction id using w.ends.induction with
  | h id ih =>
    intro ring
    obtain ⟨next, replaced, rest⟩ := TransGen.head'_iff.mp ring
    exact ih next replaced (.tail' rest replaced)

theorem chain_iff (replaced : w.ReplacedBy current next) (away : current ≠ id) :
    ReflTransGen w.ReplacedBy current id ↔ ReflTransGen w.ReplacedBy next id := by
  constructor
  · intro chain
    obtain same | ⟨_, first, rest⟩ := chain.cases_head
    · exact (away same).elim
    · obtain rfl := replaced.unique first
      exact rest
  · intro rest
    exact .head replaced rest

end EndsAt

/-! ### One replacement at a time -/

/--
The search for the end of a chain, one replacement at a time: it stops without a result when it
meets `gateway`, and with the identifier that it has come to when that is not bypassed.
-/
inductive Chases (w : Walk) (gateway : String) : String → Option String → Prop
  | back : Chases w gateway gateway none
  | ended {current : String} : current ≠ gateway → w.replacement? current = none →
      Chases w gateway current (some current)
  | onward {current next : String} {result : Option String} : current ≠ gateway →
      w.replacement? current = some next → Chases w gateway next result → Chases w gateway current result

section Chases

variable {w : Walk} {gateway current next last : String} {result : Option String}

theorem chases_finalReplacement? (w : Walk) (gateway target : String) :
    Chases w gateway target (w.finalReplacement? gateway target) := by
  unfold finalReplacement?
  fun_induction follow w.bypassed w.ends gateway target with
  | case1 => exact .back
  | case2 current away next replaced ih => exact .onward away replaced ih
  | case3 current away unbypassed => exact .ended away unbypassed

theorem Chases.endsAt (chases : Chases w gateway current (some last)) : w.EndsAt current last := by
  generalize found : some last = result at chases
  induction chases with
  | back => cases found
  | ended _ unbypassed =>
    obtain rfl := Option.some.inj found
    exact .unbypassed unbypassed
  | onward _ replaced _ ih => exact .onward replaced (ih found)

/-- The search comes back without a result just where the chain meets its gateway. -/
theorem Chases.eq_none_iff (chases : Chases w gateway current result) :
    result = none ↔ ReflTransGen w.ReplacedBy current gateway := by
  induction chases with
  | back => exact iff_of_true rfl .refl
  | ended away unbypassed =>
    rw [Relation.reflTransGen_iff_eq (not_replacedBy unbypassed)]
    exact iff_of_false (Option.some_ne_none _) away.symm
  | onward away replaced _ ih => rw [ih, chain_iff replaced away]

theorem Chases.ne_gateway (chases : Chases w gateway current (some last)) : last ≠ gateway := by
  rintro rfl
  have missed := chases.eq_none_iff.mpr (endsAt_iff.mp chases.endsAt).1
  cases missed

/-! ### What the search finds -/

theorem finalReplacement?_of_bypassed_eq {w' : Walk} (same : w'.bypassed = w.bypassed) (gateway target : String) :
    w'.finalReplacement? gateway target = w.finalReplacement? gateway target := by
  obtain ⟨_, bypassed, ends, _⟩ := w
  obtain ⟨_, bypassed', ends', _⟩ := w'
  cases same
  rfl

theorem finalReplacement?_of_notMem (ordered : Ordered w.bypassed) (fresh : gateway ∉ w.bypassed.map Prod.fst)
    (target : String) : w.finalReplacement? gateway target =
      if terminus w.bypassed target = gateway then none else some (terminus w.bypassed target) := by
  have ends := endsAt_terminus ordered target
  have chases := chases_finalReplacement? w gateway target
  cases found : w.finalReplacement? gateway target with
  | some last =>
    rw [found] at chases
    rw [ends.unique chases.endsAt, if_neg chases.ne_gateway]
  | none =>
    -- the gateway that the chain meets is where it ends
    have met : w.EndsAt target gateway := endsAt_iff.mpr ⟨chases.eq_none_iff.mp found, replacement?_of_notMem fresh⟩
    rw [ends.unique met, if_pos rfl]

theorem finalReplacement?_of_replacedBy (ordered : Ordered w.bypassed) (replaced : w.ReplacedBy gateway next) :
    w.finalReplacement? gateway next = some (terminus w.bypassed gateway) := by
  have ends := endsAt_terminus ordered gateway
  have chases := chases_finalReplacement? w gateway next
  cases found : w.finalReplacement? gateway next with
  | some last =>
    have onward : w.EndsAt gateway last := .onward replaced (found ▸ chases).endsAt
    rw [onward.unique ends]
  | none =>
    have back : ReflTransGen w.ReplacedBy next gateway := chases.eq_none_iff.mp found
    exact (acyclic w gateway (.head' replaced back)).elim

end Chases

end Walk

end BpmnWorkflow
