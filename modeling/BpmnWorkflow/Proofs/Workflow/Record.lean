import Mathlib.Data.List.Forall2
import Mathlib.Data.List.Nodup
import BpmnWorkflow.Proofs.Json.Spelling
import BpmnWorkflow.Workflow.Reading

/-!
# Records

A record may be an object, with its rows in any order and other members among them, or an array of the values of its
rows. A name of the record is looked up among all members as it is among the rows, `Arranges.member?_eq_lookup`, and
the members pass their check if the rows do, `Arranges.checkMembers_eq_ok`.
-/

namespace BpmnWorkflow

open Json (Draft)
open Reading

/-! ### Values -/

namespace Json

/-- A number stays within the range of doubles as it is read, and the escapes of a string or key stand for a text. -/
def Token.Fits : Token → Prop
  | .number _ magnitude => overflows magnitude = false
  | .string content => content.isSome = true
  | _ => True

/-- The values in which every number, string and key fits and containers stand at most `room` deep. -/
inductive IsValue (fits : Token → Prop) : Nat → Draft → Prop
  | null {room : Nat} : IsValue fits room .null
  | bool {room : Nat} (b : Bool) : IsValue fits room (.bool b)
  | number {room : Nat} {negative : Bool} {magnitude : Decimal} (fit : fits (.number negative magnitude)) :
    IsValue fits room (.number negative magnitude)
  | string {room : Nat} {content : Option String} (fit : fits (.string content)) : IsValue fits room (.string content)
  | array {room : Nat} {items : List Draft} (each : ∀ item ∈ items, IsValue fits room item) :
    IsValue fits (room + 1) (.array items)
  | object {room : Nat} {members : List (Option String × Draft)} (named : ∀ m ∈ members, fits (.string m.1))
    (each : ∀ m ∈ members, IsValue fits room m.2) : IsValue fits (room + 1) (.object members)

namespace Draft

variable {items : List Draft} {members : List (Option String × Draft)} {room : Nat}

theorem areComplete_iff : areComplete items = true ↔ ∀ d ∈ items, d.isComplete = true := by
  induction items with
  | nil => exact iff_of_true rfl (List.forall_mem_nil _)
  | cons item rest ih => rw [areComplete, Bool.and_eq_true, ih, List.forall_mem_cons]

theorem haveComplete_iff : haveComplete members = true ↔ ∀ m ∈ members, m.2.isComplete = true := by
  induction members with
  | nil => exact iff_of_true rfl (List.forall_mem_nil _)
  | cons m rest ih => rw [haveComplete, Bool.and_eq_true, ih, List.forall_mem_cons]

theorem areSound_iff : areSound room items = true ↔ ∀ d ∈ items, d.isSound room = true := by
  induction items with
  | nil => exact iff_of_true rfl (List.forall_mem_nil _)
  | cons item rest ih => rw [areSound, Bool.and_eq_true, ih, List.forall_mem_cons]

theorem haveSound_iff : haveSound room members = true ↔ ∀ m ∈ members, m.1.isSome = true ∧ m.2.isSound room = true := by
  induction members with
  | nil => exact iff_of_true rfl (List.forall_mem_nil _)
  | cons m rest ih => rw [haveSound, Bool.and_eq_true, Bool.and_eq_true, ih, List.forall_mem_cons]

end Draft

theorem IsValue.isComplete {fits : Token → Prop} {room : Nat} {d : Draft} (value : IsValue fits room d) :
    d.isComplete = true := by
  induction value with
  | null | bool | number | string => rfl
  | array _ ih => exact Draft.areComplete_iff.mpr ih
  | object _ _ ih => exact Draft.haveComplete_iff.mpr ih

theorem IsValue.isSound {room : Nat} {d : Draft} (value : IsValue Token.Fits room d) :
    d.isSound room = true := by
  induction value with
  | null | bool => rfl
  | number fit =>
    have fit : overflows _ = false := fit
    rw [Draft.isSound, fit, Bool.not_false]
  | string fit => exact fit
  | array _ ih =>
    rw [Draft.isSound, Nat.add_sub_cancel, Draft.areSound_iff.mpr ih, Bool.and_true, decide_eq_true (Nat.succ_pos _)]
  | object named _ ih =>
    have sound := Draft.haveSound_iff.mpr fun m member => ⟨named m member, ih m member⟩
    rw [Draft.isSound, Nat.add_sub_cancel, sound, Bool.and_true, decide_eq_true (Nat.succ_pos _)]

end Json

open Json (IsValue)

/-! ### Records -/

def namedMembers (rows : List (String × Draft)) : List (Option String × Draft) := rows.map fun row => (some row.1, row.2)

/-- The members are the rows and others, whose names are not reserved, in any order. -/
structure Arranges (reserved : List String) (other : Draft → Prop) (rows : List (String × Draft))
    (others members : List (Option String × Draft)) : Prop where
  order : members.Perm (namedMembers rows ++ others)
  named : ∀ m ∈ others, ∃ key ∉ reserved, m.1 = some key
  free : ∀ m ∈ others, other m.2

/-- The forms of a record: an object with its rows, or an array of their values. -/
inductive IsRecord (reserved : List String) (other : Draft → Prop) (rows : List (String × Draft)) : Draft → Prop
  | object {others members : List (Option String × Draft)} (arranges : Arranges reserved other rows others members) :
    IsRecord reserved other rows (.object members)
  | array : IsRecord reserved other rows (.array (rows.map Prod.snd))

namespace Reading

theorem mapM_eq_ok {α β : Type} {read : β → Reading α} {values : List α} {items : List β}
    (each : List.Forall₂ (fun a b => read b = .ok a) values items) : items.mapM read = .ok values := by
  induction each with
  | nil => rfl
  | cons first _ ih =>
    rw [List.mapM_cons, first, ih]
    rfl

theorem forall_mem_of_forall₂ {α β : Type} {R : α → β → Prop} {values : List α} {items : List β} {P : β → Prop}
    (each : List.Forall₂ R values items) (holds : ∀ a b, R a b → P b) : ∀ b ∈ items, P b := by
  induction each with
  | nil => exact List.forall_mem_nil P
  | cons first _ ih => exact List.forall_mem_cons.mpr ⟨holds _ _ first, ih⟩

theorem tested_eq_ok {α : Type} {value : Reading α} {a : α} (read : value = .ok a) : tested value = .ok () := by
  rw [tested, read]
  rfl

theorem required_eq_ok {α : Type} {read : Draft → Reading α} {key : String} {value : Draft} {a : α}
    {members : List (Option String × Draft)} (found : member? members key = some value)
    (reads : read value = .ok a) : required read key members = .ok a := by
  rw [required, found]
  exact reads

theorem optional_eq_ok {α : Type} {read : Draft → Reading α} {key : String} {value : Draft} {absent a : α}
    {members : List (Option String × Draft)} (found : member? members key = some value)
    (reads : read value = .ok a) : Reading.optional read key absent members = .ok a := by
  rw [Reading.optional.eq_def, found]
  exact reads

theorem optional_eq_absent {α : Type} {read : Draft → Reading α} {key : String} {absent : α}
    {members : List (Option String × Draft)} (missing : member? members key = none) :
    Reading.optional read key absent members = .ok absent := by
  rw [Reading.optional.eq_def, missing]

theorem lookup_eq_some_of_forall {α β : Type} [BEq α] [LawfulBEq α] {entries : List (α × β)} {key : α} {value : β}
    (member : (key, value) ∈ entries) (same : ∀ e ∈ entries, e.1 = key → e.2 = value) :
    entries.lookup key = some value := by
  induction entries with
  | nil => cases member
  | cons e rest ih =>
    by_cases own : e.1 = key
    · rw [List.lookup_cons, own, beq_self_eq_true, same e List.mem_cons_self own]
    · rw [List.lookup_cons, beq_false_of_ne (Ne.symm own)]
      obtain rfl | member := List.mem_cons.mp member
      · exact (own rfl).elim
      · exact ih member fun e member => same e (List.mem_cons_of_mem _ member)

theorem checkMembers_eq_ok {fields : List String} {check : String → Draft → Reading Unit}
    {members : List (Option String × Draft)} (seen : List String)
    (each : ∀ m ∈ members, ∃ key, m.1 = some key ∧ check key m.2 = .ok () ∧ (key ∈ fields → key ∉ seen))
    (once : members.Pairwise fun a b => a.1 = b.1 → ∀ key ∈ fields, a.1 ≠ some key) :
    checkMembers fields check seen members = .ok () := by
  induction members generalizing seen with
  | nil => rfl
  | cons m rest ih =>
    obtain ⟨name, value⟩ := m
    obtain ⟨key, rfl, checked, fresh⟩ := each (name, value) List.mem_cons_self
    rw [List.pairwise_cons] at once
    have others := ih (key :: seen) (by
      intro m member
      obtain ⟨other, named, checked, fresh⟩ := each m (List.mem_cons_of_mem _ member)
      refine ⟨other, named, checked, fun known seen => ?_⟩
      obtain rfl | seen := List.mem_cons.mp seen
      · exact once.1 m member named.symm other known rfl
      · exact fresh known seen) once.2
    rw [checkMembers, if_neg fun repeated => fresh repeated.1 repeated.2, checked]
    exact others

end Reading

namespace Arranges

variable {reserved : List String} {other : Draft → Prop} {rows : List (String × Draft)}
  {others members : List (Option String × Draft)} {key : String} {value : Draft}

theorem forall_mem {P : Option String × Draft → Prop} (arranges : Arranges reserved other rows others members)
    (known : ∀ row ∈ rows, P (some row.1, row.2)) (unknown : ∀ key ∉ reserved, ∀ d, other d → P (some key, d)) :
    ∀ m ∈ members, P m := by
  intro m member
  rcases List.mem_append.mp (arranges.order.mem_iff.mp member) with member | member
  · obtain ⟨row, row_mem, rfl⟩ := List.mem_map.mp member
    exact known row row_mem
  · obtain ⟨key, foreign, named⟩ := arranges.named m member
    obtain ⟨_, d⟩ := m
    cases named
    exact unknown key foreign d (arranges.free _ member)

theorem member?_eq_lookup (arranges : Arranges reserved other rows others members) (known : key ∈ reserved)
    (distinct : (rows.map Prod.fst).Nodup) : member? members key = rows.lookup key := by
  cases found : rows.lookup key with
  | none =>
    refine List.lookup_eq_none_iff.mpr (arranges.forall_mem (fun row member => ?_) fun other foreign _ _ => ?_)
    · rw [bne_iff_ne]
      rintro ⟨⟩
      exact bne_iff_ne.mp (List.lookup_eq_none_iff.mp found row member) rfl
    · rw [bne_iff_ne]
      rintro ⟨⟩
      exact foreign known
  | some value =>
    -- the value is among the members, and no other member has the name
    obtain ⟨before, after, rfl, -⟩ := List.lookup_eq_some_iff.mp found
    have row : (key, value) ∈ before ++ (key, value) :: after := List.mem_append_right _ List.mem_cons_self
    have member : (some key, value) ∈ namedMembers (before ++ (key, value) :: after) ++ others :=
      List.mem_append_left _ (List.mem_map_of_mem row)
    refine lookup_eq_some_of_forall (arranges.order.mem_iff.mpr member) ?_
    refine arranges.forall_mem (fun other member same => ?_) fun other foreign _ _ same => ?_
    · have same : other = (key, value) := List.inj_on_of_nodup_map distinct member row (Option.some.inj same)
      rw [same]
    · exact (foreign (Option.some.inj same ▸ known)).elim

theorem member?_eq_some (arranges : Arranges reserved other rows others members) (within : rows.map Prod.fst ⊆ reserved)
    (distinct : (rows.map Prod.fst).Nodup) (looked : rows.lookup key = some value) : member? members key = some value := by
  obtain ⟨before, after, split, -⟩ := List.lookup_eq_some_iff.mp looked
  have row : (key, value) ∈ rows := split ▸ List.mem_append_right _ List.mem_cons_self
  rw [arranges.member?_eq_lookup (within (List.mem_map_of_mem row)) distinct, looked]

theorem checkMembers_eq_ok (arranges : Arranges reserved other rows others members)
    (distinct : (rows.map Prod.fst).Nodup) {check : String → Draft → Reading Unit}
    (known : ∀ row ∈ rows, check row.1 row.2 = .ok ())
    (unknown : ∀ key ∉ reserved, ∀ d, other d → check key d = .ok ()) :
    checkMembers reserved check [] members = .ok () := by
  refine Reading.checkMembers_eq_ok [] ?_ ?_
  · refine arranges.forall_mem ?_ ?_
    · exact fun row member => ⟨row.1, rfl, known row member, fun _ => List.not_mem_nil⟩
    · exact fun key foreign d free => ⟨key, rfl, unknown key foreign d free, fun _ => List.not_mem_nil⟩
  · have foreign (m) (member : m ∈ others) : ∀ key ∈ reserved, m.1 ≠ some key := by
      obtain ⟨name, foreign, named⟩ := arranges.named m member
      rw [named]
      rintro key known ⟨⟩
      exact foreign known
    rw [arranges.order.pairwise_iff fun same => fun back key known => back ▸ same back.symm key known]
    refine List.pairwise_append.mpr ⟨?_, ?_, ?_⟩
    · rw [List.nodup_iff_pairwise_ne, List.pairwise_map] at distinct
      rw [namedMembers, List.pairwise_map]
      exact distinct.imp fun apart same => absurd (Option.some.inj same) apart
    · exact List.pairwise_of_forall_mem_list fun m member _ _ _ => foreign m member
    · exact fun _ _ m member same => same ▸ foreign m member

/-- The member of the first row stands somewhere, and only there; the rest are members for the other rows. -/
theorem split (arranges : Arranges (key :: reserved) other ((key, value) :: rows) others members)
    (alone : key ∉ rows.map Prod.fst) : ∃ before after, members = before ++ (some key, value) :: after ∧
      Arranges reserved other rows others (before ++ after) ∧ ∀ m ∈ before ++ after, m.1 ≠ some key := by
  have member : (some key, value) ∈ members := arranges.order.mem_iff.mpr List.mem_cons_self
  obtain ⟨before, after, rfl⟩ := List.append_of_mem member
  have order : (before ++ after).Perm (namedMembers rows ++ others) :=
    (List.perm_middle.symm.trans arranges.order).cons_inv
  refine ⟨before, after, rfl, ⟨order, fun m member => ?_, arranges.free⟩, fun m member => ?_⟩
  · obtain ⟨name, foreign, named⟩ := arranges.named m member
    exact ⟨name, fun known => foreign (List.mem_cons_of_mem _ known), named⟩
  · rcases List.mem_append.mp (order.mem_iff.mp member) with member | member
    · obtain ⟨row, row_mem, rfl⟩ := List.mem_map.mp member
      rintro ⟨⟩
      exact alone (List.mem_map_of_mem row_mem)
    · obtain ⟨name, foreign, named⟩ := arranges.named m member
      rw [named]
      rintro ⟨⟩
      exact foreign List.mem_cons_self

end Arranges

namespace IsRecord

variable {reserved : List String} {other : Draft → Prop} {rows : List (String × Draft)} {d : Draft}

theorem inOrder (rows : List (String × Draft)) : IsRecord reserved other rows (.object (namedMembers rows)) := by
  have none : ∀ m : Option String × Draft, m ∉ [] := fun _ => List.not_mem_nil
  refine .object ⟨?_, fun m member => (none m member).elim, fun m member => (none m member).elim⟩
  rw [List.append_nil]

theorem isComplete (record : IsRecord reserved other rows d) (known : ∀ row ∈ rows, row.2.isComplete = true)
    (unknown : ∀ d, other d → d.isComplete = true) : d.isComplete = true := by
  cases record with
  | object arranges => exact Draft.haveComplete_iff.mpr (arranges.forall_mem known fun _ _ => unknown)
  | array =>
    refine Draft.areComplete_iff.mpr fun d member => ?_
    obtain ⟨row, row_mem, rfl⟩ := List.mem_map.mp member
    exact known row row_mem

theorem isSound {room : Nat} (record : IsRecord reserved other rows d) (known : ∀ row ∈ rows, row.2.isSound room = true)
    (unknown : ∀ d, other d → d.isSound room = true) : d.isSound (room + 1) = true := by
  cases record with
  | object arranges =>
    have sound := Draft.haveSound_iff.mpr
      (arranges.forall_mem (fun row member => ⟨rfl, known row member⟩) fun _ _ d free => ⟨rfl, unknown d free⟩)
    rw [Draft.isSound, Nat.add_sub_cancel, sound, Bool.and_true, decide_eq_true (Nat.succ_pos _)]
  | array =>
    have sound : Draft.areSound room (rows.map Prod.snd) = true := by
      refine Draft.areSound_iff.mpr fun d member => ?_
      obtain ⟨row, row_mem, rfl⟩ := List.mem_map.mp member
      exact known row row_mem
    rw [Draft.isSound, Nat.add_sub_cancel, sound, Bool.and_true, decide_eq_true (Nat.succ_pos _)]

end IsRecord

end BpmnWorkflow
