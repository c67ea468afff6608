import BpmnWorkflow.Proofs.Workflow.Record
import BpmnWorkflow.Workflow.Outline

/-!
# The forms of a workflow

A workflow, its steps and their transitions are records, and each of them takes any form of its own. What is missing
may be left out or null. All forms of a workflow are read as that workflow: `Workflow.ofDraft_of_isForm`.
-/

namespace BpmnWorkflow

open Json (Draft IsValue)
open Reading

/-! ### Transitions -/

/-- The rows of an answer; one that is missing may be left out or null. -/
inductive AnswerRows : Option String → List (String × Draft) → Prop
  | absent : AnswerRows none []
  | null : AnswerRows none [("answer", .null)]
  | given (answer : String) : AnswerRows (some answer) [("answer", .string (some answer))]

theorem AnswerRows.forall_mem {P : Draft → Prop} {answer : Option String} {rows : List (String × Draft)}
    (answered : AnswerRows answer rows) (null : P .null) (text : ∀ s, P (.string (some s))) : ∀ row ∈ rows, P row.2 := by
  cases answered with
  | absent => exact List.forall_mem_nil _
  | null => exact List.forall_mem_singleton.mpr null
  | given answer => exact List.forall_mem_singleton.mpr (text answer)

namespace Transition

variable {fits : Json.Token → Prop} {room : Nat} {t : Transition} {d : Draft}

/-- The forms of a transition in which containers may stand `room` deep. Its other members hold values that fit. -/
def IsForm (fits : Json.Token → Prop) (room : Nat) (t : Transition) (d : Draft) : Prop :=
  ∃ answer, AnswerRows t.answer answer ∧ IsRecord fieldNames (IsValue fits (room - 1))
    ([("stepName", .string (some t.stepName)), ("buttonText", .string (some t.buttonText))] ++ answer) d

theorem checkField_unknown {key : String} (foreign : key ∉ fieldNames) (d : Draft) : checkField key d = .ok () := by
  unfold checkField
  split
  · exact (foreign (by decide)).elim
  · exact (foreign (by decide)).elim
  · exact (foreign (by decide)).elim
  · rfl

theorem ofDraft_of_isForm (form : IsForm fits room t d) : ofDraft d = .ok t := by
  obtain ⟨stepName, buttonText, given⟩ := t
  obtain ⟨answer, answered, record⟩ := form
  cases record with
  | array => cases answered <;> rfl
  | @object others members arranges =>
    have distinct : ((("stepName", Draft.string (some stepName)) :: ("buttonText", .string (some buttonText)) ::
        answer).map Prod.fst).Nodup := by
      cases answered <;> simp
    have checked : checkMembers fieldNames checkField [] members = .ok () := by
      refine arranges.checkMembers_eq_ok distinct ?_ fun key foreign d _ => checkField_unknown foreign d
      simp only [List.cons_append, List.nil_append, List.forall_mem_cons]
      refine ⟨rfl, rfl, ?_⟩
      cases answered <;> simp [checkField, optionalText, text, tested, Except.map]
    have found {key : String} (known : key ∈ fieldNames) := arranges.member?_eq_lookup known distinct
    have stepNameRead : required text "stepName" members = .ok stepName := required_eq_ok (found (by decide)) rfl
    have buttonTextRead : required text "buttonText" members = .ok buttonText := required_eq_ok (found (by decide)) rfl
    have answerRead : Reading.optional optionalText "answer" none members = .ok given := by
      have looked := found (show "answer" ∈ fieldNames by decide)
      cases answered with
      | absent => exact optional_eq_absent looked
      | null | given => exact optional_eq_ok looked rfl
    rw [ofDraft, ofMembers, checked]
    simp only [stepNameRead, buttonTextRead, answerRead]
    rfl

theorem isComplete_of_isForm (form : IsForm fits room t d) : d.isComplete = true := by
  obtain ⟨answer, answered, record⟩ := form
  refine record.isComplete ?_ fun _ value => value.isComplete
  simp only [List.cons_append, List.nil_append, List.forall_mem_cons]
  exact ⟨rfl, rfl, answered.forall_mem (P := fun d => d.isComplete = true) rfl fun _ => rfl⟩

theorem isSound_of_isForm (form : IsForm Json.Token.Fits (room + 1) t d) : d.isSound (room + 1) = true := by
  obtain ⟨answer, answered, record⟩ := form
  refine record.isSound ?_ fun _ value => value.isSound
  simp only [List.cons_append, List.nil_append, List.forall_mem_cons]
  exact ⟨rfl, rfl, answered.forall_mem (P := fun d => d.isSound room = true) rfl fun _ => rfl⟩

theorem listOfDraft_of_isForm {ts : List Transition} {ds : List Draft} (forms : List.Forall₂ (IsForm fits room) ts ds) :
    listOfDraft (.array ds) = .ok ts := by
  rw [listOfDraft]
  exact mapM_eq_ok (forms.imp fun _ _ => ofDraft_of_isForm)

end Transition

theorem TaskType.ofDraft_label (t : TaskType) : ofDraft (.string (some t.label)) = .ok t := by
  cases t <;> rfl

/-! ### Steps -/

namespace StepType

variable {type : StepType} {key : String}

theorem nodup_fieldNames (type : StepType) : ("type" :: type.fieldNames).Nodup := by
  cases type <;> decide

theorem checkField_unknown (foreign : key ∉ type.fieldNames) (d : Draft) : type.checkField key d = .ok () := by
  unfold checkField
  split
  · cases type <;> exact (foreign (by decide)).elim
  · exact (foreign (by decide)).elim
  · exact (foreign (by decide)).elim
  · exact (foreign (by decide)).elim
  · exact (foreign (by decide)).elim
  · exact (foreign (by decide)).elim
  · rfl

end StepType

namespace Step

def type : Step → StepType
  | task .. => .task
  | condition .. => .condition
  | terminal _ => .terminal

theorem ofLabel_typeLabel (s : Step) : StepType.ofLabel s.typeLabel = .ok s.type := by
  cases s <;> rfl

inductive FieldRows (fits : Json.Token → Prop) (room : Nat) : Step → List (String × Draft) → Prop
  | task {title prompt : String} {taskType : TaskType} {outgoing : Transition} {way : Draft}
    (form : outgoing.IsForm fits (room - 1) way) : FieldRows fits room (.task title prompt taskType outgoing)
      [("title", .string (some title)), ("prompt", .string (some prompt)),
        ("taskType", .string (some taskType.label)), ("outgoing", way)]
  | condition {title prompt : String} {outgoing : List Transition} {ways : List Draft}
    (forms : List.Forall₂ (Transition.IsForm fits (room - 2)) outgoing ways) :
    FieldRows fits room (.condition title prompt outgoing)
      [("title", .string (some title)), ("prompt", .string (some prompt)), ("outgoing", .array ways)]
  | terminal (title : String) : FieldRows fits room (.terminal title) [("title", .string (some title))]

/-- The forms of a step in which containers may stand `room` deep. Its other members hold values that fit. -/
def IsForm (fits : Json.Token → Prop) (room : Nat) (s : Step) (d : Draft) : Prop :=
  ∃ rows, FieldRows fits room s rows ∧ IsRecord ("type" :: s.type.fieldNames) (IsValue fits (room - 1))
    (("type", .string (some s.typeLabel)) :: rows) d

variable {fits : Json.Token → Prop} {room : Nat} {s : Step} {rows : List (String × Draft)} {d : Draft}

theorem FieldRows.keys (fields : FieldRows fits room s rows) : rows.map Prod.fst = s.type.fieldNames := by
  cases fields <;> rfl

theorem FieldRows.forall_mem {P : Draft → Prop} (fields : FieldRows fits room s rows) (text : ∀ s, P (.string (some s)))
    (way : ∀ t d, Transition.IsForm fits (room - 1) t d → P d)
    (ways : ∀ ts ds, List.Forall₂ (Transition.IsForm fits (room - 2)) ts ds → P (.array ds)) : ∀ row ∈ rows, P row.2 := by
  cases fields with
  | task form =>
    simp only [List.forall_mem_cons, List.not_mem_nil, false_implies, implies_true, and_true]
    exact ⟨text _, text _, text _, way _ _ form⟩
  | condition forms =>
    simp only [List.forall_mem_cons, List.not_mem_nil, false_implies, implies_true, and_true]
    exact ⟨text _, text _, ways _ _ forms⟩
  | terminal => exact List.forall_mem_singleton.mpr (text _)

theorem FieldRows.ofItems_eq (fields : FieldRows fits room s rows) : ofItems s.type (rows.map Prod.snd) = .ok s := by
  cases fields with
  | @task title prompt taskType outgoing way form =>
    have typeRead := taskType.ofDraft_label
    have wayRead := Transition.ofDraft_of_isForm form
    simp only [type, List.map_cons, List.map_nil, ofItems, next, text, Except.map, bind, Except.bind, typeRead, wayRead]
    rfl
  | condition forms =>
    have waysRead := Transition.listOfDraft_of_isForm forms
    simp only [type, List.map_cons, List.map_nil, ofItems, next, text, Except.map, bind, Except.bind, waysRead]
    rfl
  | terminal => rfl

theorem FieldRows.checkField_eq (fields : FieldRows fits room s rows) :
    ∀ row ∈ rows, s.type.checkField row.1 row.2 = .ok () := by
  cases fields with
  | @task title prompt taskType outgoing way form =>
    simp only [List.forall_mem_cons, List.not_mem_nil, false_implies, implies_true, and_true]
    exact ⟨rfl, rfl, tested_eq_ok taskType.ofDraft_label, tested_eq_ok (Transition.ofDraft_of_isForm form)⟩
  | condition forms =>
    simp only [List.forall_mem_cons, List.not_mem_nil, false_implies, implies_true, and_true]
    exact ⟨rfl, rfl, tested_eq_ok (Transition.listOfDraft_of_isForm forms)⟩
  | terminal => exact List.forall_mem_singleton.mpr rfl

theorem FieldRows.ofMembers_eq {other : Draft → Prop} {others members : List (Option String × Draft)}
    (fields : FieldRows fits room s rows) (arranges : Arranges s.type.fieldNames other rows others members) :
    ofMembers s.type members = .ok s := by
  have distinct : (rows.map Prod.fst).Nodup := fields.keys ▸ (List.nodup_cons.mp s.type.nodup_fieldNames).2
  have found {key : String} {value : Draft} (looked : rows.lookup key = some value) : member? members key = some value :=
    arranges.member?_eq_some (fields.keys ▸ List.Subset.refl _) distinct looked
  have checked : checkMembers s.type.fieldNames s.type.checkField [] members = .ok () :=
    arranges.checkMembers_eq_ok distinct fields.checkField_eq fun _ foreign d _ => StepType.checkField_unknown foreign d
  rw [ofMembers, checked]
  cases fields with
  | @task title prompt taskType outgoing way form =>
    have titleRead : required text "title" members = .ok title := required_eq_ok (found rfl) rfl
    have promptRead : required text "prompt" members = .ok prompt := required_eq_ok (found rfl) rfl
    have typeRead : required TaskType.ofDraft "taskType" members = .ok taskType :=
      required_eq_ok (found rfl) taskType.ofDraft_label
    have wayRead : required Transition.ofDraft "outgoing" members = .ok outgoing :=
      required_eq_ok (found rfl) (Transition.ofDraft_of_isForm form)
    simp only [type, titleRead, promptRead, typeRead, wayRead]
    rfl
  | @condition title prompt outgoing ways forms =>
    have titleRead : required text "title" members = .ok title := required_eq_ok (found rfl) rfl
    have promptRead : required text "prompt" members = .ok prompt := required_eq_ok (found rfl) rfl
    have waysRead : required Transition.listOfDraft "outgoing" members = .ok outgoing :=
      required_eq_ok (found rfl) (Transition.listOfDraft_of_isForm forms)
    simp only [type, titleRead, promptRead, waysRead]
    rfl
  | terminal title =>
    have titleRead : required text "title" members = .ok title := required_eq_ok (found rfl) rfl
    simp only [type, titleRead]
    rfl

theorem FieldRows.isComplete (fields : FieldRows fits room s rows) : ∀ row ∈ rows, row.2.isComplete = true :=
  fields.forall_mem (P := fun d => d.isComplete = true) (fun _ => rfl)
    (fun _ _ => Transition.isComplete_of_isForm) fun _ _ forms =>
    Draft.areComplete_iff.mpr (forall_mem_of_forall₂ forms fun _ _ => Transition.isComplete_of_isForm)

theorem FieldRows.isSound (fields : FieldRows Json.Token.Fits (room + 3) s rows) :
    ∀ row ∈ rows, row.2.isSound (room + 2) = true :=
  fields.forall_mem (P := fun d => d.isSound (room + 2) = true) (fun _ => rfl)
    (fun _ _ => Transition.isSound_of_isForm) fun _ _ forms =>
    Draft.areSound_iff.mpr (forall_mem_of_forall₂ forms fun _ _ => Transition.isSound_of_isForm)

theorem isComplete_of_isForm (form : IsForm fits room s d) : d.isComplete = true := by
  obtain ⟨rows, fields, record⟩ := form
  exact record.isComplete (List.forall_mem_cons.mpr ⟨rfl, fields.isComplete⟩) fun _ value => value.isComplete

theorem findType_append {found : Option StepType} {members : List (Option String × Draft)}
    (rest : List (Option String × Draft)) (sound : ∀ m ∈ members, m.1.isSome = true ∧ m.2.isSound room = true)
    (untyped : ∀ m ∈ members, m.1 ≠ some "type") : findType room found (members ++ rest) = findType room found rest := by
  induction members with
  | nil => rfl
  | cons m members ih =>
    rw [List.forall_mem_cons] at sound untyped
    obtain ⟨_ | key, value⟩ := m
    · cases sound.1.1
    · have other : key ≠ "type" := fun same => untyped.1 (congrArg some same)
      have tail := ih sound.2 untyped.2
      cases found with
      | none | some => rw [List.cons_append, findType, if_neg other, if_pos sound.1.2, tail]

theorem ofDraft_of_isForm (form : IsForm Json.Token.Fits (room + 3) s d) : ofDraft (room + 3) d = .ok s := by
  obtain ⟨rows, fields, record⟩ := form
  have typed : StepType.ofDraft (.string (some s.typeLabel)) = .ok s.type := s.ofLabel_typeLabel
  cases record with
  | array =>
    have sound : Draft.areSound (room + 2) (rows.map Prod.snd) = true := by
      refine Draft.areSound_iff.mpr fun d member => ?_
      obtain ⟨row, row_mem, rfl⟩ := List.mem_map.mp member
      exact fields.isSound row row_mem
    rw [List.map_cons, ofDraft, if_neg (Nat.succ_ne_zero _), typed]
    exact (if_pos sound).trans fields.ofItems_eq
  | @object others members arranges =>
    have sound : ∀ m ∈ members, m.1.isSome = true ∧ m.2.isSound (room + 2) = true :=
      arranges.forall_mem (List.forall_mem_cons.mpr ⟨⟨rfl, rfl⟩, fun row member => ⟨rfl, fields.isSound row member⟩⟩)
        fun _ _ _ value => ⟨rfl, value.isSound⟩
    obtain ⟨before, after, rfl, fieldsArranged, untyped⟩ :=
      arranges.split (fields.keys ▸ (List.nodup_cons.mp s.type.nodup_fieldNames).1)
    have kept : (before ++ (some "type", Draft.string (some s.typeLabel)) :: after).filter (·.1 != some "type") =
        before ++ after := by
      have all := List.filter_eq_self.mpr fun m member => bne_iff_ne.mpr (untyped m member)
      rw [List.filter_append] at all ⊢
      rwa [List.filter_cons_of_neg (by simp)]
    rw [List.forall_mem_append, List.forall_mem_cons] at sound
    rw [List.forall_mem_append] at untyped
    -- what stands in front of the type is passed over, and so is what stands behind it
    have found : findType (room + 2) none (before ++ (some "type", .string (some s.typeLabel)) :: after) = .ok s.type := by
      have rest : findType (room + 2) (some s.type) (after ++ []) = .ok s.type := findType_append [] sound.2.2 untyped.2
      rw [List.append_nil] at rest
      rw [findType_append _ sound.1 untyped.1, findType, if_pos rfl, typed]
      exact rest
    rw [ofDraft, if_neg (Nat.succ_ne_zero _), show room + 3 - 1 = room + 2 from rfl, found, kept]
    exact fields.ofMembers_eq fieldsArranged

end Step

/-! ### Workflows -/

namespace Workflow

/-- The rows of the steps, in their order; no steps may be left out. -/
inductive StepsRows (fits : Json.Token → Prop) : OrderedMap Step → List (String × Draft) → Prop
  | absent : StepsRows fits .empty []
  | given {steps : OrderedMap Step} {members : List (Option String × Draft)}
    (forms : List.Forall₂ (fun e m => m.1 = some e.1 ∧ e.2.IsForm fits (depthLimit - 2) m.2) steps.entries members) :
    StepsRows fits steps [("steps", .object members)]

/-- The forms of a workflow. Its other members are only passed over and may hold any value without a fault. -/
def IsForm (fits : Json.Token → Prop) (w : Workflow) (d : Draft) : Prop :=
  ∃ steps, StepsRows fits w.steps steps ∧ IsRecord fieldNames (·.isComplete = true)
    ([("name", .string (some w.name)), ("entryPoint", .string (some w.entryPoint))] ++ steps) d

variable {fits : Json.Token → Prop} {w : Workflow} {d : Draft}

theorem readSteps_eq_ok {steps : OrderedMap Step} {members : List (Option String × Draft)}
    (forms : List.Forall₂ (fun e m => m.1 = some e.1 ∧ e.2.IsForm Json.Token.Fits (depthLimit - 2) m.2)
      steps.entries members) :
    readSteps (.object members) = .ok steps := by
  -- a step stands two containers deep, and what is left of the limit is more than it needs
  have room : depthLimit - 2 = 122 + 3 := rfl
  have each : List.Forall₂ (fun e m => readStep m = .ok e) steps.entries members := by
    refine forms.imp fun e m => ?_
    rintro ⟨named, form⟩
    obtain ⟨_, d⟩ := m
    cases named
    rw [room] at form
    rw [readStep, room, Step.ofDraft_of_isForm form]
    rfl
  rw [readSteps, mapM_eq_ok each]
  exact congrArg Except.ok steps.ofEntries_entries

theorem checkField_unknown {key : String} (foreign : key ∉ fieldNames) (complete : d.isComplete = true) :
    checkField key d = .ok () := by
  unfold checkField
  split
  · exact (foreign (by decide)).elim
  · exact (foreign (by decide)).elim
  · exact (foreign (by decide)).elim
  · rw [if_pos complete]

theorem isComplete_of_isForm (form : IsForm fits w d) : d.isComplete = true := by
  obtain ⟨name, entryPoint, steps⟩ := w
  obtain ⟨rows, given, record⟩ := form
  refine record.isComplete ?_ fun _ complete => complete
  simp only [List.cons_append, List.nil_append, List.forall_mem_cons]
  refine ⟨rfl, rfl, ?_⟩
  cases given with
  | absent => exact List.forall_mem_nil _
  | given forms =>
    have complete := forall_mem_of_forall₂ forms fun _ _ form => Step.isComplete_of_isForm form.2
    exact List.forall_mem_singleton.mpr (Draft.haveComplete_iff.mpr complete)

theorem ofDraft_of_isForm (form : IsForm Json.Token.Fits w d) : ofDraft d = .ok w := by
  obtain ⟨name, entryPoint, steps⟩ := w
  obtain ⟨rows, given, record⟩ := form
  cases record with
  | array =>
    cases given with
    | absent => rfl
    | given forms =>
      have stepsRead := readSteps_eq_ok forms
      simp only [List.cons_append, List.nil_append, List.map_cons, List.map_nil, ofDraft, ofItems, next, nextIfAny, text,
        Except.map, bind, Except.bind, stepsRead]
      rfl
  | @object others members arranges =>
    have distinct : ((("name", Draft.string (some name)) :: ("entryPoint", .string (some entryPoint)) ::
        rows).map Prod.fst).Nodup := by
      cases given <;> simp
    have checked : checkMembers fieldNames checkField [] members = .ok () := by
      refine arranges.checkMembers_eq_ok distinct ?_ fun key foreign d complete => checkField_unknown foreign complete
      simp only [List.cons_append, List.nil_append, List.forall_mem_cons]
      refine ⟨rfl, rfl, ?_⟩
      cases given with
      | absent => exact List.forall_mem_nil _
      | given forms => exact List.forall_mem_singleton.mpr (tested_eq_ok (readSteps_eq_ok forms))
    have found {key : String} (known : key ∈ fieldNames) := arranges.member?_eq_lookup known distinct
    have nameRead : required text "name" members = .ok name := required_eq_ok (found (by decide)) rfl
    have entryPointRead : required text "entryPoint" members = .ok entryPoint := required_eq_ok (found (by decide)) rfl
    have stepsRead : Reading.optional readSteps "steps" .empty members = .ok steps := by
      have looked := found (show "steps" ∈ fieldNames by decide)
      cases given with
      | absent => exact optional_eq_absent looked
      | given forms => exact optional_eq_ok looked (readSteps_eq_ok forms)
    rw [ofDraft, ofMembers, checked]
    simp only [nameRead, entryPointRead, stepsRead]
    rfl

end Workflow

end BpmnWorkflow
