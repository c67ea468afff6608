import BpmnWorkflow.Proofs.Compilation.Prompts
import BpmnWorkflow.Proofs.Text.Blank

/-!
# Comments and instructions in a document

A comment or an instruction put into a document, between nodes or into the middle of a text, contributes nothing to the
diagram. But it ends the text that a description is read from: what comes after it is lost. `CutsShort` says when
that happens, and `remark_cuts_description_only` that nothing else does.
-/

namespace BpmnWorkflow

namespace Xml

def Node.isRemark : Node → Bool
  | .comment _ | .instruction _ _ => true
  | .element .. | .text _ => false

/-- The nodes with a remark between two of them, at their ends, or in the middle of a text. -/
inductive PutIn (remark : Node) : List Node → List Node → Prop
  | between (before after : List Node) : PutIn remark (before ++ after) (before ++ remark :: after)
  | within (before after : List Node) {first second : String} : first ≠ "" → second ≠ "" →
      PutIn remark (before ++ .text (first ++ second) :: after) (before ++ .text first :: remark :: .text second :: after)

/-- A change of these nodes, or of the children of one of them, at any depth. -/
inductive Inside (change : List Node → List Node → Prop) : List Node → List Node → Prop
  | here {nodes nodes' : List Node} : change nodes nodes' → Inside change nodes nodes'
  | child (before after : List Node) {name : Name} {attributes : List Attribute} {children children' : List Node} :
      Inside change children children' →
      Inside change (before ++ .element name attributes children :: after)
        (before ++ .element name attributes children' :: after)

end Xml

open Xml (Attribute Inside Name Node PutIn)

/-- The content begins with the text `kept ++ lost`, and the remark is put between the two. -/
inductive Interrupts (remark : Node) (kept lost : String) : List Node → List Node → Prop
  | front (rest : List Node) : kept = "" → Interrupts remark kept lost (.text lost :: rest) (remark :: .text lost :: rest)
  | middle (rest : List Node) : kept ≠ "" → lost ≠ "" →
      Interrupts remark kept lost (.text (kept ++ lost) :: rest) (.text kept :: remark :: .text lost :: rest)

/-- The remark is put into the text that an element with these children is described by. -/
inductive InterruptsDescription (remark : Node) (kept lost : String) : List Node → List Node → Prop
  | intro (earlier later : List Node) {name : Name} {attributes : List Attribute} {content content' : List Node} :
      earlier.any isDocumentation = false → name.localName = "documentation" →
      Interrupts remark kept lost content content' →
      InterruptsDescription remark kept lost (earlier ++ .element name attributes content :: later)
        (earlier ++ .element name attributes content' :: later)

/-- The remark is put into the description of one of these nodes, an element of a diagram, and what is lost is visible. -/
inductive CutsShort (remark : Node) : List Node → List Node → Prop
  | intro (before after : List Node) {name : Name} {attributes : List Attribute} {kind : ElementKind}
      {children children' : List Node} {kept lost : String} :
      ElementKind.ofTag? name.localName = some kind → InterruptsDescription remark kept lost children children' →
      (∃ c ∈ lost.toList, Text.isBlank c = false) →
      CutsShort remark (before ++ .element name attributes children :: after)
        (before ++ .element name attributes children' :: after)

variable {remark : Node} {nodes nodes' children children' content content' : List Node} {name : Name}
  {attributes : List Attribute} {kept lost : String}

/-! ### The parts of a document -/

namespace Part

theorem ofNodes_append (xs ys : List Node) : ofNodes (xs ++ ys) = ofNodes xs ++ ofNodes ys := by
  induction xs with
  | nil => rfl
  | cons node rest ih => rw [List.cons_append, ofNodes, ofNodes, ih, List.append_assoc]

theorem ofNodes_element (before after : List Node) (name : Name) (attributes : List Attribute) (children : List Node) :
    ofNodes (before ++ .element name attributes children :: after) =
      ofNodes before ++ ((ofTag? name attributes children).toList ++ ofNodes children) ++ ofNodes after := by
  rw [ofNodes_append, ofNodes, ofNode]
  simp only [List.append_assoc]

theorem ofNodes_remark (isRemark : remark.isRemark = true) (after : List Node) :
    ofNodes (remark :: after) = ofNodes after := by
  cases remark with
  | comment | instruction => rfl
  | element | text => cases isRemark

theorem ofNodes_of_putIn (isRemark : remark.isRemark = true) (put : PutIn remark nodes nodes') :
    ofNodes nodes' = ofNodes nodes := by
  cases put with
  | between before after => rw [ofNodes_append, ofNodes_remark isRemark, ofNodes_append]
  | within before after =>
    rw [ofNodes_append, ofNodes_append, ofNodes, ofNodes_remark isRemark]
    rfl

theorem ofTag?_of_kind {kind : ElementKind} (known : ElementKind.ofTag? name.localName = some kind)
    (attributes : List Attribute) (children : List Node) :
    ofTag? name attributes children = some (.element (.ofTag kind attributes children)) := by
  have other : name.localName ≠ Flow.tag := by
    intro same
    rw [same] at known
    cases known
  rw [ofTag?, if_neg other, known]
  rfl

end Part

/-! ### Descriptions -/

def leadText? : List Node → Option String
  | .text content :: _ => some content
  | _ => none

theorem leadText?_remark (isRemark : remark.isRemark = true) (rest : List Node) : leadText? (remark :: rest) = none := by
  cases remark with
  | comment | instruction => rfl
  | element | text => cases isRemark

theorem leadText?_element (before after : List Node) (name : Name) (attributes : List Attribute) :
    leadText? (before ++ .element name attributes children' :: after) =
      leadText? (before ++ .element name attributes children :: after) := by
  rcases before with _ | ⟨node, before⟩
  · rfl
  · cases node <;> rfl

theorem documentation?_append (xs ys : List Node) : documentation? (xs ++ ys) =
    if xs.any isDocumentation then documentation? xs else documentation? ys := by
  have found : (xs ++ ys).find? isDocumentation =
      if xs.any isDocumentation then xs.find? isDocumentation else ys.find? isDocumentation := by
    rw [List.find?_append, ← List.isSome_find?]
    cases xs.find? isDocumentation <;> rfl
  rw [documentation?, found]
  cases xs.any isDocumentation <;> rfl

theorem documentation?_cons {node : Node} (other : isDocumentation node = false) (rest : List Node) :
    documentation? (node :: rest) = documentation? rest := by
  rw [documentation?, List.find?_cons_of_neg (by rw [other]; decide)]
  rfl

theorem documentation?_element (name : Name) (attributes : List Attribute) (content after : List Node) :
    documentation? (.element name attributes content :: after) =
      if name.localName = "documentation" then (leadText? content).bind Text.trimmed? else documentation? after := by
  split
  · rename_i described
    rw [documentation?, List.find?_cons_of_pos (by simpa [isDocumentation] using described)]
    cases content with
    | nil => rfl
    | cons node rest => cases node <;> rfl
  · rename_i other
    exact documentation?_cons (by simpa [isDocumentation] using other) after

theorem documentation?_of_putIn (isRemark : remark.isRemark = true) (put : PutIn remark nodes nodes') :
    documentation? nodes' = documentation? nodes := by
  have other : isDocumentation remark = false := by
    cases remark with
    | comment | instruction => rfl
    | element | text => cases isRemark
  cases put with
  | between before after => rw [documentation?_append, documentation?_cons other, documentation?_append]
  | within before after =>
    rw [documentation?_append, documentation?_append, documentation?_cons rfl, documentation?_cons other,
      documentation?_cons rfl, documentation?_cons rfl]

theorem documentation?_of_lead (before after : List Node) (name : Name) (attributes : List Attribute)
    (same : name.localName = "documentation" →
      (leadText? content').bind Text.trimmed? = (leadText? content).bind Text.trimmed?) :
    documentation? (before ++ .element name attributes content' :: after) =
      documentation? (before ++ .element name attributes content :: after) := by
  rw [documentation?_append, documentation?_append, documentation?_element, documentation?_element]
  by_cases described : name.localName = "documentation"
  · rw [same described]
  · rw [if_neg described, if_neg described]

/-! ### Interruptions -/

theorem Interrupts.lead (isRemark : remark.isRemark = true) (interrupts : Interrupts remark kept lost content content') :
    (leadText? content).bind Text.trimmed? = Text.trimmed? (kept ++ lost) ∧
    (leadText? content').bind Text.trimmed? = Text.trimmed? kept := by
  cases interrupts with
  | front rest nothing =>
    subst nothing
    rw [String.empty_append, leadText?_remark isRemark]
    exact ⟨rfl, rfl⟩
  | middle rest => exact ⟨rfl, rfl⟩

theorem Interrupts.putIn (interrupts : Interrupts remark kept lost content content') : PutIn remark content content' := by
  cases interrupts with
  | front rest => exact .between [] _
  | middle rest begins ends => exact .within [] rest begins ends

theorem leadText?_of_inside (isRemark : remark.isRemark = true) (inside : Inside (PutIn remark) content content') :
    leadText? content' = leadText? content ∨ ∃ kept lost, Interrupts remark kept lost content content' := by
  cases inside with
  | here put =>
    cases put with
    | between before after =>
      rcases before with _ | ⟨node, before⟩
      · rcases after with _ | ⟨node, rest⟩
        · exact .inl (leadText?_remark isRemark [])
        · cases node with
          | text lost => exact .inr ⟨"", lost, .front rest rfl⟩
          | element | comment | instruction => exact .inl (leadText?_remark isRemark _)
      · cases node <;> exact .inl rfl
    | within before after begins ends =>
      rcases before with _ | ⟨node, before⟩
      · exact .inr ⟨_, _, .middle after begins ends⟩
      · cases node <;> exact .inl rfl
  | child before after inner => exact .inl (leadText?_element before after _ _)

theorem InterruptsDescription.described (isRemark : remark.isRemark = true)
    (interrupts : InterruptsDescription remark kept lost children children') :
    documentation? children = Text.trimmed? (kept ++ lost) ∧ documentation? children' = Text.trimmed? kept := by
  obtain ⟨earlier, later, first, described, interrupts⟩ := interrupts
  have reads (content : List Node) (name : Name) (attributes : List Attribute)
      (described : name.localName = "documentation") :
      documentation? (earlier ++ .element name attributes content :: later) =
        (leadText? content).bind Text.trimmed? := by
    rw [documentation?_append, first, if_neg Bool.false_ne_true, documentation?_element, if_pos described]
  rw [reads _ _ _ described, reads _ _ _ described]
  exact interrupts.lead isRemark

theorem documentation?_of_inside (isRemark : remark.isRemark = true) (inside : Inside (PutIn remark) children children') :
    documentation? children' = documentation? children ∨
    ∃ kept lost, InterruptsDescription remark kept lost children children' ∧
      ∃ c ∈ lost.toList, Text.isBlank c = false := by
  cases inside with
  | here put => exact .inl (documentation?_of_putIn isRemark put)
  | child earlier later inner =>
    rename_i name attributes content content'
    by_cases first : earlier.any isDocumentation = true
    -- an earlier description counts, and this one is not read
    · rw [documentation?_append, documentation?_append, if_pos first, if_pos first]
      exact .inl rfl
    by_cases described : name.localName = "documentation"
    · rcases leadText?_of_inside isRemark inner with same | ⟨kept, lost, interrupts⟩
      · exact .inl (documentation?_of_lead earlier later name attributes fun _ => by rw [same])
      · have interrupted : InterruptsDescription remark kept lost (earlier ++ .element name attributes content :: later)
            (earlier ++ .element name attributes content' :: later) :=
          .intro earlier later (Bool.not_eq_true _ ▸ first) described interrupts
        by_cases visible : ∃ c ∈ lost.toList, Text.isBlank c = false
        · exact .inr ⟨kept, lost, interrupted, visible⟩
        · left
          obtain ⟨before, after⟩ := interrupted.described isRemark
          rw [before, after, Text.trimmed?_append_of_blank]
          simpa using visible
    · exact .inl (documentation?_of_lead earlier later name attributes fun named => absurd named described)

/-! ### What is cut short -/

theorem InterruptsDescription.ofNodes (isRemark : remark.isRemark = true)
    (interrupts : InterruptsDescription remark kept lost children children') :
    Part.ofNodes children' = Part.ofNodes children := by
  obtain ⟨earlier, later, first, described, interrupts⟩ := interrupts
  rename_i name attributes content content'
  -- a description is no part itself, whatever it says
  have own : Part.ofTag? name attributes content' = Part.ofTag? name attributes content := by
    rw [Part.ofTag?, Part.ofTag?, described]
    rfl
  rw [Part.ofNodes_element, Part.ofNodes_element, own, Part.ofNodes_of_putIn isRemark interrupts.putIn]

theorem documentation?_of_cutsShort (inside : Inside (CutsShort remark) children children') :
    documentation? children' = documentation? children := by
  cases inside with
  | here cuts =>
    obtain ⟨before, after, known, interrupts, visible⟩ := cuts
    refine documentation?_of_lead before after _ _ fun described => ?_
    rw [described] at known
    cases known
  | child before after inner =>
    refine documentation?_of_lead before after _ _ fun _ => ?_
    cases inner with
    | here cuts =>
      obtain ⟨before, after⟩ := cuts
      rw [leadText?_element]
    | child before after => rw [leadText?_element]

namespace Part

theorem ofTag?_congr (name : Name) (attributes : List Attribute) (same : documentation? children' = documentation? children) :
    ofTag? name attributes children' = ofTag? name attributes children := by
  simp only [ofTag?, Element.ofTag, same]

/-- A remark leaves the parts of a document as they are, unless it cuts a description short. -/
theorem ofNodes_of_inside (isRemark : remark.isRemark = true) (inside : Inside (PutIn remark) nodes nodes') :
    ofNodes nodes' = ofNodes nodes ∨ Inside (CutsShort remark) nodes nodes' := by
  induction inside with
  | here put => exact .inl (ofNodes_of_putIn isRemark put)
  | child before after inner ih =>
    rename_i name attributes children children'
    -- what is below changes by the hypothesis of the induction, the element itself by its description
    rcases ih with same | cut
    · rcases documentation?_of_inside isRemark inner with described | ⟨kept, lost, interrupts, visible⟩
      · left
        rw [ofNodes_element, ofNodes_element, same, ofTag?_congr name attributes described]
      · cases known : ElementKind.ofTag? name.localName with
        | some kind => exact .inr (.here (.intro before after known interrupts visible))
        | none =>
          left
          have own : ofTag? name attributes children' = ofTag? name attributes children := by
            rw [ofTag?, ofTag?, known]
            rfl
          rw [ofNodes_element, ofNodes_element, same, own]
    · exact .inr (.child before after cut)

/-- A remark that cuts a description short takes the end of the prompt of one element, and nothing else. -/
theorem ofNodes_of_cutsShort (isRemark : remark.isRemark = true) (cut : Inside (CutsShort remark) nodes nodes') :
    ∃ before e after kept more, more ≠ [] ∧ e.prompt.toList = (kept.getD "").toList ++ more ∧
      ofNodes nodes = before ++ .element e :: after ∧
      ofNodes nodes' = before ++ .element { e with documentation := kept } :: after := by
  induction cut with
  | here cuts =>
    obtain ⟨before, after, known, interrupts, visible⟩ := cuts
    rename_i name attributes kind children children' kept lost
    obtain ⟨whole, cut⟩ := interrupts.described isRemark
    obtain ⟨more, nonempty, goesOn⟩ := Text.trimBlanks_append_of_not_blank kept.toList visible
    refine ⟨ofNodes before, .ofTag kind attributes children, ofNodes children ++ ofNodes after, Text.trimmed? kept, more,
      nonempty, ?_, ?_, ?_⟩
    · rw [Element.prompt, Element.ofTag, whole, Text.toList_getD_trimmed?, Text.toList_getD_trimmed?,
        String.toList_append, goesOn]
    · rw [ofNodes_element, ofTag?_of_kind known]
      simp
    · rw [ofNodes_element, ofTag?_of_kind known, interrupts.ofNodes isRemark, Element.ofTag, cut]
      simp [Element.ofTag]
  | child before after inner ih =>
    rename_i name attributes children children'
    obtain ⟨before', e, after', kept, more, nonempty, goesOn, whole, cut⟩ := ih
    refine ⟨ofNodes before ++ ((ofTag? name attributes children).toList ++ before'), e, after' ++ ofNodes after, kept, more,
      nonempty, goesOn, ?_, ?_⟩
    · rw [ofNodes_element, whole]
      simp
    · rw [ofNodes_element, ofTag?_congr name attributes (documentation?_of_cutsShort inner), cut]
      simp

end Part

/-! ### Diagrams -/

namespace Diagram

/-- The second diagram is the first one but for the description of `e`, which has lost its end. -/
structure Shortens (d d' : Diagram) (e : Element) : Prop where
  flows : d'.flows = d.flows
  elements : ∃ before after kept more,
    d.elements = before ++ e :: after ∧ d'.elements = before ++ { e with documentation := kept } :: after ∧
    e.prompt.toList = (kept.getD "").toList ++ more ∧ more ≠ []

namespace Shortens

variable {d d' : Diagram} {e : Element}

theorem elements_ne (shortens : Shortens d d' e) : d'.elements ≠ d.elements := by
  obtain ⟨before, after, kept, more, whole, cut, goesOn, nonempty⟩ := shortens.elements
  rw [whole, cut]
  intro same
  have same := (List.cons.inj (List.append_cancel_left same)).1
  rw [Element.prompt, ← congrArg Element.documentation same] at goesOn
  exact nonempty (List.self_eq_append_right.mp goesOn)

theorem compile_withoutPrompts (shortens : Shortens d d' e) (options : CompileOptions) :
    (d'.compile options).withoutPrompts (· == e.id) = (d.compile options).withoutPrompts (· == e.id) := by
  obtain ⟨before, after, kept, more, whole, cut, _⟩ := shortens.elements
  rw [← compile_undocumented, ← compile_undocumented]
  refine congrArg (compile · options) (undocumented_congr _ ?_ shortens.flows)
  rw [whole, cut, List.map_append, List.map_append, List.map_cons, List.map_cons]
  simp [Element.undocumented]

theorem notices_compile (shortens : Shortens d d' e) (options : CompileOptions) :
    (d'.compile options).notices = (d.compile options).notices := by
  have same := congrArg Compilation.notices (shortens.compile_withoutPrompts options)
  exact same

end Shortens

variable {document document' : Xml.Document}

theorem shortens_of_cutsShort (isRemark : remark.isRemark = true)
    (cut : Inside (CutsShort remark) document.nodes document'.nodes) :
    ∃ e, Shortens (ofDocument document) (ofDocument document') e := by
  obtain ⟨before, e, after, kept, more, nonempty, goesOn, whole, cut⟩ := Part.ofNodes_of_cutsShort isRemark cut
  refine ⟨e, ?_, before.filterMap Part.element?, after.filterMap Part.element?, kept, more, ?_, ?_, goesOn, nonempty⟩
  · rw [ofDocument, ofDocument, flows_ofParts, flows_ofParts, whole, cut, List.filterMap_append, List.filterMap_append]
    rfl
  · rw [ofDocument, elements_ofParts, whole, List.filterMap_append]
    rfl
  · rw [ofDocument, elements_ofParts, cut, List.filterMap_append]
    rfl

/--
A comment or an instruction, wherever it is put into a document, leaves all flows and everything that is reported as they
are. It leaves the elements as they are, and so every compilation, unless it cuts a description short. Then the
description of one element loses its end, and no compilation differs in anything but the prompt under its identifier.
-/
theorem remark_cuts_description_only (isRemark : remark.isRemark = true)
    (inside : Inside (PutIn remark) document.nodes document'.nodes) :
    let d := ofDocument document
    let d' := ofDocument document'
    let cut := Inside (CutsShort remark) document.nodes document'.nodes
    d'.flows = d.flows ∧ (∀ options, (d'.compile options).notices = (d.compile options).notices) ∧
    (d'.elements = d.elements ↔ ¬ cut) ∧
    (¬ cut → ∀ options, d'.compile options = d.compile options) ∧
    (cut → ∃ e, Shortens d d' e ∧
      ∀ options, (d'.compile options).withoutPrompts (· == e.id) = (d.compile options).withoutPrompts (· == e.id)) := by
  intro d d' cut
  by_cases cuts : cut
  · obtain ⟨e, shortens⟩ := shortens_of_cutsShort isRemark cuts
    exact ⟨shortens.flows, shortens.notices_compile,
      ⟨fun same => absurd same shortens.elements_ne, fun spared => absurd cuts spared⟩,
      fun spared => absurd cuts spared, fun _ => ⟨e, shortens, shortens.compile_withoutPrompts⟩⟩
  · have same : d' = d := congrArg ofParts ((Part.ofNodes_of_inside isRemark inside).resolve_right cuts)
    rw [same]
    exact ⟨rfl, fun _ => rfl, ⟨fun _ => cuts, fun _ => rfl⟩, fun _ _ => rfl, fun cut => absurd cut cuts⟩

end Diagram

def describedTask (content : List Node) : Xml.Document where
  nodes := [.element ⟨"", "process"⟩ [] [
    .element ⟨"", "startEvent"⟩ [] [],
    .element ⟨"", "task"⟩ [⟨⟨"", "id"⟩, "A"⟩] [.element ⟨"", "documentation"⟩ [] content],
    .element ⟨"", "sequenceFlow"⟩ [⟨⟨"", "sourceRef"⟩, "start"⟩, ⟨⟨"", "targetRef"⟩, "A"⟩] []]]

def describedTaskDiagram (documentation : Option String) : Diagram := .ofParts [
  .element ⟨"start", none, .startEvent, none⟩, .element ⟨"A", none, .task, documentation⟩, .flow ⟨none, none, "start", "A"⟩]

theorem ofDocument_describedTask {content : List Node} (plain : Part.ofNodes content = []) :
    Diagram.ofDocument (describedTask content) = describedTaskDiagram ((leadText? content).bind Text.trimmed?) := by
  have reads := documentation?_element ⟨"", "documentation"⟩ [] content []
  rw [if_pos rfl] at reads
  refine congrArg Diagram.ofParts ?_
  rw [← reads]
  simp only [describedTask, Part.ofNodes, Part.ofNode, plain]
  rfl

def describedTaskWorkflow (prompt : String) : Workflow where
  name := ""
  entryPoint := "A"
  steps := OrderedMap.empty
    |>.insert "endEvent-A" (.terminal "End of workflow")
    |>.insert "A" (.task "" prompt .guideline ⟨"endEvent-A", "End the workflow", none⟩)

theorem compile_describedTask (documentation : Option String) : ((describedTaskDiagram documentation).compile {}).result =
    .ok (describedTaskWorkflow (documentation.getD "")) := by
  cbv

/-- The comment in the middle of this description takes the end of the prompt away. -/
theorem describedTask_is_cut :
    let whole := describedTask [.text "Ask for the customer number."]
    let remarked := describedTask [.text "Ask for the ", .comment " ten-digit ", .text "customer number."]
    Inside (PutIn (.comment " ten-digit ")) whole.nodes remarked.nodes ∧
    Inside (CutsShort (.comment " ten-digit ")) whole.nodes remarked.nodes ∧
    (Diagram.ofDocument remarked).elements ≠ (Diagram.ofDocument whole).elements ∧
    ((Diagram.ofDocument whole).compile {}).result = .ok (describedTaskWorkflow "Ask for the customer number.") ∧
    ((Diagram.ofDocument remarked).compile {}).result = .ok (describedTaskWorkflow "Ask for the") := by
  intro whole remarked
  have interrupts : Interrupts (.comment " ten-digit ") "Ask for the " "customer number."
      [.text "Ask for the customer number."] [.text "Ask for the ", .comment " ten-digit ", .text "customer number."] :=
    .middle [] (by decide) (by decide)
  have inside : Inside (PutIn (.comment " ten-digit ")) whole.nodes remarked.nodes :=
    .child [] [] (.child [_] [_] (.child [] [] (.here interrupts.putIn)))
  have cuts : Inside (CutsShort (.comment " ten-digit ")) whole.nodes remarked.nodes :=
    .child [] [] (.here (.intro [_] [_] rfl (.intro [] [] rfl rfl interrupts) ⟨'c', by decide, by decide⟩))
  obtain ⟨_, _, same, _⟩ := Diagram.remark_cuts_description_only rfl inside
  refine ⟨inside, cuts, fun equal => same.mp equal cuts, ?_, ?_⟩
  · rw [ofDocument_describedTask rfl, compile_describedTask]
    rfl
  · rw [ofDocument_describedTask rfl, compile_describedTask]
    rfl

end BpmnWorkflow
