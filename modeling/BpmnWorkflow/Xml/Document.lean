import BpmnWorkflow.Xml.Markup
import BpmnWorkflow.Xml.Scope

/-!
# Reading a document

A document is an optional declaration followed by pieces that nest into one root element with
comments and instructions around it. A text that is none is refused without a reason.
-/

namespace BpmnWorkflow.Xml

/-! ### The declaration -/

def readGap (s : List Char) : Option (List Char) :=
  match s with
  | [] => some []
  | c :: _ =>
    if isSpace c then some (skipSpaces s)
    else if ['?', '>'].isPrefixOf s then some s
    else none

/-- The attribute of the declaration whose name begins with `word`, with the gap after it. -/
def readDeclared (word s : List Char) : Option (List Char) :=
  if word.isPrefixOf s then (readAttribute s).bind fun (_, _, rest) => readGap rest else none

def readOptional (word s : List Char) : Option (List Char) :=
  if word.isPrefixOf s then readDeclared word s else some s

/-- The declaration after `<?xml`: version, encoding and standalone in this order, the first required. -/
def readDeclaration (s : List Char) : Option (List Char) := do
  let s ← readGap s
  let s ← readDeclared "version".toList s
  let s ← readOptional "encoding".toList s
  let s ← readOptional "standalone".toList s
  match s with
  | '?' :: '>' :: rest => some rest
  | _ => none

def readPreamble (s : List Char) : Option (List Char) :=
  let s := match s with
    | '\uFEFF' :: rest => rest
    | _ => s
  match s with
  | '<' :: '?' :: 'x' :: 'm' :: 'l' :: ' ' :: rest => readDeclaration (' ' :: rest)
  | _ => some s

/-! ### Nesting -/

/-- An element whose end tag is still to come, with the nodes before it, last node first. -/
structure OpenElement where
  name : Name
  attributes : List Attribute
  before : List Node

/-- Adds text after the nodes so far, last node first; text that touches text joins it. -/
def addText (content : String) : List Node → List Node
  | .text t :: rest => .text (t ++ content) :: rest
  | nodes => .text content :: nodes

/--
Nests the pieces. `opened` holds the open elements, innermost first, and `nodes` the nodes so far
on the innermost level, last node first. Outside of the root only blank characters may stand.
-/
def nest (opened : List OpenElement) (nodes : List Node) : List Markup → Option (List Node)
  | [] => if opened.isEmpty then some nodes.reverse else none
  | .comment content :: rest => nest opened (.comment (String.ofList content) :: nodes) rest
  | .instruction target content :: rest =>
    nest opened (.instruction (String.ofList target) (String.ofList content) :: nodes) rest
  | .opening name attributes true :: rest => nest opened (.element name attributes [] :: nodes) rest
  | .opening name attributes false :: rest => nest (⟨name, attributes, nodes⟩ :: opened) [] rest
  | .closing name :: rest =>
    match opened with
    | [] => none
    | parent :: outer =>
      if name = parent.name then
        nest outer (.element parent.name parent.attributes nodes.reverse :: parent.before) rest
      else none
  | .characters raw :: rest =>
    if opened.isEmpty then if raw.all isSpace then nest opened nodes rest else none
    else
      match decodeText raw with
      | some content => nest opened (addText content nodes) rest
      | none => none
  | .literal raw :: rest =>
    if opened.isEmpty then none else nest opened (addText (decodeLiteral raw) nodes) rest

def Node.isElement : Node → Bool
  | .element .. => true
  | _ => false

namespace Document

def parse? (text : String) : Option Document := do
  let s ← readPreamble text.toList
  let pieces ← readPieces s
  let nodes ← nest [] [] pieces
  if nodes.countP Node.isElement = 1 && areScoped [] nodes then some ⟨nodes⟩ else none

end Document

end BpmnWorkflow.Xml
