import BpmnWorkflow.Xml.Tree

/-!
# Qualifiers in scope

A qualifier stands for the URI that the nearest enclosing element declares for it. `Node.isScoped`
checks that every qualifier is declared, that declarations keep clear of the two reserved URIs,
and that no element has two attributes of one expanded name.
-/

namespace BpmnWorkflow.Xml

/-- Qualifiers with their URIs, the nearest declaration first. -/
abbrev Scope := List (String × String)

def xmlUri : String := "http://www.w3.org/XML/1998/namespace"

/-- The URI of declarations themselves, which none may name. -/
def declarationUri : String := "http://www.w3.org/2000/xmlns/"

namespace Attribute

def declared? (a : Attribute) : Option String :=
  if a.name.qualifier = "xmlns" then some a.name.localName else none

def isDefaultDeclaration (a : Attribute) : Bool :=
  a.name.qualifier != "xmlns" && a.name.localName == "xmlns"

/-- `xml` is only for its own URI and that URI only for `xml`. -/
def isPermitted (a : Attribute) : Bool :=
  match a.declared? with
  | some qualifier => a.value != declarationUri && (qualifier == "xml") == (a.value == xmlUri)
  | none => !a.isDefaultDeclaration || (a.value != xmlUri && a.value != declarationUri)

end Attribute

/-- What the attributes of an element declare; `xml` needs no declaration. -/
def declarations (attributes : List Attribute) : Scope :=
  attributes.filterMap fun a =>
    match a.declared? with
    | some "xml" => none
    | some qualifier => some (qualifier, a.value)
    | none => none

def ordinary (attributes : List Attribute) : List Attribute :=
  attributes.filter fun a => a.declared?.isNone && !a.isDefaultDeclaration

/-- The URI and local name of an attribute; without a qualifier it has no URI. -/
def expandedName? (scope : Scope) (name : Name) : Option (Option String × String) :=
  if name.qualifier = "" then some (none, name.localName)
  else if name.qualifier = "xml" then some (some xmlUri, name.localName)
  else (scope.lookup name.qualifier).map fun uri => (some uri, name.localName)

def allDistinct {α : Type} [BEq α] : List α → Bool
  | [] => true
  | a :: rest => !rest.contains a && allDistinct rest

/-- The checks on one start tag, given the scope inside of it. -/
def isTagScoped (scope : Scope) (name : Name) (attributes : List Attribute) : Bool :=
  let names := (ordinary attributes).map (expandedName? scope ·.name)
  name.qualifier != "xmlns" && (name.qualifier == "" || (scope.lookup name.qualifier).isSome) &&
    attributes.all Attribute.isPermitted && allDistinct ((declarations attributes).map Prod.fst) &&
    names.all Option.isSome && allDistinct names

mutual

def Node.isScoped (scope : Scope) : Node → Bool
  | .element name attributes children =>
    let inner := declarations attributes ++ scope
    isTagScoped inner name attributes && areScoped inner children
  | .text _ | .comment _ | .instruction _ _ => true

def areScoped (scope : Scope) : List Node → Bool
  | [] => true
  | node :: rest => node.isScoped scope && areScoped scope rest

end

end BpmnWorkflow.Xml
