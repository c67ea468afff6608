import BpmnWorkflow.Catalogue
import BpmnWorkflow.CommandLine.Arguments
import BpmnWorkflow.CommandLine.Help
import BpmnWorkflow.CommandLine.Reply
import BpmnWorkflow.CommandLine.Session
import BpmnWorkflow.Compilation.Basic
import BpmnWorkflow.Compilation.Diagnostics
import BpmnWorkflow.Compilation.Entry
import BpmnWorkflow.Compilation.LiveFlow
import BpmnWorkflow.Compilation.Notice
import BpmnWorkflow.Compilation.Visit
import BpmnWorkflow.Compilation.Walk
import BpmnWorkflow.Counting
import BpmnWorkflow.Decimal
import BpmnWorkflow.Diagram.Basic
import BpmnWorkflow.Diagram.Element
import BpmnWorkflow.Diagram.Reading
import BpmnWorkflow.Double
import BpmnWorkflow.FileTree.Basic
import BpmnWorkflow.FileTree.Path
import BpmnWorkflow.FileTree.Place
import BpmnWorkflow.Json.Draft
import BpmnWorkflow.Json.Number
import BpmnWorkflow.Json.Printer
import BpmnWorkflow.Json.Quoted
import BpmnWorkflow.Json.Token
import BpmnWorkflow.Log.Basic
import BpmnWorkflow.Log.Filter
import BpmnWorkflow.Main
import BpmnWorkflow.OrderedMap
import BpmnWorkflow.Outline
import BpmnWorkflow.Pattern.Atom
import BpmnWorkflow.Pattern.Class
import BpmnWorkflow.Pattern.Reading
import BpmnWorkflow.Text.Alphanumeric
import BpmnWorkflow.Text.Blank
import BpmnWorkflow.Text.Bytes
import BpmnWorkflow.Text.Digit
import BpmnWorkflow.Text.Lines
import BpmnWorkflow.Text.Range
import BpmnWorkflow.Workflow.Basic
import BpmnWorkflow.Workflow.Comparison
import BpmnWorkflow.Workflow.Outline
import BpmnWorkflow.Workflow.Reading
import BpmnWorkflow.Workflow.Redirection
import BpmnWorkflow.Workflow.Validation
import BpmnWorkflow.Xml.Character
import BpmnWorkflow.Xml.CharacterData
import BpmnWorkflow.Xml.Document
import BpmnWorkflow.Xml.Markup
import BpmnWorkflow.Xml.Scope
import BpmnWorkflow.Xml.Tree
import BpmnWorkflow.Yaml.Printer
import BpmnWorkflow.Yaml.Resolution
import BpmnWorkflow.Yaml.Scalar
import BpmnWorkflow.Proofs.Diagram.FlowGraph
import BpmnWorkflow.Proofs.Diagram.Lookup
import BpmnWorkflow.Proofs.Diagram.Parts
import BpmnWorkflow.Proofs.Diagram.Index
import BpmnWorkflow.Proofs.Walk.Chain
import BpmnWorkflow.Proofs.Workflow.References
import BpmnWorkflow.Proofs.Workflow.Path
import BpmnWorkflow.Proofs.Walk.Course
import BpmnWorkflow.Proofs.Walk.Termination
import BpmnWorkflow.Proofs.Walk.Closure
import BpmnWorkflow.Proofs.Walk.Effect
import BpmnWorkflow.Proofs.Walk.Trace
import BpmnWorkflow.Proofs.Walk.Growth
import BpmnWorkflow.Proofs.Walk.Replacement
import BpmnWorkflow.Proofs.Walk.Redirection
import BpmnWorkflow.Proofs.Walk.Coverage
import BpmnWorkflow.Proofs.Walk.Contraction
import BpmnWorkflow.Proofs.Walk.AddedEnds
import BpmnWorkflow.Proofs.Walk.Preorder
import BpmnWorkflow.Proofs.Walk.Warnings
import BpmnWorkflow.Proofs.Walk.Locality
import BpmnWorkflow.Proofs.Walk.Connection
import BpmnWorkflow.Proofs.Diagram.Entry
import BpmnWorkflow.Proofs.Walk.Unnamed
import BpmnWorkflow.Proofs.Json.Quoted
import BpmnWorkflow.Proofs.Json.Number
import BpmnWorkflow.Proofs.Json.Draft
import BpmnWorkflow.Proofs.Json.Spelling
import BpmnWorkflow.Proofs.Json.Printer
import BpmnWorkflow.Proofs.Compilation.Strictness
import BpmnWorkflow.Proofs.Workflow.Record
import BpmnWorkflow.Proofs.Workflow.Forms
import BpmnWorkflow.Proofs.Workflow.Spelling
import BpmnWorkflow.Proofs.Workflow.RoundTrip
import BpmnWorkflow.Proofs.Positions
import BpmnWorkflow.Proofs.Workflow.Validation
import BpmnWorkflow.Proofs.Workflow.Comparison
import BpmnWorkflow.Proofs.Xml.Pieces
import BpmnWorkflow.Proofs.CommandLine.Line
import BpmnWorkflow.Proofs.CommandLine.Agreement
import BpmnWorkflow.Proofs.Text.Blank
import BpmnWorkflow.Proofs.Compilation.Prompts
import BpmnWorkflow.Proofs.Diagram.Remarks
