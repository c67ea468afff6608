import BpmnWorkflow.CommandLine.Arguments

/-!
# Help

The texts that tell how the program is used.
-/

namespace BpmnWorkflow

structure HelpEntry where
  form : String
  purpose : String

namespace HelpEntry

/-- Entries under a heading, their purposes in one column. -/
def table (heading : String) (entries : List HelpEntry) : String :=
  let width := (entries.map (·.form.length)).foldl max 0
  let line (e : HelpEntry) : String :=
    let form := e.form.pushn ' ' (width - e.form.length)
    s!"  {form}  {e.purpose}\n"
  s!"\n{heading}:\n{String.join (entries.map line)}"

def quiet : HelpEntry := ⟨"-q, --quiet", "Only log errors"⟩

def help : HelpEntry := ⟨"-h, --help", "Print help"⟩

def input : HelpEntry := ⟨"<INPUT>", "Path to the BPMN XML file"⟩

def name : HelpEntry := ⟨"-n, --name <NAME>", "Workflow name, defaults to the input file stem"⟩

end HelpEntry

namespace Verb

def purpose : Verb → String
  | compile => "Compile a diagram and write the workflow"
  | check => "Compile a diagram and list every warning it produces"

def options : Verb → List HelpEntry
  | compile =>
    [.name, .quiet, ⟨"-o, --output <OUTPUT>", "Write to this file instead of stdout"⟩,
      ⟨"    --format <FORMAT>", "Output encoding [default: json] [possible values: json, yaml]"⟩,
      ⟨"    --strict", "Fail when the diagram produces any warning"⟩, .help]
  | check => [.name, .quiet, .help]

end Verb

namespace HelpTopic

def purpose : HelpTopic → String
  | program => "Compile BPMN 2.0 diagrams into guideflow workflows"
  | verb v => v.purpose
  | help => "Print this message or the help of the given subcommand(s)"

def usage : HelpTopic → String
  | program => "guideflow [OPTIONS] <COMMAND>"
  | verb .compile => "guideflow compile [OPTIONS] <INPUT>"
  | verb .check => "guideflow check [OPTIONS] <INPUT>"
  | help => "guideflow help [COMMAND]..."

def sections : HelpTopic → String
  | program =>
    HelpEntry.table "Commands"
      [⟨"compile", Verb.compile.purpose⟩, ⟨"check", Verb.check.purpose⟩, ⟨"help", help.purpose⟩] ++
    HelpEntry.table "Options" [.quiet, .help, ⟨"-V, --version", "Print version"⟩]
  | verb v => HelpEntry.table "Arguments" [.input] ++ HelpEntry.table "Options" v.options
  | help => HelpEntry.table "Arguments" [⟨"[COMMAND]...", "Print help for the subcommand(s)"⟩]

def text (topic : HelpTopic) : String :=
  s!"{topic.purpose}\n\nUsage: {topic.usage}\n{topic.sections}"

end HelpTopic

end BpmnWorkflow
