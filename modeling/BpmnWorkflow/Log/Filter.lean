import BpmnWorkflow.Decimal
import BpmnWorkflow.Log.Basic
import BpmnWorkflow.Pattern.Reading
import BpmnWorkflow.Text.Alphanumeric
import BpmnWorkflow.Text.Blank
import BpmnWorkflow.Text.Bytes

/-!
# Log filters

Which entries a log shows. A filter is a list of rules, and of those that are about an entry the
most specific one decides; an entry that no rule is about is hidden. Written out, the rules are
parted by commas, and each is a level, a target, or a target and a level with an equals sign
between them. Between brackets a rule may be narrowed further.
-/

namespace BpmnWorkflow

structure Verbosity where
  detail : Nat
  deriving DecidableEq, Repr

namespace Verbosity

def silent : Verbosity := ⟨0⟩

def ofLevel (level : LogLevel) : Verbosity := ⟨level.detail⟩

def number? (word : List Char) : Option Nat :=
  let digits := if word.head? == some '+' then word.tail else word
  if digits.isEmpty || !digits.all Char.isDigit then none else some (Decimal.ofDigits digits)

/-- A verbosity is asked for by the name of a level in any case, or by its detail. -/
def ofWord? (word : String) : Option Verbosity :=
  let levels := [silent, ofLevel .error, ofLevel .warn, ofLevel .info, ofLevel .debug, ofLevel .trace]
  let names := ["off", "error", "warn", "info", "debug", "trace"]
  match number? word.toList with
  | some n => levels[n]?
  | none => (names.zip levels).lookup word.toLower

def admits (v : Verbosity) (e : LogEntry) : Bool := e.level.detail ≤ v.detail

end Verbosity

/-! ### Rules -/

structure FieldPattern where
  name : String
  value : Option String := none
  deriving DecidableEq, Repr

/-- Numbers may have a sign that a pattern does not begin with. -/
def isNumber (s : List Char) : Bool :=
  let (_, unsigned) := Decimal.readSign s
  (Decimal.ofChars? unsigned).isSome ||
    ["inf", "infinity", "nan"].contains (String.ofList unsigned).toLower

/-- Reads a name and maybe a value, which is a number or else a pattern. -/
def FieldPattern.ofChars (s : List Char) : Except Pattern.Fault FieldPattern :=
  match s.splitOn '=' with
  | name :: value :: _ =>
    match if isNumber value then none else Pattern.fault? value with
    | none => .ok ⟨.ofList name, some (.ofList value)⟩
    | some fault => .error fault
  | _ => .ok ⟨.ofList s, none⟩

structure LogRule where
  /-- What the target begins with. -/
  target : Option String := none
  activity : Option String := none
  field : Option FieldPattern := none
  verbosity : Verbosity := .ofLevel .trace
  deriving DecidableEq, Repr

namespace LogRule

/-- Whether the rule is about an entry. Activities have names and values, and the program starts
none, so that a rule which asks for either is about nothing. -/
def concerns (r : LogRule) (e : LogEntry) : Bool :=
  r.activity.isNone &&
    r.target.all (fun target => target.toList.isPrefixOf e.target.toList) &&
    r.field.all fun field => field.value.isNone && e.hasField field.name

/-- Whether the first of two rules about one entry gives way to the second: one without a target,
with a shorter target, or with the same target and no field or an earlier one. -/
def yieldsTo (r s : LogRule) : Bool :=
  let reach (t : LogRule) : Nat := (t.target.map String.length).getD 0
  if reach r = reach s then
    match r.field, s.field with
    | none, _ => true
    | some _, none => false
    | some a, some b => a.name ≤ b.name
  else reach r < reach s

/-- The most specific rule about an entry, the last one if several are alike. -/
def governing? (rules : List LogRule) (e : LogEntry) : Option LogRule :=
  (rules.filter (·.concerns e)).foldl (fun best r =>
    match best with
    | none => some r
    | some b => if b.yieldsTo r then some r else some b) none

end LogRule

/-! ### Reading a rule -/

inductive RuleError
  | malformed
  | badLevel
  | badField (fault : Pattern.Fault)
  deriving DecidableEq, Repr

def RuleError.message : RuleError → String
  | malformed => "invalid filter directive"
  | badLevel =>
    "error parsing level filter: expected one of \"off\", \"error\", \"warn\", \"info\", \"debug\", " ++
      "\"trace\", or a number 0-5"
  | badField fault => s!"invalid field filter: {fault.message}"

/-- A written rule that is being read. Signs are looked for in the text without the blanks around it,
but pieces are cut by bytes at the same places from the whole text, which blanks in front shift. -/
structure RuleText where
  whole : List Char
  /-- The bytes before what is still to be read. -/
  place : Nat := 0
  rest : List Char := Text.trimBlanks whole

namespace RuleText

def upTo (t : RuleText) (stop : Nat) : List Char :=
  Text.takeBytes (stop - t.place) (Text.dropBytes t.place t.whole)

/-- The first sign of a kind, with the piece before it and what is still to be read after it. -/
def find? (t : RuleText) (wanted : Char → Bool) : Option (List Char × Char × RuleText) :=
  match t.rest.dropWhile (!wanted ·) with
  | [] => none
  | sign :: rest =>
    let stop := t.place + Text.byteCount (t.rest.takeWhile (!wanted ·))
    some (t.upTo stop, sign, { t with place := stop + sign.utf8Size, rest })

def after? (t : RuleText) (sign : Char) : Option RuleText :=
  match t.rest with
  | c :: rest => if c == sign then some { t with place := t.place + c.utf8Size, rest } else none
  | [] => none

/-- The level in the rest of the text; none asks for everything. -/
def level (t : RuleText) : Except RuleError Verbosity :=
  match Text.dropBytes t.place t.whole with
  | [] => .ok (.ofLevel .trace)
  | word =>
    match Verbosity.ofWord? (.ofList word) with
    | some v => .ok v
    | none => .error .badLevel

def finish (t : RuleText) (r : LogRule) : Except RuleError LogRule :=
  match t.after? '=' with
  | some t => t.level.map fun v => { r with verbosity := v }
  | none => if t.rest.isEmpty then .ok r else .error .malformed

def readField (t : RuleText) (r : LogRule) : Except RuleError LogRule :=
  match t.find? (· == '\x7d') with
  | none | some ([], _) => .error .malformed
  | some (piece, _, t) =>
    match FieldPattern.ofChars piece with
    | .error fault => .error (.badField fault)
    | .ok field =>
      match t.after? ']' with
      | none => .error .malformed
      | some t => t.finish { r with field := some field }

/-- Reads what stands between brackets: an activity, a field between braces, or both. -/
def readBrackets (t : RuleText) (r : LogRule) : Except RuleError LogRule :=
  match t.find? fun c => c == ']' || c == '\x7b' with
  | none => .error .malformed
  | some (activity, sign, t) =>
    if sign == ']' then t.finish { r with activity := some (.ofList activity) }
    else if activity.isEmpty then t.readField r
    else t.readField { r with activity := some (.ofList activity) }

def opensWord (c : Char) : Bool := Text.isAlphanumeric c || c == '-' || c == ':' || c == '_'

def read (t : RuleText) : Except RuleError LogRule :=
  match t.after? '[' with
  | some t => t.readBrackets {}
  | none =>
    if !t.rest.head?.any opensWord then .error .malformed
    else
      match t.find? fun c => c == '=' || c == '[' with
      | none =>
        let word := String.ofList t.whole
        match Verbosity.ofWord? word with
        | some v => .ok { verbosity := v }
        | none => .ok { target := some word }
      | some (piece, sign, t) =>
        let target := String.ofList piece
        if sign == '[' then t.readBrackets { target := some target }
        else t.level.map fun v => { target := some target, verbosity := v }

end RuleText

/-! ### Filters -/

structure LogFilter where
  rules : List LogRule
  deriving DecidableEq, Repr

namespace LogFilter

def ofLevel (level : LogLevel) : LogFilter := ⟨[{ verbosity := .ofLevel level }]⟩

def readRules (text : String) : List (String × Except RuleError LogRule) :=
  let parts := (text.toList.splitOn ',').filter fun part => !part.isEmpty
  parts.map fun part => (.ofList part, RuleText.read { whole := part })

/-- The filter that a text describes. Rules that cannot be read are left out; where no rule is left,
errors are shown. -/
def ofText (text : String) : LogFilter :=
  match (readRules text).filterMap fun (_, rule) => rule.toOption with
  | [] => ofLevel .error
  | rules => ⟨rules⟩

def complaints (text : String) : List String :=
  (readRules text).filterMap fun (part, rule) =>
    match rule with
    | .ok _ => none
    | .error e => some s!"ignoring \x60{part}\x60: {e.message}"

def admits (f : LogFilter) (e : LogEntry) : Bool :=
  match LogRule.governing? f.rules e with
  | none => false
  | some r => r.verbosity.admits e

end LogFilter

end BpmnWorkflow
