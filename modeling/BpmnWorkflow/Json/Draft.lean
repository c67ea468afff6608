import BpmnWorkflow.Json.Token

/-!
# Drafts

A draft is the value that a text writes, as far as it follows the grammar. Where the grammar is
broken the draft holds a fault and ends, so whoever walks a draft from front to back meets what is
wrong in the order of the text. `Draft.isComplete` tells a draft without faults, `Draft.isSound`
one that also stays within the limits of a value that is kept.
-/

namespace BpmnWorkflow.Json

/-- A value, or the point from which on the text is no value. A key or string has no content if
its escapes stand for no text. -/
inductive Draft
  | null
  | bool (b : Bool)
  | number (negative : Bool) (magnitude : Decimal)
  | string (content : Option String)
  | array (items : List Draft)
  | object (members : List (Option String × Draft))
  | fault
  deriving Repr, Inhabited

/-! ### From tokens -/

/-- A container around the place that is read, with what it already holds, last first. -/
inductive Frame
  | array (items : List Draft)
  | object (members : List (Option String × Draft)) (key : Option String)
  deriving Repr, Inhabited

namespace Frame

def close (frame : Frame) (last : Draft) : Draft :=
  match frame with
  | array items => .array (last :: items).reverse
  | object members key => .object ((key, last) :: members).reverse

end Frame

namespace Draft

/-- Ends the text at `last`: all open containers end with it. -/
def abandon (last : Draft) (frames : List Frame) : Draft × List Token :=
  (frames.foldl (fun inner frame => frame.close inner) last, [])

mutual

def read (frames : List Frame) : List Token → Draft × List Token
  | .null :: rest => resume .null frames rest
  | .bool b :: rest => resume (.bool b) frames rest
  | .number negative magnitude :: rest => resume (.number negative magnitude) frames rest
  | .string content :: rest => resume (.string content) frames rest
  | .beginArray :: .endArray :: rest => resume (.array []) frames rest
  | .beginArray :: rest => read (.array [] :: frames) rest
  | .beginObject :: .endObject :: rest => resume (.object []) frames rest
  | .beginObject :: .string key :: .colon :: rest => read (.object [] key :: frames) rest
  | .beginObject :: .string key :: _ => abandon .fault (.object [] key :: frames)
  | .beginObject :: _ => abandon .fault (.object [] none :: frames)
  | _ => abandon .fault frames

def resume (value : Draft) (frames : List Frame) (tokens : List Token) : Draft × List Token :=
  match frames, tokens with
  | [], rest => (value, rest)
  | .array items :: frames, .comma :: rest => read (.array (value :: items) :: frames) rest
  | .array items :: frames, .endArray :: rest =>
    resume (.array (value :: items).reverse) frames rest
  | .array items :: frames, _ => abandon .fault (.array (value :: items) :: frames)
  | .object members key :: frames, .comma :: .string next :: .colon :: rest =>
    read (.object ((key, value) :: members) next :: frames) rest
  | .object members key :: frames, .comma :: .string next :: _ =>
    abandon .fault (.object ((key, value) :: members) next :: frames)
  | .object members key :: frames, .endObject :: rest =>
    resume (.object ((key, value) :: members).reverse) frames rest
  | .object members key :: frames, _ =>
    abandon .fault (.object ((key, value) :: members) none :: frames)

end

def ofText (text : String) : Draft × List Token := read [] (tokens text.toList)

/-! ### Faults and limits -/

mutual

def isComplete : Draft → Bool
  | fault => false
  | array items => areComplete items
  | object members => haveComplete members
  | _ => true

def areComplete : List Draft → Bool
  | [] => true
  | item :: rest => item.isComplete && areComplete rest

def haveComplete : List (Option String × Draft) → Bool
  | [] => true
  | (_, value) :: rest => value.isComplete && haveComplete rest

end

mutual

/-- Whether the draft has no fault, every string and key a text and every number a double, and
containers stand at most `room` deep. -/
def isSound (room : Nat) : Draft → Bool
  | fault => false
  | number _ magnitude => !overflows magnitude
  | string content => content.isSome
  | array items => 0 < room && areSound (room - 1) items
  | object members => 0 < room && haveSound (room - 1) members
  | _ => true

def areSound (room : Nat) : List Draft → Bool
  | [] => true
  | item :: rest => item.isSound room && areSound room rest

def haveSound (room : Nat) : List (Option String × Draft) → Bool
  | [] => true
  | (key, value) :: rest => key.isSome && value.isSound room && haveSound room rest

end

end Draft

end BpmnWorkflow.Json
