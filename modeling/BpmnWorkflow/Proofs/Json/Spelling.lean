import Mathlib.Data.List.Chain
import BpmnWorkflow.Proofs.Json.Draft
import BpmnWorkflow.Proofs.Json.Number
import BpmnWorkflow.Proofs.Json.Quoted

/-!
# Spellings

A text spells a row of tokens if it writes each of them in any of its ways, with space before, between and after them.
The tokens of a text are the row that it spells, so a text that spells a draft is read as that draft:
`ofText_of_spells`.
-/

namespace BpmnWorkflow.Json

/-! ### Tokens -/

namespace Token

inductive SpelledAs : Token → List Char → Prop
  | beginObject : SpelledAs .beginObject ['{']
  | endObject : SpelledAs .endObject ['}']
  | beginArray : SpelledAs .beginArray ['[']
  | endArray : SpelledAs .endArray [']']
  | colon : SpelledAs .colon [':']
  | comma : SpelledAs .comma [',']
  | null : SpelledAs .null ['n', 'u', 'l', 'l']
  | yes : SpelledAs (.bool true) ['t', 'r', 'u', 'e']
  | no : SpelledAs (.bool false) ['f', 'a', 'l', 's', 'e']
  | positive {magnitude : Decimal} {cs : List Char} (written : WritesMagnitude magnitude cs) :
    SpelledAs (.number false magnitude) cs
  | negative {magnitude : Decimal} {cs : List Char} (written : WritesMagnitude magnitude cs) :
    SpelledAs (.number true magnitude) ('-' :: cs)
  | string {content : Option String} {cs : List Char} (written : WritesContent content cs) :
    SpelledAs (.string content) ('"' :: cs ++ ['"'])

def isNumber : Token → Bool
  | .number _ _ => true
  | _ => false

def closers : List Token := [.comma, .endArray, .endObject]

def MayPrecede (token next : Token) : Prop := token.isNumber → next ∈ closers

def Closes (row : List Token) : Prop := ∀ next ∈ row.head?, next ∈ closers

section SpelledAs

variable {token : Token} {text rest : List Char}

theorem SpelledAs.read (spelled : SpelledAs token text) (ends : token.isNumber → NoNumber rest) :
    readToken (text ++ rest) = some (token, rest) := by
  cases spelled with
  | positive written =>
    obtain ⟨c, more, rfl, digit⟩ := written.head
    have magnitude := readMagnitude_of_writesMagnitude written (ends rfl)
    rw [List.cons_append] at magnitude ⊢
    rw [readToken, magnitude]
    · rfl
    -- no other token begins with a digit
    all_goals
      intro _ same
      obtain ⟨rfl, -⟩ := List.cons.inj same
      cases digit
  | negative written =>
    rw [List.cons_append, readToken, readMagnitude_of_writesMagnitude written (ends rfl)]
    rfl
  | string written =>
    obtain ⟨pieces, stands, reads⟩ := readPieces_of_writesContent written
    rw [List.append_assoc, List.cons_append, List.singleton_append, readToken, reads]
    simp only [Option.map_some, ofPieces, stands]
  | _ => rfl

theorem SpelledAs.head (spelled : SpelledAs token text) : ∃ c more, text = c :: more ∧ isSpace c = false := by
  cases spelled with
  | positive written =>
    obtain ⟨c, more, rfl, digit⟩ := written.head
    refine ⟨c, more, rfl, ?_⟩
    by_contra space
    simp only [isSpace, Bool.not_eq_false, Bool.or_eq_true, beq_iff_eq] at space
    obtain ((rfl | rfl) | rfl) | rfl := space
    all_goals cases digit
  | _ => exact ⟨_, _, rfl, rfl⟩

end SpelledAs

end Token

/-! ### Rows of tokens -/

def blanks : List Char := [' ', '\n', '\t', '\r']

theorem isSpace_of_mem_blanks {c : Char} (blank : c ∈ blanks) : isSpace c = true := by
  simp only [blanks, List.mem_cons, List.not_mem_nil, or_false] at blank
  obtain rfl | rfl | rfl | rfl := blank
  all_goals rfl

theorem noNumber_of_mem_blanks {c : Char} (blank : c ∈ blanks) (rest : List Char) : NoNumber (c :: rest) := by
  simp only [blanks, List.mem_cons, List.not_mem_nil, or_false] at blank
  obtain rfl | rfl | rfl | rfl := blank
  all_goals exact noNumber_cons rfl (by decide)

/-- The text writes the row, with space where it likes. -/
inductive Spells : List Char → List Token → Prop
  | nil : Spells [] []
  | space {c : Char} {cs : List Char} {row : List Token} (blank : c ∈ blanks) (more : Spells cs row) :
    Spells (c :: cs) row
  | cons {token : Token} {text cs : List Char} {row : List Token} (spelled : token.SpelledAs text)
    (more : Spells cs row) : Spells (text ++ cs) (token :: row)

namespace Spells

variable {a b cs : List Char} {s t row : List Token}

theorem token {token : Token} (spelled : token.SpelledAs cs) : Spells cs [token] := by
  have alone := cons spelled nil
  rwa [List.append_nil] at alone

theorem append (first : Spells a s) (second : Spells b t) : Spells (a ++ b) (s ++ t) := by
  induction first with
  | nil => exact second
  | space blank _ ih => exact .space blank ih
  | cons spelled _ ih =>
    rw [List.append_assoc]
    exact .cons spelled ih

theorem noNumber (spelled : Spells cs row) (ends : Token.Closes row) : NoNumber cs := by
  cases spelled with
  | nil => exact noNumber_nil
  | space blank => exact noNumber_of_mem_blanks blank _
  | @cons token _ _ _ spelled =>
    have closes := ends token rfl
    simp only [Token.closers, List.mem_cons, List.not_mem_nil, or_false] at closes
    obtain rfl | rfl | rfl := closes
    all_goals
      cases spelled
      exact noNumber_cons rfl (by decide)

end Spells

theorem tokens_of_readToken {c : Char} {cs rest : List Char} {token : Token} (visible : isSpace c = false)
    (read : readToken (c :: cs) = some (token, rest)) : tokens (c :: cs) = token :: tokens rest := by
  rw [tokens, if_neg (ne_true_of_eq_false visible)]
  split
  · rename_i other
    cases read.symm.trans other
    rfl
  · rename_i none
    cases read.symm.trans none

/-- A text is read as the row that it writes, if no number runs into what comes next. -/
theorem tokens_of_spells {cs : List Char} {row : List Token} (spelled : Spells cs row)
    (apart : row.IsChain Token.MayPrecede) : tokens cs = row := by
  induction spelled with
  | nil => rw [tokens]
  | space blank _ ih => rw [tokens, if_pos (isSpace_of_mem_blanks blank), ih apart]
  | @cons token text cs row spelled more ih =>
    -- the text behind a number begins where the next token does, or with space in front of it
    rw [List.isChain_cons] at apart
    have read := spelled.read fun number => more.noNumber fun next first => apart.1 next first number
    obtain ⟨c, tail, rfl, visible⟩ := spelled.head
    rw [List.cons_append] at read ⊢
    rw [tokens_of_readToken visible read, ih apart.2]

/-! ### Drafts -/

namespace Token

def Joins (row : List Token) : Prop :=
  ∀ rest : List Token, rest.IsChain MayPrecede → Closes rest → (row ++ rest).IsChain MayPrecede

section Joins

variable {token : Token} {row : List Token}

theorem closes_cons {rest : List Token} (closer : token ∈ closers) : Closes (token :: rest) := by
  rintro _ ⟨⟩
  exact closer

theorem Joins.singleton (token : Token) : Joins [token] := by
  intro rest chain closes
  exact chain.cons fun next first _ => closes next first

theorem Joins.cons (other : token.isNumber = false) (joins : Joins row) : Joins (token :: row) :=
  fun rest chain closes => (joins rest chain closes).cons fun _ _ number => absurd number (ne_true_of_eq_false other)

theorem Joins.concat (closer : token ∈ closers) (joins : Joins row) : Joins (row ++ [token]) := by
  intro rest chain closes
  rw [List.append_assoc]
  exact joins _ (Joins.singleton token rest chain closes) (closes_cons closer)

theorem joins_commaBetween {rows : List (List Token)} (each : ∀ row ∈ rows, Joins row) :
    Joins (Draft.commaBetween rows) := by
  induction rows with
  | nil => exact fun _ chain _ => chain
  | cons row rows ih =>
    cases rows with
    | nil =>
      rw [Draft.commaBetween, List.intercalate_singleton]
      exact each row List.mem_cons_self
    | cons second rows =>
      -- a value may end in front of a comma, and anything may follow one
      intro rest chain closes
      have others := ih (fun row member => each row (List.mem_cons_of_mem _ member)) rest chain closes
      rw [Draft.commaBetween, List.intercalate_cons_cons, List.append_assoc, List.append_assoc]
      exact each row List.mem_cons_self _ (others.cons fun _ _ number => absurd number Bool.false_ne_true)
        (closes_cons List.mem_cons_self)

end Joins

end Token

namespace Draft

open Token (Joins)

mutual

theorem joins_toTokens : ∀ d : Draft, Joins d.toTokens
  | .null | .bool _ | .number _ _ | .string _ | .fault => .singleton _
  | .array items =>
    (Token.joins_commaBetween (joins_itemTokens items)).concat (by decide) |>.cons rfl
  | .object members =>
    (Token.joins_commaBetween (joins_memberTokens members)).concat (by decide) |>.cons rfl

theorem joins_itemTokens : ∀ (items : List Draft), ∀ row ∈ itemTokens items, Joins row
  | [], _, member => nomatch member
  | item :: rest, row, member => by
    obtain rfl | member := List.mem_cons.mp member
    · exact joins_toTokens item
    · exact joins_itemTokens rest row member

theorem joins_memberTokens : ∀ (members : List (Option String × Draft)), ∀ row ∈ memberTokens members, Joins row
  | [], _, member => nomatch member
  | (key, value) :: rest, row, member => by
    obtain rfl | member := List.mem_cons.mp member
    · exact .cons rfl (.cons rfl (joins_toTokens value))
    · exact joins_memberTokens rest row member

end

end Draft

/-- A text that spells a draft without a fault is read as that draft, to its end. -/
theorem ofText_of_spells {text : String} {d : Draft} (spelled : Spells text.toList d.toTokens)
    (complete : d.isComplete = true) : Draft.ofText text = (d, []) := by
  have apart := d.joins_toTokens [] .nil fun _ member => absurd member (Option.not_mem_none _)
  have read := Draft.reads_of_complete d complete [] []
  rw [List.append_nil] at apart read
  rw [Draft.ofText, tokens_of_spells spelled apart, read, Draft.resume]

end BpmnWorkflow.Json
