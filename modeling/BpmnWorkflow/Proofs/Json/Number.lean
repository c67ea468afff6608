import BpmnWorkflow.Json.Token

/-!
# Numbers

How a number may be written: digits with no needless zero in front, maybe a point and more digits, maybe an exponent.
It is read to its end as what is kept of it: `readMagnitude_of_writesMagnitude`.
-/

namespace BpmnWorkflow.Json

/-! ### The grammar -/

def IsDigits (cs : List Char) : Prop := cs ≠ [] ∧ ∀ c ∈ cs, c.isDigit = true

/-- The digits before the point: a zero stands alone. -/
def IsWhole (cs : List Char) : Prop := IsDigits cs ∧ (cs.head? = some '0' → cs = ['0'])

/-- The ways to write the digits after the point. Without any, there is no point. -/
inductive WritesFraction : List Char → List Char → Prop
  | absent : WritesFraction [] []
  | present {digits : List Char} (row : IsDigits digits) : WritesFraction digits ('.' :: digits)

inductive WritesScale : Int → List Char → Prop
  | absent : WritesScale 0 []
  | bare {e : Char} {digits : List Char} (mark : e ∈ ['e', 'E']) (row : IsDigits digits) :
    WritesScale (Decimal.ofDigits digits) (e :: digits)
  | plus {e : Char} {digits : List Char} (mark : e ∈ ['e', 'E']) (row : IsDigits digits) :
    WritesScale (Decimal.ofDigits digits) (e :: '+' :: digits)
  | minus {e : Char} {digits : List Char} (mark : e ∈ ['e', 'E']) (row : IsDigits digits) :
    WritesScale (-(Decimal.ofDigits digits : Int)) (e :: '-' :: digits)

/-- The texts of numbers without a sign, with what is kept of each. -/
def WritesMagnitude (magnitude : Decimal) (cs : List Char) : Prop :=
  ∃ whole fraction point scale exponent, IsWhole whole ∧ WritesFraction fraction point ∧ WritesScale scale exponent ∧
    cs = whole ++ (point ++ exponent) ∧ magnitude = keptNumber whole fraction scale

theorem IsDigits.head {cs : List Char} (row : IsDigits cs) : ∃ c more, cs = c :: more ∧ c.isDigit = true := by
  obtain ⟨c, more, rfl⟩ := List.exists_cons_of_ne_nil row.1
  exact ⟨c, more, rfl, row.2 c List.mem_cons_self⟩

theorem WritesMagnitude.head {magnitude : Decimal} {cs : List Char} (written : WritesMagnitude magnitude cs) :
    ∃ c more, cs = c :: more ∧ c.isDigit = true := by
  obtain ⟨whole, _, point, _, exponent, ⟨row, -⟩, -, -, rfl, -⟩ := written
  obtain ⟨c, more, rfl, digit⟩ := row.head
  exact ⟨c, more ++ (point ++ exponent), rfl, digit⟩

/-! ### Where a number ends -/

def NoDigit (rest : List Char) : Prop := ∀ c ∈ rest.head?, c.isDigit = false

def NoNumber (rest : List Char) : Prop := NoDigit rest ∧ ∀ c ∈ rest.head?, c ∉ ['.', 'e', 'E']

section Ends

variable {cs digits fraction point exponent rest : List Char} {scale : Int}

theorem IsDigits.takeWhile (row : IsDigits cs) (ends : NoDigit rest) :
    (cs ++ rest).takeWhile Char.isDigit = cs ∧ (cs ++ rest).dropWhile Char.isDigit = rest := by
  have stop : rest.takeWhile Char.isDigit = [] ∧ rest.dropWhile Char.isDigit = rest := by
    cases rest with
    | nil => exact ⟨rfl, rfl⟩
    | cons c more =>
      have other : ¬ c.isDigit = true := ne_true_of_eq_false (ends c rfl)
      exact ⟨List.takeWhile_cons_of_neg other, List.dropWhile_cons_of_neg other⟩
  rw [List.takeWhile_append_of_pos row.2, List.dropWhile_append_of_pos row.2, stop.1, stop.2, List.append_nil]
  exact ⟨rfl, rfl⟩

theorem noDigit_cons {c : Char} {more : List Char} (other : c.isDigit = false) : NoDigit (c :: more) := by
  rintro _ ⟨⟩
  exact other

theorem noNumber_cons {c : Char} {more : List Char} (digit : c.isDigit = false) (other : c ∉ ['.', 'e', 'E']) :
    NoNumber (c :: more) := by
  refine ⟨noDigit_cons digit, ?_⟩
  rintro _ ⟨⟩
  exact other

theorem noNumber_nil : NoNumber [] :=
  ⟨fun _ member => absurd member (Option.not_mem_none _), fun _ member => absurd member (Option.not_mem_none _)⟩

theorem WritesScale.noDigit (written : WritesScale scale exponent) (ends : NoNumber rest) :
    NoDigit (exponent ++ rest) ∧ ∀ c ∈ (exponent ++ rest).head?, c ≠ '.' := by
  have marked {e : Char} (more : List Char) (mark : e ∈ ['e', 'E']) :
      NoDigit (e :: more) ∧ ∀ c ∈ (e :: more).head?, c ≠ '.' := by
    have letter : e.isDigit = false ∧ e ≠ '.' := by
      simp only [List.mem_cons, List.not_mem_nil, or_false] at mark
      obtain rfl | rfl := mark
      · decide
      · decide
    refine ⟨noDigit_cons letter.1, ?_⟩
    rintro _ ⟨⟩
    exact letter.2
  cases written with
  | absent => exact ⟨ends.1, fun c first same => ends.2 c first (same ▸ List.mem_cons_self)⟩
  | bare mark | plus mark | minus mark => exact marked _ mark

theorem WritesFraction.noDigit (written : WritesFraction fraction point) (ends : NoDigit rest) :
    NoDigit (point ++ rest) := by
  cases written with
  | absent => exact ends
  | present => exact noDigit_cons rfl

end Ends

/-! ### Reading -/

section Reading

variable {whole digits fraction point exponent rest cs : List Char} {scale : Int} {magnitude : Decimal}

theorem readExponent_of_isDigits (row : IsDigits digits) (ends : NoDigit rest) (sign : List Char) (negative : Bool)
    (signed : Decimal.readSign (sign ++ (digits ++ rest)) = (negative, digits ++ rest)) :
    Decimal.readExponent (sign ++ (digits ++ rest)) =
      some (if negative then -(Decimal.ofDigits digits : Int) else Decimal.ofDigits digits, rest) := by
  obtain ⟨taken, left⟩ := row.takeWhile ends
  simp only [Decimal.readExponent, signed, taken, left]
  rw [if_neg (mt List.isEmpty_iff.mp row.1)]

theorem readScale_of_writesScale (written : WritesScale scale exponent) (ends : NoNumber rest) :
    readScale (exponent ++ rest) = some (scale, rest) := by
  -- both marks of an exponent are read alike
  have marked {e : Char} (mark : e ∈ ['e', 'E']) (more : List Char) : readScale (e :: more) = Decimal.readExponent more := by
    simp only [List.mem_cons, List.not_mem_nil, or_false] at mark
    obtain rfl | rfl := mark
    · rfl
    · rfl
  cases written with
  | absent =>
    have markless (e : Char) (mark : e ∈ ['.', 'e', 'E']) : ∀ more, rest = e :: more → False := by
      rintro more rfl
      exact ends.2 e rfl mark
    rw [List.nil_append, readScale]
    · exact markless 'e' (by decide)
    · exact markless 'E' (by decide)
  | @bare e digits mark row =>
    have unsigned : Decimal.readSign (digits ++ rest) = (false, digits ++ rest) := by
      obtain ⟨c, more, rfl, digit⟩ := row.head
      rw [List.cons_append, Decimal.readSign]
      · rintro _ ⟨⟩
        cases digit
      · rintro _ ⟨⟩
        cases digit
    rw [List.cons_append, marked mark]
    exact readExponent_of_isDigits row ends.1 [] false unsigned
  | plus mark row =>
    rw [List.cons_append, marked mark]
    exact readExponent_of_isDigits row ends.1 ['+'] false rfl
  | minus mark row =>
    rw [List.cons_append, marked mark]
    exact readExponent_of_isDigits row ends.1 ['-'] true rfl

theorem readFraction_of_writesFraction (written : WritesFraction fraction point) (ends : NoDigit rest)
    (pointless : ∀ c ∈ rest.head?, c ≠ '.') : readFraction (point ++ rest) = some (fraction, rest) := by
  cases written with
  | absent =>
    rw [List.nil_append, readFraction]
    rintro more rfl
    exact pointless '.' rfl rfl
  | present row =>
    obtain ⟨taken, left⟩ := row.takeWhile ends
    rw [List.cons_append, readFraction]
    simp only [taken, left]
    rw [if_neg (mt List.isEmpty_iff.mp row.1)]

theorem readWhole_of_isWhole (leading : IsWhole whole) (ends : NoDigit rest) :
    readWhole (whole ++ rest) = some (whole, rest) := by
  obtain ⟨taken, left⟩ := leading.1.takeWhile ends
  rw [readWhole]
  simp only [taken, left]
  split
  · exact (leading.1.1 rfl).elim
  · cases leading.2 rfl
  · rfl

theorem readMagnitude_of_writesMagnitude (written : WritesMagnitude magnitude cs) (ends : NoNumber rest) :
    readMagnitude (cs ++ rest) = some (magnitude, rest) := by
  obtain ⟨whole, fraction, point, scale, exponent, leading, digits, power, rfl, rfl⟩ := written
  obtain ⟨noDigit, pointless⟩ := power.noDigit ends
  have wholeRead := readWhole_of_isWhole leading (digits.noDigit noDigit)
  have fractionRead := readFraction_of_writesFraction digits noDigit pointless
  have scaleRead := readScale_of_writesScale power ends
  rw [List.append_assoc, List.append_assoc, readMagnitude, wholeRead]
  simp only [Option.bind_eq_bind, Option.bind_some, fractionRead, scaleRead]

end Reading

end BpmnWorkflow.Json
