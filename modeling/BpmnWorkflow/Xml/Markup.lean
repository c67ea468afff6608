import BpmnWorkflow.Xml.CharacterData
import BpmnWorkflow.Xml.Tree

/-!
# Markup

The pieces that a document is written in: tags, comments, instructions and the characters between
them. A piece is read from the front of the text, and `length_readMarkup` says that reading one
uses text up.
-/

namespace BpmnWorkflow.Xml

/-- One piece of a document, its character data still as written. -/
inductive Markup
  | opening (name : Name) (attributes : List Attribute) (selfClosing : Bool)
  | closing (name : Name)
  | characters (raw : List Char)
  | literal (raw : List Char)
  | comment (content : List Char)
  | instruction (target content : List Char)
  deriving Repr

def skipSpaces (s : List Char) : List Char := s.dropWhile isSpace

def containsRun (run : List Char) : List Char → Bool
  | [] => run.isEmpty
  | c :: s => run.isPrefixOf (c :: s) || containsRun run s

/-! ### Names -/

def startsName : List Char → Bool
  | c :: _ => isNameStart c
  | [] => false

/-- Splits at the one colon that is allowed. Nothing may stand before it, something must after. -/
def Name.ofChars? (cs : List Char) : Option Name :=
  let qualifier := cs.takeWhile (· != ':')
  match cs.dropWhile (· != ':') with
  | [] => if startsName cs then some ⟨"", String.ofList cs⟩ else none
  | _ :: rest =>
    if (qualifier.isEmpty || startsName qualifier) && startsName rest && !rest.contains ':' then
      some ⟨String.ofList qualifier, String.ofList rest⟩
    else none

def readName (s : List Char) : Option (Name × List Char) :=
  (Name.ofChars? (s.takeWhile isNameChar)).map (·, s.dropWhile isNameChar)

/-! ### Text up to a mark -/

def readUntil (stop : List Char) : List Char → Option (List Char × List Char)
  | [] => none
  | c :: s =>
    if stop.isPrefixOf (c :: s) then some ([], (c :: s).drop stop.length)
    else if isAllowed c then (readUntil stop s).map fun (content, rest) => (c :: content, rest)
    else none

/-- The characters up to the closing `quote`, among which no tag may begin. -/
def readQuoted (quote : Char) : List Char → Option (List Char × List Char)
  | [] => none
  | c :: s =>
    if c = quote then some ([], s)
    else if c = '<' || !isAllowed c then none
    else (readQuoted quote s).map fun (content, rest) => (c :: content, rest)

theorem length_skipSpaces_le (s : List Char) : (skipSpaces s).length ≤ s.length :=
  (List.dropWhile_sublist _).length_le

theorem length_readName {s rest : List Char} {name : Name} (h : readName s = some (name, rest)) :
    rest.length ≤ s.length := by
  simp only [readName, Option.map_eq_some_iff, Prod.mk.injEq] at h
  obtain ⟨_, -, -, rfl⟩ := h
  exact (List.dropWhile_sublist _).length_le

theorem length_readUntil {stop s content rest : List Char}
    (h : readUntil stop s = some (content, rest)) : rest.length ≤ s.length := by
  induction s generalizing content rest with
  | nil => simp [readUntil] at h
  | cons c s ih =>
    unfold readUntil at h
    split at h
    · simp only [Option.some.injEq, Prod.mk.injEq] at h
      obtain ⟨-, rfl⟩ := h
      exact (List.drop_sublist _ _).length_le
    · split at h
      · simp only [Option.map_eq_some_iff, Prod.mk.injEq] at h
        obtain ⟨⟨content', rest'⟩, found, -, rfl⟩ := h
        exact Nat.le_succ_of_le (ih found)
      · cases h

theorem length_readQuoted {quote : Char} {s content rest : List Char}
    (h : readQuoted quote s = some (content, rest)) : rest.length < s.length := by
  induction s generalizing content rest with
  | nil => simp [readQuoted] at h
  | cons c s ih =>
    unfold readQuoted at h
    split at h
    · simp only [Option.some.injEq, Prod.mk.injEq] at h
      obtain ⟨-, rfl⟩ := h
      simp
    · split at h
      · cases h
      · simp only [Option.map_eq_some_iff, Prod.mk.injEq] at h
        obtain ⟨⟨content', rest'⟩, found, -, rfl⟩ := h
        exact Nat.lt_succ_of_lt (ih found)

/-! ### Attributes -/

def readEquals (s : List Char) : Option (List Char) :=
  match skipSpaces s with
  | '=' :: rest => some (skipSpaces rest)
  | _ => none

def readValue : List Char → Option (List Char × List Char)
  | '"' :: s => readQuoted '"' s
  | '\'' :: s => readQuoted '\'' s
  | _ => none

def readAttribute (s : List Char) : Option (Name × List Char × List Char) := do
  let (name, s) ← readName s
  let s ← readEquals s
  let (raw, rest) ← readValue s
  some (name, raw, rest)

theorem length_readEquals {s rest : List Char} (h : readEquals s = some rest) :
    rest.length ≤ s.length := by
  have bound := length_skipSpaces_le s
  unfold readEquals at h
  split at h
  · rename_i rest' equals
    rw [equals, List.length_cons] at bound
    cases h
    exact Nat.le_trans (length_skipSpaces_le rest') (Nat.le_of_succ_le bound)
  · cases h

theorem length_readValue {s raw rest : List Char} (h : readValue s = some (raw, rest)) :
    rest.length < s.length := by
  unfold readValue at h
  split at h
  · exact Nat.lt_succ_of_lt (length_readQuoted h)
  · exact Nat.lt_succ_of_lt (length_readQuoted h)
  · cases h

theorem length_readAttribute {s raw rest : List Char} {name : Name}
    (h : readAttribute s = some (name, raw, rest)) : rest.length < s.length := by
  simp only [readAttribute, Option.bind_eq_bind, Option.bind_eq_some_iff, Option.some.injEq,
    Prod.mk.injEq] at h
  obtain ⟨⟨_, s₁⟩, named, s₂, equals, ⟨_, _⟩, valued, -, -, rfl⟩ := h
  exact Nat.lt_of_lt_of_le (length_readValue valued)
    (Nat.le_trans (length_readEquals equals) (length_readName named))

/-- The attributes of a start tag, each after a space, and whether the tag closes itself. -/
def readAttributes (s : List Char) : Option (List Attribute × Bool × List Char) :=
  match skipSpaces s with
  | '>' :: rest => some ([], false, rest)
  | '/' :: '>' :: rest => some ([], true, rest)
  | _ =>
    if (skipSpaces s).length = s.length then none
    else
      match _read : readAttribute (skipSpaces s) with
      | none => none
      | some (name, raw, rest) => do
        let value ← decodeValue raw
        let (others, selfClosing, rest) ← readAttributes rest
        some (⟨name, value⟩ :: others, selfClosing, rest)
termination_by s.length
decreasing_by exact Nat.lt_of_lt_of_le (length_readAttribute _read) (length_skipSpaces_le s)

theorem length_readAttributes {s rest : List Char} {attributes : List Attribute} {selfClosing : Bool}
    (h : readAttributes s = some (attributes, selfClosing, rest)) : rest.length < s.length := by
  have bound := length_skipSpaces_le s
  fun_induction readAttributes s generalizing attributes selfClosing rest with
  | case1 s rest' closed =>
    rw [closed] at bound
    cases h
    exact bound
  | case2 s rest' closed =>
    rw [closed] at bound
    cases h
    exact Nat.lt_of_succ_le (Nat.le_of_succ_le bound)
  | case3 => cases h
  | case4 => cases h
  | case5 s _ name raw rest' read _ _ ih =>
    simp only [Option.bind_eq_bind, Option.bind_eq_some_iff, Option.some.injEq, Prod.mk.injEq] at h
    obtain ⟨_, -, ⟨_, _, _⟩, more, -, -, rfl⟩ := h
    exact Nat.lt_trans (ih more (length_skipSpaces_le rest'))
      (Nat.lt_of_lt_of_le (length_readAttribute read) bound)

/-! ### Pieces -/

/-- A comment may neither hold two hyphens in a row nor end in one. -/
def isCommentText (content : List Char) : Bool :=
  !containsRun ['-', '-'] content && content.getLast? != some '-'

/-- Characters that begin no tag; the end mark of a literal section may not stand among them. -/
def readCharacters (s : List Char) : Option (Markup × List Char) :=
  let raw := s.takeWhile (· != '<')
  if raw.all isAllowed && !containsRun [']', ']', '>'] raw then
    some (.characters raw, s.dropWhile (· != '<'))
  else none

/-- The piece after `<?`. The declaration of a document is no instruction. -/
def readInstruction (s : List Char) : Option (Markup × List Char) :=
  if ['x', 'm', 'l', ' '].isPrefixOf s || !startsName s then none
  else
    (readUntil ['?', '>'] (skipSpaces (s.dropWhile isNameChar))).map fun (content, rest) =>
      (.instruction (s.takeWhile isNameChar) content, rest)

def readBang : List Char → Option (Markup × List Char)
  | '-' :: '-' :: s => do
    let (content, rest) ← readUntil ['-', '-', '>'] s
    if isCommentText content then some (.comment content, rest) else none
  | '[' :: 'C' :: 'D' :: 'A' :: 'T' :: 'A' :: '[' :: s =>
    (readUntil [']', ']', '>'] s).map fun (content, rest) => (.literal content, rest)
  | _ => none

def readClosing (s : List Char) : Option (Markup × List Char) := do
  let (name, s) ← readName s
  match skipSpaces s with
  | '>' :: rest => some (.closing name, rest)
  | _ => none

def readOpening (s : List Char) : Option (Markup × List Char) := do
  let (name, s) ← readName s
  let (attributes, selfClosing, rest) ← readAttributes s
  some (.opening name attributes selfClosing, rest)

def readMarkup : List Char → Option (Markup × List Char)
  | '<' :: '!' :: s => readBang s
  | '<' :: '?' :: s => readInstruction s
  | '<' :: '/' :: s => readClosing s
  | '<' :: s => readOpening s
  | s => readCharacters s

theorem length_readBang {s rest : List Char} {piece : Markup} (h : readBang s = some (piece, rest)) :
    rest.length ≤ s.length := by
  unfold readBang at h
  split at h
  · simp only [Option.bind_eq_bind, Option.bind_eq_some_iff] at h
    obtain ⟨⟨content, rest'⟩, found, h⟩ := h
    have := length_readUntil found
    split at h
    · cases h
      simp only [List.length_cons]
      omega
    · cases h
  · simp only [Option.map_eq_some_iff, Prod.mk.injEq] at h
    obtain ⟨⟨content, rest'⟩, found, -, rfl⟩ := h
    have := length_readUntil found
    simp only [List.length_cons]
    omega
  · cases h

theorem length_readInstruction {s rest : List Char} {piece : Markup}
    (h : readInstruction s = some (piece, rest)) : rest.length ≤ s.length := by
  unfold readInstruction at h
  split at h
  · cases h
  · simp only [Option.map_eq_some_iff, Prod.mk.injEq] at h
    obtain ⟨⟨content, rest'⟩, found, -, rfl⟩ := h
    exact Nat.le_trans (length_readUntil found)
      (Nat.le_trans (length_skipSpaces_le _) (List.dropWhile_sublist _).length_le)

theorem length_readClosing {s rest : List Char} {piece : Markup}
    (h : readClosing s = some (piece, rest)) : rest.length ≤ s.length := by
  simp only [readClosing, Option.bind_eq_bind, Option.bind_eq_some_iff] at h
  obtain ⟨⟨name, s'⟩, named, h⟩ := h
  have bound := length_skipSpaces_le s'
  split at h
  · rename_i closed
    rw [closed, List.length_cons] at bound
    cases h
    exact Nat.le_trans (Nat.le_of_succ_le bound) (length_readName named)
  · cases h

theorem length_readOpening {s rest : List Char} {piece : Markup}
    (h : readOpening s = some (piece, rest)) : rest.length ≤ s.length := by
  simp only [readOpening, Option.bind_eq_bind, Option.bind_eq_some_iff, Option.some.injEq,
    Prod.mk.injEq] at h
  obtain ⟨⟨name, s'⟩, named, ⟨_, _, _⟩, read, -, rfl⟩ := h
  exact Nat.le_trans (Nat.le_of_lt (length_readAttributes read)) (length_readName named)

theorem length_readMarkup {c : Char} {s rest : List Char} {piece : Markup}
    (h : readMarkup (c :: s) = some (piece, rest)) : rest.length ≤ s.length := by
  unfold readMarkup at h
  split at h
  · rename_i shape
    cases shape
    exact Nat.le_succ_of_le (length_readBang h)
  · rename_i shape
    cases shape
    exact Nat.le_succ_of_le (length_readInstruction h)
  · rename_i shape
    cases shape
    exact Nat.le_succ_of_le (length_readClosing h)
  · rename_i shape
    cases shape
    exact length_readOpening h
  · rename_i plain
    have begins : (c != '<') = true := by
      rw [bne_iff_ne]
      exact fun e => plain s (e ▸ rfl)
    simp only [readCharacters] at h
    split at h
    · cases h
      rw [List.dropWhile_cons_of_pos (p := (· != '<')) begins]
      exact (List.dropWhile_sublist _).length_le
    · cases h

def readPieces : List Char → Option (List Markup)
  | [] => some []
  | c :: s =>
    match _read : readMarkup (c :: s) with
    | none => none
    | some (piece, rest) => (readPieces rest).map (piece :: ·)
termination_by s => s.length
decreasing_by exact Nat.lt_succ_of_le (length_readMarkup _read)

end BpmnWorkflow.Xml
