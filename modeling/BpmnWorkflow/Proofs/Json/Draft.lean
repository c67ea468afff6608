import BpmnWorkflow.Json.Draft

/-!
# Drafts are read from their tokens

A draft without a fault is written as one row of tokens, and whatever follows that row, reading it
gives the draft back: `reads_of_complete`.
-/

namespace BpmnWorkflow.Json.Draft

def commaBetween (rows : List (List Token)) : List Token := [Token.comma].intercalate rows

mutual

def toTokens : Draft → List Token
  | .null => [.null]
  | .bool b => [.bool b]
  | .number negative magnitude => [.number negative magnitude]
  | .string content => [.string content]
  | .array items => .beginArray :: commaBetween (itemTokens items) ++ [.endArray]
  | .object members => .beginObject :: commaBetween (memberTokens members) ++ [.endObject]
  | .fault => [.invalid]

def itemTokens : List Draft → List (List Token)
  | [] => []
  | item :: rest => item.toTokens :: itemTokens rest

def memberTokens : List (Option String × Draft) → List (List Token)
  | [] => []
  | (key, value) :: rest => (.string key :: .colon :: value.toTokens) :: memberTokens rest

end

/-- Wherever the tokens of the draft stand, they are read as the draft. -/
def Reads (d : Draft) : Prop :=
  ∀ (frames : List Frame) (rest : List Token), read frames (d.toTokens ++ rest) = resume d frames rest

theorem toTokens_ne_endArray (d : Draft) (s t : List Token) : d.toTokens ++ s ≠ .endArray :: t := by
  cases d <;> simp [toTokens]

theorem read_items (value : Draft) (items done : List Draft) (frames : List Frame) (rest : List Token)
    (reads : ∀ d ∈ value :: items, Reads d) :
    read (.array done :: frames) (commaBetween (itemTokens (value :: items)) ++ .endArray :: rest) =
      resume (.array (done.reverse ++ value :: items)) frames rest := by
  -- the open array holds what is done, last first; each comma moves one more item over
  induction items generalizing value done with
  | nil =>
    rw [itemTokens, itemTokens, commaBetween, List.intercalate_singleton,
      reads value List.mem_cons_self, resume, List.reverse_cons]
  | cons item items ih =>
    have tail := ih item (value :: done) fun d member => reads d (List.mem_cons_of_mem value member)
    rw [itemTokens, commaBetween] at tail
    rw [itemTokens, itemTokens, commaBetween, List.intercalate_cons_cons, List.append_assoc, List.append_assoc,
      reads value List.mem_cons_self, List.singleton_append, resume, tail, List.reverse_cons, List.append_assoc,
      List.singleton_append]

theorem read_members (key : Option String) (value : Draft) (members done : List (Option String × Draft))
    (frames : List Frame) (rest : List Token) (reads : ∀ m ∈ (key, value) :: members, Reads m.2) :
    ∃ tail, commaBetween (memberTokens ((key, value) :: members)) = .string key :: .colon :: tail ∧
      read (.object done key :: frames) (tail ++ .endObject :: rest) =
        resume (.object (done.reverse ++ (key, value) :: members)) frames rest := by
  induction members generalizing key value done with
  | nil =>
    refine ⟨value.toTokens, ?_, ?_⟩
    · rw [memberTokens, memberTokens, commaBetween, List.intercalate_singleton]
    · rw [reads (key, value) List.mem_cons_self, resume, List.reverse_cons]
  | cons member members ih =>
    obtain ⟨next, last⟩ := member
    obtain ⟨tail, written, readTail⟩ := ih next last ((key, value) :: done)
      fun m member => reads m (List.mem_cons_of_mem _ member)
    refine ⟨value.toTokens ++ .comma :: .string next :: .colon :: tail, ?_, ?_⟩
    · rw [← written]
      simp only [memberTokens, commaBetween, List.intercalate_cons_cons, List.cons_append, List.append_assoc,
        List.nil_append]
    · rw [List.append_assoc, reads (key, value) List.mem_cons_self]
      simp only [List.cons_append, resume, readTail, List.reverse_cons, List.append_assoc, List.nil_append]

theorem reads_array {items : List Draft} (reads : ∀ d ∈ items, Reads d) : Reads (.array items) := by
  intro frames rest
  cases items with
  | nil => rfl
  | cons value items =>
    -- no item begins with a closing bracket, so the array is not taken for an empty one
    have first : ∀ t, commaBetween (itemTokens (value :: items)) ++ .endArray :: rest ≠ .endArray :: t := by
      intro t
      cases items with
      | nil =>
        rw [itemTokens, itemTokens, commaBetween, List.intercalate_singleton]
        exact toTokens_ne_endArray value _ t
      | cons item items =>
        rw [itemTokens, itemTokens, commaBetween, List.intercalate_cons_cons, List.append_assoc, List.append_assoc]
        exact toTokens_ne_endArray value _ t
    rw [toTokens, List.append_assoc, List.cons_append, List.singleton_append, read.eq_6 _ _ first,
      read_items value items [] frames rest reads]
    rfl

theorem reads_object {members : List (Option String × Draft)} (reads : ∀ m ∈ members, Reads m.2) :
    Reads (.object members) := by
  intro frames rest
  cases members with
  | nil => rfl
  | cons member members =>
    obtain ⟨key, value⟩ := member
    obtain ⟨tail, written, readTail⟩ := read_members key value members [] frames rest reads
    rw [toTokens, List.append_assoc, List.cons_append, List.singleton_append, written, List.cons_append,
      List.cons_append, read, readTail]
    rfl

mutual

theorem reads_of_complete : ∀ d : Draft, d.isComplete = true → Reads d
  | .null, _ => fun _ _ => rfl
  | .bool _, _ => fun _ _ => rfl
  | .number _ _, _ => fun _ _ => rfl
  | .string _, _ => fun _ _ => rfl
  | .array items, complete => reads_array (reads_of_areComplete items complete)
  | .object members, complete => reads_object (reads_of_haveComplete members complete)
  | .fault, broken => nomatch broken

theorem reads_of_areComplete : ∀ items : List Draft, areComplete items = true → ∀ d ∈ items, Reads d
  | [], _ => fun _ member => nomatch member
  | item :: rest, complete => by
    rw [areComplete, Bool.and_eq_true] at complete
    rintro d (_ | ⟨_, member⟩)
    · exact reads_of_complete item complete.1
    · exact reads_of_areComplete rest complete.2 d member

theorem reads_of_haveComplete :
    ∀ members : List (Option String × Draft), haveComplete members = true → ∀ m ∈ members, Reads m.2
  | [], _ => fun _ member => nomatch member
  | (_, value) :: rest, complete => by
    rw [haveComplete, Bool.and_eq_true] at complete
    rintro m (_ | ⟨_, member⟩)
    · exact reads_of_complete value complete.1
    · exact reads_of_haveComplete rest complete.2 m member

end

end BpmnWorkflow.Json.Draft
