/-!
# Ordered maps

A map from strings that lists its entries in the order in which their keys first came in.
`insert` on a known key keeps the key's place, and no key occurs twice.
-/

namespace BpmnWorkflow

/-- Entries in order of first insertion, each key once. -/
structure OrderedMap (α : Type) where
  entries : List (String × α)
  nodup_keys : (entries.map Prod.fst).Nodup

namespace OrderedMap

variable {α β : Type}

theorem ext_entries {m n : OrderedMap α} (h : m.entries = n.entries) : m = n := by
  cases m; cases n; cases h; rfl

instance [DecidableEq α] : DecidableEq (OrderedMap α) := fun m n =>
  decidable_of_iff (m.entries = n.entries) ⟨ext_entries, fun h => h ▸ rfl⟩

def empty : OrderedMap α := ⟨[], List.nodup_nil⟩

instance : Inhabited (OrderedMap α) := ⟨empty⟩

def keys (m : OrderedMap α) : List String := m.entries.map Prod.fst

def values (m : OrderedMap α) : List α := m.entries.map Prod.snd

def size (m : OrderedMap α) : Nat := m.entries.length

def isEmpty (m : OrderedMap α) : Bool := m.entries.isEmpty

def find? (m : OrderedMap α) (key : String) : Option α := m.entries.lookup key

def contains (m : OrderedMap α) (key : String) : Bool := m.keys.contains key

/-! ### Insertion -/

/-- Replaces the value of a known key in place, or appends a new entry. -/
def place (key : String) (value : α) : List (String × α) → List (String × α)
  | [] => [(key, value)]
  | (k, v) :: rest => if k = key then (key, value) :: rest else (k, v) :: place key value rest

theorem keys_place (key : String) (value : α) (entries : List (String × α)) :
    (place key value entries).map Prod.fst =
      if key ∈ entries.map Prod.fst then entries.map Prod.fst else entries.map Prod.fst ++ [key] := by
  induction entries with
  | nil => simp [place]
  | cons e rest ih =>
    obtain ⟨k, v⟩ := e
    by_cases h : k = key
    · simp [place, h]
    · have h' : ¬ key = k := fun e => h e.symm
      simp only [place, h, if_false, List.map_cons, ih, List.mem_cons, h', false_or]
      split <;> simp

theorem any_place (key : String) (value : α) (entries : List (String × α)) (k : String) :
    (place key value entries).any (·.1 == k) = (entries.any (·.1 == k) || k == key) := by
  induction entries with
  | nil => simp [place, Bool.beq_comm]
  | cons e rest ih =>
    obtain ⟨first, v⟩ := e
    by_cases h : first = key
    · subst h
      by_cases own : k = first <;> simp [place, own, Ne.symm]
    · simp [place, h, ih, Bool.or_assoc]

theorem nodup_place {key : String} {value : α} {entries : List (String × α)}
    (h : (entries.map Prod.fst).Nodup) : ((place key value entries).map Prod.fst).Nodup := by
  rw [keys_place]
  split
  · exact h
  · rename_i fresh
    rw [List.nodup_append]
    refine ⟨h, by simp, fun a ha b hb => ?_⟩
    rw [List.mem_singleton.mp hb]
    exact fun e => fresh (e ▸ ha)

def insert (m : OrderedMap α) (key : String) (value : α) : OrderedMap α :=
  ⟨place key value m.entries, nodup_place m.nodup_keys⟩

/-- Later entries win, first places stay. -/
def ofEntries (entries : List (String × α)) : OrderedMap α :=
  entries.foldl (fun m e => m.insert e.1 e.2) empty

def erase (m : OrderedMap α) (key : String) : OrderedMap α :=
  ⟨m.entries.filter (·.1 != key), m.nodup_keys.sublist (List.filter_sublist.map _)⟩

def mapValues (f : α → β) (m : OrderedMap α) : OrderedMap β :=
  ⟨m.entries.map (fun e => (e.1, f e.2)), by
    rw [List.map_map]
    exact m.nodup_keys⟩

theorem keys_mapM {σ : Type} (f : α → StateM σ β) (entries : List (String × α)) (s : σ) :
    ((entries.mapM fun e => Prod.mk e.1 <$> f e.2).run s).1.map Prod.fst = entries.map Prod.fst := by
  induction entries generalizing s with
  | nil => rfl
  | cons e rest ih =>
    rw [List.mapM_cons]
    exact congrArg (e.1 :: ·) (ih _)

def mapValuesM {σ : Type} (f : α → StateM σ β) (m : OrderedMap α) : StateM σ (OrderedMap β) := fun s =>
  let visited := (m.entries.mapM fun e => Prod.mk e.1 <$> f e.2).run s
  (⟨visited.1, by
    rw [keys_mapM]
    exact m.nodup_keys⟩, visited.2)

/-! ### What each operation does to keys and entries -/

@[simp] theorem entries_empty : (empty : OrderedMap α).entries = [] := rfl

@[simp] theorem keys_empty : (empty : OrderedMap α).keys = [] := rfl

theorem contains_iff {m : OrderedMap α} {key : String} : m.contains key = true ↔ key ∈ m.keys := by
  simp [contains]

theorem keys_insert (m : OrderedMap α) (key : String) (value : α) :
    (m.insert key value).keys = if key ∈ m.keys then m.keys else m.keys ++ [key] :=
  keys_place key value m.entries

theorem mem_keys_insert {m : OrderedMap α} {key k : String} {value : α} :
    k ∈ (m.insert key value).keys ↔ k ∈ m.keys ∨ k = key := by
  rw [keys_insert]
  split
  · rename_i h
    exact ⟨Or.inl, fun | .inl h' => h' | .inr e => e ▸ h⟩
  · simp

theorem lookup_cons_eq_ite (k key : String) (value : α) (rest : List (String × α)) :
    ((key, value) :: rest).lookup k = if k = key then some value else rest.lookup k := by
  rw [List.lookup_cons]
  by_cases h : k = key
  · simp [h]
  · rw [beq_eq_false_iff_ne.mpr h]
    simp [h]

theorem lookup_place (key : String) (value : α) (k : String) (entries : List (String × α)) :
    (place key value entries).lookup k = if k = key then some value else entries.lookup k := by
  induction entries with
  | nil => exact lookup_cons_eq_ite k key value []
  | cons e rest ih =>
    obtain ⟨first, v⟩ := e
    by_cases h : first = key
    · subst h
      simp only [place, if_true, lookup_cons_eq_ite]
      split <;> rfl
    · simp only [place, h, if_false, lookup_cons_eq_ite, ih]
      by_cases hk : k = first
      · have other : ¬ k = key := fun e => h (hk ▸ e)
        simp [hk, h]
      · simp [hk]

theorem find?_insert (m : OrderedMap α) (key : String) (value : α) (k : String) :
    (m.insert key value).find? k = if k = key then some value else m.find? k :=
  lookup_place key value k m.entries

@[simp] theorem keys_mapValues (f : α → β) (m : OrderedMap α) : (m.mapValues f).keys = m.keys := by
  simp [keys, mapValues, Function.comp_def]

theorem lookup_map_snd (f : α → β) (entries : List (String × α)) (k : String) :
    (entries.map fun e => (e.1, f e.2)).lookup k = (entries.lookup k).map f := by
  induction entries with
  | nil => rfl
  | cons e rest ih =>
    rw [List.map_cons, lookup_cons_eq_ite, lookup_cons_eq_ite, ih]
    split <;> rfl

theorem find?_mapValues (f : α → β) (m : OrderedMap α) (k : String) :
    (m.mapValues f).find? k = (m.find? k).map f :=
  lookup_map_snd f m.entries k

theorem place_of_fresh {key : String} {entries : List (String × α)} (value : α)
    (fresh : key ∉ entries.map Prod.fst) : place key value entries = entries ++ [(key, value)] := by
  induction entries with
  | nil => rfl
  | cons e rest ih =>
    obtain ⟨k, v⟩ := e
    simp only [List.map_cons, List.mem_cons, not_or] at fresh
    rw [place, if_neg (Ne.symm fresh.1), ih fresh.2, List.cons_append]

theorem entries_insert_of_fresh {m : OrderedMap α} {key : String} (value : α) (fresh : key ∉ m.keys) :
    (m.insert key value).entries = m.entries ++ [(key, value)] :=
  place_of_fresh value fresh

theorem mem_keys_iff {m : OrderedMap α} {key : String} : key ∈ m.keys ↔ ∃ value, m.find? key = some value := by
  rw [← Option.isSome_iff_exists, find?, List.lookup_isSome_iff, keys, List.mem_map]
  constructor
  · rintro ⟨e, member, same⟩
    exact ⟨e, member, beq_iff_eq.mpr same.symm⟩
  · rintro ⟨e, member, same⟩
    exact ⟨e, member, (beq_iff_eq.mp same).symm⟩

theorem mem_entries_iff {m : OrderedMap α} {key : String} {value : α} :
    (key, value) ∈ m.entries ↔ m.find? key = some value := by
  obtain ⟨entries, nodup⟩ := m
  simp only [find?]
  induction entries with
  | nil => simp
  | cons e rest ih =>
    obtain ⟨k, v⟩ := e
    rw [List.map_cons, List.nodup_cons] at nodup
    rw [lookup_cons_eq_ite, List.mem_cons, ih nodup.2, Prod.mk.injEq]
    split
    · rename_i same
      subst same
      have absent : rest.lookup key = none := by
        rw [List.lookup_eq_none_iff]
        intro b member
        rw [bne_iff_ne]
        intro twice
        exact nodup.1 (List.mem_map.mpr ⟨b, member, twice.symm⟩)
      simp [absent, eq_comm]
    · rename_i other
      simp [other]

theorem entries_foldl_insert {m : OrderedMap α} {entries : List (String × α)}
    (fresh : ∀ e ∈ entries, e.1 ∉ m.keys) (distinct : (entries.map Prod.fst).Nodup) :
    (entries.foldl (fun m e => m.insert e.1 e.2) m).entries = m.entries ++ entries := by
  induction entries generalizing m with
  | nil => rw [List.foldl_nil, List.append_nil]
  | cons e rest ih =>
    rw [List.map_cons, List.nodup_cons] at distinct
    have first := entries_insert_of_fresh e.2 (fresh e List.mem_cons_self)
    have others : ∀ later ∈ rest, later.1 ∉ (m.insert e.1 e.2).keys := by
      intro later member known
      rw [mem_keys_insert] at known
      obtain known | same := known
      · exact fresh later (List.mem_cons_of_mem e member) known
      · exact distinct.1 (List.mem_map.mpr ⟨later, member, same⟩)
    rw [List.foldl_cons, ih others distinct.2, first, List.append_assoc, List.singleton_append]

@[simp] theorem ofEntries_entries (m : OrderedMap α) : ofEntries m.entries = m := by
  have unknown : ∀ e ∈ m.entries, e.1 ∉ (empty : OrderedMap α).keys := fun _ _ => List.not_mem_nil
  apply ext_entries
  rw [ofEntries, entries_foldl_insert unknown m.nodup_keys, entries_empty, List.nil_append]

end OrderedMap

end BpmnWorkflow
