/-!
# Ordered maps

A finite map from names to values that remembers the order in which names were first inserted.
Inserting under a known name replaces the value where it stands, inserting under a new name appends,
and erasing keeps the order of the rest. Definitions, rule sets, blocks of declarations, registries
and components are all maps of this kind.

The main statements say what each operation does to look-up and to the list of keys.
-/

universe u v

namespace Restyle

/-- A map from names to `α`, as the list of its entries in order of first insertion. -/
structure OrderedMap (α : Type u) where
  /-- The entries, oldest first. -/
  entries : List (String × α)
deriving Repr, DecidableEq

namespace OrderedMap

variable {α : Type u} {β : Type v}

/-- The map without entries. -/
def empty : OrderedMap α := ⟨[]⟩

instance : Inhabited (OrderedMap α) := ⟨empty⟩

/-- The names in order of first insertion. -/
def keys (m : OrderedMap α) : List String := m.entries.map Prod.fst

/-- The values in the order of their names. -/
def values (m : OrderedMap α) : List α := m.entries.map Prod.snd

/-- The number of entries. -/
def size (m : OrderedMap α) : Nat := m.entries.length

/-- Whether there is no entry. -/
def isEmpty (m : OrderedMap α) : Bool := m.entries.isEmpty

/-- The value of the first entry that has the key. -/
def lookupEntry (key : String) : List (String × α) → Option α
  | [] => none
  | (k, v) :: rest => if k = key then some v else lookupEntry key rest

/-- The value under `key`. -/
def get? (m : OrderedMap α) (key : String) : Option α := lookupEntry key m.entries

/-- Whether there is a value under `key`. -/
def contains (m : OrderedMap α) (key : String) : Bool := (m.get? key).isSome

/-- Puts `value` under `key` in a list of entries: in the place of the entry that has the key, else
at the end. -/
def insertEntry (key : String) (value : α) : List (String × α) → List (String × α)
  | [] => [(key, value)]
  | (k, v) :: rest =>
    if k = key then (key, value) :: rest else (k, v) :: insertEntry key value rest

/-- Puts `value` under `key`: in the place of the entry that has the key, else at the end. -/
def insert (m : OrderedMap α) (key : String) (value : α) : OrderedMap α :=
  ⟨insertEntry key value m.entries⟩

/-- Drops the entry under `key`; the others keep their order. -/
def erase (m : OrderedMap α) (key : String) : OrderedMap α :=
  ⟨m.entries.filter fun e => e.1 ≠ key⟩

/-- Inserts entries one after another. -/
def insertAll (m : OrderedMap α) (entries : List (String × α)) : OrderedMap α :=
  entries.foldl (fun acc e => acc.insert e.1 e.2) m

/-- The map that results from inserting the entries into the empty map. -/
def ofList (entries : List (String × α)) : OrderedMap α := empty.insertAll entries

/-- Inserts every entry of `other`, in its order. -/
def extend (m other : OrderedMap α) : OrderedMap α := m.insertAll other.entries

/-- Applies `f` to every value. -/
def map (f : α → β) (m : OrderedMap α) : OrderedMap β :=
  ⟨m.entries.map fun e => (e.1, f e.2)⟩

/-- Whether some value satisfies `p`. -/
def any (p : α → Bool) (m : OrderedMap α) : Bool := m.entries.any fun e => p e.2

@[simp] theorem get?_empty (key : String) : (empty : OrderedMap α).get? key = none := rfl

@[simp] theorem keys_empty : (empty : OrderedMap α).keys = [] := rfl

theorem lookupEntry_insertEntry (key k : String) (value : α) (entries : List (String × α)) :
    lookupEntry k (insertEntry key value entries) =
      if key = k then some value else lookupEntry k entries := by
  induction entries with
  | nil => simp [insertEntry, lookupEntry]
  | cons e rest ih =>
    obtain ⟨k', v'⟩ := e
    by_cases h : k' = key
    · subst h
      by_cases hk : k' = k <;> simp [insertEntry, lookupEntry, hk]
    · by_cases hk : k' = k
      · subst hk
        have h' : ¬ key = k' := fun e => h e.symm
        simp [insertEntry, lookupEntry, h, h']
      · simp [insertEntry, lookupEntry, h, hk, ih]

/-- Look-up after an insertion sees the inserted value under its key and the old map elsewhere. -/
theorem get?_insert (m : OrderedMap α) (key k : String) (value : α) :
    (m.insert key value).get? k = if key = k then some value else m.get? k :=
  lookupEntry_insertEntry key k value m.entries

theorem keys_insertEntry (key : String) (value : α) (entries : List (String × α)) :
    (insertEntry key value entries).map Prod.fst =
      if key ∈ entries.map Prod.fst then entries.map Prod.fst
      else entries.map Prod.fst ++ [key] := by
  induction entries with
  | nil => simp [insertEntry]
  | cons e rest ih =>
    obtain ⟨k', v'⟩ := e
    by_cases h : k' = key
    · simp [insertEntry, h]
    · have h' : ¬ key = k' := fun e => h e.symm
      simp only [insertEntry, h, if_false, List.map_cons, List.mem_cons, h', false_or, ih]
      split <;> simp

/-- Insertion keeps the keys and appends the new one if it was missing. -/
theorem keys_insert (m : OrderedMap α) (key : String) (value : α) :
    (m.insert key value).keys = if key ∈ m.keys then m.keys else m.keys ++ [key] :=
  keys_insertEntry key value m.entries

/-- Erasing drops the key from the list of keys. -/
theorem keys_erase (m : OrderedMap α) (key : String) :
    (m.erase key).keys = m.keys.filter fun k => k ≠ key := by
  simp only [keys, erase, List.filter_map]
  rfl

theorem lookupEntry_filter (key k : String) (entries : List (String × α)) :
    lookupEntry k (entries.filter fun e => e.1 ≠ key) =
      if key = k then none else lookupEntry k entries := by
  induction entries with
  | nil => simp [lookupEntry]
  | cons e rest ih =>
    obtain ⟨k', v'⟩ := e
    by_cases h : k' = key
    · subst h
      by_cases hk : k' = k
      · simpa [lookupEntry, hk] using ih
      · simpa [lookupEntry, hk] using ih
    · by_cases hk : k' = k
      · subst hk
        have h' : ¬ key = k' := fun e => h e.symm
        simp [lookupEntry, h, h']
      · simpa [lookupEntry, h, hk] using ih

/-- Look-up after an erasure finds nothing under the key and the old map elsewhere. -/
theorem get?_erase (m : OrderedMap α) (key k : String) :
    (m.erase key).get? k = if key = k then none else m.get? k :=
  lookupEntry_filter key k m.entries

end OrderedMap

end Restyle
