import Mathlib.Data.List.Induction
import Mathlib.Data.List.Nodup
import Mathlib.Tactic.Lemma
import Restyle.OrderedMap

/-!
# Ordered maps without repeated keys

An `OrderedMap` is a list of entries, so its type alone does not exclude a key that occurs twice.
`OrderedMap.Distinct` says that none does; every operation preserves it, and under it look-up and
membership say the same thing.

The second half follows insertion through whole lists of entries: inserting entries under new and
distinct keys appends them, so a map with distinct keys is rebuilt by inserting its own entries one
after another into the empty map. Entries that do repeat keys leave each key at its first place with
its last value (`OrderedMap.keys_ofList`, `OrderedMap.get?_ofList`), and this much determines a map
with distinct keys (`OrderedMap.Distinct.ext`). Extending one map by another obeys the laws that
follow from this (`OrderedMap.extend_assoc`, `OrderedMap.extend_self`).
-/

universe u

namespace Restyle

namespace OrderedMap

variable {α : Type u} {m : OrderedMap α} {key k : String} {value v : α}

/-! ### Look-up and membership -/

/-- What is found under a key stands among the entries. -/
lemma mem_of_lookupEntry {entries : List (String × α)} (h : lookupEntry key entries = some v) :
    (key, v) ∈ entries := by
  induction entries with
  | nil => simp [lookupEntry] at h
  | cons e rest ih =>
    obtain ⟨k', v'⟩ := e
    by_cases hk : k' = key
    · subst hk
      obtain rfl : v' = v := by simpa [lookupEntry] using h
      exact List.mem_cons_self
    · exact List.mem_cons_of_mem _ (ih (by simpa [lookupEntry, hk] using h))

/-- Look-up finds nothing exactly under the keys that do not occur. -/
lemma lookupEntry_eq_none_iff {entries : List (String × α)} :
    lookupEntry key entries = none ↔ key ∉ entries.map Prod.fst := by
  induction entries with
  | nil => simp [lookupEntry]
  | cons e rest ih =>
    obtain ⟨k', v'⟩ := e
    by_cases hk : k' = key
    · simp [lookupEntry, hk]
    · have hk' : ¬ key = k' := fun h => hk h.symm
      simpa [lookupEntry, hk, hk'] using ih

/-- Where no key occurs twice, every entry is found under its key. -/
lemma lookupEntry_of_mem {entries : List (String × α)} (hd : (entries.map Prod.fst).Nodup)
    (h : (key, v) ∈ entries) : lookupEntry key entries = some v := by
  induction entries with
  | nil => cases h
  | cons e rest ih =>
    obtain ⟨k', v'⟩ := e
    rw [List.map_cons, List.nodup_cons] at hd
    rcases List.mem_cons.mp h with heq | hmem
    · obtain ⟨rfl, rfl⟩ := Prod.mk.inj heq
      simp [lookupEntry]
    · have hkey : key ∈ rest.map Prod.fst := List.mem_map.mpr ⟨(key, v), hmem, rfl⟩
      have hk : ¬ k' = key := fun hk => hd.1 (hk ▸ hkey)
      simpa [lookupEntry, hk] using ih hd.2 hmem

/-- No key occurs twice. -/
def Distinct (m : OrderedMap α) : Prop := m.keys.Nodup

lemma get?_eq_none_iff : m.get? key = none ↔ key ∉ m.keys := lookupEntry_eq_none_iff

lemma mem_entries_of_get? (h : m.get? key = some v) : (key, v) ∈ m.entries := mem_of_lookupEntry h

/-- Something is found exactly under the keys that occur. -/
lemma exists_get?_iff : (∃ v, m.get? key = some v) ↔ key ∈ m.keys := by
  rw [← Option.ne_none_iff_exists', ne_eq, get?_eq_none_iff, not_not]

lemma Distinct.get?_of_mem (hd : m.Distinct) (h : (key, v) ∈ m.entries) : m.get? key = some v :=
  lookupEntry_of_mem hd h

lemma isEmpty_iff : m.isEmpty = true ↔ m = empty := by
  cases m
  simp [isEmpty, empty]

/-! ### The operations -/

@[simp] lemma get?_insert_self : (m.insert key value).get? key = some value := by
  simp [get?_insert]

lemma get?_insert_of_ne (h : key ≠ k) : (m.insert key value).get? k = m.get? k := by
  simp [get?_insert, h]

/-- Insertion brings in the new entry and no other. -/
lemma mem_insert {e : String × α} (h : e ∈ (m.insert key value).entries) :
    e = (key, value) ∨ e ∈ m.entries := by
  obtain ⟨entries⟩ := m
  change e ∈ insertEntry key value entries at h
  induction entries with
  | nil => exact Or.inl (by simpa [insertEntry] using h)
  | cons e' rest ih =>
    obtain ⟨k', v'⟩ := e'
    by_cases hk : k' = key
    · rw [insertEntry, if_pos hk] at h
      rcases List.mem_cons.mp h with heq | hmem
      · exact Or.inl heq
      · exact Or.inr (List.mem_cons_of_mem _ hmem)
    · rw [insertEntry, if_neg hk] at h
      rcases List.mem_cons.mp h with heq | hmem
      · exact Or.inr (heq ▸ List.mem_cons_self)
      · exact (ih hmem).imp_right (List.mem_cons_of_mem _)

/-- Erasure brings in nothing. -/
lemma mem_erase {e : String × α} (h : e ∈ (m.erase key).entries) : e ∈ m.entries :=
  (List.mem_filter.mp h).1

lemma distinct_empty : (empty : OrderedMap α).Distinct := List.nodup_nil

/-- Insertion repeats no key. -/
lemma Distinct.insert (hd : m.Distinct) (key : String) (value : α) :
    (m.insert key value).Distinct := by
  unfold Distinct
  rw [keys_insert]
  split
  · exact hd
  · rename_i hk
    exact List.nodup_append.mpr ⟨hd, List.nodup_singleton key, fun a ha b hb hab =>
      hk (List.mem_singleton.mp hb ▸ hab ▸ ha)⟩

/-- Erasure repeats no key. -/
lemma Distinct.erase (hd : m.Distinct) (key : String) : (m.erase key).Distinct := by
  unfold Distinct
  rw [keys_erase]
  exact hd.filter _

/-- The second of two insertions under one key is the one that counts. -/
@[simp] lemma insert_insert (m : OrderedMap α) (key : String) (value v : α) :
    (m.insert key value).insert key v = m.insert key v := by
  obtain ⟨entries⟩ := m
  change mk (insertEntry key v (insertEntry key value entries)) = mk (insertEntry key v entries)
  congr 1
  induction entries with
  | nil => simp [insertEntry]
  | cons e rest ih =>
    obtain ⟨k', v'⟩ := e
    by_cases hk : k' = key
    · simp [insertEntry, hk]
    · simp [insertEntry, hk, ih]

/-- Inserting what is found under a key changes nothing. -/
lemma insert_of_get? (h : m.get? key = some value) : m.insert key value = m := by
  obtain ⟨entries⟩ := m
  change mk (insertEntry key value entries) = mk entries
  change lookupEntry key entries = some value at h
  congr 1
  induction entries with
  | nil => cases h
  | cons e rest ih =>
    obtain ⟨k', v'⟩ := e
    by_cases hk : k' = key
    · obtain rfl : v' = value := by simpa [lookupEntry, hk] using h
      rw [insertEntry, if_pos hk, hk]
    · rw [insertEntry, if_neg hk, ih (by simpa [lookupEntry, hk] using h)]

/-- Insertions under different keys can change places if one of the keys was there before. -/
lemma insert_comm (hne : key ≠ k) (h : key ∈ m.keys) (value v : α) :
    (m.insert key value).insert k v = (m.insert k v).insert key value := by
  obtain ⟨entries⟩ := m
  change mk (insertEntry k v (insertEntry key value entries)) =
    mk (insertEntry key value (insertEntry k v entries))
  change key ∈ entries.map Prod.fst at h
  congr 1
  induction entries with
  | nil => cases h
  | cons e rest ih =>
    obtain ⟨k', v'⟩ := e
    by_cases hkey : k' = key
    · subst hkey
      simp [insertEntry, hne]
    · have hrest : key ∈ rest.map Prod.fst :=
        (List.mem_cons.mp h).resolve_left fun heq => hkey heq.symm
      by_cases hk : k' = k
      · simp [insertEntry, hk, hne.symm]
      · simp [insertEntry, hkey, hk, ih hrest]

/-- Erasing a key that does not occur changes nothing. -/
lemma erase_of_notMem (h : key ∉ m.keys) : m.erase key = m := by
  refine congrArg mk (List.filter_eq_self.mpr fun e he => ?_)
  have hne : e.1 ≠ key := fun heq => h (heq ▸ List.mem_map_of_mem he)
  simpa using hne

/-- Erasing a key twice is erasing it once. -/
@[simp] lemma erase_erase : (m.erase key).erase key = m.erase key := by
  simp [erase]

lemma erase_comm : (m.erase key).erase k = (m.erase k).erase key := by
  simp only [erase, List.filter_filter, Bool.and_comm]

/-- Erasing what was just inserted leaves nothing of the insertion. -/
@[simp] lemma erase_insert_self : (m.insert key value).erase key = m.erase key := by
  obtain ⟨entries⟩ := m
  change mk ((insertEntry key value entries).filter fun e => e.1 ≠ key) =
    mk (entries.filter fun e => e.1 ≠ key)
  congr 1
  induction entries with
  | nil => simp [insertEntry]
  | cons e rest ih =>
    obtain ⟨k', v'⟩ := e
    by_cases hk : k' = key
    · simp [insertEntry, hk]
    · simpa [insertEntry, hk] using ih

/-- An insertion and an erasure under different keys can change places. -/
lemma erase_insert_of_ne (h : key ≠ k) :
    (m.insert key value).erase k = (m.erase k).insert key value := by
  obtain ⟨entries⟩ := m
  change mk ((insertEntry key value entries).filter fun e => e.1 ≠ k) =
    mk (insertEntry key value (entries.filter fun e => e.1 ≠ k))
  congr 1
  induction entries with
  | nil => simp [insertEntry, h]
  | cons e rest ih =>
    obtain ⟨k', v'⟩ := e
    by_cases hkey : k' = key
    · simp [insertEntry, hkey, h]
    · by_cases hk : k' = k
      · subst hk
        simpa [insertEntry, hkey] using ih
      · simpa [insertEntry, hkey, hk] using ih

/-! ### Inserting lists of entries -/

/-- Under a key that does not occur, insertion appends. -/
lemma entries_insert_of_notMem (h : key ∉ m.keys) :
    (m.insert key value).entries = m.entries ++ [(key, value)] := by
  obtain ⟨entries⟩ := m
  change insertEntry key value entries = entries ++ [(key, value)]
  change key ∉ entries.map Prod.fst at h
  induction entries with
  | nil => rfl
  | cons e rest ih =>
    obtain ⟨k', v'⟩ := e
    rw [List.map_cons, List.mem_cons, not_or] at h
    rw [insertEntry, if_neg fun hk => h.1 hk.symm, ih h.2, List.cons_append]

lemma insertAll_cons (m : OrderedMap α) (e : String × α) (entries : List (String × α)) :
    m.insertAll (e :: entries) = (m.insert e.1 e.2).insertAll entries := rfl

/-- Inserting a list of entries repeats no key. -/
lemma Distinct.insertAll (hd : m.Distinct) (entries : List (String × α)) :
    (m.insertAll entries).Distinct := by
  induction entries generalizing m with
  | nil => exact hd
  | cons e rest ih => exact ih (hd.insert e.1 e.2)

/-- Inserting a list of entries brings in these entries and no other. -/
lemma mem_insertAll {entries : List (String × α)} {e : String × α}
    (h : e ∈ (m.insertAll entries).entries) : e ∈ entries ∨ e ∈ m.entries := by
  induction entries generalizing m with
  | nil => exact Or.inr h
  | cons e' rest ih =>
    rcases ih h with hrest | hm
    · exact Or.inl (List.mem_cons_of_mem _ hrest)
    · rcases mem_insert hm with heq | hold
      · exact Or.inl (heq ▸ List.mem_cons_self)
      · exact Or.inr hold

/-- New and distinct keys are appended in order. -/
lemma entries_insertAll_of_nodup {entries : List (String × α)}
    (h : (m.keys ++ entries.map Prod.fst).Nodup) :
    (m.insertAll entries).entries = m.entries ++ entries := by
  induction entries generalizing m with
  | nil => exact (List.append_nil _).symm
  | cons e rest ih =>
    obtain ⟨k', v'⟩ := e
    have hk : k' ∉ m.keys := fun hmem =>
      (List.nodup_append.mp h).2.2 k' hmem k' (by simp) rfl
    have hkeys : (m.insert k' v').keys = m.keys ++ [k'] := by rw [keys_insert, if_neg hk]
    rw [insertAll_cons, ih (by simpa [hkeys] using h), entries_insert_of_notMem hk]
    simp

/-- A list of entries with distinct keys is a map as it stands. -/
lemma ofList_of_nodup {entries : List (String × α)} (h : (entries.map Prod.fst).Nodup) :
    ofList entries = ⟨entries⟩ := by
  have hentries : (empty.insertAll entries).entries = entries :=
    entries_insertAll_of_nodup (by simpa using h)
  exact congrArg mk hentries

/-- A map with distinct keys is rebuilt from its entries. -/
lemma Distinct.ofList_entries (hd : m.Distinct) : ofList m.entries = m := ofList_of_nodup hd

/-- Inserting a list of entries drops no key. -/
lemma mem_keys_insertAll (entries : List (String × α)) (h : key ∈ m.keys) :
    key ∈ (m.insertAll entries).keys := by
  induction entries generalizing m with
  | nil => exact h
  | cons e rest ih =>
    refine ih ?_
    rw [keys_insert]
    split
    · exact h
    · exact List.mem_append_left _ h

/-- Inserting at least one entry leaves something behind. -/
lemma insertAll_ne_empty {entries : List (String × α)} (h : entries ≠ []) :
    m.insertAll entries ≠ empty := by
  cases entries with
  | nil => exact absurd rfl h
  | cons e rest =>
    have hmem : e.1 ∈ (m.insertAll (e :: rest)).keys :=
      mem_keys_insertAll rest (by rw [keys_insert]; split <;> simp [*])
    intro hempty
    rw [hempty] at hmem
    exact List.not_mem_nil hmem

/-! ### Entries that repeat keys -/

/-- The value of the last entry that has the key. -/
def lastValue (key : String) (entries : List (String × α)) : Option α :=
  ((entries.filter fun e => e.1 = key).getLast?).map Prod.snd

/-- The last value of a key is the value of an entry with this key. -/
lemma mem_of_lastValue {entries : List (String × α)} (h : lastValue key entries = some v) :
    (key, v) ∈ entries := by
  obtain ⟨e, hlast, rfl⟩ := Option.map_eq_some_iff.mp h
  obtain ⟨hmem, hkey⟩ := List.mem_filter.mp (List.mem_of_getLast? hlast)
  obtain rfl : e.1 = key := by simpa using hkey
  exact hmem

/-- One more entry has the last value of its key and of no other. -/
lemma lastValue_concat (key : String) (entries : List (String × α)) (e : String × α) :
    lastValue key (entries ++ [e]) = if e.1 = key then some e.2 else lastValue key entries := by
  unfold lastValue
  rw [List.filter_append]
  by_cases h : e.1 = key
  · simp [h]
  · simp [h]

lemma insertAll_concat (m : OrderedMap α) (entries : List (String × α)) (e : String × α) :
    m.insertAll (entries ++ [e]) = (m.insertAll entries).insert e.1 e.2 := List.foldl_concat ..

lemma ofList_concat (entries : List (String × α)) (e : String × α) :
    ofList (entries ++ [e]) = (ofList entries).insert e.1 e.2 := insertAll_concat ..

/-- Under each key stands the value that was inserted last, or the old one if none was. -/
lemma get?_insertAll (m : OrderedMap α) (entries : List (String × α)) (key : String) :
    (m.insertAll entries).get? key = (lastValue key entries).or (m.get? key) := by
  induction entries using List.reverseRecOn with
  | nil => rfl
  | append_singleton entries e ih =>
    rw [insertAll_concat, get?_insert, lastValue_concat, ih]
    split <;> rfl

lemma get?_ofList (key : String) (entries : List (String × α)) :
    (ofList entries).get? key = lastValue key entries := by
  rw [ofList, get?_insertAll, get?_empty, Option.or_none]

/-- The keys that occur are those that have a last value. -/
lemma exists_lastValue_iff {entries : List (String × α)} :
    (∃ v, lastValue key entries = some v) ↔ key ∈ entries.map Prod.fst := by
  constructor
  · rintro ⟨v, hlast⟩
    exact List.mem_map_of_mem (mem_of_lastValue hlast)
  · intro hkey
    obtain ⟨e, he, hname⟩ := List.mem_map.mp hkey
    have hne : (entries.filter fun e => e.1 = key) ≠ [] :=
      List.ne_nil_of_mem (List.mem_filter.mpr ⟨he, by simpa using hname⟩)
    exact ⟨_, by rw [lastValue, List.getLast?_eq_some_getLast hne, Option.map_some]⟩

/-- If the values of a list are changed one by one, so are the last ones. -/
lemma lastValue_map {β : Type u} (f : α → β) (entries : List (String × α)) :
    lastValue key (entries.map fun e => (e.1, f e.2)) = (lastValue key entries).map f := by
  induction entries using List.reverseRecOn with
  | nil => rfl
  | append_singleton entries e ih =>
    rw [List.map_append, List.map_singleton, lastValue_concat, lastValue_concat, ih]
    split <;> rfl

/-- One more name is new or a repetition. -/
lemma eraseDups_concat (names : List String) (name : String) :
    (names ++ [name]).eraseDups =
      if name ∈ names then names.eraseDups else names.eraseDups ++ [name] := by
  rw [List.eraseDups_append]
  by_cases h : name ∈ names
  · simp [List.removeAll, h]
  · simp [List.removeAll, h, List.eraseDups_cons]

/-- The old keys stay where they are, and the new ones stand behind them in the order in which they
were first inserted. -/
lemma keys_insertAll (m : OrderedMap α) (entries : List (String × α)) :
    (m.insertAll entries).keys =
      m.keys ++ (entries.map Prod.fst).eraseDups.filter fun k => k ∉ m.keys := by
  induction entries using List.reverseRecOn with
  | nil => exact (List.append_nil _).symm
  | append_singleton entries e ih =>
    rw [insertAll_concat, keys_insert, ih, List.map_append, List.map_singleton, eraseDups_concat]
    by_cases hold : e.1 ∈ m.keys
    · by_cases hnew : e.1 ∈ entries.map Prod.fst
      · rw [if_pos (List.mem_append_left _ hold), if_pos hnew]
      · rw [if_pos (List.mem_append_left _ hold), if_neg hnew]
        simp [hold]
    · by_cases hnew : e.1 ∈ entries.map Prod.fst
      · have hmem : e.1 ∈ (entries.map Prod.fst).eraseDups.filter fun k => k ∉ m.keys := by
          simp [hold, List.mem_eraseDups.mpr hnew]
        rw [if_pos (List.mem_append_right _ hmem), if_pos hnew]
      · have hnot :
            e.1 ∉ m.keys ++ (entries.map Prod.fst).eraseDups.filter fun k => k ∉ m.keys := by
          rw [List.mem_append, List.mem_filter, List.mem_eraseDups]
          exact fun h => h.elim hold fun h => hnew h.1
        rw [if_neg hnot, if_neg hnew, List.filter_append, List.append_assoc]
        simp [hold]

/-- The keys stand in the order in which they were first inserted. -/
lemma keys_ofList (entries : List (String × α)) :
    (ofList entries).keys = (entries.map Prod.fst).eraseDups := by
  rw [ofList, keys_insertAll]
  simp

lemma nodup_eraseDups (names : List String) : names.eraseDups.Nodup := by
  have hkeys : (ofList (names.map fun name => (name, ()))).keys = names.eraseDups := by
    simp [keys_ofList, Function.comp_def]
  rw [← hkeys]
  exact distinct_empty.insertAll _

/-- Keys that stand in order of first occurrence are not repeated. -/
lemma distinct_of_keys_eq {names : List String} (h : m.keys = names.eraseDups) : m.Distinct := by
  unfold Distinct
  rw [h]
  exact nodup_eraseDups names

/-! ### Changing the values -/

/-- Applies `f` to every value, together with its key. -/
def mapKeyed {β : Type u} (f : String → α → β) (m : OrderedMap α) : OrderedMap β :=
  ⟨m.entries.map fun e => (e.1, f e.1 e.2)⟩

@[simp] lemma keys_mapKeyed {β : Type u} (f : String → α → β) (m : OrderedMap α) :
    (m.mapKeyed f).keys = m.keys := by
  simp [mapKeyed, keys]

lemma get?_mapKeyed {β : Type u} (f : String → α → β) (m : OrderedMap α) (key : String) :
    (m.mapKeyed f).get? key = (m.get? key).map (f key) := by
  obtain ⟨entries⟩ := m
  change lookupEntry key (entries.map fun e => (e.1, f e.1 e.2)) =
    (lookupEntry key entries).map (f key)
  induction entries with
  | nil => rfl
  | cons e rest ih =>
    obtain ⟨k', v'⟩ := e
    by_cases hk : k' = key
    · simp [lookupEntry, hk]
    · simpa [lookupEntry, hk] using ih

lemma mapKeyed_congr {β : Type u} {f g : String → α → β}
    (h : ∀ e ∈ m.entries, f e.1 e.2 = g e.1 e.2) : m.mapKeyed f = m.mapKeyed g :=
  congrArg mk (List.map_congr_left fun e he => by rw [h e he])

/-- Where no value changes, the map stays as it is. -/
lemma mapKeyed_eq_self {f : String → α → α} (h : ∀ e ∈ m.entries, f e.1 e.2 = e.2) :
    m.mapKeyed f = m := by
  have hentries : m.entries.map (fun e => (e.1, f e.1 e.2)) = m.entries.map id :=
    List.map_congr_left fun e he => by rw [h e he, id]
  exact congrArg mk (hentries.trans (List.map_id _))

lemma Distinct.mapKeyed {β : Type u} (hd : m.Distinct) (f : String → α → β) :
    (m.mapKeyed f).Distinct := by
  unfold Distinct
  rw [keys_mapKeyed]
  exact hd

lemma mapKeyed_eq_empty_iff {β : Type u} {f : String → α → β} :
    m.mapKeyed f = empty ↔ m = empty := by
  obtain ⟨entries⟩ := m
  simp [OrderedMap.mapKeyed, empty]

/-! ### Maps with the same keys and values -/

/-- The entries of a map are its keys with what is found under them. -/
lemma Distinct.entries_eq (hd : m.Distinct) :
    m.entries = m.keys.filterMap fun key => (m.get? key).map (Prod.mk key) := by
  have hfound : ∀ e ∈ m.entries, (m.get? e.1).map (Prod.mk e.1) = some e := by
    intro e he
    rw [hd.get?_of_mem he, Option.map_some]
  rw [keys, List.filterMap_map]
  exact ((List.filterMap_congr hfound).trans List.filterMap_some).symm

/-- Two maps without repeated keys are equal if they have the same keys in the same order and the
same values. -/
lemma Distinct.ext {m' : OrderedMap α} (hd : m.Distinct) (hd' : m'.Distinct)
    (hkeys : m.keys = m'.keys) (hvalues : ∀ key ∈ m.keys, m.get? key = m'.get? key) : m = m' := by
  have hentries : m.entries = m'.entries := by
    rw [hd.entries_eq, hd'.entries_eq, ← hkeys]
    exact List.filterMap_congr fun key hkey => by rw [hvalues key hkey]
  exact congrArg mk hentries

/-! ### Extension -/

section Extend

variable {a b c : OrderedMap α}

/-- The value that an entry has in a map without repeated keys is the last one of its key. -/
lemma Distinct.lastValue_entries (hd : m.Distinct) (key : String) :
    lastValue key m.entries = m.get? key := by
  rw [← get?_ofList, hd.ofList_entries]

lemma Distinct.eraseDups_keys (hd : m.Distinct) : m.keys.eraseDups = m.keys := by
  have hkeys := keys_ofList m.entries
  rw [hd.ofList_entries] at hkeys
  exact hkeys.symm

lemma Distinct.extend (ha : a.Distinct) (b : OrderedMap α) : (a.extend b).Distinct :=
  ha.insertAll b.entries

/-- The keys of the first map stay where they are, and those that only the second one has follow. -/
lemma keys_extend (a : OrderedMap α) (hb : b.Distinct) :
    (a.extend b).keys = a.keys ++ b.keys.filter fun k => k ∉ a.keys := by
  rw [OrderedMap.extend, keys_insertAll, ← keys, hb.eraseDups_keys]

/-- The second map decides about the keys that it has. -/
lemma get?_extend (a : OrderedMap α) (hb : b.Distinct) (key : String) :
    (a.extend b).get? key = (b.get? key).or (a.get? key) := by
  rw [OrderedMap.extend, get?_insertAll, hb.lastValue_entries]

lemma empty_extend (ha : a.Distinct) : empty.extend a = a := ha.ofList_entries

lemma extend_assoc (ha : a.Distinct) (hb : b.Distinct) (hc : c.Distinct) :
    (a.extend b).extend c = a.extend (b.extend c) := by
  have hbc : (b.extend c).Distinct := hb.extend c
  refine ((ha.extend b).extend c).ext (ha.extend _) ?_ fun key _ => ?_
  · -- a key of `c` is new to both if it is new to `b` and then new to `a`
    have hnew : (fun k => decide (k ∉ a.keys ++ b.keys.filter fun k => k ∉ a.keys)) =
        fun k => decide (k ∉ a.keys) && decide (k ∉ b.keys) := by
      funext k
      by_cases h : k ∈ a.keys <;> simp [h]
    rw [keys_extend _ hc, keys_extend a hb, keys_extend a hbc, keys_extend b hc, List.filter_append,
      List.filter_filter, hnew, List.append_assoc]
  · rw [get?_extend _ hc, get?_extend a hb, get?_extend a hbc, get?_extend b hc, Option.or_assoc]

/-- A map that is extended by itself stays as it is. -/
lemma extend_self (ha : a.Distinct) : a.extend a = a := by
  refine (ha.extend a).ext ha ?_ fun key _ => ?_
  · have hnone : (a.keys.filter fun k => k ∉ a.keys) = [] := by simp
    rw [keys_extend a ha, hnone, List.append_nil]
  · rw [get?_extend a ha, Option.or_self]

/-- If the maps share no key, the entries of the second one follow those of the first one. -/
lemma entries_extend_of_disjoint (ha : a.Distinct) (hb : b.Distinct)
    (h : ∀ key ∈ a.keys, key ∉ b.keys) : (a.extend b).entries = a.entries ++ b.entries := by
  refine entries_insertAll_of_nodup (List.nodup_append.mpr ⟨ha, hb, ?_⟩)
  rintro key hkey _ hkey' rfl
  exact h key hkey hkey'

end Extend

/-! ### Changes of one key -/

/-- Insertion under a key that occurs changes the value where it stands. -/
lemma Distinct.insert_eq_mapKeyed (hd : m.Distinct) (h : key ∈ m.keys) (value : α) :
    m.insert key value = m.mapKeyed fun k old => if k = key then value else old := by
  refine (hd.insert key value).ext (hd.mapKeyed _) ?_ fun k _ => ?_
  · rw [keys_insert, if_pos h, keys_mapKeyed]
  · rw [get?_insert, get?_mapKeyed]
    by_cases hk : key = k
    · subst hk
      obtain ⟨old, hold⟩ := exists_get?_iff.mpr h
      simp [hold]
    · simp [hk, Ne.symm hk]

/-- If erasing a key leaves nothing of a map that is not empty, its one entry is under this key. -/
lemma Distinct.eq_singleton (hd : m.Distinct) (hne : m ≠ empty) (h : m.erase key = empty) :
    ∃ v, m = ⟨[(key, v)]⟩ := by
  obtain ⟨entries⟩ := m
  have hkeys : ∀ e ∈ entries, e.1 = key := by
    have hnone : entries.filter (fun e => e.1 ≠ key) = [] := congrArg OrderedMap.entries h
    simpa using List.filter_eq_nil_iff.mp hnone
  match entries, hd, hkeys with
  | [], _, _ => exact absurd rfl hne
  | [(k, v)], _, hkeys =>
    obtain rfl : k = key := hkeys _ List.mem_cons_self
    exact ⟨v, rfl⟩
  | (k, v) :: (k', v') :: rest, hd, hkeys =>
    have hk : k = key := hkeys (k, v) (by simp)
    have hk' : k' = key := hkeys (k', v') (by simp)
    simp [Distinct, keys, hk, hk'] at hd

end OrderedMap

end Restyle
