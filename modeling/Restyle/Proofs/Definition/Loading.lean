import Restyle.Proofs.Definition.Formats
import Restyle.Proofs.Definition.Tags
import Restyle.Proofs.Walk.Sites

/-!
# Definitions that are loaded

Loading goes through a document value by value and builds a definition by insertion. What comes of
it can be said without insertions and for both formats at once. A `Reading` says which values have
members, under which keys, and what value any other one is; `Reading.Gives` is the relation between
a value and its entry. The keys of a nested definition stand in the order of their first occurrence,
and each has the entry of the last member with that key. This determines the definition
(`Definition.gives_ofJson_iff`, `Definition.gives_ofYaml_iff`). Keys that are not texts have one all
the same (`Yaml.Value.KeyText`), and it is by this text that keys are told apart.

The relation has no place for a produced value, so none stands in a loaded definition, at any depth
(`Definition.Loaded.isFixed`).
-/

namespace Restyle

variable {P : Type}

/-! ### Readings -/

/-- How the values of a document are read. -/
structure Reading (α : Type) where
  /-- The members of a value that is to be nested, with the texts of their keys. -/
  members? : α → Option (List (String × α))
  /-- The fixed value that any other value is. -/
  leaf : α → Value

namespace Reading

variable {α : Type} {r : Reading α} {v w : α} {entry entry' : Entry P}

/-- A value of a document gives an entry. -/
inductive Gives (r : Reading α) : α → Entry P → Prop
  /-- A value without members is fixed. -/
  | fixed {v : α} (h : r.members? v = none) : Gives r v (.fixed (r.leaf v))
  /-- A value with members is nested. It has one entry for each key, in order of first occurrence,
  and this is given by the last member with the key. -/
  | nested {v : α} {members : List (String × α)} {d : Definition P}
      (h : r.members? v = some members) (hkeys : d.keys = (members.map Prod.fst).eraseDups)
      (hvalues : ∀ key w entry, OrderedMap.lastValue key members = some w →
        d.get? key = some entry → Gives r w entry) :
      Gives r v (.nested d)

namespace Gives

/-- Values that are read in the same way give the same entries. -/
lemma congr (h : r.Gives v entry) (hmembers : r.members? v = r.members? w)
    (hleaf : r.leaf v = r.leaf w) : r.Gives w entry := by
  cases h with
  | fixed h =>
    rw [hleaf]
    exact .fixed (hmembers.symm.trans h)
  | nested h hkeys hvalues => exact .nested (hmembers.symm.trans h) hkeys hvalues

/-- Inserting the entries of all members one after another gives a nested definition. -/
lemma ofList {members : List (String × α)} (f : α → Entry P) (h : r.members? v = some members)
    (hf : ∀ m ∈ members, r.Gives m.2 (f m.2)) :
    r.Gives v (.nested (.ofList (members.map fun m => (m.1, f m.2)))) := by
  refine .nested h ?_ fun key w entry hlast hentry => ?_
  · rw [OrderedMap.keys_ofList, List.map_map]
    rfl
  · rw [OrderedMap.get?_ofList, OrderedMap.lastValue_map, hlast] at hentry
    obtain rfl : f w = entry := Option.some.inj hentry
    exact hf _ (OrderedMap.mem_of_lastValue hlast)

/-- What is found under a key of a nested definition is given by a value. -/
lemma of_get? {d : Definition P} (h : r.Gives v (.nested d)) {key : String}
    (hentry : d.get? key = some entry) : ∃ w, r.Gives w entry := by
  cases h with
  | @nested _ members _ hsome hkeys hvalues =>
    have hkey : key ∈ d.keys := OrderedMap.exists_get?_iff.mp ⟨entry, hentry⟩
    have hmem : key ∈ members.map Prod.fst := List.mem_eraseDups.mp (hkeys ▸ hkey)
    obtain ⟨w, hlast⟩ := OrderedMap.exists_lastValue_iff.mpr hmem
    exact ⟨w, hvalues key w entry hlast hentry⟩

lemma distinct {d : Definition P} (h : r.Gives v (.nested d)) : d.Distinct := by
  cases h with
  | nested hsome hkeys hvalues => exact OrderedMap.distinct_of_keys_eq hkeys

/-- A value gives one entry at most. -/
lemma unique (h : r.Gives v entry) (h' : r.Gives v entry') : entry = entry' := by
  induction h generalizing entry' with
  | fixed hnone =>
    cases h' with
    | fixed => rfl
    | nested hsome => cases hnone.symm.trans hsome
  | @nested v members d hsome hkeys hvalues ih =>
    have hd : d.Distinct := OrderedMap.distinct_of_keys_eq hkeys
    cases h' with
    | fixed hnone => cases hnone.symm.trans hsome
    | @nested _ members' d' hsome' hkeys' hvalues' =>
      obtain rfl : members = members' := Option.some.inj (hsome.symm.trans hsome')
      have hd' : d'.Distinct := OrderedMap.distinct_of_keys_eq hkeys'
      have hsame : d.keys = d'.keys := hkeys.trans hkeys'.symm
      refine congrArg Entry.nested (hd.ext hd' hsame fun key hkey => ?_)
      have hmem : key ∈ members.map Prod.fst := List.mem_eraseDups.mp (hkeys ▸ hkey)
      obtain ⟨w, hlast⟩ := OrderedMap.exists_lastValue_iff.mpr hmem
      obtain ⟨entry, hentry⟩ := OrderedMap.exists_get?_iff.mpr hkey
      obtain ⟨entry', hentry'⟩ := OrderedMap.exists_get?_iff.mpr (hsame ▸ hkey)
      rw [hentry, hentry', ih key w entry hlast hentry (hvalues' key w entry' hlast hentry')]

/-- Whatever stands in a nested definition, at any depth, is given by a value. -/
lemma of_holds {d : Definition P} (h : r.Gives v (.nested d)) {path : List String} {key : String}
    (hholds : d.Holds path key entry) : ∃ w, r.Gives w entry := by
  induction hholds generalizing v with
  | here he => exact h.of_get? (h.distinct.get?_of_mem he)
  | inside he _ ih =>
    obtain ⟨w, hw⟩ := h.of_get? (h.distinct.get?_of_mem he)
    exact ih hw

end Gives

end Reading

/-! ### The two formats -/

namespace Json

/-- Objects are nested, and their members have the keys that are written. -/
def reading : Reading Json where
  members?
    | .object members => some members
    | _ => none
  leaf := leaf

lemma entries_eq_map (members : List (String × Json)) :
    entries members = members.map fun m => (m.1, (m.2.entry : Entry P)) := by
  induction members with
  | nil => rfl
  | cons m rest ih => rw [entries, ih, List.map_cons]

mutual

/-- A value gives the entry that is loaded for it. -/
theorem gives_entry : (v : Json) → reading.Gives v (v.entry : Entry P)
  | .null | .bool _ | .number _ | .string _ | .array _ => .fixed rfl
  | .object members => by
    rw [entry, entries_eq_map]
    exact .ofList entry rfl (gives_entry_members members)

/-- The members of an object give the entries that are loaded for them. -/
theorem gives_entry_members : (members : List (String × Json)) →
    ∀ m ∈ members, reading.Gives m.2 (m.2.entry : Entry P)
  | [] => nofun
  | (_, v) :: rest => List.forall_mem_cons.mpr ⟨gives_entry v, gives_entry_members rest⟩

end

end Json

/-- The digits of a whole number after its sign are its usual text. -/
lemma Decimal.signed_eq_toString (n : Int) : Decimal.signed n = toString n := by
  cases n with
  | ofNat n =>
    have hsign : ¬Int.ofNat n < 0 := Int.not_lt.mpr (Int.natCast_nonneg n)
    rw [Decimal.signed, if_neg hsign]
    rfl
  | negSucc n =>
    have hsign : Int.negSucc n < 0 := Int.negSucc_lt_zero n
    have hdigits : toString (Int.negSucc n) = "-" ++ String.ofList (Decimal.digitsOf (n + 1)) := rfl
    rw [Decimal.signed, if_pos hsign, hdigits, String.ofList_append]
    rfl

namespace Yaml.Value

/-- The text of a key. Null, truth values and numbers are written out, and tags do not count. -/
inductive KeyText : Yaml.Value → String → Prop
  /-- Null. -/
  | null : KeyText .null "null"
  /-- A truth value. -/
  | bool (b : Bool) : KeyText (.bool b) (toString b)
  /-- A whole number. -/
  | whole (n : Int) : KeyText (.number (.whole n)) (toString n)
  /-- A double. -/
  | real (x : Float) : KeyText (.number (.real x)) ((Numeral.real x).text nameMarking)
  /-- A text. -/
  | string (s : String) : KeyText (.string s) s
  /-- A sequence, whatever its items. -/
  | sequence (items : List Yaml.Value) : KeyText (.sequence items) "a sequence"
  /-- A mapping, whatever its pairs. -/
  | mapping (pairs : List (Yaml.Value × Yaml.Value)) : KeyText (.mapping pairs) "a mapping"
  /-- A key with a tag. -/
  | tagged (tag : String) {key : Yaml.Value} {text : String} (h : KeyText key text) :
    KeyText (.tagged tag key) text

/-- Every key has a text, the name of the value. -/
lemma keyText_name : (key : Yaml.Value) → key.KeyText key.name
  | .null => .null
  | .bool true => .bool true
  | .bool false => .bool false
  | .number (.whole n) => by
    rw [name, Numeral.text, Decimal.signed_eq_toString]
    exact .whole n
  | .number (.real x) => .real x
  | .string s => .string s
  | .sequence items => .sequence items
  | .mapping pairs => .mapping pairs
  | .tagged tag key => .tagged tag (keyText_name key)

/-- A key has no other text. -/
lemma KeyText.unique {key : Yaml.Value} {text text' : String} (h : key.KeyText text)
    (h' : key.KeyText text') : text = text' := by
  induction h with
  | tagged tag _ ih =>
    cases h' with
    | tagged _ h' => exact ih h'
  | _ =>
    cases h'
    rfl

lemma keyText_iff {key : Yaml.Value} {text : String} : key.KeyText text ↔ text = key.name := by
  refine ⟨fun h => h.unique (keyText_name key), ?_⟩
  rintro rfl
  exact keyText_name key

/-- Mappings are nested, below any tags, and their members have the names of the keys. -/
def reading : Reading Yaml.Value where
  members? v :=
    match v.untagged with
    | .mapping pairs => some (pairs.map fun p => (p.1.name, p.2))
    | _ => none
  leaf := leaf

mutual

/-- A value gives the entry that is loaded for it. -/
theorem gives_entry : (v : Yaml.Value) → reading.Gives v (v.entry : Entry P)
  | .null | .bool _ | .number _ | .string _ | .sequence _ => .fixed rfl
  | .mapping pairs => by
    have hentries : entries pairs =
        (pairs.map fun p => (p.1.name, p.2)).map fun m => (m.1, (m.2.entry : Entry P)) := by
      rw [entries_eq_map, List.map_map]
      rfl
    rw [entry, hentries]
    exact .ofList entry rfl (List.forall_mem_map.mpr (gives_entry_pairs pairs))
  | .tagged _ inner => (gives_entry inner).congr rfl rfl

/-- The pairs of a mapping give the entries that are loaded for them. -/
theorem gives_entry_pairs : (pairs : List (Yaml.Value × Yaml.Value)) →
    ∀ p ∈ pairs, reading.Gives p.2 (p.2.entry : Entry P)
  | [] => nofun
  | (_, v) :: rest => List.forall_mem_cons.mpr ⟨gives_entry v, gives_entry_pairs rest⟩

end

end Yaml.Value

namespace Definition

/-- An object is loaded to the one definition that it gives. -/
lemma gives_ofJson_iff (members : List (String × Json)) :
    ∃ d : Definition P, ofJson (.object members) = .ok d ∧
      ∀ entry, Json.reading.Gives (.object members) entry ↔ entry = .nested d := by
  have hgives := Json.gives_entry (P := P) (.object members)
  rw [Json.entry] at hgives
  refine ⟨_, rfl, fun entry => ⟨fun h => h.unique hgives, ?_⟩⟩
  rintro rfl
  exact hgives

/-- A mapping is loaded to the one definition that it gives. -/
lemma gives_ofYaml_iff (pairs : List (Yaml.Value × Yaml.Value)) :
    ∃ d : Definition P, ofYaml (.mapping pairs) = .ok d ∧
      ∀ entry, Yaml.Value.reading.Gives (.mapping pairs) entry ↔ entry = .nested d := by
  have hgives := Yaml.Value.gives_entry (P := P) (.mapping pairs)
  rw [Yaml.Value.entry] at hgives
  refine ⟨_, rfl, fun entry => ⟨fun h => h.unique hgives, ?_⟩⟩
  rintro rfl
  exact hgives

/-! ### Definitions without produced values -/

/-- No produced value stands in the definition, at any depth, timelines included. -/
def IsFixed (d : Definition P) : Prop := ∀ path key producer, ¬d.Holds path key (.computed producer)

/-- A definition that a value of a document gives has no produced value. -/
lemma isFixed_of_gives {α : Type} {r : Reading α} {v : α} {d : Definition P}
    (h : r.Gives v (.nested d)) : d.IsFixed := by
  intro path key producer hholds
  obtain ⟨w, hw⟩ := h.of_holds hholds
  cases hw

lemma isFixed_empty : IsFixed (OrderedMap.empty : Definition P) := by
  intro path key producer hholds
  cases hholds with
  | here h => cases h
  | inside h => cases h

/-- The ways to load a definition. -/
inductive Loaded (d : Definition P) : Prop
  /-- From a JSON value. -/
  | json {v : Json} (h : ofJson v = .ok d)
  /-- From a JSON text. -/
  | jsonText {s : String} (h : ofJsonText s = .ok d)
  /-- From a YAML value. -/
  | yaml {v : Yaml.Value} (h : ofYaml v = .ok d)
  /-- From a YAML text. -/
  | yamlText {s : String} (h : ofYamlText s = .ok d)
  /-- From a file. -/
  | file {f : File} (h : ofFile f = .ok d)

section Loaded

variable {d : Definition P}

lemma isFixed_of_ofJson {v : Json} (h : ofJson v = .ok d) : d.IsFixed := by
  cases v with
  | object members =>
    cases h
    exact isFixed_of_gives (Json.gives_entry (.object members))
  | _ => cases h

lemma isFixed_of_ofJsonText {s : String} (h : ofJsonText s = .ok d) : d.IsFixed := by
  unfold ofJsonText at h
  split at h
  · exact isFixed_of_ofJson h
  · cases h

lemma isFixed_of_ofYaml {v : Yaml.Value} (h : ofYaml v = .ok d) : d.IsFixed := by
  cases v with
  | mapping pairs =>
    cases h
    exact isFixed_of_gives (Yaml.Value.gives_entry (.mapping pairs))
  | null =>
    cases h
    exact isFixed_empty
  | _ => cases h

lemma isFixed_of_ofYamlText {s : String} (h : ofYamlText s = .ok d) : d.IsFixed := by
  unfold ofYamlText at h
  split at h
  · exact isFixed_of_ofYaml h
  · cases h

/-- No produced value stands in a definition that was loaded. -/
lemma Loaded.isFixed (h : d.Loaded) : d.IsFixed := by
  cases h with
  | json h => exact isFixed_of_ofJson h
  | jsonText h => exact isFixed_of_ofJsonText h
  | yaml h => exact isFixed_of_ofYaml h
  | yamlText h => exact isFixed_of_ofYamlText h
  | file h =>
    unfold ofFile at h
    split at h
    · cases h
    · split at h
      · exact isFixed_of_ofJsonText h
      · exact isFixed_of_ofYamlText h
      · cases h

end Loaded

end Definition

end Restyle
