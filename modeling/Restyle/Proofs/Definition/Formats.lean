import Mathlib.Tactic.Lemma
import Restyle.Definition.Document
import Restyle.Proofs.OrderedMap

/-!
# One definition document in two formats

`Json.toYaml` carries a JSON value over: objects become mappings whose keys are texts, arrays become
sequences, and all else stays. Names, nested definitions and leaves are read from the two values in
the same way, except for an object among the items of an array, which is a leaf. One format writes
it out, in braces, and the other only says that it is a mapping.

The text of such an item is a part of the text of every array around it, so there the two texts part
ways for good: they go on differently after a common beginning (`PartWays`). Thus two definitions
are equal exactly if no array has an object among its items (`Definition.ofYaml_toYaml`).
-/

namespace Restyle

variable {P : Type}

/-! ### Texts that part ways -/

/-- After a common beginning the first text goes on with a brace and the second one with a letter.
-/
def PartWays (s t : String) : Prop :=
  ∃ start s' t', s = start ++ ("\x7b" ++ s') ∧ t = start ++ ("a" ++ t')

/-- The first of the texts that are joined is the beginning of the joined text. -/
lemma exists_intercalate_cons (s : String) (rest : List String) :
    ∃ u, ",".intercalate (s :: rest) = s ++ u := by
  cases rest with
  | nil => exact ⟨"", by simp⟩
  | cons s' rest => exact ⟨"," ++ ",".intercalate (s' :: rest), by simp [String.append_assoc]⟩

namespace PartWays

variable {s t : String}

lemma ne (h : PartWays s t) : s ≠ t := by
  obtain ⟨start, s', t', rfl, rfl⟩ := h
  intro heq
  have hchars := congrArg String.toList heq
  simp at hchars

/-- What comes before does not matter. -/
lemma append_left (h : PartWays s t) (u : String) : PartWays (u ++ s) (u ++ t) := by
  obtain ⟨start, s', t', rfl, rfl⟩ := h
  exact ⟨u ++ start, s', t', String.append_assoc.symm, String.append_assoc.symm⟩

/-- What follows does not matter. -/
lemma append_right (h : PartWays s t) (u u' : String) : PartWays (s ++ u) (t ++ u') := by
  obtain ⟨start, s', t', rfl, rfl⟩ := h
  exact ⟨start, s' ++ u, t' ++ u', by simp only [String.append_assoc],
    by simp only [String.append_assoc]⟩

/-- If the first items part ways, so do the joined items. -/
lemma intercalate_of_head (h : PartWays s t) (rest rest' : List String) :
    PartWays (",".intercalate (s :: rest)) (",".intercalate (t :: rest')) := by
  obtain ⟨u, hu⟩ := exists_intercalate_cons s rest
  obtain ⟨u', hu'⟩ := exists_intercalate_cons t rest'
  rw [hu, hu']
  exact h.append_right u u'

/-- The empty text parts ways with no other. -/
lemma ne_nil {texts texts' : List String}
    (h : PartWays (",".intercalate texts) (",".intercalate texts')) :
    texts ≠ [] ∧ texts' ≠ [] := by
  obtain ⟨start, s', t', hs, ht⟩ := h
  constructor
  · rintro rfl
    have hchars := congrArg String.toList hs
    simp at hchars
  · rintro rfl
    have hchars := congrArg String.toList ht
    simp at hchars

/-- If the joined items after an equal first item part ways, so do all the joined items. -/
lemma intercalate_of_tail {rest rest' : List String}
    (h : PartWays (",".intercalate rest) (",".intercalate rest')) (s : String) :
    PartWays (",".intercalate (s :: rest)) (",".intercalate (s :: rest')) := by
  rw [String.intercalate_cons_of_ne_nil h.ne_nil.1, String.intercalate_cons_of_ne_nil h.ne_nil.2]
  exact h.append_left (s ++ ",")

end PartWays

namespace Json

/-! ### Values carried over -/

mutual

/-- The YAML value of the same structure. -/
def toYaml : Json → Yaml.Value
  | .null => .null
  | .bool b => .bool b
  | .number n => .number n
  | .string s => .string s
  | .array items => .sequence (itemsToYaml items)
  | .object members => .mapping (membersToYaml members)

/-- The items of the sequence for an array. -/
def itemsToYaml : List Json → List Yaml.Value
  | [] => []
  | v :: rest => v.toYaml :: itemsToYaml rest

/-- The pairs of the mapping for an object. -/
def membersToYaml : List (String × Json) → List (Yaml.Value × Yaml.Value)
  | [] => []
  | (name, v) :: rest => (.string name, v.toYaml) :: membersToYaml rest

end

/-! ### Values that stand in a value -/

/-- The first value is the second one or stands somewhere in it. -/
inductive Part (w : Json) : Json → Prop
  /-- The value itself. -/
  | self : Part w w
  /-- A part of an item of an array. -/
  | item {items : List Json} {v : Json} (hv : v ∈ items) (h : Part w v) : Part w (.array items)
  /-- A part of a member of an object. -/
  | member {members : List (String × Json)} {name : String} {v : Json}
      (hv : (name, v) ∈ members) (h : Part w v) : Part w (.object members)

/-- In no object of the value a name is repeated. -/
def DistinctNames (v : Json) : Prop :=
  ∀ members, Part (.object members) v → (members.map Prod.fst).Nodup

/-- No array of the value has an object among its items. -/
def Plain (v : Json) : Prop :=
  ∀ items, Part (.array items) v → ∀ members, .object members ∉ items

/-- The value is no object, and no array of it has an object among its items. -/
def PlainItem (v : Json) : Prop := v.Plain ∧ ∀ members, v ≠ .object members

lemma distinctNames_object_iff {members : List (String × Json)} :
    (object members).DistinctNames ↔
      (members.map Prod.fst).Nodup ∧ ∀ m ∈ members, m.2.DistinctNames := by
  constructor
  · intro h
    exact ⟨h members .self, fun m hm inner hpart => h inner (.member hm hpart)⟩
  · rintro ⟨hnodup, hmembers⟩ inner hpart
    cases hpart with
    | self => exact hnodup
    | member hv hpart => exact hmembers _ hv inner hpart

lemma distinctNames_array_iff {items : List Json} :
    (array items).DistinctNames ↔ ∀ v ∈ items, v.DistinctNames := by
  constructor
  · intro h v hv inner hpart
    exact h inner (.item hv hpart)
  · intro h inner hpart
    cases hpart with
    | item hv hpart => exact h _ hv inner hpart

lemma plain_array_iff {items : List Json} : (array items).Plain ↔ ∀ v ∈ items, v.PlainItem := by
  constructor
  · intro h v hv
    refine ⟨fun inner hpart => h inner (.item hv hpart), ?_⟩
    rintro members rfl
    exact h items .self members hv
  · intro h inner hpart members hmem
    cases hpart with
    | self => exact (h _ hmem).2 members rfl
    | item hv hpart => exact (h _ hv).1 inner hpart members hmem

lemma plain_object_iff {members : List (String × Json)} :
    (object members).Plain ↔ ∀ m ∈ members, m.2.Plain := by
  constructor
  · intro h m hm inner hpart
    exact h inner (.member hm hpart)
  · intro h inner hpart
    cases hpart with
    | member hv hpart => exact h _ hv inner hpart

/-- A value without items and members is plain. -/
lemma plain_of_scalar {v : Json} (harray : ∀ items, v ≠ .array items)
    (hobject : ∀ members, v ≠ .object members) : v.Plain := by
  intro items hpart
  cases hpart with
  | self => exact absurd rfl (harray items)
  | item => exact absurd rfl (harray _)
  | member => exact absurd rfl (hobject _)

/-! ### Leaves -/

/-- The text of an object begins with a brace. -/
lemma partWays_text_object (members : List (String × Json)) :
    PartWays (object members).text "a mapping" := by
  refine ⟨"", ",".intercalate (memberTexts members) ++ "\x7d", " mapping", ?_, rfl⟩
  rw [text, String.empty_append, String.append_assoc]

mutual

/-- A plain item keeps its value when it is carried over, and the text of any other item parts ways
with the old one. -/
theorem leaf_toYaml_cases : (v : Json) →
    (v.PlainItem ∧ v.toYaml.leaf = v.leaf) ∨
      (¬ v.PlainItem ∧ PartWays v.leaf.written v.toYaml.leaf.written)
  | .null | .bool _ | .number _ | .string _ =>
    Or.inl ⟨⟨plain_of_scalar nofun nofun, nofun⟩, rfl⟩
  | .array items => by
    have hiff : (array items).PlainItem ↔ ∀ v ∈ items, v.PlainItem :=
      (and_iff_left nofun).trans plain_array_iff
    rw [hiff, toYaml, leaf, Yaml.Value.leaf]
    rcases leafTexts_itemsToYaml_cases items with ⟨hplain, heq⟩ | ⟨hnot, hpart⟩
    · exact Or.inl ⟨hplain, by rw [heq]⟩
    · exact Or.inr ⟨hnot, hpart⟩
  | .object members => Or.inr ⟨fun h => h.2 members rfl, partWays_text_object members⟩

/-- The texts of plain items stay when they are carried over, and if an item is not plain, the
joined texts part ways with the old ones. -/
theorem leafTexts_itemsToYaml_cases : (items : List Json) →
    ((∀ v ∈ items, v.PlainItem) ∧ Yaml.Value.leafTexts (itemsToYaml items) = leafTexts items) ∨
      (¬ (∀ v ∈ items, v.PlainItem) ∧ PartWays (",".intercalate (leafTexts items))
        (",".intercalate (Yaml.Value.leafTexts (itemsToYaml items))))
  | [] => Or.inl ⟨nofun, rfl⟩
  | v :: rest => by
    rw [itemsToYaml, leafTexts, Yaml.Value.leafTexts, List.forall_mem_cons]
    rcases leaf_toYaml_cases v with ⟨hv, hleaf⟩ | ⟨hv, hpart⟩
    · rcases leafTexts_itemsToYaml_cases rest with ⟨hrest, htexts⟩ | ⟨hrest, hpart⟩
      · exact Or.inl ⟨⟨hv, hrest⟩, by rw [hleaf, htexts]⟩
      · refine Or.inr ⟨fun h => hrest h.2, ?_⟩
        rw [hleaf]
        exact hpart.intercalate_of_tail _
    · exact Or.inr ⟨fun h => hv h.1, hpart.intercalate_of_head _ _⟩

end

/-- The plain items are those that keep their values when they are carried over. -/
lemma leaf_toYaml_iff (v : Json) : v.leaf = v.toYaml.leaf ↔ v.PlainItem := by
  rcases leaf_toYaml_cases v with ⟨hplain, heq⟩ | ⟨hnot, hpart⟩
  · exact iff_of_true heq.symm hplain
  · exact iff_of_false (fun heq => hpart.ne (congrArg Value.written heq)) hnot

/-! ### Entries -/

/-- The entries for the members of an object stand under their names. -/
lemma map_fst_entries (members : List (String × Json)) :
    (entries members : List (String × Entry P)).map Prod.fst = members.map Prod.fst := by
  induction members with
  | nil => rfl
  | cons m rest ih => rw [entries, List.map_cons, List.map_cons, ih]

/-- The entries stand under the same names when the members are carried over. -/
lemma map_fst_entries_membersToYaml (members : List (String × Json)) :
    (Yaml.Value.entries (membersToYaml members) : List (String × Entry P)).map Prod.fst =
      members.map Prod.fst := by
  induction members with
  | nil => rfl
  | cons m rest ih =>
    rw [membersToYaml, Yaml.Value.entries, List.map_cons, List.map_cons, ih, Yaml.Value.name]

/-- Objects with distinct names are equal definitions exactly if they have equal entries. -/
lemma ofList_entries_inj {members : List (String × Json)}
    (h : (members.map Prod.fst).Nodup) :
    (OrderedMap.ofList (entries members) : Definition P) =
        OrderedMap.ofList (Yaml.Value.entries (membersToYaml members)) ↔
      (entries members : List (String × Entry P)) =
        Yaml.Value.entries (membersToYaml members) := by
  rw [OrderedMap.ofList_of_nodup (by rwa [map_fst_entries]),
    OrderedMap.ofList_of_nodup (by rwa [map_fst_entries_membersToYaml]), OrderedMap.mk.injEq]

mutual

/-- The values that keep their entries when they are carried over are the plain ones. -/
theorem entry_toYaml_iff : (v : Json) → v.DistinctNames →
    ((v.entry : Entry P) = v.toYaml.entry ↔ v.Plain)
  | .null, _ | .bool _, _ | .number _, _ | .string _, _ =>
    iff_of_true rfl (plain_of_scalar nofun nofun)
  | .array items, _ => by
    have hleaf : (array items).leaf = (array items).toYaml.leaf ↔ (array items).Plain :=
      (leaf_toYaml_iff _).trans (and_iff_left nofun)
    rw [← hleaf, entry, toYaml, Yaml.Value.entry, Entry.fixed.injEq]
    exact nofun
  | .object members, h => by
    obtain ⟨hnodup, hmembers⟩ := distinctNames_object_iff.mp h
    rw [plain_object_iff, ← entries_toYaml_iff members hmembers, entry, toYaml, Yaml.Value.entry,
      Entry.nested.injEq, ofList_entries_inj hnodup]

/-- The members that keep their entries when they are carried over are the plain ones. -/
theorem entries_toYaml_iff : (members : List (String × Json)) →
    (∀ m ∈ members, m.2.DistinctNames) →
    ((entries members : List (String × Entry P)) = Yaml.Value.entries (membersToYaml members) ↔
      ∀ m ∈ members, m.2.Plain)
  | [], _ => iff_of_true rfl nofun
  | (name, v) :: rest, h => by
    obtain ⟨hv, hrest⟩ := List.forall_mem_cons.mp h
    rw [List.forall_mem_cons, ← entry_toYaml_iff v hv, ← entries_toYaml_iff rest hrest, entries,
      membersToYaml, Yaml.Value.entries, Yaml.Value.name, List.cons.injEq, Prod.mk.injEq]
    simp

end

end Json

namespace Definition

/-- An object without repeated names is a definition, and so is the mapping that it becomes when it
is carried over. The two definitions have the same names in the same order and the same entries, at
every depth, exactly if no array of the object has an object among its items. -/
theorem ofYaml_toYaml (members : List (String × Json))
    (h : (Json.object members).DistinctNames) :
    ∃ d d' : Definition P, ofJson (.object members) = .ok d ∧
      ofYaml (Json.object members).toYaml = .ok d' ∧
      (d = d' ↔ (Json.object members).Plain) := by
  obtain ⟨hnodup, hmembers⟩ := Json.distinctNames_object_iff.mp h
  refine ⟨_, _, rfl, rfl, ?_⟩
  rw [Json.ofList_entries_inj hnodup, Json.entries_toYaml_iff members hmembers,
    Json.plain_object_iff]

/-- A list of texts below a nested name. -/
def listedTexts : List (String × Json) :=
  [("div", .object [("fontFamily", .array [.string "Inter", .array [.null]])])]

/-- The same list with an object in it. -/
def listedObject : List (String × Json) :=
  [("div", .object [("fontFamily", .array [.string "Inter", .array [.object []]])])]

/-- The list of texts loads to one definition in both formats. With an object in the list, even an
empty one, the definitions differ. -/
theorem ofYaml_toYaml_listed :
    (∃ d : Definition Unit, ofJson (.object listedTexts) = .ok d ∧
      ofYaml (Json.object listedTexts).toYaml = .ok d) ∧
    ∃ d d' : Definition Unit, ofJson (.object listedObject) = .ok d ∧
      ofYaml (Json.object listedObject).toYaml = .ok d' ∧ d ≠ d' := by
  have htext : ∀ s, (Json.string s).DistinctNames := fun _ _ hpart => nomatch hpart
  have hnull : Json.null.DistinctNames := fun _ hpart => nomatch hpart
  have hdistinct : (Json.object listedTexts).DistinctNames := by
    simp [listedTexts, Json.distinctNames_object_iff, Json.distinctNames_array_iff, htext, hnull]
  have hdistinct' : (Json.object listedObject).DistinctNames := by
    simp [listedObject, Json.distinctNames_object_iff, Json.distinctNames_array_iff, htext]
  have hplain : (Json.object listedTexts).Plain := by
    simp [listedTexts, Json.plain_object_iff, Json.plain_array_iff, Json.PlainItem,
      Json.plain_of_scalar]
  have hnot : ¬ (Json.object listedObject).Plain := by
    simp [listedObject, Json.plain_object_iff, Json.plain_array_iff, Json.PlainItem]
  obtain ⟨d, d', hd, hd', heq⟩ := ofYaml_toYaml (P := Unit) listedTexts hdistinct
  obtain ⟨e, e', he, he', hne⟩ := ofYaml_toYaml (P := Unit) listedObject hdistinct'
  exact ⟨⟨d, hd, (heq.mpr hplain) ▸ hd'⟩, e, e', he, he', mt hne.mp hnot⟩

end Definition

end Restyle
