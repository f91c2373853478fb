import Mathlib.Data.List.Basic
import Restyle.Selector

/-!
# The roles of keys

`Role.ofKey` looks at how a key starts. Here the start of a key is set against its role, in both
directions: the mark makes a qualifier, an at sign a timeline, an equals sign an absolute selector,
and whatever starts like none of these is the key of a child (`IsChildKey`), which is a descendant.
-/

namespace Restyle

variable {key : String}

/-! ### Marked names -/

/-- A name starts with the mark of qualifying keys. -/
def HasMark (name : String) : Prop := whenMark.toList <+: name.toList

instance : DecidablePred HasMark := fun name =>
  inferInstanceAs (Decidable (whenMark.toList <+: name.toList))

/-- A key has a suffix if and only if it has the mark. -/
lemma hasMark_iff {key : String} : HasMark key ↔ ∃ suffix, whenSuffix? key = some suffix := by
  simp only [whenSuffix?, Option.map_eq_some_iff, List.isPrefixOf?_eq_some_iff_append_eq]
  constructor
  · rintro ⟨rest, hrest⟩
    exact ⟨_, rest, hrest, rfl⟩
  · rintro ⟨_, rest, hrest, -⟩
    exact ⟨rest, hrest⟩

/-- A key has a suffix if and only if it was built with this suffix. -/
lemma whenSuffix?_eq_some_iff {key suffix : String} :
    whenSuffix? key = some suffix ↔ key = whenKey suffix := by
  refine ⟨fun h => ?_, fun h => by rw [h, whenSuffix?_whenKey]⟩
  obtain ⟨rest, hrest, rfl⟩ := Option.map_eq_some_iff.mp h
  rw [List.isPrefixOf?_eq_some_iff_append_eq] at hrest
  rw [← String.toList_inj, whenKey, String.toList_append, String.toList_ofList, hrest]

lemma whenSuffix?_eq_none_iff {key : String} : whenSuffix? key = none ↔ ¬HasMark key := by
  rw [hasMark_iff, ← Option.isSome_iff_exists, Option.not_isSome_iff_eq_none]

/-- The mark starts with a percent sign. -/
lemma HasMark.head?_eq (h : HasMark key) : key.toList.head? = some '%' := by
  obtain ⟨rest, hrest⟩ := h
  rw [← hrest]
  rfl

/-- A key that does not start like the mark has no suffix. -/
lemma whenSuffix?_of_head? (h : key.toList.head? ≠ some '%') : whenSuffix? key = none :=
  whenSuffix?_eq_none_iff.mpr fun hmark => h hmark.head?_eq

/-- There is no blank in the mark, so what comes behind a blank does not complete it. -/
lemma HasMark.of_append_blank {rest : List Char} {whole : String} (h : HasMark whole)
    (hwhole : whole.toList = key.toList ++ ' ' :: rest) : HasMark key := by
  unfold HasMark at h ⊢
  rw [hwhole] at h
  rcases List.prefix_or_prefix_of_prefix h (List.prefix_append _ _) with hmark | ⟨tail, htail⟩
  · exact hmark
  · rw [← htail, List.prefix_append_right_inj] at h
    cases tail with
    | nil => exact ⟨[], by rw [← htail, List.append_nil, List.append_nil]⟩
    | cons c tail =>
      have hblank : ' ' ∈ whenMark.toList := by
        rw [← htail, (List.cons_prefix_cons.mp h).1]
        simp
      exact absurd hblank (by decide)

/-! ### Roles -/

/-- A key of a child: it has no mark and starts neither with an at sign nor with an equals sign. -/
def IsChildKey (key : String) : Prop :=
  ¬HasMark key ∧ key.toList.head? ≠ some '@' ∧ key.toList.head? ≠ some '='

instance : DecidablePred IsChildKey := fun _ => inferInstanceAs (Decidable (_ ∧ _))

namespace Role

@[simp] lemma ofKey_whenKey (suffix : String) : ofKey (whenKey suffix) = .qualifier suffix := by
  rw [ofKey, whenSuffix?_whenKey]

/-- A key with an at sign in front names a keyframes block. -/
lemma ofKey_of_at {cs : List Char} (h : key.toList = '@' :: cs) : ofKey key = .keyframes := by
  have hsuffix : whenSuffix? key = none := whenSuffix?_of_head? (by simp [h])
  rw [ofKey, hsuffix]
  simp only [h]

/-- An equals sign in front makes an absolute selector of what is behind it. -/
@[simp] lemma ofKey_absolute (selector : String) :
    ofKey ("=" ++ selector) = .absolute selector := by
  have hlist : ("=" ++ selector).toList = '=' :: selector.toList := String.toList_append
  have hsuffix : whenSuffix? ("=" ++ selector) = none := whenSuffix?_of_head? (by simp [hlist])
  rw [ofKey, hsuffix]
  simp only [hlist, String.ofList_toList]

/-- A key names a keyframes block if and only if it starts with an at sign. -/
lemma ofKey_eq_keyframes_iff : ofKey key = .keyframes ↔ key.toList.head? = some '@' := by
  constructor
  · intro h
    unfold ofKey at h
    split at h
    · cases h
    · split at h
      · simp [*]
      · cases h
      · cases h
  · intro h
    obtain ⟨cs, hcs⟩ := List.head?_eq_some_iff.mp h
    exact ofKey_of_at hcs

/-- A key qualifies by a suffix if and only if it was built with this suffix. -/
lemma ofKey_eq_qualifier_iff {suffix : String} :
    ofKey key = .qualifier suffix ↔ key = whenKey suffix := by
  refine ⟨fun h => ?_, fun h => by rw [h, ofKey_whenKey]⟩
  unfold ofKey at h
  split at h
  · rename_i found hfound
    obtain rfl : found = suffix := by simpa using h
    exact whenSuffix?_eq_some_iff.mp hfound
  · split at h
    · cases h
    · cases h
    · cases h

/-- A key makes a selector absolute if and only if it is an equals sign before this selector. -/
lemma ofKey_eq_absolute_iff {selector : String} :
    ofKey key = .absolute selector ↔ key = "=" ++ selector := by
  refine ⟨fun h => ?_, fun h => by rw [h, ofKey_absolute]⟩
  unfold ofKey at h
  split at h
  · cases h
  · split at h
    · cases h
    · rename_i cs hkey
      obtain rfl : String.ofList cs = selector := by simpa using h
      rw [← String.toList_inj, hkey]
      simp
    · cases h

/-- A key selects a descendant if and only if it is the key of a child. -/
lemma ofKey_eq_descendant_iff : ofKey key = .descendant ↔ IsChildKey key := by
  unfold IsChildKey
  rw [← whenSuffix?_eq_none_iff]
  cases hsuffix : whenSuffix? key with
  | some suffix => simp [ofKey, hsuffix]
  | none =>
    rw [ofKey, hsuffix]
    cases hkey : key.toList with
    | nil => simp
    | cons c cs =>
      by_cases hat : c = '@'
      · simp [hat]
      by_cases hequals : c = '='
      · simp [hequals]
      simp [hat, hequals]

end Role

end Restyle
