import Restyle.Proofs.Roles
import Restyle.Proofs.Walk.Sites

/-!
# Selectors by the shape of keys

A walk reads the role of a key and builds the next selector from it. What comes out can be said
without roles, by the shape of the key alone: a key made by `whenKey` qualifies the selector at
hand, a key that starts with an equals sign replaces it, and the key of a child is put behind it
(`Enters`). Along a path one key acts after the other (`Leads`). A key has at most one of these
shapes, and none if it starts with an at sign, so a path leads to at most one selector
(`leads_iff`).
-/

namespace Restyle

/-! ### One key -/

/-- What the key of a nested definition makes of the selector at hand. -/
inductive Enters (selector : String) : String → String → Prop
  /-- A key with the mark qualifies it by its suffix. -/
  | qualified (suffix : String) : Enters selector (whenKey suffix) (qualify selector suffix)
  /-- A key with an equals sign in front replaces it by what is behind the sign. -/
  | replaced (other : String) : Enters selector ("=" ++ other) other
  /-- The key of a child is put behind it. -/
  | descended {key : String} (h : IsChildKey key) : Enters selector key (descendant selector key)

variable {selector key : String}

@[simp] lemma enter_whenKey (selector suffix : String) :
    enter selector (whenKey suffix) = qualify selector suffix := by
  rw [enter, Role.ofKey_whenKey]

@[simp] lemma enter_absolute (selector other : String) : enter selector ("=" ++ other) = other := by
  rw [enter, Role.ofKey_absolute]

lemma IsChildKey.enter_eq (h : IsChildKey key) (selector : String) :
    enter selector key = Restyle.descendant selector key := by
  rw [enter, Role.ofKey_eq_descendant_iff.mpr h]

lemma IsChildKey.ne_keyframes (h : IsChildKey key) : Role.ofKey key ≠ .keyframes := by
  simp [Role.ofKey_eq_descendant_iff.mpr h]

/-- A key that starts no timeline makes one selector of the selector at hand. Other keys make
none. -/
lemma enters_iff {inner : String} :
    Enters selector key inner ↔ key.toList.head? ≠ some '@' ∧ inner = enter selector key := by
  rw [Ne, ← Role.ofKey_eq_keyframes_iff]
  constructor
  · intro h
    cases h with
    | qualified suffix => simp
    | replaced => simp
    | descended hchild => exact ⟨hchild.ne_keyframes, (hchild.enter_eq selector).symm⟩
  · rintro ⟨hkey, rfl⟩
    cases hrole : Role.ofKey key with
    | qualifier suffix =>
      rw [Role.ofKey_eq_qualifier_iff.mp hrole, enter_whenKey]
      exact .qualified suffix
    | keyframes => exact absurd hrole hkey
    | absolute other =>
      rw [Role.ofKey_eq_absolute_iff.mp hrole, enter_absolute]
      exact .replaced other
    | descendant =>
      have hchild : IsChildKey key := Role.ofKey_eq_descendant_iff.mp hrole
      rw [hchild.enter_eq]
      exact .descended hchild

/-! ### A path of keys -/

/-- The selector to which a path of keys leads, the outermost key first. -/
inductive Leads : String → List String → String → Prop
  /-- Without keys the selector stays as it is. -/
  | here (selector : String) : Leads selector [] selector
  /-- The first key makes a selector from which the other keys lead on. -/
  | through {selector key inner last : String} {path : List String}
    (hkey : Enters selector key inner) (hpath : Leads inner path last) :
    Leads selector (key :: path) last

/-- A path on which no key starts a timeline leads to one selector. Other paths lead to none. -/
lemma leads_iff {path : List String} {last : String} :
    Leads selector path last ↔
      (∀ key ∈ path, key.toList.head? ≠ some '@') ∧ last = selectorAlong selector path := by
  constructor
  · intro h
    induction h with
    | here selector => exact ⟨nofun, rfl⟩
    | through hkey _ ih =>
      obtain ⟨hat, rfl⟩ := enters_iff.mp hkey
      exact ⟨List.forall_mem_cons.mpr ⟨hat, ih.1⟩, ih.2⟩
  · rintro ⟨hpath, rfl⟩
    induction path generalizing selector with
    | nil => exact .here selector
    | cons key path ih =>
      obtain ⟨hkey, hrest⟩ := List.forall_mem_cons.mp hpath
      exact .through (enters_iff.mpr ⟨hkey, rfl⟩) (ih hrest)

end Restyle
