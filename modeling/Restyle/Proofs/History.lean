import Mathlib.Data.List.Induction
import Mathlib.Tactic.Lemma

/-!
# Places in a history

A history is a list of events, and a condition on histories holds of some of its beginnings and not
of others. `EnteredAt` says with which event a condition came to hold for the last time: not before
the event, and ever since. A condition that holds of the whole history, but not of the empty one,
has exactly one such event.

Names that enter and leave a list in the course of a history have places in this sense.
`ListedBy` says that a list is made of the names that have a place, and in order of the places. A
list stays so if new names are put at its end and others are taken out.
-/

namespace Restyle

/-! ### The last entering -/

section Entering

variable {α : Type} {q : List α → Prop} {history : List α} {x : α} {i : Nat}

/-- Event number `i` of a history is the last one with which a condition comes to hold: the
condition does not hold before it, and holds ever since. -/
structure EnteredAt (q : List α → Prop) (history : List α) (i : Nat) : Prop where
  /-- There is such an event. -/
  lt : i < history.length
  /-- The condition does not hold before. -/
  before : ¬q (history.take i)
  /-- The condition holds after it, and after every later event. -/
  since : ∀ j, i < j → j ≤ history.length → q (history.take j)

/-- A condition that has entered holds at the end. -/
lemma EnteredAt.holds (h : EnteredAt q history i) : q history := by
  simpa using h.since history.length h.lt (Nat.le_refl _)

lemma EnteredAt.le_length (h : EnteredAt q (history ++ [x]) i) : i ≤ history.length := by
  have hlt := h.lt
  rw [List.length_append, List.length_singleton] at hlt
  exact Nat.le_of_lt_succ hlt

/-- If a condition holds already, one more event does not let it enter. -/
lemma EnteredAt.of_concat (h : EnteredAt q (history ++ [x]) i) (hq : q history) :
    EnteredAt q history i := by
  have hle : i ≤ history.length := h.le_length
  have hne : i ≠ history.length := by
    rintro rfl
    exact h.before (by simpa using hq)
  refine ⟨Nat.lt_of_le_of_ne hle hne, ?_, fun j hij hj => ?_⟩
  · simpa [List.take_append_of_le_length hle] using h.before
  · have hsince := h.since j hij (by simp; omega)
    rwa [List.take_append_of_le_length hj] at hsince

/-- If a condition does not hold, only the next event can let it enter. -/
lemma EnteredAt.eq_length (h : EnteredAt q (history ++ [x]) i) (hq : ¬q history) :
    i = history.length := by
  refine Nat.le_antisymm h.le_length (Nat.le_of_not_lt fun hlt => hq ?_)
  simpa using h.since history.length hlt (by simp)

/-- A condition that has entered and holds after one more event stays where it entered. -/
lemma EnteredAt.concat (h : EnteredAt q history i) (hq : q (history ++ [x])) :
    EnteredAt q (history ++ [x]) i := by
  have hlt := h.lt
  refine ⟨by simp; omega, ?_, fun j hij hj => ?_⟩
  · rw [List.take_append_of_le_length (Nat.le_of_lt hlt)]
    exact h.before
  · by_cases hjlt : j ≤ history.length
    · rw [List.take_append_of_le_length hjlt]
      exact h.since j hij hjlt
    · rw [List.take_of_length_le (by simp; omega)]
      exact hq

/-- A condition enters with an event that makes it hold. -/
lemma enteredAt_length (hq : ¬q history) (hconcat : q (history ++ [x])) :
    EnteredAt q (history ++ [x]) history.length := by
  refine ⟨by simp, by simpa using hq, fun j hij hj => ?_⟩
  rw [List.take_of_length_le (by simp; omega)]
  exact hconcat

/-- A condition that does not hold of the empty history has entered if and only if it holds. -/
lemma exists_enteredAt_iff (hnil : ¬q []) : (∃ i, EnteredAt q history i) ↔ q history := by
  refine ⟨fun ⟨i, h⟩ => h.holds, ?_⟩
  induction history using List.reverseRecOn with
  | nil => exact fun hq => absurd hq hnil
  | append_singleton history x ih =>
    intro hq
    by_cases hbefore : q history
    · obtain ⟨i, h⟩ := ih hbefore
      exact ⟨i, h.concat hq⟩
    · exact ⟨history.length, enteredAt_length hbefore hq⟩

end Entering

/-! ### Names in order of their places -/

/-- The places of names increase along a list. -/
def Increasing (place : String → Nat → Prop) (names : List String) : Prop :=
  names.Pairwise fun a b => ∀ i j, place a i → place b j → i < j

/-- A list is made of the names that have a place, in order of their places. -/
structure ListedBy (place : String → Nat → Prop) (names : List String) : Prop where
  /-- The names are those that have a place. -/
  mem_iff : ∀ name, name ∈ names ↔ ∃ i, place name i
  /-- They stand in order of their places. -/
  increasing : Increasing place names

namespace Increasing

variable {place place' : String → Nat → Prop} {names kept : List String} {name : String} {n : Nat}

lemma nil : Increasing place [] := List.Pairwise.nil

/-- Names that are left over from a list stay in order if they keep their places. -/
lemma keep (h : Increasing place names) (hkept : kept.Sublist names)
    (hplace : ∀ a ∈ kept, ∀ i, place' a i → place a i) : Increasing place' kept :=
  (h.sublist hkept).imp_of_mem fun ha hb hab i j hi hj =>
    hab i j (hplace _ ha i hi) (hplace _ hb j hj)

/-- A name can be put behind names that have their places before its own. -/
lemma append (h : Increasing place names) (hnames : ∀ a ∈ names, ∀ i, place a i → i < n)
    (hname : ∀ j, place name j → j = n) : Increasing place (names ++ [name]) := by
  refine List.pairwise_append.mpr ⟨h, List.pairwise_singleton _ _, ?_⟩
  intro a ha b hb i j hi hj
  obtain rfl := List.mem_singleton.mp hb
  rw [hname j hj]
  exact hnames a ha i hi

/-- A name that is new is put behind the others; one that is not stays where it is. -/
lemma insert (h : Increasing place names) (hnames : ∀ a ∈ names, ∀ i, place a i → i < n)
    (hname : name ∉ names → ∀ j, place name j → j = n) :
    Increasing place (if name ∈ names then names else names ++ [name]) := by
  split
  · exact h
  · rename_i hnew
    exact h.append hnames (hname hnew)

/-- A name is taken out of its place, and it may be put behind the others. -/
lemma replace (h : Increasing place names) (hnames : ∀ a ∈ names, ∀ i, place a i → i < n)
    (hplace : ∀ a ∈ names, a ≠ name → ∀ i, place' a i → place a i)
    (hname : ∀ j, place' name j → j = n) (again : Bool) :
    Increasing place' ((names.filter fun a => a ≠ name) ++ if again then [name] else []) := by
  have hothers : ∀ a ∈ names.filter fun a => a ≠ name, ∀ i, place' a i → place a i := by
    intro a ha
    obtain ⟨ha, hne⟩ := List.mem_filter.mp ha
    exact hplace a ha (by simpa using hne)
  have hkept : Increasing place' (names.filter fun a => a ≠ name) :=
    h.keep List.filter_sublist hothers
  cases again with
  | false => simpa using hkept
  | true =>
    exact hkept.append (fun a ha i hi => hnames a (List.mem_filter.mp ha).1 i (hothers a ha i hi))
      hname

end Increasing

end Restyle
