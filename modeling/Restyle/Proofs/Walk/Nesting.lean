import Restyle.Proofs.Walk.Selectors

/-!
# Nested definitions in one step

Selectors are built by attaching one key after another, with a dot or a blank between if the first
character of the key asks for it. Attaching is associative: two keys attached one after another come
to one key, the second attached to the first (`qualify_qualify`, `descendant_descendant`). This one
key has the role of the first, so the walk of two definitions, one nested in the other, is the walk
of a single one under it, and an absolute key makes the key around it disappear (`walk_nest_nest`).
-/

namespace Restyle

variable {P : Type}

/-! ### Attaching keys -/

/-- What stands in front of an attached key: `marked` if the first character of the key satisfies
`p`, else `plain`. -/
def joint (p : Char → Bool) (marked plain key : String) : String :=
  if key.toList.head?.any p then marked else plain

/-- A selector with a key attached to it. -/
def attach (p : Char → Bool) (marked plain selector key : String) : String :=
  selector ++ joint p marked plain key ++ key

lemma qualify_eq_attach (selector suffix : String) :
    qualify selector suffix = attach Text.isAlphabetic "." "" selector suffix := by
  unfold qualify attach joint
  cases hsuffix : suffix.toList with
  | nil => simp
  | cons c cs => by_cases hc : Text.isAlphabetic c = true <;> simp [hc]

lemma descendant_eq_attach (parent key : String) :
    descendant parent key = attach Text.isUppercase " ." " " parent key := by
  unfold descendant attach joint
  cases hkey : key.toList with
  | nil => simp
  | cons c cs => by_cases hc : Text.isUppercase c = true <;> simp [hc]

section Attach

variable {p : Char → Bool} {marked plain : String}

/-- With another key attached to it, a key is attached like before. If it is empty, this is so
because no joint starts with a character that asks for the mark. -/
lemma joint_attach (hmarked : marked.toList ≠ []) (hpmarked : marked.toList.head?.any p = false)
    (hpplain : plain.toList.head?.any p = false) (key other : String) :
    joint p marked plain (attach p marked plain key other) = joint p marked plain key := by
  have hlist : (attach p marked plain key other).toList =
      key.toList ++ ((joint p marked plain other).toList ++ other.toList) := by
    simp [attach, String.toList_append]
  have hfirst : (attach p marked plain key other).toList.head?.any p = key.toList.head?.any p := by
    rw [hlist]
    cases hkey : key.toList with
    | cons c cs => simp
    | nil =>
      by_cases hother : other.toList.head?.any p = true
      · obtain ⟨c, cs, hcs⟩ := List.exists_cons_of_ne_nil hmarked
        simpa [joint, hother, hcs] using hpmarked
      · cases hplain : plain.toList with
        | nil => simp [joint, hother, hplain]
        | cons c cs => simpa [joint, hother, hplain] using hpplain
  unfold joint
  rw [hfirst]

/-- Two keys attached one after another come to one key. -/
lemma attach_attach (hmarked : marked.toList ≠ []) (hpmarked : marked.toList.head?.any p = false)
    (hpplain : plain.toList.head?.any p = false) (selector key other : String) :
    attach p marked plain (attach p marked plain selector key) other =
      attach p marked plain selector (attach p marked plain key other) := by
  have hjoint : joint p marked plain (attach p marked plain key other) = joint p marked plain key :=
    joint_attach hmarked hpmarked hpplain key other
  calc attach p marked plain (attach p marked plain selector key) other
      = selector ++ joint p marked plain key ++ attach p marked plain key other := by
        simp only [attach, String.append_assoc]
    _ = selector ++ joint p marked plain (attach p marked plain key other) ++
          attach p marked plain key other := by rw [hjoint]

end Attach

/-- Two suffixes one after another come to one suffix. -/
lemma qualify_qualify (selector a b : String) :
    qualify (qualify selector a) b = qualify selector (qualify a b) := by
  simp only [qualify_eq_attach]
  exact attach_attach (by decide) (by decide) (by decide) selector a b

/-- Two keys of descendants one after another come to one key. -/
lemma descendant_descendant (parent a b : String) :
    descendant (descendant parent a) b = descendant parent (descendant a b) := by
  simp only [descendant_eq_attach]
  exact attach_attach (by decide) (by decide) (by decide) parent a b

/-! ### The role of a key with another one attached -/

/-- A blank stands behind the parent of a descendant. -/
lemma exists_toList_descendant (parent key : String) :
    ∃ rest, (descendant parent key).toList = parent.toList ++ ' ' :: rest := by
  rw [descendant_eq_attach, attach, joint]
  split
  · exact ⟨'.' :: key.toList, by simp [String.toList_append]⟩
  · exact ⟨key.toList, by simp [String.toList_append]⟩

/-- A child of a child is a child. -/
lemma IsChildKey.descendant {key : String} (h : IsChildKey key) (other : String) :
    IsChildKey (descendant key other) := by
  obtain ⟨hmark, hat, hequals⟩ := h
  obtain ⟨rest, hlist⟩ := exists_toList_descendant key other
  have hfirst : ∀ c : Char, c ≠ ' ' → key.toList.head? ≠ some c →
      (Restyle.descendant key other).toList.head? ≠ some c := by
    intro c hc hkey
    rw [hlist, List.head?_append]
    cases hhead : key.toList.head? with
    | none => simpa using hc.symm
    | some first => simpa [hhead] using hkey
  exact ⟨fun h => hmark (h.of_append_blank hlist), hfirst '@' (by decide) hat,
    hfirst '=' (by decide) hequals⟩

/-! ### Walks -/

/-- The walk of a definition that is nested in an otherwise empty one. -/
lemma walk_nest {key : String} (h : Role.ofKey key ≠ .keyframes) (selector : String)
    (d : Definition P) :
    (Definition.nest .empty key d).walk selector = d.walk (enter selector key) := by
  have hlone : (Definition.nest .empty key d).walk selector =
      (Entry.nested d).walk selector key ++ [] := rfl
  rw [hlone, List.append_nil, Entry.walk_nested h]

/-- A definition nested in another is walked like a single one. Under two qualifying keys, these
are put together by qualifying the first suffix with the second; under two keys of children, the
second is made a descendant of the first. An absolute key is all that counts below it: whatever key
is around it, short of one for a timeline, leaves no trace. -/
theorem walk_nest_nest (selector a b : String) (d : Definition P) :
    (Definition.nest .empty (whenKey a) (.nest .empty (whenKey b) d)).walk selector =
      (Definition.nest .empty (whenKey (qualify a b)) d).walk selector ∧
    (IsChildKey a → IsChildKey b →
      (Definition.nest .empty a (.nest .empty b d)).walk selector =
        (Definition.nest .empty (descendant a b) d).walk selector) ∧
    (a.toList.head? ≠ some '@' →
      (Definition.nest .empty a (.nest .empty ("=" ++ b) d)).walk selector =
        (Definition.nest .empty ("=" ++ b) d).walk selector) := by
  have hwhen : ∀ suffix, Role.ofKey (whenKey suffix) ≠ .keyframes := by simp
  have habsolute : ∀ other, Role.ofKey ("=" ++ other) ≠ .keyframes := by simp
  refine ⟨?_, fun ha hb => ?_, fun ha => ?_⟩
  · rw [walk_nest (hwhen a), walk_nest (hwhen b), walk_nest (hwhen _), enter_whenKey, enter_whenKey,
      enter_whenKey, qualify_qualify]
  · have hab : IsChildKey (descendant a b) := ha.descendant b
    rw [walk_nest ha.ne_keyframes, walk_nest hb.ne_keyframes, walk_nest hab.ne_keyframes,
      ha.enter_eq, hb.enter_eq, hab.enter_eq, descendant_descendant]
  · have hrole : Role.ofKey a ≠ .keyframes := mt Role.ofKey_eq_keyframes_iff.mp ha
    rw [walk_nest hrole, walk_nest (habsolute b), walk_nest (habsolute b), enter_absolute,
      enter_absolute]

/-- A definition with a fixed value, a produced one and a timeline. -/
def framed : Definition Nat :=
  ⟨[("color", .fixed (.text "red")), ("width", .computed 0),
    ("@spin", .nested ⟨[("from", .nested ⟨[("opacity", .computed 1)]⟩)]⟩)]⟩

/-- The empty key is a key of a child, and a capital of another alphabet names a class. -/
theorem walk_nest_nest_framed :
    IsChildKey "" ∧ IsChildKey "Ärea" ∧
    (Definition.nest .empty "" (.nest .empty "Ärea" framed)).walk ".A" =
      (Definition.nest .empty " .Ärea" framed).walk ".A" ∧
    ((Definition.nest .empty "" (.nest .empty "Ärea" framed)).walk ".A").map Event.selector =
      [".A  .Ärea", ".A  .Ärea", ".A  .Ärea"] ∧
    (Definition.nest .empty "Ärea" (.nest .empty "=.B" framed)).walk ".A" =
      (Definition.nest .empty "=.B" framed).walk ".A" := by
  have hempty : IsChildKey "" := by decide
  have hcapital : IsChildKey "Ärea" := by decide
  have hjoined : descendant "" "Ärea" = " .Ärea" := by decide +kernel
  obtain ⟨-, hchildren, -⟩ := walk_nest_nest ".A" "" "Ärea" framed
  obtain ⟨-, -, habsolute⟩ := walk_nest_nest ".A" "Ärea" ".B" framed
  have hwalk := hchildren hempty hcapital
  rw [hjoined] at hwalk
  exact ⟨hempty, hcapital, hwalk, by decide +kernel, habsolute (by decide)⟩

end Restyle
