import Mathlib.Tactic.Lemma
import Restyle.Walk

/-!
# Exchanging producers

Definitions are generic in the type of their producers, and `Definition.exchange` puts other
producers in the place of the old ones. A walk looks at whether a value is produced and never at the
producer, so it commutes with the exchange (`Definition.walk_exchange`), and so does the walk of a
timeline.

Two definitions that are the same except for their producers have one `Definition.shape`. They are
then the two sides of one definition with pairs of producers (`Definition.exists_pairs`), and what
holds of every exchange holds of the two of them.
-/

namespace Restyle

variable {P Q : Type}

/-! ### Entries and definitions -/

mutual

/-- Puts `f producer` in the place of every producer of an entry. -/
def Entry.exchange (f : P → Q) : Entry P → Entry Q
  | .fixed value => .fixed value
  | .computed producer => .computed (f producer)
  | .nested ⟨entries⟩ => .nested ⟨exchangeEntries f entries⟩

/-- Puts `f producer` in the place of every producer of a list of entries. -/
def exchangeEntries (f : P → Q) : List (String × Entry P) → List (String × Entry Q)
  | [] => []
  | (key, entry) :: rest => (key, entry.exchange f) :: exchangeEntries f rest

end

lemma exchangeEntries_eq_map (f : P → Q) (entries : List (String × Entry P)) :
    exchangeEntries f entries = entries.map fun e => (e.1, e.2.exchange f) := by
  induction entries with
  | nil => rfl
  | cons e rest ih => rw [exchangeEntries, ih, List.map_cons]

namespace Definition

/-- Puts `f producer` in the place of every producer of a definition. -/
def exchange (f : P → Q) (d : Definition P) : Definition Q := ⟨exchangeEntries f d.entries⟩

/-- A definition without its producers: what is left are the keys, the fixed values and the places
of the produced ones, in their order. -/
def shape (d : Definition P) : Definition Unit := d.exchange fun _ => ()

end Definition

/-! ### Two definitions of one shape -/

mutual

/-- Two entries of one shape are the two sides of one entry. -/
theorem Entry.exists_pairs : (entry : Entry P) → (entry' : Entry Q) →
    entry.exchange (fun _ => ()) = entry'.exchange (fun _ => ()) →
    ∃ pairs : Entry (P × Q), pairs.exchange Prod.fst = entry ∧ pairs.exchange Prod.snd = entry'
  | .fixed value, entry', h => by
    cases entry' with
    | fixed value' =>
      obtain rfl : value = value' := Entry.fixed.inj h
      exact ⟨.fixed value, rfl, rfl⟩
    | computed producer' => cases h
    | nested inner' => cases h
  | .computed producer, entry', h => by
    cases entry' with
    | fixed value' => cases h
    | computed producer' => exact ⟨.computed (producer, producer'), rfl, rfl⟩
    | nested inner' => cases h
  | .nested ⟨entries⟩, entry', h => by
    cases entry' with
    | fixed value' => cases h
    | computed producer' => cases h
    | nested inner' =>
      have hentries : exchangeEntries _ entries = exchangeEntries _ inner'.entries :=
        OrderedMap.mk.inj (Entry.nested.inj h)
      obtain ⟨pairs, hfst, hsnd⟩ := exists_pairs_entries entries inner'.entries hentries
      exact ⟨.nested ⟨pairs⟩, by rw [Entry.exchange, hfst], by rw [Entry.exchange, hsnd]⟩

/-- Two lists of entries of one shape are the two sides of one list. -/
theorem exists_pairs_entries :
    (entries : List (String × Entry P)) → (entries' : List (String × Entry Q)) →
    exchangeEntries (fun _ => ()) entries = exchangeEntries (fun _ => ()) entries' →
    ∃ pairs : List (String × Entry (P × Q)),
      exchangeEntries Prod.fst pairs = entries ∧ exchangeEntries Prod.snd pairs = entries'
  | [], entries', h => by
    cases entries' with
    | nil => exact ⟨[], rfl, rfl⟩
    | cons e' rest' => cases h
  | (key, entry) :: rest, entries', h => by
    cases entries' with
    | nil => cases h
    | cons e' rest' =>
      obtain ⟨hhead, hrest⟩ := List.cons.inj h
      obtain ⟨hkey, hentry⟩ := Prod.mk.inj hhead
      obtain ⟨pair, hfst, hsnd⟩ := Entry.exists_pairs entry e'.2 hentry
      obtain ⟨pairs, hfsts, hsnds⟩ := exists_pairs_entries rest rest' hrest
      refine ⟨(key, pair) :: pairs, ?_, ?_⟩
      · rw [exchangeEntries, hfst, hfsts]
      · rw [exchangeEntries, hsnd, hsnds, hkey]

end

/-- Two definitions of one shape are the two sides of one definition with pairs of producers. -/
lemma Definition.exists_pairs {d : Definition P} {d' : Definition Q} (h : d.shape = d'.shape) :
    ∃ pairs : Definition (P × Q), pairs.exchange Prod.fst = d ∧ pairs.exchange Prod.snd = d' := by
  obtain ⟨pairs, hfst, hsnd⟩ := exists_pairs_entries d.entries d'.entries (OrderedMap.mk.inj h)
  exact ⟨⟨pairs⟩, congrArg OrderedMap.mk hfst, congrArg OrderedMap.mk hsnd⟩

/-! ### Walks -/

/-- Puts `f producer` in the place of every producer of an event. -/
def Event.exchange (f : P → Q) : Event P → Event Q
  | .fixed selector property value => .fixed selector property value
  | .computed selector property producer => .computed selector property (f producer)
  | .keyframes selector name timeline => .keyframes selector name (timeline.exchange f)

mutual

/-- The walk of an entry with other producers is its walk with these producers. -/
theorem Entry.walk_exchange (f : P → Q) (selector key : String) : (entry : Entry P) →
    (entry.exchange f).walk selector key = (entry.walk selector key).map (Event.exchange f)
  | .fixed value => by
    unfold Entry.exchange Entry.walk
    cases whenSuffix? key <;> rfl
  | .computed producer => by
    unfold Entry.exchange Entry.walk
    cases whenSuffix? key <;> rfl
  | .nested ⟨entries⟩ => by
    unfold Entry.exchange Entry.walk
    cases Role.ofKey key with
    | qualifier suffix => exact walkEntries_exchange f _ entries
    | keyframes => rfl
    | absolute other => exact walkEntries_exchange f _ entries
    | descendant => exact walkEntries_exchange f _ entries

/-- The walk of a list of entries with other producers is its walk with these producers. -/
theorem walkEntries_exchange (f : P → Q) (selector : String) :
    (entries : List (String × Entry P)) →
    walkEntries selector (exchangeEntries f entries) =
      (walkEntries selector entries).map (Event.exchange f)
  | [] => rfl
  | (key, entry) :: rest => by
    rw [exchangeEntries, walkEntries, walkEntries, List.map_append,
      Entry.walk_exchange f selector key entry, walkEntries_exchange f selector rest]

end

namespace Definition

/-- The walk of a definition with other producers is its walk with these producers. -/
theorem walk_exchange (f : P → Q) (d : Definition P) (selector : String) :
    (d.exchange f).walk selector = (d.walk selector).map (Event.exchange f) :=
  walkEntries_exchange f selector d.entries

end Definition

lemma frameEvent?_exchange (f : P → Q) (offset : String) (e : String × Entry P) :
    frameEvent? offset (e.1, e.2.exchange f) = (frameEvent? offset e).map (Event.exchange f) := by
  obtain ⟨key, entry⟩ := e
  cases entry <;> simp [Entry.exchange, frameEvent?, Event.exchange]

lemma timelineEvents_exchange (f : P → Q) (e : String × Entry P) :
    timelineEvents (e.1, e.2.exchange f) = (timelineEvents e).map (Event.exchange f) := by
  obtain ⟨key, entry⟩ := e
  cases entry with
  | fixed value => rfl
  | computed producer => rfl
  | nested frame =>
    rw [Entry.exchange, timelineEvents, timelineEvents, exchangeEntries_eq_map, List.filterMap_map,
      List.map_filterMap]
    exact congrArg (List.filterMap · frame.entries) (funext fun e => frameEvent?_exchange f _ e)

namespace Definition

/-- The walk of a timeline with other producers is its walk with these producers. -/
theorem walkTimeline_exchange (f : P → Q) (timeline : Definition P) :
    (timeline.exchange f).walkTimeline = timeline.walkTimeline.map (Event.exchange f) := by
  unfold walkTimeline exchange
  rw [exchangeEntries_eq_map, List.flatMap_map, List.map_flatMap]
  simp only [timelineEvents_exchange]

end Definition

end Restyle
