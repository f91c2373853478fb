import Restyle.Proofs.Compilation.Placement

/-!
# The frames of a timeline

A timeline declares properties at offsets. Loose values among its offsets declare nothing, nor do
definitions nested inside a frame, and several keys may stand for one offset.
`Definition.declarations` lists what is declared, in document order, read off the entries of the
timeline.

A compilation stores these declarations as one block. It has a frame for each offset at which
something is declared, in order of first declaration, and each frame has an entry for each property
declared there, in order of first declaration, with the value that was declared last.
`Definition.HasBlock` says all this of a block, and `Definition.hasBlock_iff` that the block which
is stored is the only one of which it is true.
-/

namespace Restyle

variable {P : Type}

/-! ### Declarations at offsets -/

/-- The value of an entry that is not nested. -/
def Entry.leaf? : Entry P → Option (RuleValue P)
  | .fixed value => some (.fixed value)
  | .computed producer => some (.computed producer)
  | .nested _ => none

/-- A declaration in a timeline. -/
structure TimedDeclaration (P : Type) where
  /-- The offset; a whole number has its percent sign. -/
  offset : String
  /-- The property in dash case. -/
  property : String
  /-- The value. -/
  value : RuleValue P

namespace Definition

/-- The declarations of one frame of a timeline. -/
def declarationsIn (frame : Definition P) (offset : String) : List (TimedDeclaration P) :=
  frame.entries.filterMap fun e => e.2.leaf?.map fun value => ⟨offset, dashCase e.1, value⟩

/-- The declarations of a timeline in document order. -/
def declarations (timeline : Definition P) : List (TimedDeclaration P) :=
  timeline.entries.flatMap fun e =>
    match e.2 with
    | .nested frame => declarationsIn frame (frameOffset e.1)
    | _ => []

/-- Whether some frame of a timeline has an entry with a produced value. -/
def ProducesValue (timeline : Definition P) : Prop :=
  ∃ key frame property producer, (key, Entry.nested frame) ∈ timeline.entries ∧
    (property, Entry.computed producer) ∈ frame.entries

end Definition

/-- What a list of declarations says about one offset, as properties with values. -/
def entriesAt (declarations : List (TimedDeclaration P)) (offset : String) :
    List (String × RuleValue P) :=
  (declarations.filter fun d => d.offset = offset).map fun d => (d.property, d.value)

/-- One more declaration says something about its own offset only. -/
lemma entriesAt_concat (declarations : List (TimedDeclaration P)) (d : TimedDeclaration P)
    (offset : String) :
    entriesAt (declarations ++ [d]) offset =
      if d.offset = offset then entriesAt declarations offset ++ [(d.property, d.value)]
      else entriesAt declarations offset := by
  unfold entriesAt
  rw [List.filter_append, List.map_append]
  by_cases h : d.offset = offset
  · simp [h]
  · simp [h]

/-- Something is said about an offset if and only if it is the offset of a declaration. -/
lemma entriesAt_eq_nil_iff {declarations : List (TimedDeclaration P)} {offset : String} :
    entriesAt declarations offset = [] ↔ offset ∉ declarations.map TimedDeclaration.offset := by
  unfold entriesAt
  rw [List.map_eq_nil_iff, List.filter_eq_nil_iff]
  simp

/-- A block collects the declarations of a timeline: a frame for each offset and an entry for each
property, in order of first declaration, each entry with the last value. -/
structure Definition.HasBlock (timeline : Definition P) (block : Declarations P) : Prop where
  /-- The offsets stand in order of first declaration. -/
  offsets : block.keys = (timeline.declarations.map TimedDeclaration.offset).eraseDups
  /-- At each offset stands a frame with the properties in order of first declaration, each with its
  last value. -/
  frames : ∀ offset ∈ block.keys, ∃ frame : Declarations P,
    block.get? offset = some (.frame frame) ∧
    frame.keys = ((entriesAt timeline.declarations offset).map Prod.fst).eraseDups ∧
    ∀ property, frame.get? property =
      OrderedMap.lastValue property (entriesAt timeline.declarations offset)

/-! ### Walking a timeline -/

/-- The declaration that an event of a timeline stands for. -/
def Event.timed? : Event P → Option (TimedDeclaration P)
  | .fixed offset property value => some ⟨offset, property, .fixed value⟩
  | .computed offset property producer => some ⟨offset, property, .computed producer⟩
  | .keyframes _ _ _ => none

/-- The walk of a timeline meets its declarations. -/
lemma filterMap_timed?_walkTimeline (timeline : Definition P) :
    timeline.walkTimeline.filterMap Event.timed? = timeline.declarations := by
  unfold Definition.walkTimeline Definition.declarations
  rw [List.filterMap_flatMap]
  refine List.flatMap_congr fun e _ => ?_
  obtain ⟨key, entry⟩ := e
  cases entry with
  | fixed value => rfl
  | computed producer => rfl
  | nested frame =>
    change (frame.entries.filterMap (frameEvent? (frameOffset key))).filterMap Event.timed? =
      Definition.declarationsIn frame (frameOffset key)
    rw [List.filterMap_filterMap, Definition.declarationsIn]
    refine List.filterMap_congr fun d _ => ?_
    obtain ⟨property, entry⟩ := d
    cases entry <;> rfl

/-- A timeline is dynamic if and only if one of its frames has a produced value. -/
lemma isDynamicTimeline_iff {timeline : Definition P} :
    timeline.isDynamicTimeline = true ↔ timeline.ProducesValue := by
  rw [Definition.isDynamicTimeline, List.any_eq_true]
  constructor
  · rintro ⟨event, hevent, hcomputed⟩
    obtain ⟨⟨key, entry⟩, he, hin⟩ := List.mem_flatMap.mp hevent
    cases entry with
    | fixed value => cases hin
    | computed producer => cases hin
    | nested frame =>
      obtain ⟨⟨property, value⟩, hd, heq⟩ := List.mem_filterMap.mp hin
      cases value with
      | fixed value =>
        cases heq
        cases hcomputed
      | computed producer => exact ⟨key, frame, property, producer, he, hd⟩
      | nested inner => cases heq
  · rintro ⟨key, frame, property, producer, he, hd⟩
    refine ⟨.computed (frameOffset key) (dashCase property) producer, ?_, rfl⟩
    have hin : Event.computed (frameOffset key) (dashCase property) producer ∈
        frame.entries.filterMap (frameEvent? (frameOffset key)) :=
      List.mem_filterMap.mpr ⟨_, hd, rfl⟩
    exact List.mem_flatMap.mpr ⟨_, he, hin⟩

/-- A timeline with a produced value declares something. -/
lemma Definition.ProducesValue.declarations_ne_nil {timeline : Definition P}
    (h : timeline.ProducesValue) : timeline.declarations ≠ [] := by
  obtain ⟨key, frame, property, producer, he, hd⟩ := h
  have hin : (⟨frameOffset key, dashCase property, .computed producer⟩ : TimedDeclaration P) ∈
      Definition.declarationsIn frame (frameOffset key) := List.mem_filterMap.mpr ⟨_, hd, rfl⟩
  exact List.ne_nil_of_mem (List.mem_flatMap.mpr ⟨_, he, hin⟩)

/-! ### Collecting declarations -/

/-- A list of declarations collected offset by offset. -/
def collectFrames (declarations : List (TimedDeclaration P)) : RuleSet P :=
  declarations.foldl (fun frames d => frames.insert d.offset d.property d.value) .empty

lemma collectFrames_concat (declarations : List (TimedDeclaration P)) (d : TimedDeclaration P) :
    collectFrames (declarations ++ [d]) =
      (collectFrames declarations).insert d.offset d.property d.value := List.foldl_concat ..

/-- The frames of a timeline are its declarations collected. -/
lemma frames_eq_collectFrames (timeline : Definition P) :
    timeline.frames = collectFrames timeline.declarations := by
  rw [← filterMap_timed?_walkTimeline, collectFrames, List.foldl_filterMap, Definition.frames]
  congr 1
  funext frames event
  cases event <;> rfl

/-- The offsets stand in order of first declaration. -/
lemma selectors_collectFrames (declarations : List (TimedDeclaration P)) :
    (collectFrames declarations).selectors =
      (declarations.map TimedDeclaration.offset).eraseDups := by
  induction declarations using List.reverseRecOn with
  | nil => rfl
  | append_singleton declarations d ih =>
    rw [collectFrames_concat, List.map_append, List.map_singleton, OrderedMap.eraseDups_concat,
      ← ih]
    change (OrderedMap.insert _ _ _).keys = _
    rw [OrderedMap.keys_insert]
    have hmem : d.offset ∈ (collectFrames declarations).blocks.keys ↔
        d.offset ∈ declarations.map TimedDeclaration.offset := by
      change d.offset ∈ (collectFrames declarations).selectors ↔ _
      rw [ih, List.mem_eraseDups]
    simp only [hmem]
    rfl

/-- What is declared at an offset is collected in one frame. -/
lemma get?_collectFrames (declarations : List (TimedDeclaration P)) (offset : String) :
    (collectFrames declarations).get? offset =
      if entriesAt declarations offset = [] then none
      else some (.ofList (entriesAt declarations offset)) := by
  induction declarations using List.reverseRecOn with
  | nil => rfl
  | append_singleton declarations d ih =>
    rw [collectFrames_concat, RuleSet.get?_insert, entriesAt_concat]
    by_cases hoffset : d.offset = offset
    · subst hoffset
      -- an offset that is new has no frame yet, which is as good as an empty one
      have hbefore : ((collectFrames declarations).get? d.offset).getD .empty =
          .ofList (entriesAt declarations d.offset) := by
        rw [ih]
        split
        · rename_i hnil
          rw [hnil]
          rfl
        · rfl
      rw [if_pos rfl, if_pos rfl, hbefore, if_neg (by simp), OrderedMap.ofList_concat]
    · rw [if_neg hoffset, if_neg hoffset, ih]

/-! ### The block of a timeline -/

/-- The offsets of a timeline's block are those at which something is declared. -/
lemma keys_frameEntries (timeline : Definition P) :
    timeline.frameEntries.map Prod.fst =
      (timeline.declarations.map TimedDeclaration.offset).eraseDups := by
  rw [← selectors_collectFrames, ← frames_eq_collectFrames]
  simp [Definition.frameEntries, RuleSet.selectors, OrderedMap.keys]

/-- The frames of a timeline repeat no offset. -/
lemma nodup_frameEntries (timeline : Definition P) :
    (timeline.frameEntries.map Prod.fst).Nodup := by
  rw [keys_frameEntries]
  exact OrderedMap.nodup_eraseDups _

/-- A timeline has no frame if and only if it declares nothing. -/
lemma frameEntries_eq_nil_iff {timeline : Definition P} :
    timeline.frameEntries = [] ↔ timeline.declarations = [] := by
  have hkeys := keys_frameEntries timeline
  constructor
  · intro h
    rw [h, List.map_nil] at hkeys
    refine List.eq_nil_iff_forall_not_mem.mpr fun d hd => ?_
    have hoffset : d.offset ∈ (timeline.declarations.map TimedDeclaration.offset).eraseDups :=
      List.mem_eraseDups.mpr (List.mem_map_of_mem hd)
    rw [← hkeys] at hoffset
    exact List.not_mem_nil hoffset
  · intro h
    rw [h] at hkeys
    exact List.map_eq_nil_iff.mp hkeys

namespace Definition

/-- The block that a compilation stores collects the declarations of the timeline. -/
lemma hasBlock_ofList (timeline : Definition P) :
    timeline.HasBlock (.ofList timeline.frameEntries) := by
  have hofList : OrderedMap.ofList timeline.frameEntries = ⟨timeline.frameEntries⟩ :=
    OrderedMap.ofList_of_nodup (nodup_frameEntries timeline)
  rw [hofList]
  have hkeys : (OrderedMap.mk timeline.frameEntries).keys =
      (timeline.declarations.map TimedDeclaration.offset).eraseDups := keys_frameEntries timeline
  refine ⟨hkeys, fun offset hoffset => ?_⟩
  have hdeclared : offset ∈ timeline.declarations.map TimedDeclaration.offset := by
    rw [hkeys] at hoffset
    exact List.mem_eraseDups.mp hoffset
  have hsome : entriesAt timeline.declarations offset ≠ [] := fun hnil =>
    entriesAt_eq_nil_iff.mp hnil hdeclared
  refine ⟨.ofList (entriesAt timeline.declarations offset), ?_, OrderedMap.keys_ofList _,
    fun property => OrderedMap.get?_ofList property _⟩
  calc (OrderedMap.mk timeline.frameEntries).get? offset
      = (timeline.frames.get? offset).map RuleValue.frame :=
        OrderedMap.get?_mapKeyed (fun _ => RuleValue.frame) timeline.frames.blocks offset
    _ = some (.frame (.ofList (entriesAt timeline.declarations offset))) := by
        rw [frames_eq_collectFrames, get?_collectFrames, if_neg hsome, Option.map_some]

/-- There is only one block that collects the declarations of a timeline. -/
lemma HasBlock.unique {timeline : Definition P} {block block' : Declarations P}
    (h : timeline.HasBlock block) (h' : timeline.HasBlock block') : block = block' := by
  have hkeys : block.keys = block'.keys := h.offsets.trans h'.offsets.symm
  refine (OrderedMap.distinct_of_keys_eq h.offsets).ext (OrderedMap.distinct_of_keys_eq h'.offsets)
    hkeys fun offset hoffset => ?_
  obtain ⟨frame, hframe, hproperties, hvalues⟩ := h.frames offset hoffset
  obtain ⟨frame', hframe', hproperties', hvalues'⟩ := h'.frames offset (hkeys ▸ hoffset)
  have hsame : frame = frame' := by
    refine (OrderedMap.distinct_of_keys_eq hproperties).ext
      (OrderedMap.distinct_of_keys_eq hproperties') (hproperties.trans hproperties'.symm) ?_
    intro property _
    exact (hvalues property).trans (hvalues' property).symm
  rw [hframe, hframe', hsame]

/-- The block that a compilation stores is the one that collects the declarations. -/
lemma hasBlock_iff {timeline : Definition P} {block : Declarations P} :
    timeline.HasBlock block ↔ block = .ofList timeline.frameEntries := by
  constructor
  · intro h
    exact h.unique timeline.hasBlock_ofList
  · rintro rfl
    exact timeline.hasBlock_ofList

/-- The block of a timeline, if it declares anything. -/
def block? (timeline : Definition P) : Option (Declarations P) :=
  if timeline.frameEntries = [] then none else some (.ofList timeline.frameEntries)

/-- The block of a timeline that declares something. -/
lemma block?_of_declarations_ne_nil {timeline : Definition P} (h : timeline.declarations ≠ []) :
    timeline.block? = some (.ofList timeline.frameEntries) :=
  if_neg (mt frameEntries_eq_nil_iff.mp h)

/-- A timeline that declares nothing has no block. -/
lemma block?_of_declarations_eq_nil {timeline : Definition P} (h : timeline.declarations = []) :
    timeline.block? = none := if_pos (frameEntries_eq_nil_iff.mpr h)

end Definition

end Restyle
