import Restyle.Proofs.Compilation.Overlap
import Restyle.Proofs.Compilation.Renaming
import Restyle.Proofs.Roles

/-!
# Two spellings of one heading

A keyframes block may be given under its heading in full or, in short, under an at sign and the name
of the animation. A block takes the place of every earlier one with its heading, so where the two
spellings have one heading, only the later of two blocks counts, whatever else is declared before,
between and after them (`compile_replaced`).

The short spelling is not always expanded. A key that starts like a heading is taken for one, and so
is the short spelling of a name that starts with `keyframes`. Then the two spellings have different
headings, and both blocks are kept (`compile_spellings`).
-/

namespace Restyle

variable {P : Type}

/-! ### Rule sets that agree apart from one heading -/

namespace RuleSet

variable {rules rules' : RuleSet P} {heading selector : String}

lemma eraseSelector_insertAll_self (entries : List (String × RuleValue P)) :
    (rules.insertAll selector entries).eraseSelector selector = rules.eraseSelector selector := by
  by_cases hentries : entries = []
  · subst hentries
    rfl
  · rw [insertAll_eq _ _ hentries]
    exact congrArg mk OrderedMap.erase_insert_self

lemma eraseSelector_insertAll_of_ne (h : selector ≠ heading)
    (entries : List (String × RuleValue P)) :
    (rules.insertAll selector entries).eraseSelector heading =
      (rules.eraseSelector heading).insertAll selector entries := by
  by_cases hentries : entries = []
  · subst hentries
    rfl
  · rw [insertAll_eq _ _ hentries, insertAll_eq _ _ hentries, get?_eraseSelector, if_neg h.symm]
    exact congrArg mk (OrderedMap.erase_insert_of_ne h)

lemma eraseSelector_erase_self (property : String) :
    (rules.erase selector property).eraseSelector selector = rules.eraseSelector selector := by
  obtain ⟨-, heq⟩ | ⟨block, -, ⟨-, heq⟩ | ⟨-, heq⟩⟩ := erase_cases rules selector property
  · rw [heq]
  · rw [heq]
    exact congrArg mk OrderedMap.erase_erase
  · rw [heq]
    exact congrArg mk OrderedMap.erase_insert_self

lemma eraseSelector_erase_of_ne (h : selector ≠ heading) (property : String) :
    (rules.erase selector property).eraseSelector heading =
      (rules.eraseSelector heading).erase selector property := by
  unfold erase
  rw [get?_eraseSelector, if_neg h.symm]
  cases rules.get? selector with
  | none => rfl
  | some block =>
    simp only
    split
    · exact congrArg mk OrderedMap.erase_comm
    · exact congrArg mk (OrderedMap.erase_insert_of_ne h)

/-- Two rule sets are the same but for the block under a heading. -/
def AgreeApart (heading : String) (rules rules' : RuleSet P) : Prop :=
  rules.eraseSelector heading = rules'.eraseSelector heading

namespace AgreeApart

lemma insertAll (h : AgreeApart heading rules rules') (selector : String)
    (entries : List (String × RuleValue P)) :
    AgreeApart heading (rules.insertAll selector entries) (rules'.insertAll selector entries) := by
  unfold AgreeApart at h ⊢
  by_cases hselector : selector = heading
  · subst hselector
    rw [eraseSelector_insertAll_self, eraseSelector_insertAll_self, h]
  · rw [eraseSelector_insertAll_of_ne hselector, eraseSelector_insertAll_of_ne hselector, h]

lemma erase (h : AgreeApart heading rules rules') (selector property : String) :
    AgreeApart heading (rules.erase selector property) (rules'.erase selector property) := by
  unfold AgreeApart at h ⊢
  by_cases hselector : selector = heading
  · subst hselector
    rw [eraseSelector_erase_self, eraseSelector_erase_self, h]
  · rw [eraseSelector_erase_of_ne hselector, eraseSelector_erase_of_ne hselector, h]

lemma eraseSelector (h : AgreeApart heading rules rules') (selector : String) :
    AgreeApart heading (rules.eraseSelector selector) (rules'.eraseSelector selector) := by
  have hcomm : ∀ r : RuleSet P, (r.eraseSelector selector).eraseSelector heading =
      (r.eraseSelector heading).eraseSelector selector := fun _ =>
    congrArg mk OrderedMap.erase_comm
  unfold AgreeApart at h ⊢
  rw [hcomm, hcomm, h]

/-- A block that is put under the heading is all that there is, so what stood there does not
matter. -/
lemma putFrames_eq (h : AgreeApart heading rules rules') (timeline : Definition P) :
    rules.putFrames heading timeline = rules'.putFrames heading timeline := by
  unfold AgreeApart at h
  rw [RuleSet.putFrames, RuleSet.putFrames, h]

end AgreeApart

/-- A block that is put under a heading changes nothing apart from it. -/
lemma agreeApart_putFrames (rules : RuleSet P) (heading : String) (timeline : Definition P) :
    AgreeApart heading (rules.putFrames heading timeline) rules :=
  (eraseSelector_insertAll_self _).trans (congrArg mk OrderedMap.erase_erase)

lemma agreeApart_eraseSelector (rules : RuleSet P) (heading : String) :
    AgreeApart heading (rules.eraseSelector heading) rules :=
  congrArg mk OrderedMap.erase_erase

end RuleSet

/-! ### Only the latest block under a heading counts -/

namespace Compilation

/-- Two compilations are the same but for the blocks under a heading. -/
structure AgreeApart (heading : String) (c c' : Compilation P) : Prop where
  /-- The fixed rules are the same. -/
  staticRules : c.staticRules = c'.staticRules
  /-- The fixed keyframes are the same but for the heading. -/
  staticKeyframes : RuleSet.AgreeApart heading c.staticKeyframes c'.staticKeyframes
  /-- The dynamic rules are the same but for the heading. -/
  dynamicRules : RuleSet.AgreeApart heading c.dynamicRules c'.dynamicRules

/-- A keyframes block changes nothing apart from its heading. -/
lemma agreeApart_record_keyframes (c : Compilation P) (parent name : String)
    (timeline : Definition P) :
    AgreeApart (keyframesHeading name) (c.record (.keyframes parent name timeline)) c := by
  cases hd : timeline.isDynamicTimeline with
  | true =>
    rw [record_keyframes_of_dynamic c parent name hd]
    exact ⟨rfl, RuleSet.agreeApart_eraseSelector .., RuleSet.agreeApart_putFrames ..⟩
  | false =>
    rw [record_keyframes_of_static c parent name hd]
    exact ⟨rfl, RuleSet.agreeApart_putFrames .., RuleSet.agreeApart_eraseSelector ..⟩

namespace AgreeApart

variable {heading : String} {c c' : Compilation P}

/-- One more event, whichever it is, brings no difference in. -/
lemma record (h : AgreeApart heading c c') (event : Event P) :
    AgreeApart heading (c.record event) (c'.record event) := by
  cases event with
  | fixed s p value =>
    exact ⟨congrArg (RuleSet.insert · s p (.fixed value)) h.staticRules, h.staticKeyframes,
      h.dynamicRules.erase s p⟩
  | computed s p producer =>
    exact ⟨congrArg (RuleSet.erase · s p) h.staticRules, h.staticKeyframes,
      h.dynamicRules.insertAll s [(p, .computed producer)]⟩
  | keyframes parent name timeline =>
    cases hd : timeline.isDynamicTimeline with
    | true =>
      rw [record_keyframes_of_dynamic c parent name hd,
        record_keyframes_of_dynamic c' parent name hd]
      exact ⟨h.staticRules, h.staticKeyframes.eraseSelector _,
        (h.dynamicRules.eraseSelector _).insertAll _ _⟩
    | false =>
      rw [record_keyframes_of_static c parent name hd, record_keyframes_of_static c' parent name hd]
      exact ⟨h.staticRules, (h.staticKeyframes.eraseSelector _).insertAll _ _,
        h.dynamicRules.eraseSelector _⟩

lemma foldl_record (h : AgreeApart heading c c') (events : List (Event P)) :
    AgreeApart heading (events.foldl Compilation.record c)
      (events.foldl Compilation.record c') := by
  induction events generalizing c c' with
  | nil => exact h
  | cons event rest ih => exact ih (h.record event)

/-- A block under the heading settles all differences. -/
lemma record_keyframes_eq {name : String} (h : AgreeApart (keyframesHeading name) c c')
    (parent : String) (timeline : Definition P) :
    c.record (.keyframes parent name timeline) = c'.record (.keyframes parent name timeline) := by
  cases hd : timeline.isDynamicTimeline with
  | true =>
    rw [record_keyframes_of_dynamic c parent name hd, record_keyframes_of_dynamic c' parent name hd,
      h.staticRules, h.dynamicRules.putFrames_eq, h.staticKeyframes]
  | false =>
    rw [record_keyframes_of_static c parent name hd, record_keyframes_of_static c' parent name hd,
      h.staticRules, h.staticKeyframes.putFrames_eq, h.dynamicRules]

end AgreeApart

/-- A block leaves nothing behind if a later one has its heading. -/
lemma foldl_record_replaced (c : Compilation P) {parent parent' name name' : String}
    (hname : keyframesHeading name = keyframesHeading name') (timeline timeline' : Definition P)
    (between : List (Event P)) :
    (between ++ [Event.keyframes parent' name' timeline']).foldl Compilation.record
        (c.record (.keyframes parent name timeline)) =
      (between ++ [Event.keyframes parent' name' timeline']).foldl Compilation.record c := by
  have hbefore :
      AgreeApart (keyframesHeading name') (c.record (.keyframes parent name timeline)) c :=
    hname ▸ c.agreeApart_record_keyframes parent name timeline
  rw [List.foldl_concat, List.foldl_concat]
  exact (hbefore.foldl_record between).record_keyframes_eq parent' timeline'

end Compilation

/-- The walk of a timeline under a keyframes key is one event. -/
lemma walkEntries_keyframes {key : String} (h : Role.ofKey key = .keyframes) (selector : String)
    (timeline : Definition P) (rest : List (String × Entry P)) :
    walkEntries selector ((key, .nested timeline) :: rest) =
      .keyframes selector key timeline :: walkEntries selector rest := by
  rw [walkEntries, Entry.walk, h]
  rfl

/-- Of two blocks with one heading the earlier one can be left out, whatever else a definition
has. -/
theorem compile_replaced {key key' : String} (hkey : Role.ofKey key = .keyframes)
    (hkey' : Role.ofKey key' = .keyframes) (h : keyframesHeading key = keyframesHeading key')
    (base : String) (timeline timeline' : Definition P)
    (before between after : List (String × Entry P)) :
    Definition.compile
        ⟨before ++ (key, .nested timeline) ::
          (between ++ (key', .nested timeline') :: after)⟩ base =
      Definition.compile ⟨before ++ (between ++ (key', .nested timeline') :: after)⟩ base := by
  have hsplit : ∀ c : Compilation P,
      (walkEntries base (between ++ (key', .nested timeline') :: after)).foldl
          Compilation.record c =
        (walkEntries base after).foldl Compilation.record
          ((walkEntries base between ++ [Event.keyframes base key' timeline']).foldl
            Compilation.record c) := by
    intro c
    rw [walkEntries_append, walkEntries_keyframes hkey', ← List.foldl_append, List.append_assoc,
      List.singleton_append]
  unfold Definition.compile Definition.walk
  rw [walkEntries_append base before, walkEntries_append base before, List.foldl_append,
    List.foldl_append, walkEntries_keyframes hkey, List.foldl_cons, hsplit, hsplit,
    Compilation.foldl_record_replaced _ h]

/-! ### Short and full spelling -/

/-- The short spelling of the heading for an animation. -/
def shortKey (name : String) : String := "@" ++ name

/-- The heading for an animation in full. -/
def fullKey (name : String) : String := keyframesMark ++ " " ++ name

/-- Whether the short spelling of a name starts like a heading in full. -/
def LooksFull (name : String) : Prop := "keyframes".toList <+: name.toList

instance (name : String) : Decidable (LooksFull name) :=
  inferInstanceAs (Decidable ("keyframes".toList <+: name.toList))

/-- Two keys are the two spellings of the heading for an animation, in either order. -/
def AreSpellings (name key key' : String) : Prop :=
  (key = shortKey name ∧ key' = fullKey name) ∨ (key = fullKey name ∧ key' = shortKey name)

section Spelling

variable {name key key' : String}

lemma toList_shortKey (name : String) : (shortKey name).toList = '@' :: name.toList := by
  rw [shortKey, String.toList_append]
  rfl

lemma toList_fullKey (name : String) :
    (fullKey name).toList = '@' :: ("keyframes ".toList ++ name.toList) := by
  rw [fullKey, String.toList_append, String.toList_append]
  rfl

/-- The full spelling is kept as it is. -/
lemma keyframesHeading_fullKey (name : String) :
    keyframesHeading (fullKey name) = fullKey name := by
  have hprefix : keyframesMark.toList.isPrefixOf (fullKey name).toList = true := by
    rw [List.isPrefixOf_iff_prefix, fullKey, String.toList_append, String.toList_append,
      List.append_assoc]
    exact List.prefix_append _ _
  rw [keyframesHeading, if_pos hprefix]

/-- The short spelling starts like a heading if and only if the name starts with `keyframes`. -/
lemma isPrefixOf_shortKey_iff :
    keyframesMark.toList.isPrefixOf (shortKey name).toList = true ↔ LooksFull name := by
  have hmark : keyframesMark.toList = '@' :: "keyframes".toList := rfl
  rw [List.isPrefixOf_iff_prefix, toList_shortKey, hmark, List.cons_prefix_cons, LooksFull]
  exact and_iff_right rfl

/-- A short spelling that starts like a heading is kept. -/
lemma keyframesHeading_shortKey_of_looksFull (h : LooksFull name) :
    keyframesHeading (shortKey name) = shortKey name := if_pos (isPrefixOf_shortKey_iff.mpr h)

/-- Any other one is expanded. -/
lemma keyframesHeading_shortKey (hname : name.toList.head? ≠ some '@') (h : ¬LooksFull name) :
    keyframesHeading (shortKey name) = fullKey name := by
  have hkept : name.toList.dropWhile (· == '@') = name.toList := by
    cases hcs : name.toList with
    | nil => rfl
    | cons c cs =>
      have hc : c ≠ '@' := fun hc => hname (by rw [hcs, hc, List.head?_cons])
      rw [List.dropWhile_cons_of_neg (by simpa using hc)]
  rw [keyframesHeading, if_neg (mt isPrefixOf_shortKey_iff.mp h), toList_shortKey,
    List.dropWhile_cons_of_pos rfl, hkept, String.ofList_toList]
  rfl

/-- The full spelling is the longer one. -/
lemma shortKey_ne_fullKey (name : String) : shortKey name ≠ fullKey name := by
  intro h
  have hlength := congrArg (fun key => key.toList.length) h
  simp only [toList_shortKey, toList_fullKey, List.length_cons, List.length_append] at hlength
  have hmark : "keyframes ".toList.length = 10 := rfl
  omega

namespace AreSpellings

lemma roles (h : AreSpellings name key key') :
    Role.ofKey key = .keyframes ∧ Role.ofKey key' = .keyframes := by
  have hshort := Role.ofKey_of_at (toList_shortKey name)
  have hfull := Role.ofKey_of_at (toList_fullKey name)
  rcases h with ⟨rfl, rfl⟩ | ⟨rfl, rfl⟩
  · exact ⟨hshort, hfull⟩
  · exact ⟨hfull, hshort⟩

/-- Both spellings have the heading in full if the short one does not look like it. -/
lemma headings (h : AreSpellings name key key') (hname : name.toList.head? ≠ some '@')
    (hlooks : ¬LooksFull name) :
    keyframesHeading key = fullKey name ∧ keyframesHeading key' = fullKey name := by
  have hshort := keyframesHeading_shortKey hname hlooks
  rcases h with ⟨rfl, rfl⟩ | ⟨rfl, rfl⟩
  · exact ⟨hshort, keyframesHeading_fullKey name⟩
  · exact ⟨keyframesHeading_fullKey name, hshort⟩

/-- Otherwise each spelling is a heading of its own. -/
lemma headings_of_looksFull (h : AreSpellings name key key') (hlooks : LooksFull name) :
    keyframesHeading key = key ∧ keyframesHeading key' = key' ∧ key ≠ key' := by
  have hshort := keyframesHeading_shortKey_of_looksFull hlooks
  rcases h with ⟨rfl, rfl⟩ | ⟨rfl, rfl⟩
  · exact ⟨hshort, keyframesHeading_fullKey name, shortKey_ne_fullKey name⟩
  · exact ⟨keyframesHeading_fullKey name, hshort, (shortKey_ne_fullKey name).symm⟩

end AreSpellings

end Spelling

/-! ### Definitions of two blocks -/

/-- A timeline without a block on either side declares nothing. -/
lemma Definition.declarations_eq_nil_of_blocks {timeline : Definition P}
    (hstatic : timeline.staticBlock? = none) (hdynamic : timeline.dynamicBlock? = none) :
    timeline.declarations = [] := by
  by_contra hdeclares
  by_cases hproduces : timeline.ProducesValue
  · obtain ⟨block, hblock⟩ := hproduces.dynamicBlock?
    rw [hdynamic] at hblock
    cases hblock
  · exact staticBlock?_ne_none_iff.mpr ⟨hdeclares, hproduces⟩ hstatic

/-- A compilation has under a heading what a timeline has on the fixed side and on the dynamic
one. -/
structure Compilation.Shows (c : Compilation P) (heading : String) (timeline : Definition P) :
    Prop where
  /-- The fixed keyframes have what the timeline has there. -/
  staticKeyframes : c.staticKeyframes.get? heading = timeline.staticBlock?
  /-- The dynamic rules have what the timeline has there. -/
  dynamicRules : c.dynamicRules.get? heading = timeline.dynamicBlock?

/-- If nothing is declared in plain, a compilation has under each heading what the latest timeline
has there. -/
lemma houses_compile (d : Definition P) (base : String)
    (h : ∀ event ∈ d.walk base, event.plainSelector? = none) (heading : String) :
    (d.compile base).Houses heading (latestTimeline heading (d.walk base)) :=
  Compilation.houses_foldl_record fun event hevent => by simp [h event hevent]

namespace Definition

/-- The definition that has one keyframes block and nothing else. -/
def lone (key : String) (timeline : Definition P) : Definition P := ⟨[(key, .nested timeline)]⟩

/-- The definition that has two keyframes blocks and nothing else. -/
def pair (key : String) (timeline : Definition P) (key' : String) (timeline' : Definition P) :
    Definition P := ⟨[(key, .nested timeline), (key', .nested timeline')]⟩

section Blocks

variable {key key' : String} (hkey : Role.ofKey key = .keyframes)
  (hkey' : Role.ofKey key' = .keyframes) (timeline timeline' : Definition P) (base : String)

include hkey in
lemma walk_lone : (lone key timeline).walk base = [.keyframes base key timeline] := by
  rw [walk, lone, walkEntries_keyframes hkey]
  rfl

include hkey hkey' in
lemma walk_pair : (pair key timeline key' timeline').walk base =
    [.keyframes base key timeline, .keyframes base key' timeline'] := by
  rw [walk, pair, walkEntries_keyframes hkey, walkEntries_keyframes hkey']
  rfl

include hkey hkey' in
/-- Two blocks with different headings are both kept. -/
lemma shows_pair (h : keyframesHeading key ≠ keyframesHeading key') :
    ((pair key timeline key' timeline').compile base).Shows (keyframesHeading key) timeline ∧
      ((pair key timeline key' timeline').compile base).Shows
        (keyframesHeading key') timeline' := by
  have hwalk := walk_pair hkey hkey' timeline timeline' base
  have hplain : ∀ event ∈ (pair key timeline key' timeline').walk base,
      event.plainSelector? = none := by simp [hwalk, Event.plainSelector?]
  have hfirst := houses_compile _ _ hplain (keyframesHeading key)
  have hsecond := houses_compile _ _ hplain (keyframesHeading key')
  simp only [hwalk, latestTimeline, List.filterMap, Event.timelineUnder?, h, h.symm, if_true,
    if_false] at hfirst hsecond
  exact ⟨⟨hfirst.staticKeyframes, hfirst.dynamicRules⟩,
    ⟨hsecond.staticKeyframes, hsecond.dynamicRules⟩⟩

include hkey in
/-- A lone block has no heading but its own. -/
lemma get?_lone {heading : String} (h : keyframesHeading key ≠ heading) :
    ((lone key timeline).compile base).staticKeyframes.get? heading = none ∧
      ((lone key timeline).compile base).dynamicRules.get? heading = none := by
  have hwalk := walk_lone hkey timeline base
  have hhouses := houses_compile (lone key timeline) base
    (by simp [hwalk, Event.plainSelector?]) heading
  simp only [hwalk, latestTimeline, List.filterMap, Event.timelineUnder?, h, if_false] at hhouses
  exact ⟨hhouses.staticKeyframes, hhouses.dynamicRules⟩

include hkey hkey' in
/-- An earlier block that declares nothing can be left out. -/
lemma compile_pair_of_declarations_eq_nil (h : timeline.declarations = []) :
    (pair key timeline key' timeline').compile base = (lone key' timeline').compile base := by
  have hput : ∀ heading, (RuleSet.empty : RuleSet P).putFrames heading timeline = .empty := by
    intro heading
    change ((RuleSet.empty : RuleSet P).eraseSelector heading).insertAll heading
      timeline.frameEntries = .empty
    rw [frameEntries_eq_nil_iff.mpr h]
    rfl
  have hrecord : Compilation.empty.record (.keyframes base key timeline) = .empty := by
    rw [Compilation.record]
    split
    · exact congrArg (Compilation.mk _ _) (hput _)
    · exact congrArg (Compilation.mk _ · _) (hput _)
  rw [compile, compile, walk_pair hkey hkey', walk_lone hkey', List.foldl_cons, hrecord]

include hkey hkey' in
/-- With different headings the earlier of two blocks can only be left out if it declares
nothing. -/
lemma declarations_eq_nil_of_compile_pair (hne : keyframesHeading key ≠ keyframesHeading key')
    (h : (pair key timeline key' timeline').compile base = (lone key' timeline').compile base) :
    timeline.declarations = [] := by
  obtain ⟨hstatic, hdynamic⟩ := (shows_pair hkey hkey' timeline timeline' base hne).1
  obtain ⟨hnostatic, hnodynamic⟩ := get?_lone hkey' timeline' base hne.symm
  rw [h, hnostatic] at hstatic
  rw [h, hnodynamic] at hdynamic
  exact declarations_eq_nil_of_blocks hstatic.symm hdynamic.symm

end Blocks

end Definition

/-- Consider two blocks for one animation in the two spellings, in either order. Unless the name of
the animation starts with `keyframes`, both have the heading in full: the earlier one can be left
out of any definition, and two such blocks alone have no other heading. If the name does start so,
each spelling is a heading of its own and both blocks are kept. Hence the earlier one of the two can
be left out if and only if the name does not start so or the block declares nothing. -/
theorem compile_spellings (base name key key' : String) (timeline timeline' : Definition P)
    (hname : name.toList.head? ≠ some '@') (hkeys : AreSpellings name key key') :
    ((Definition.pair key timeline key' timeline').compile base =
        (Definition.lone key' timeline').compile base ↔
      ¬LooksFull name ∨ timeline.declarations = []) ∧
    (¬LooksFull name →
      (∀ before between after : List (String × Entry P),
        Definition.compile ⟨before ++ (key, .nested timeline) ::
            (between ++ (key', .nested timeline') :: after)⟩ base =
          Definition.compile ⟨before ++ (between ++ (key', .nested timeline') :: after)⟩ base) ∧
      ((Definition.pair key timeline key' timeline').compile base).Within
        fun selector => selector = fullKey name) ∧
    (LooksFull name → key ≠ key' ∧
      ((Definition.pair key timeline key' timeline').compile base).Shows key timeline ∧
      ((Definition.pair key timeline key' timeline').compile base).Shows key' timeline') := by
  obtain ⟨hkey, hkey'⟩ := hkeys.roles
  have hreplaced : ¬LooksFull name → ∀ before between after : List (String × Entry P),
      Definition.compile ⟨before ++ (key, .nested timeline) ::
          (between ++ (key', .nested timeline') :: after)⟩ base =
        Definition.compile ⟨before ++ (between ++ (key', .nested timeline') :: after)⟩ base := by
    intro hlooks before between after
    obtain ⟨hfirst, hsecond⟩ := hkeys.headings hname hlooks
    exact compile_replaced hkey hkey' (hfirst.trans hsecond.symm) base timeline timeline' before
      between after
  refine ⟨⟨fun heq => ?_, fun h => ?_⟩, fun hlooks => ⟨hreplaced hlooks, ?_⟩, fun hlooks => ?_⟩
  · by_cases hlooks : LooksFull name
    · obtain ⟨hfirst, hsecond, hne⟩ := hkeys.headings_of_looksFull hlooks
      exact Or.inr (Definition.declarations_eq_nil_of_compile_pair hkey hkey' timeline timeline'
        base (by rwa [hfirst, hsecond]) heq)
    · exact Or.inl hlooks
  · rcases h with hlooks | hnothing
    · exact hreplaced hlooks [] [] []
    · exact Definition.compile_pair_of_declarations_eq_nil hkey hkey' timeline timeline' base
        hnothing
  · obtain ⟨hfirst, hsecond⟩ := hkeys.headings hname hlooks
    refine Compilation.within_foldl_record fun event hevent => ?_
    rw [Definition.walk_pair hkey hkey'] at hevent
    rcases List.mem_pair.mp hevent with rfl | rfl
    · exact hfirst
    · exact hsecond
  · obtain ⟨hfirst, hsecond, hne⟩ := hkeys.headings_of_looksFull hlooks
    have hshows := Definition.shows_pair hkey hkey' timeline timeline' base
      (by rwa [hfirst, hsecond])
    rw [hfirst, hsecond] at hshows
    exact ⟨hne, hshows⟩

/-- A timeline with one fixed frame. -/
def appearing : Definition Unit := ⟨[("from", .nested ⟨[("opacity", .fixed (.text "0"))]⟩)]⟩

/-- A timeline with one fixed frame at another offset. -/
def appeared : Definition Unit := ⟨[("to", .nested ⟨[("opacity", .fixed (.text "1"))]⟩)]⟩

/-- Of two blocks for the animation `fade` only the later one counts. -/
theorem compile_spellings_fade :
    "fade".toList.head? ≠ some '@' ∧ AreSpellings "fade" "@fade" "@keyframes fade" ∧
    ¬LooksFull "fade" ∧
    (Definition.pair "@fade" appearing "@keyframes fade" appeared).compile ".A" =
      (Definition.lone "@keyframes fade" appeared).compile ".A" := by
  have hname : "fade".toList.head? ≠ some '@' := by decide
  have hkeys : AreSpellings "fade" "@fade" "@keyframes fade" := Or.inl ⟨by decide, by decide⟩
  have hlooks : ¬LooksFull "fade" := by decide
  exact ⟨hname, hkeys, hlooks,
    (compile_spellings ".A" "fade" "@fade" "@keyframes fade" appearing appeared hname hkeys).1.mpr
      (Or.inl hlooks)⟩

/-- The spellings for the animation `keyframesX` have different headings, so that both blocks are
kept. -/
theorem not_replaced_keyframesX :
    "keyframesX" ≠ "" ∧ ' ' ∉ "keyframesX".toList ∧ '@' ∉ "keyframesX".toList ∧
    AreSpellings "keyframesX" "@keyframesX" "@keyframes keyframesX" ∧
    ((Definition.pair "@keyframesX" appearing "@keyframes keyframesX" appeared).compile
      ".A").staticKeyframes.selectors = ["@keyframesX", "@keyframes keyframesX"] ∧
    (Definition.pair "@keyframesX" appearing "@keyframes keyframesX" appeared).compile ".A" ≠
      (Definition.lone "@keyframes keyframesX" appeared).compile ".A" := by
  have hselectors : ((Definition.pair "@keyframesX" appearing "@keyframes keyframesX"
      appeared).compile ".A").staticKeyframes.selectors =
        ["@keyframesX", "@keyframes keyframesX"] := rfl
  have hlone : ((Definition.lone "@keyframes keyframesX" appeared).compile
      ".A").staticKeyframes.selectors = ["@keyframes keyframesX"] := rfl
  refine ⟨by decide, by decide, by decide, Or.inl ⟨by decide, by decide⟩, hselectors, fun h => ?_⟩
  rw [h, hlone] at hselectors
  exact absurd hselectors (by decide)

end Restyle
