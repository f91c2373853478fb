import Restyle.Proofs.Compilation.Renaming
import Restyle.Proofs.Walk.Selectors

/-!
# One definition under several bases

The base of a walk enters the selectors of its events and nothing else. A key either puts something
behind the selector at hand or replaces it, so a selector without an absolute key on its path is the
base with a suffix that depends on the path alone, and one with an absolute key is the same for all
bases: it starts anew at the innermost such key.

A compilation under another base therefore records the same events at other selectors. The rule
sets themselves need not be the same up to names: the base may be the selector of an absolute key,
and then two blocks come together that stay apart under another base (`not_renamed_clashing`). As
long as the selectors which are not absolute run into the same absolute selectors and headings under
both bases, one compilation is the other one with these selectors renamed (`renamed_compile`).
`Definition.SameCoincidences` is this condition.
-/

namespace Restyle

variable {P : Type}

/-! ### Selectors grow from the base -/

lemma qualify_append (base selector suffix : String) :
    qualify (base ++ selector) suffix = base ++ qualify selector suffix := by
  unfold qualify
  split
  · split
    · simp only [String.append_assoc]
    · exact String.append_assoc
  · exact String.append_assoc

lemma descendant_append (base parent key : String) :
    descendant (base ++ parent) key = base ++ descendant parent key := by
  unfold descendant
  split
  · split
    · simp only [String.append_assoc]
    · simp only [String.append_assoc]
  · simp only [String.append_assoc]

/-- A key that is not absolute puts something behind the selector at hand. -/
lemma enter_append {key : String} (h : ∀ other, key ≠ "=" ++ other)
    (base selector : String) : enter (base ++ selector) key = base ++ enter selector key := by
  unfold enter
  cases hrole : Role.ofKey key with
  | qualifier suffix => exact qualify_append ..
  | keyframes => rfl
  | absolute other => exact absurd (Role.ofKey_eq_absolute_iff.mp hrole) (h other)
  | descendant => exact descendant_append ..

/-- A path without absolute keys puts something behind the selector at hand. -/
lemma selectorAlong_base {path : List String}
    (h : ∀ key ∈ path, ∀ other, key ≠ "=" ++ other) (base selector : String) :
    selectorAlong (base ++ selector) path = base ++ selectorAlong selector path := by
  induction path generalizing selector with
  | nil => rfl
  | cons key path ih =>
    obtain ⟨hkey, hpath⟩ := List.forall_mem_cons.mp h
    rw [selectorAlong_cons, enter_append hkey, ih hpath, selectorAlong_cons]

/-- What stands before an absolute key does not matter. -/
lemma selectorAlong_of_absolute (base other : String) (outer inner : List String) :
    selectorAlong base (outer ++ ("=" ++ other) :: inner) = selectorAlong other inner := by
  rw [selectorAlong_append, selectorAlong_cons, enter_absolute]

namespace Site

/-- Some key on the path starts with an equals sign. -/
def IsAbsolute (site : Site P) : Prop := ∃ other, "=" ++ other ∈ site.path

/-- Below an absolute key the selector is the same for all bases. -/
lemma IsAbsolute.exists_selector {site : Site P} (h : site.IsAbsolute) :
    ∃ selector, ∀ base, selectorAlong base site.path = selector := by
  obtain ⟨other, hkey⟩ := h
  obtain ⟨outer, inner, hpath⟩ := List.append_of_mem hkey
  refine ⟨selectorAlong other inner, fun base => ?_⟩
  rw [hpath, selectorAlong_of_absolute]

/-- Elsewhere it is the base with a suffix that is the same for all bases. -/
lemma exists_suffix {site : Site P} (h : ¬site.IsAbsolute) :
    ∃ suffix, ∀ base, selectorAlong base site.path = base ++ suffix := by
  have hpath : ∀ key ∈ site.path, ∀ other, key ≠ "=" ++ other :=
    fun key hkey other heq => h ⟨other, heq ▸ hkey⟩
  refine ⟨selectorAlong "" site.path, fun base => ?_⟩
  have hbase := selectorAlong_base hpath base ""
  rwa [String.append_empty] at hbase

/-- What the site is recorded under depends on the base: it is a value without an absolute key on
its path. A timeline is recorded under its heading. -/
def FollowsBase (site : Site P) : Prop :=
  (∀ timeline, site.entry ≠ .nested timeline) ∧ ¬site.IsAbsolute

/-- It is then the base with a suffix that is the same for all bases. -/
lemma FollowsBase.exists_suffix {site : Site P} (h : site.FollowsBase) :
    ∃ suffix, ∀ base, (site.event base).subject = base ++ suffix := by
  obtain ⟨suffix, hsuffix⟩ := Site.exists_suffix h.2
  refine ⟨suffix, fun base => ?_⟩
  rw [← hsuffix]
  unfold event
  cases hentry : site.entry with
  | fixed value => rfl
  | computed producer => rfl
  | nested timeline => exact absurd hentry (h.1 timeline)

/-- Otherwise it is the same for all bases. -/
lemma exists_subject {site : Site P} (h : ¬site.FollowsBase) :
    ∃ subject, ∀ base, (site.event base).subject = subject := by
  have habsolute : (∀ timeline, site.entry ≠ .nested timeline) → site.IsAbsolute := fun hentry =>
    not_not.mp fun hpath => h ⟨hentry, hpath⟩
  unfold event
  cases hentry : site.entry with
  | fixed value => exact (habsolute (by simp [hentry])).exists_selector
  | computed producer => exact (habsolute (by simp [hentry])).exists_selector
  | nested timeline => exact ⟨keyframesHeading site.key, fun base => rfl⟩

end Site

/-! ### Compiling under another base -/

namespace Definition

/-- Where a selector that depends on the base meets one that does not, they meet under both
bases. -/
def SameCoincidences (d : Definition P) (s t : String) : Prop :=
  ∀ x ∈ d.sites, x.FollowsBase → ∀ y ∈ d.sites, ¬y.FollowsBase →
    ((x.event s).subject = (y.event s).subject ↔ (x.event t).subject = (y.event t).subject)

/-- Then any two sites that are recorded under one selector or heading are so under both bases. -/
lemma SameCoincidences.all {d : Definition P} {s t : String} (h : d.SameCoincidences s t)
    {x y : Site P} (hx : x ∈ d.sites) (hy : y ∈ d.sites) :
    (x.event s).subject = (y.event s).subject ↔ (x.event t).subject = (y.event t).subject := by
  by_cases hxbase : x.FollowsBase
  · by_cases hybase : y.FollowsBase
    · obtain ⟨suffix, hsuffix⟩ := hxbase.exists_suffix
      obtain ⟨other, hother⟩ := hybase.exists_suffix
      simp only [hsuffix, hother, String.append_right_inj]
    · exact h x hx hxbase y hy hybase
  · by_cases hybase : y.FollowsBase
    · simpa only [eq_comm] using h y hy hybase x hx hxbase
    · obtain ⟨subject, hsubject⟩ := Site.exists_subject hxbase
      obtain ⟨other, hother⟩ := Site.exists_subject hybase
      simp only [hsubject, hother]

/-- If the same sites coincide under both bases, the selectors under one can be renamed to those
under the other. -/
lemma SameCoincidences.exists_renaming {d : Definition P} {s t : String}
    (h : d.SameCoincidences s t) : ∃ f : String → String,
      ∀ site ∈ d.sites, f (site.event s).subject = (site.event t).subject := by
  -- a subject goes where the first site with it goes; by `h` any other site with it goes there too
  refine ⟨fun z => ((d.sites.find? fun site => (site.event s).subject = z).map
    fun site => (site.event t).subject).getD z, fun site hsite => ?_⟩
  have hfound : (d.sites.find? fun x => (x.event s).subject = (site.event s).subject).isSome :=
    List.find?_isSome.mpr ⟨site, hsite, by simp⟩
  obtain ⟨x, hx⟩ := Option.isSome_iff_exists.mp hfound
  have hsame : (x.event s).subject = (site.event s).subject := by simpa using List.find?_some hx
  beta_reduce
  rw [hx, Option.map_some, Option.getD_some]
  exact (h.all (List.mem_of_find?_eq_some hx) hsite).mp hsame

end Definition

/-- Recording sites under another base is renaming, if the renaming takes their subjects there one
by one. -/
lemma renamed_foldl_record {sites : List (Site P)} {s t : String} {f : String → String}
    (hf : ∀ site ∈ sites, f (site.event s).subject = (site.event t).subject)
    (htells : ∀ x ∈ sites, ∀ y ∈ sites, f (x.event s).subject = f (y.event s).subject →
      (x.event s).subject = (y.event s).subject) :
    ((sites.map (Site.event s)).foldl Compilation.record .empty).renamed f =
      (sites.map (Site.event t)).foldl Compilation.record .empty := by
  -- what is recorded before the last site has subjects of earlier sites only, and `f` tells these
  -- from its own
  induction sites using List.reverseRecOn with
  | nil => rfl
  | append_singleton sites site ih =>
    have hbefore := ih (fun x hx => hf x (List.mem_append_left _ hx))
      fun x hx y hy => htells x (List.mem_append_left _ hx) y (List.mem_append_left _ hy)
    have hsite : site ∈ sites ++ [site] := List.mem_append_right _ List.mem_cons_self
    have hwithin : ((sites.map (Site.event s)).foldl Compilation.record .empty).Within
        fun z => f z = f (site.event s).subject → z = (site.event s).subject := by
      refine Compilation.within_foldl_record fun event hevent => ?_
      obtain ⟨x, hx, rfl⟩ := List.mem_map.mp hevent
      exact htells x (List.mem_append_left _ hx) site hsite
    simp only [List.map_append, List.map_singleton, List.foldl_concat]
    rw [← hbefore]
    exact Compilation.renamed_record hwithin ⟨_, (site.under_event s t).symm⟩ (hf site hsite).symm

/-- Compiling under another base is renaming, if the renaming takes the subjects of all sites
there and the same ones coincide. -/
lemma renamed_compile {d : Definition P} {s t : String} (h : d.SameCoincidences s t)
    {f : String → String}
    (hf : ∀ site ∈ d.sites, f (site.event s).subject = (site.event t).subject) :
    (d.compile s).renamed f = d.compile t := by
  unfold Definition.compile
  rw [d.walk_eq_map_sites, d.walk_eq_map_sites]
  refine renamed_foldl_record hf fun x hx y hy heq => ?_
  rw [hf x hx, hf y hy] at heq
  exact (h.all hx hy).mpr heq

/-- The events of a walk under one base become those under another when each is moved to the
selector of its site. -/
lemma walk_moved (d : Definition P) (s t : String) :
    List.zipWith Event.under (d.sites.map fun site => selectorAlong t site.path) (d.walk s) =
      d.walk t := by
  rw [d.walk_eq_map_sites, d.walk_eq_map_sites, List.zipWith_map, List.zipWith_self]
  exact List.map_congr_left fun site _ => site.under_event s t

/-- What a walk and a compilation make of the base. A walk reports the same sites under every base:
two walks of one definition have the same length, and at each position the same event, possibly at
another selector. At a site below a key with an equals sign in front the selector is the same for
all bases; it starts anew behind the innermost such sign and depends on nothing outside. At any
other site it is the base with one suffix for all bases. A compilation under another base records
the same events in the same order, each moved to the selector that its site has there. If the same
sites coincide under two bases, then the compilation under one is that under the other with
selectors renamed: the renaming exchanges the base in the selectors of values without an absolute
key around them, and leaves all other selectors and the headings as they are. -/
theorem walk_rerooted (d : Definition P) :
    (∀ base, d.walk base = d.sites.map (Site.event base)) ∧
    (∀ s t, (d.walk s).length = (d.walk t).length ∧
      ∀ (i : Nat) event, (d.walk s)[i]? = some event →
        ∃ selector, (d.walk t)[i]? = some (event.under selector)) ∧
    (∀ (i : Nat) site, d.sites[i]? = some site →
      (site.IsAbsolute →
        ∃ selector, ∀ base, ((d.walk base)[i]?).map Event.selector = some selector) ∧
      (¬site.IsAbsolute →
        ∃ suffix, ∀ base, ((d.walk base)[i]?).map Event.selector = some (base ++ suffix)) ∧
      (∀ outer other inner, site.path = outer ++ ("=" ++ other) :: inner →
        ∀ base, ((d.walk base)[i]?).map Event.selector = some (selectorAlong other inner))) ∧
    (∀ s t, d.compile t =
      (List.zipWith Event.under (d.sites.map fun site => selectorAlong t site.path)
        (d.walk s)).foldl Compilation.record .empty) ∧
    (∀ s t, d.SameCoincidences s t → ∃ f : String → String,
      (∀ site ∈ d.sites, site.FollowsBase →
        ∃ suffix, (site.event s).subject = s ++ suffix ∧ f (s ++ suffix) = t ++ suffix) ∧
      (∀ site ∈ d.sites, ¬site.FollowsBase →
        f (site.event s).subject = (site.event s).subject) ∧
      d.compile t = (d.compile s).renamed f) := by
  have hwalk : ∀ base (i : Nat), (d.walk base)[i]? = (d.sites[i]?).map (Site.event base) := by
    intro base i
    rw [d.walk_eq_map_sites, List.getElem?_map]
  have hselector : ∀ (i : Nat) site, d.sites[i]? = some site → ∀ base,
      ((d.walk base)[i]?).map Event.selector = some (selectorAlong base site.path) := by
    intro i site hsite base
    rw [hwalk, hsite, Option.map_some, Option.map_some, Site.selector_event]
  refine ⟨d.walk_eq_map_sites, fun s t => ⟨?_, fun i event hevent => ?_⟩,
    fun i site hsite => ⟨fun h => ?_, fun h => ?_, ?_⟩, fun s t => ?_, fun s t h => ?_⟩
  · rw [d.walk_eq_map_sites, d.walk_eq_map_sites, List.length_map, List.length_map]
  · rw [hwalk] at hevent
    obtain ⟨site, hsite, rfl⟩ := Option.map_eq_some_iff.mp hevent
    refine ⟨selectorAlong t site.path, ?_⟩
    rw [hwalk, hsite, Option.map_some, Site.under_event]
  · obtain ⟨selector, hall⟩ := h.exists_selector
    exact ⟨selector, fun base => by rw [hselector i site hsite, hall]⟩
  · obtain ⟨suffix, hall⟩ := Site.exists_suffix h
    exact ⟨suffix, fun base => by rw [hselector i site hsite, hall]⟩
  · intro outer other inner hpath base
    rw [hselector i site hsite, hpath, selectorAlong_of_absolute]
  · rw [walk_moved]
    rfl
  · obtain ⟨f, hf⟩ := h.exists_renaming
    refine ⟨f, fun site hsite hbase => ?_, fun site hsite hfixed => ?_, (renamed_compile h hf).symm⟩
    · obtain ⟨suffix, hsuffix⟩ := hbase.exists_suffix
      refine ⟨suffix, hsuffix s, ?_⟩
      rw [← hsuffix s, ← hsuffix t, hf site hsite]
    · obtain ⟨subject, hsubject⟩ := Site.exists_subject hfixed
      rw [hf site hsite, hsubject, hsubject]

/-- A definition with a qualified declaration, a block, and a declaration below two absolute
keys. -/
def overlaid : Definition Nat :=
  ⟨[("color", .fixed (.text "red")),
    ("%when::hover", .nested ⟨[("color", .computed 0)]⟩),
    ("=.Overlay", .nested ⟨[("div", .nested ⟨[("=.Top",
      .nested ⟨[("Icon", .nested ⟨[("width", .fixed (.text "1px"))]⟩)]⟩)]⟩)]⟩),
    ("@spin", .nested ⟨[("from", .nested ⟨[("opacity", .computed 1)]⟩)]⟩)]⟩

/-- The third of its sites is below two absolute keys, and its selector starts at the inner one. -/
theorem walk_rerooted_overlaid :
    overlaid.sites.map Site.path =
      [[], ["%when::hover"], ["=.Overlay", "div", "=.Top", "Icon"], []] ∧
    (∀ base, ((overlaid.walk base)[2]?).map Event.selector = some ".Top .Icon") ∧
    (∃ suffix, ∀ base, ((overlaid.walk base)[1]?).map Event.selector = some (base ++ suffix)) ∧
    overlaid.SameCoincidences ".A" ".B" ∧
    ∃ f : String → String, f ".A:hover" = ".B:hover" ∧ f ".Top .Icon" = ".Top .Icon" ∧
      overlaid.compile ".B" = (overlaid.compile ".A").renamed f := by
  have hsites : overlaid.sites =
      [⟨[], "color", .fixed (.text "red")⟩, ⟨["%when::hover"], "color", .computed 0⟩,
        ⟨["=.Overlay", "div", "=.Top", "Icon"], "width", .fixed (.text "1px")⟩,
        ⟨[], "@spin", .nested ⟨[("from", .nested ⟨[("opacity", .computed 1)]⟩)]⟩⟩] := rfl
  have hsame : overlaid.SameCoincidences ".A" ".B" := by
    intro x hx _ y hy _
    rw [hsites] at hx hy
    simp only [List.mem_cons, List.not_mem_nil, or_false] at hx hy
    rcases hx with rfl | rfl | rfl | rfl <;> rcases hy with rfl | rfl | rfl | rfl <;> decide +kernel
  have hqualified : ¬Site.IsAbsolute (⟨["%when::hover"], "color", .computed 0⟩ : Site Nat) := by
    rintro ⟨other, hkey⟩
    have hstart := congrArg (fun key => key.toList.head?) (List.mem_singleton.mp hkey)
    simp at hstart
  have habsolute : Site.IsAbsolute
      (⟨["=.Overlay", "div", "=.Top", "Icon"], "width", .fixed (.text "1px")⟩ : Site Nat) :=
    ⟨".Top", by decide⟩
  obtain ⟨-, -, hpaths, -, hcompile⟩ := walk_rerooted overlaid
  obtain ⟨f, hbase, hfixed, hrenamed⟩ := hcompile _ _ hsame
  simp only [hsites, List.forall_mem_cons] at hbase hfixed
  obtain ⟨suffix, hsubject, hf⟩ := hbase.2.1 ⟨by simp, hqualified⟩
  obtain rfl : suffix = ":hover" := (String.append_right_inj ".A").mp hsubject.symm
  refine ⟨by rw [hsites]; rfl, ?_, ?_, hsame, f, hf, hfixed.2.2.1 fun h => h.2 habsolute, hrenamed⟩
  · exact (hpaths 2 _ (by rw [hsites]; rfl)).2.2 ["=.Overlay", "div"] ".Top" ["Icon"] rfl
  · exact (hpaths 1 _ (by rw [hsites]; rfl)).2.1 hqualified

/-- A definition with a declaration of its own and one below an absolute key. -/
def clashing : Definition Nat :=
  ⟨[("color", .fixed (.text "red")), ("=.B", .nested ⟨[("color", .fixed (.text "blue"))]⟩)]⟩

/-- With the absolute selector of `clashing` as the base, two blocks become one and a declaration is
overwritten. No renaming does this. -/
theorem not_renamed_clashing :
    (clashing.compile ".A").staticRules = ⟨⟨[(".A", ⟨[("color", .fixed (.text "red"))]⟩),
      (".B", ⟨[("color", .fixed (.text "blue"))]⟩)]⟩⟩ ∧
    (clashing.compile ".B").staticRules = ⟨⟨[(".B", ⟨[("color", .fixed (.text "blue"))]⟩)]⟩⟩ ∧
    ¬∃ f : String → String, clashing.compile ".B" = (clashing.compile ".A").renamed f := by
  refine ⟨rfl, rfl, ?_⟩
  rintro ⟨f, hf⟩
  have hblocks : 1 = 2 := congrArg (fun c => c.staticRules.blocks.size) hf
  cases hblocks

end Restyle
