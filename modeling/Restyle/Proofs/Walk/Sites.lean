import Mathlib.Tactic.Lemma
import Restyle.Walk

/-!
# The sites of a walk

A walk builds selectors on its way down. Here the way itself is kept: a `Site` is an entry that a
walk reports, with its key and with the keys of the nested definitions around it. The sites of a
definition do not depend on any selector, and every walk reports them in their order, each under
the selector at the end of its path (`Definition.walk_eq_map_sites`).

Which entries are sites is said without reference to the order of the walk as well. They are the
entries outside timelines that are either values under a key that does not qualify or timelines
themselves (`Definition.mem_sites_iff`).
-/

namespace Restyle

variable {P : Type}

/-! ### Selectors along a path -/

/-- The selector inside the nested definition under a key, with `selector` outside of it. A timeline
has no selectors of its own. -/
def enter (selector key : String) : String :=
  match Role.ofKey key with
  | .qualifier suffix => qualify selector suffix
  | .keyframes => selector
  | .absolute other => other
  | .descendant => descendant selector key

/-- The selector at the end of a path of keys. -/
def selectorAlong (selector : String) (path : List String) : String := path.foldl enter selector

@[simp] lemma selectorAlong_nil (selector : String) : selectorAlong selector [] = selector := rfl

@[simp] lemma selectorAlong_cons (selector key : String) (path : List String) :
    selectorAlong selector (key :: path) = selectorAlong (enter selector key) path := rfl

lemma selectorAlong_append (selector : String) (outer inner : List String) :
    selectorAlong selector (outer ++ inner) =
      selectorAlong (selectorAlong selector outer) inner := List.foldl_append

/-! ### Events and their selectors -/

namespace Event

/-- The selector at which an event is met. -/
def selector : Event P → String
  | .fixed s _ _ => s
  | .computed s _ _ => s
  | .keyframes s _ _ => s

/-- The same event met at another selector. -/
def under (other : String) : Event P → Event P
  | .fixed _ property value => .fixed other property value
  | .computed _ property producer => .computed other property producer
  | .keyframes _ name timeline => .keyframes other name timeline

end Event

/-! ### Sites -/

/-- An entry that a walk reports. -/
structure Site (P : Type) where
  /-- The keys of the nested definitions around the entry, outermost first. -/
  path : List String
  /-- The key of the entry. -/
  key : String
  /-- The entry. -/
  entry : Entry P

namespace Site

/-- The site as it is seen from outside the nested definition under `key`. -/
def below (key : String) (site : Site P) : Site P := { site with path := key :: site.path }

/-- What a walk that starts at `base` reports at a site. -/
def event (base : String) (site : Site P) : Event P :=
  match site.entry with
  | .fixed value => .fixed (selectorAlong base site.path) (dashCase site.key) value
  | .computed producer => .computed (selectorAlong base site.path) (dashCase site.key) producer
  | .nested timeline => .keyframes (selectorAlong base site.path) site.key timeline

@[simp] lemma selector_event (base : String) (site : Site P) :
    (site.event base).selector = selectorAlong base site.path := by
  unfold event
  split <;> rfl

/-- Only the selector of a site depends on where the walk starts. -/
@[simp] lemma under_event (base other : String) (site : Site P) :
    (site.event base).under (selectorAlong other site.path) = site.event other := by
  unfold event
  split <;> rfl

end Site

mutual

/-- The sites of one entry under `key`, seen from the definition that has it. -/
def Entry.sites (key : String) : Entry P → List (Site P)
  | .fixed value =>
    match whenSuffix? key with
    | some _ => []
    | none => [⟨[], key, .fixed value⟩]
  | .computed producer =>
    match whenSuffix? key with
    | some _ => []
    | none => [⟨[], key, .computed producer⟩]
  | .nested ⟨entries⟩ =>
    if Role.ofKey key = .keyframes then [⟨[], key, .nested ⟨entries⟩⟩]
    else (sitesIn entries).map (Site.below key)

/-- The sites of a list of entries. -/
def sitesIn : List (String × Entry P) → List (Site P)
  | [] => []
  | (key, entry) :: rest => entry.sites key ++ sitesIn rest

end

/-- The sites of a definition, in document order. -/
def Definition.sites (d : Definition P) : List (Site P) := sitesIn d.entries

mutual

/-- A walk of an entry reports its sites. -/
theorem Entry.walk_eq_map_sites (selector key : String) : (entry : Entry P) →
    entry.walk selector key = (entry.sites key).map (Site.event selector)
  | .fixed value => by
    unfold Entry.walk Entry.sites
    cases whenSuffix? key <;> rfl
  | .computed producer => by
    unfold Entry.walk Entry.sites
    cases whenSuffix? key <;> rfl
  | .nested ⟨entries⟩ => by
    have hbelow : (sitesIn entries).map (Site.event (enter selector key)) =
        ((sitesIn entries).map (Site.below key)).map (Site.event selector) := by
      rw [List.map_map]
      rfl
    unfold Entry.walk Entry.sites
    cases hrole : Role.ofKey key with
    | keyframes => rfl
    | qualifier suffix =>
      rw [if_neg nofun, ← hbelow, enter, hrole]
      exact walkEntries_eq_map_sitesIn _ entries
    | absolute other =>
      rw [if_neg nofun, ← hbelow, enter, hrole]
      exact walkEntries_eq_map_sitesIn _ entries
    | descendant =>
      rw [if_neg nofun, ← hbelow, enter, hrole]
      exact walkEntries_eq_map_sitesIn _ entries

/-- A walk of a list of entries reports their sites. -/
theorem walkEntries_eq_map_sitesIn (selector : String) : (entries : List (String × Entry P)) →
    walkEntries selector entries = (sitesIn entries).map (Site.event selector)
  | [] => rfl
  | (key, entry) :: rest => by
    rw [walkEntries, sitesIn, List.map_append, Entry.walk_eq_map_sites selector key entry,
      walkEntries_eq_map_sitesIn selector rest]

end

/-- A walk reports the sites of a definition in their order, each under the selector at the end of
its path. -/
theorem Definition.walk_eq_map_sites (d : Definition P) (base : String) :
    d.walk base = d.sites.map (Site.event base) :=
  walkEntries_eq_map_sitesIn base d.entries

/-! ### Which entries are sites -/

/-- An entry stands in a definition under its key, at the end of a path of keys. -/
inductive Definition.Holds : Definition P → List String → String → Entry P → Prop
  /-- It is one of the definition's own entries. -/
  | here {d : Definition P} {key : String} {entry : Entry P} (h : (key, entry) ∈ d.entries) :
    Holds d [] key entry
  /-- It stands in a definition nested in this one. -/
  | inside {d inner : Definition P} {outer key : String} {path : List String} {entry : Entry P}
    (h : (outer, .nested inner) ∈ d.entries) (hinner : Holds inner path key entry) :
    Holds d (outer :: path) key entry

/-- What stands in a nested definition stands in the definition around it. -/
lemma Definition.Holds.append {d inner : Definition P} {path path' : List String}
    {key key' : String} {entry : Entry P} (h : d.Holds path key (.nested inner))
    (hinner : inner.Holds path' key' entry) : d.Holds (path ++ key :: path') key' entry := by
  generalize hnested : Entry.nested inner = nested at h
  induction h with
  | here he =>
    subst hnested
    exact .inside he hinner
  | inside he _ ih => exact .inside he (ih hnested)

/-- Whether an entry outside timelines is reported: a value unless its key qualifies, a nested
definition if it is a timeline. -/
def Entry.IsReported (key : String) : Entry P → Prop
  | .nested _ => Role.ofKey key = .keyframes
  | _ => whenSuffix? key = none

/-- A site of an entry is the entry itself, or it lies inside of it. -/
lemma Entry.mem_sites_iff (key : String) {site : Site P} (entry : Entry P) :
    site ∈ entry.sites key ↔
      (site = ⟨[], key, entry⟩ ∧ entry.IsReported key) ∨
      ∃ inner : Definition P, entry = .nested inner ∧ Role.ofKey key ≠ .keyframes ∧
        ∃ deeper ∈ inner.sites, site = deeper.below key := by
  unfold Entry.sites
  cases entry with
  | fixed value => cases hkey : whenSuffix? key <;> simp [Entry.IsReported, hkey]
  | computed producer => cases hkey : whenSuffix? key <;> simp [Entry.IsReported, hkey]
  | nested inner =>
    by_cases hkey : Role.ofKey key = .keyframes
    · simp [Entry.IsReported, hkey]
    · simp [Entry.IsReported, hkey, Definition.sites, eq_comm]

namespace Definition

/-- The sites of a definition are those of its entries. -/
lemma mem_sites_iff_exists {d : Definition P} {site : Site P} :
    site ∈ d.sites ↔ ∃ e ∈ d.entries, site ∈ e.2.sites e.1 := by
  obtain ⟨entries⟩ := d
  change site ∈ sitesIn entries ↔ ∃ e ∈ entries, _
  induction entries with
  | nil => simp [sitesIn]
  | cons e rest ih =>
    obtain ⟨key, entry⟩ := e
    rw [sitesIn, List.mem_append, ih]
    simp

/-- Every site stands in the definition, outside timelines, and is to be reported. -/
lemma of_mem_sites {d : Definition P} {path : List String} {key : String} {entry : Entry P}
    (h : ⟨path, key, entry⟩ ∈ d.sites) :
    d.Holds path key entry ∧ (∀ k ∈ path, Role.ofKey k ≠ .keyframes) ∧ entry.IsReported key := by
  induction path generalizing d with
  | nil =>
    obtain ⟨e, he, hsite⟩ := mem_sites_iff_exists.mp h
    rcases (Entry.mem_sites_iff e.1 e.2).mp hsite with
      ⟨heq, hreported⟩ | ⟨inner, -, -, deeper, -, heq⟩
    · obtain ⟨-, rfl, rfl⟩ := Site.mk.inj heq
      exact ⟨.here he, nofun, hreported⟩
    · cases heq
  | cons outer path ih =>
    obtain ⟨⟨k, nested⟩, he, hsite⟩ := mem_sites_iff_exists.mp h
    rcases (Entry.mem_sites_iff k nested).mp hsite with
      ⟨heq, -⟩ | ⟨inner, rfl, hrole, deeper, hdeeper, heq⟩
    · cases heq
    · obtain ⟨hpath, rfl, rfl⟩ := Site.mk.inj heq
      obtain ⟨rfl, rfl⟩ := List.cons.inj hpath
      obtain ⟨hholds, hkeys, hreported⟩ := ih hdeeper
      exact ⟨.inside he hholds, List.forall_mem_cons.mpr ⟨hrole, hkeys⟩, hreported⟩

/-- What stands in a definition outside timelines and is to be reported is a site. -/
lemma Holds.mem_sites {d : Definition P} {path : List String} {key : String} {entry : Entry P}
    (h : d.Holds path key entry) (hpath : ∀ k ∈ path, Role.ofKey k ≠ .keyframes)
    (hreported : entry.IsReported key) : ⟨path, key, entry⟩ ∈ d.sites := by
  induction h with
  | here he =>
    exact mem_sites_iff_exists.mpr
      ⟨_, he, (Entry.mem_sites_iff ..).mpr (Or.inl ⟨rfl, hreported⟩)⟩
  | inside he _ ih =>
    obtain ⟨houter, hinner⟩ := List.forall_mem_cons.mp hpath
    exact mem_sites_iff_exists.mpr ⟨_, he, (Entry.mem_sites_iff ..).mpr
      (Or.inr ⟨_, rfl, houter, _, ih hinner hreported, rfl⟩)⟩

/-- The sites of a definition are the entries outside timelines that are to be reported. -/
theorem mem_sites_iff {d : Definition P} {site : Site P} :
    site ∈ d.sites ↔ d.Holds site.path site.key site.entry ∧
      (∀ key ∈ site.path, Role.ofKey key ≠ .keyframes) ∧ site.entry.IsReported site.key :=
  ⟨of_mem_sites, fun ⟨hholds, hpath, hreported⟩ => hholds.mem_sites hpath hreported⟩

end Definition

/-! ### The walks of nested definitions -/

lemma walkEntries_append (selector : String) (before after : List (String × Entry P)) :
    walkEntries selector (before ++ after) =
      walkEntries selector before ++ walkEntries selector after := by
  induction before with
  | nil => rfl
  | cons e before ih => rw [List.cons_append, walkEntries, walkEntries, ih, List.append_assoc]

/-- A nested definition that is no timeline is walked under the selector that its key gives it. -/
lemma Entry.walk_nested {key : String} (h : Role.ofKey key ≠ .keyframes) (selector : String)
    (inner : Definition P) :
    (Entry.nested inner).walk selector key = inner.walk (enter selector key) := by
  unfold Entry.walk enter
  cases hrole : Role.ofKey key with
  | keyframes => exact absurd hrole h
  | qualifier suffix => rfl
  | absolute other => rfl
  | descendant => rfl

namespace Definition

/-- The walk of a definition contains that of each of its entries. -/
lemma walk_entry_infix {d : Definition P} {key : String} {entry : Entry P}
    (h : (key, entry) ∈ d.entries) (selector : String) :
    entry.walk selector key <:+: d.walk selector := by
  obtain ⟨before, after, hsplit⟩ := List.append_of_mem h
  refine ⟨walkEntries selector before, walkEntries selector after, ?_⟩
  rw [walk, hsplit, walkEntries_append, walkEntries, List.append_assoc]

/-- The walk of a definition contains that of every definition nested in it outside timelines, under
the selector at the end of its path. -/
lemma Holds.walk_infix {d inner : Definition P} {path : List String} {key : String}
    (h : d.Holds path key (.nested inner)) (hpath : ∀ k ∈ path, Role.ofKey k ≠ .keyframes)
    (hkey : Role.ofKey key ≠ .keyframes) (base : String) :
    inner.walk (enter (selectorAlong base path) key) <:+: d.walk base := by
  generalize hentry : Entry.nested inner = entry at h
  induction h generalizing base with
  | here he =>
    subst hentry
    rw [selectorAlong_nil, ← Entry.walk_nested hkey]
    exact walk_entry_infix he base
  | inside he _ ih =>
    obtain ⟨houter, hrest⟩ := List.forall_mem_cons.mp hpath
    refine (ih hrest hkey _ hentry).trans ?_
    rw [← Entry.walk_nested houter]
    exact walk_entry_infix he base

end Definition

end Restyle
