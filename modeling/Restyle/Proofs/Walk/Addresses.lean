import Mathlib.Data.List.Forall2
import Mathlib.Data.List.Lex
import Restyle.Proofs.Walk.Selectors

/-!
# Every entry once, in document order

An address leads to an entry of a definition: it is the list of positions at which nested
definitions are entered on the way, and of the position at the end. Two entries may look the same,
but they have different addresses. The addresses of a definition are listed in document order, which
is their lexicographic order, each nested definition before what is inside of it
(`Definition.pairwise_addresses`, `Definition.mem_addresses_iff`).

Whether a walk reports an entry is decided by the entry, its key, and the keys around it
(`Site.isReported`), and what it reports by the selector to which these keys lead
(`Site.Reports`). Both look at the shapes of keys only. A walk goes through all addresses in their
order and reports exactly these entries (`Definition.walk_eq_reported`), so it leaves out none of
them and repeats none.
-/

namespace Restyle

variable {P : Type}

/-! ### Addresses -/

/-- What an address leads to from an entry under `key`: the empty one to the entry itself, any other
to an entry inside of it. -/
def Entry.siteAt? : String → Entry P → List ℕ → Option (Site P)
  | key, entry, [] => some ⟨[], key, entry⟩
  | key, .nested inner, i :: address =>
    (inner.entries[i]?).bind fun e => (e.2.siteAt? e.1 address).map (Site.below key)
  | _, _, _ :: _ => none

/-- What an address leads to from a list of entries. -/
def siteIn? (entries : List (String × Entry P)) : List ℕ → Option (Site P)
  | [] => none
  | i :: address => (entries[i]?).bind fun e => e.2.siteAt? e.1 address

mutual

/-- The addresses inside an entry, its own first. -/
def Entry.addresses : Entry P → List (List ℕ)
  | .nested ⟨entries⟩ => [] :: addressesIn entries
  | _ => [[]]

/-- The addresses inside a list of entries. -/
def addressesIn : List (String × Entry P) → List (List ℕ)
  | [] => []
  | (_, entry) :: rest =>
    entry.addresses.map (0 :: ·) ++ (addressesIn rest).map (List.modifyHead (· + 1))

end

namespace Definition

/-- What an address leads to in a definition. -/
def siteAt? (d : Definition P) : List ℕ → Option (Site P) := siteIn? d.entries

/-- The addresses of all entries of a definition, in document order. -/
def addresses (d : Definition P) : List (List ℕ) := addressesIn d.entries

end Definition

/-- An address in a list of entries is a position and an address inside the entry there. -/
lemma mem_addressesIn_iff {entries : List (String × Entry P)} {address : List ℕ} :
    address ∈ addressesIn entries ↔
      ∃ i e inner, address = i :: inner ∧ entries[i]? = some e ∧ inner ∈ e.2.addresses := by
  induction entries generalizing address with
  | nil => simp [addressesIn]
  | cons e rest ih =>
    rw [addressesIn, List.mem_append, List.mem_map, List.mem_map]
    constructor
    · rintro (⟨inner, hinner, rfl⟩ | ⟨later, hlater, rfl⟩)
      · exact ⟨0, e, inner, rfl, rfl, hinner⟩
      · obtain ⟨i, e', inner, rfl, he', hinner⟩ := ih.mp hlater
        exact ⟨i + 1, e', inner, rfl, he', hinner⟩
    · rintro ⟨i, e', inner, rfl, he', hinner⟩
      cases i with
      | zero =>
        obtain rfl := Option.some.inj he'
        exact Or.inl ⟨inner, hinner, rfl⟩
      | succ i => exact Or.inr ⟨i :: inner, ih.mpr ⟨i, e', inner, rfl, he', hinner⟩, rfl⟩

/-- If the addresses inside each entry are those that lead to something, then so are the addresses
in the list. -/
lemma mem_addressesIn_cons_iff (entries : List (String × Entry P)) (i : ℕ) {address : List ℕ}
    (hinner : ∀ e : String × Entry P,
      address ∈ e.2.addresses ↔ ∃ site, e.2.siteAt? e.1 address = some site) :
    i :: address ∈ addressesIn entries ↔ ∃ site, siteIn? entries (i :: address) = some site := by
  rw [mem_addressesIn_iff, siteIn?]
  constructor
  · rintro ⟨j, e, inner, heq, he, hmem⟩
    obtain ⟨rfl, rfl⟩ := List.cons.inj heq
    rw [he]
    exact (hinner e).mp hmem
  · rintro ⟨site, hsite⟩
    obtain ⟨e, he, hat⟩ := Option.bind_eq_some_iff.mp hsite
    exact ⟨i, e, address, rfl, he, (hinner e).mpr ⟨site, hat⟩⟩

/-- Inside a nested definition, an address leads to what it leads to in the list of its entries. -/
lemma Entry.siteAt?_nested (key : String) (inner : Definition P) (i : ℕ) (address : List ℕ) :
    (Entry.nested inner).siteAt? key (i :: address) =
      (siteIn? inner.entries (i :: address)).map (Site.below key) := by
  rw [siteAt?, siteIn?, Option.map_bind]
  rfl

/-- The addresses inside an entry are those that lead to something. -/
lemma Entry.mem_addresses_iff {key : String} {entry : Entry P} {address : List ℕ} :
    address ∈ entry.addresses ↔ ∃ site, entry.siteAt? key address = some site := by
  induction address generalizing key entry with
  | nil => cases entry <;> simp [addresses, siteAt?]
  | cons i address ih =>
    cases entry with
    | fixed value => simp [addresses, siteAt?]
    | computed producer => simp [addresses, siteAt?]
    | nested inner =>
      have hinner : ∀ e : String × Entry P,
          address ∈ e.2.addresses ↔ ∃ site, e.2.siteAt? e.1 address = some site := fun _ => ih
      have hlist := mem_addressesIn_cons_iff inner.entries i hinner
      rw [addresses, List.mem_cons, hlist, siteAt?_nested]
      simp

/-! ### Document order -/

mutual

/-- The addresses inside an entry ascend. -/
theorem Entry.pairwise_addresses : (entry : Entry P) → entry.addresses.Pairwise (· < ·)
  | .fixed _ => by simp [Entry.addresses]
  | .computed _ => by simp [Entry.addresses]
  | .nested ⟨entries⟩ => by
    rw [Entry.addresses, List.pairwise_cons]
    refine ⟨fun address haddress => ?_, pairwise_addressesIn entries⟩
    obtain ⟨i, e, inner, rfl, -⟩ := mem_addressesIn_iff.mp haddress
    exact List.nil_lt_cons i inner

/-- The addresses inside a list of entries ascend. -/
theorem pairwise_addressesIn : (entries : List (String × Entry P)) →
    (addressesIn entries).Pairwise (· < ·)
  | [] => by simp [addressesIn]
  | (_, entry) :: rest => by
    rw [addressesIn, List.pairwise_append, List.pairwise_map, List.pairwise_map]
    have hlater : ∀ a ∈ addressesIn rest, ∃ i inner, a = i :: inner := by
      intro a ha
      obtain ⟨i, -, inner, rfl, -⟩ := mem_addressesIn_iff.mp ha
      exact ⟨i, inner, rfl⟩
    refine ⟨(Entry.pairwise_addresses entry).imp fun h => ?_,
      (pairwise_addressesIn rest).imp_of_mem fun {a b} ha hb h => ?_, fun a ha b hb => ?_⟩
    · exact List.cons_lt_cons_iff.mpr (Or.inr ⟨rfl, h⟩)
    · obtain ⟨i, inner, rfl⟩ := hlater a ha
      obtain ⟨j, inner', rfl⟩ := hlater b hb
      rw [List.modifyHead_cons, List.modifyHead_cons, List.cons_lt_cons_iff]
      exact (List.cons_lt_cons_iff.mp h).imp Nat.succ_lt_succ fun ⟨heq, hlt⟩ =>
        ⟨congrArg (· + 1) heq, hlt⟩
    · obtain ⟨inner, -, rfl⟩ := List.mem_map.mp ha
      obtain ⟨later, hmem, rfl⟩ := List.mem_map.mp hb
      obtain ⟨j, inner', rfl⟩ := hlater later hmem
      exact List.cons_lt_cons_iff.mpr (Or.inl (Nat.succ_pos j))

end

namespace Definition

/-- The addresses of a definition ascend, so none occurs twice. -/
lemma pairwise_addresses (d : Definition P) : d.addresses.Pairwise (· < ·) :=
  pairwise_addressesIn d.entries

/-- The addresses of a definition are those that lead to something. -/
lemma mem_addresses_iff {d : Definition P} {address : List ℕ} :
    address ∈ d.addresses ↔ ∃ site, d.siteAt? address = some site := by
  cases address with
  | nil => simp [addresses, mem_addressesIn_iff, siteAt?, siteIn?]
  | cons i address => exact mem_addressesIn_cons_iff _ _ fun _ => Entry.mem_addresses_iff

end Definition

/-! ### Reported entries -/

/-- Whether a walk reports a site. No key around it starts with an at sign. If it is a nested
definition, its own key does start with one; if it is a value, its key does not have the mark. -/
def Site.isReported (site : Site P) : Bool :=
  site.path.all (fun key => key.toList.head? ≠ some '@') &&
    match site.entry with
    | .nested _ => site.key.toList.head? = some '@'
    | _ => ¬HasMark site.key

lemma Site.isReported_nested (key : String) (inner : Definition P) :
    Site.isReported ⟨[], key, .nested inner⟩ = decide (key.toList.head? = some '@') := rfl

/-- From outside of a nested definition, its key counts as well. -/
lemma Site.isReported_below (key : String) (site : Site P) :
    (site.below key).isReported = (decide (key.toList.head? ≠ some '@') && site.isReported) := by
  rw [isReported, isReported, below, List.all_cons, Bool.and_assoc]

mutual

/-- The sites of an entry are what is reported at its addresses. -/
theorem Entry.sites_eq_reported (key : String) : (entry : Entry P) →
    entry.sites key =
      (entry.addresses.filterMap (entry.siteAt? key)).filter Site.isReported
  | .fixed value => by
    unfold Entry.sites Entry.addresses
    cases hkey : whenSuffix? key <;>
      simp [Entry.siteAt?, Site.isReported, ← whenSuffix?_eq_none_iff, hkey]
  | .computed producer => by
    unfold Entry.sites Entry.addresses
    cases hkey : whenSuffix? key <;>
      simp [Entry.siteAt?, Site.isReported, ← whenSuffix?_eq_none_iff, hkey]
  | .nested ⟨entries⟩ => by
    have hinside : (addressesIn entries).filterMap ((Entry.nested ⟨entries⟩).siteAt? key) =
        ((addressesIn entries).filterMap (siteIn? entries)).map (Site.below key) := by
      rw [List.map_filterMap]
      refine List.filterMap_congr fun address haddress => ?_
      obtain ⟨i, e, inner, rfl, -⟩ := mem_addressesIn_iff.mp haddress
      exact Entry.siteAt?_nested key ⟨entries⟩ i inner
    have hbelow : (Site.isReported ∘ Site.below key : Site P → Bool) =
        fun site => decide (key.toList.head? ≠ some '@') && site.isReported :=
      funext (Site.isReported_below key)
    have hsites : (Entry.nested ⟨entries⟩).addresses.filterMap
        ((Entry.nested ⟨entries⟩).siteAt? key) = ⟨[], key, .nested ⟨entries⟩⟩ ::
          ((addressesIn entries).filterMap (siteIn? entries)).map (Site.below key) := by
      rw [Entry.addresses, List.filterMap_cons, hinside]
      rfl
    rw [hsites, Entry.sites, List.filter_cons, List.filter_map, hbelow]
    by_cases hkey : key.toList.head? = some '@'
    · rw [if_pos (Role.ofKey_eq_keyframes_iff.mpr hkey)]
      simp [Site.isReported_nested, hkey]
    · rw [if_neg (mt Role.ofKey_eq_keyframes_iff.mp hkey)]
      simp [Site.isReported_nested, hkey, sitesIn_eq_reported entries]

/-- The sites of a list of entries are what is reported at its addresses. -/
theorem sitesIn_eq_reported : (entries : List (String × Entry P)) →
    sitesIn entries = ((addressesIn entries).filterMap (siteIn? entries)).filter Site.isReported
  | [] => rfl
  | (key, entry) :: rest => by
    have hfirst : siteIn? ((key, entry) :: rest) ∘ (0 :: ·) = entry.siteAt? key := rfl
    have hlater : siteIn? ((key, entry) :: rest) ∘ List.modifyHead (· + 1) = siteIn? rest := by
      funext address
      cases address <;> rfl
    rw [sitesIn, addressesIn, List.filterMap_append, List.filterMap_map, List.filterMap_map, hfirst,
      hlater, List.filter_append, Entry.sites_eq_reported key entry, sitesIn_eq_reported rest]

end

/-- A walk reports the entries that are to be reported, in the order of their addresses. -/
lemma Definition.walk_eq_map_reported (d : Definition P) (selector : String) :
    d.walk selector =
      ((d.addresses.filterMap d.siteAt?).filter Site.isReported).map (Site.event selector) := by
  rw [d.walk_eq_map_sites]
  exact congrArg (List.map (Site.event selector)) (sitesIn_eq_reported d.entries)

/-! ### Reports -/

/-- What is reported at a site, with the selector to which the keys around it lead from the
selector of the walk. The property of a value is its key in dash case; a timeline is reported under
its key as it stands. -/
inductive Site.Reports (base : String) : Site P → Event P → Prop
  /-- A fixed value. -/
  | fixed {path : List String} {key selector : String} {value : Value}
    (hpath : Leads base path selector) :
    Reports base ⟨path, key, .fixed value⟩ (.fixed selector (dashCase key) value)
  /-- A produced value. -/
  | computed {path : List String} {key selector : String} {producer : P}
    (hpath : Leads base path selector) :
    Reports base ⟨path, key, .computed producer⟩ (.computed selector (dashCase key) producer)
  /-- A timeline. -/
  | keyframes {path : List String} {key selector : String} {timeline : Definition P}
    (hpath : Leads base path selector) :
    Reports base ⟨path, key, .nested timeline⟩ (.keyframes selector key timeline)

/-- At a site that is to be reported there is one event to report. -/
lemma Site.reports_iff {base : String} {site : Site P} {event : Event P}
    (h : site.isReported = true) : site.Reports base event ↔ event = site.event base := by
  obtain ⟨path, key, entry⟩ := site
  have hpath : ∀ k ∈ path, k.toList.head? ≠ some '@' := by
    simpa using (Bool.and_eq_true_iff.mp h).1
  have hleads : Leads base path (selectorAlong base path) := leads_iff.mpr ⟨hpath, rfl⟩
  constructor
  · intro hreports
    cases hreports with
    | fixed hlast => rw [(leads_iff.mp hlast).2, Site.event]
    | computed hlast => rw [(leads_iff.mp hlast).2, Site.event]
    | keyframes hlast => rw [(leads_iff.mp hlast).2, Site.event]
  · rintro rfl
    cases entry with
    | fixed value => exact .fixed hleads
    | computed producer => exact .computed hleads
    | nested timeline => exact .keyframes hleads

/-- Over sites that are to be reported there is one list of events to report. -/
lemma forall₂_reports_iff {base : String} {sites : List (Site P)} {events : List (Event P)}
    (h : ∀ site ∈ sites, site.isReported = true) :
    List.Forall₂ (Site.Reports base) sites events ↔ events = sites.map (Site.event base) := by
  induction sites generalizing events with
  | nil => rw [List.forall₂_nil_left_iff, List.map_nil]
  | cons site rest ih =>
    obtain ⟨hsite, hrest⟩ := List.forall_mem_cons.mp h
    rw [List.forall₂_cons_left_iff, List.map_cons]
    simp only [Site.reports_iff hsite, ih hrest]
    constructor
    · rintro ⟨event, later, rfl, rfl, rfl⟩
      rfl
    · rintro rfl
      exact ⟨_, _, rfl, rfl, rfl⟩

/-- What a walk reports, and in which order. The addresses of a definition ascend in document order
and are all that lead to an entry, so each entry has its place among them once. A walk goes through
them and reports each entry that is to be reported, once, and nothing else: a value if its key does
not have the mark of qualifying keys, a nested definition if its key starts with an at sign, and
both only outside of nested definitions whose keys start with one. It reports an entry with its
value, producer or timeline, with its key, which for values is in dash case, and under the selector
to which the keys around it lead: a marked key qualifies the selector at hand, one that starts with
an equals sign replaces it, and any other makes a descendant of it. This determines the walk. -/
theorem Definition.walk_eq_reported (d : Definition P) (selector : String) :
    d.addresses.Pairwise (· < ·) ∧
    (∀ address, address ∈ d.addresses ↔ ∃ site, d.siteAt? address = some site) ∧
    ∀ events, events = d.walk selector ↔ List.Forall₂ (Site.Reports selector)
      ((d.addresses.filterMap d.siteAt?).filter Site.isReported) events := by
  refine ⟨d.pairwise_addresses, fun address => Definition.mem_addresses_iff, fun events => ?_⟩
  rw [forall₂_reports_iff fun site hsite => (List.mem_filter.mp hsite).2, d.walk_eq_map_reported]

/-- A timeline with another one in it. -/
def spinning : Definition Nat :=
  ⟨[("@pulse", .nested ⟨[("from", .nested ⟨[("opacity", .computed 1)]⟩)]⟩)]⟩

/-- A definition with keys of every shape around values and timelines, and with a value under a
qualifying key. -/
def layered : Definition Nat :=
  ⟨[("lineHeight", .fixed (.text "1")),
    (whenKey ":hover", .nested ⟨[("Icon", .nested ⟨[("color", .computed 0)]⟩)]⟩),
    ("div", .nested ⟨[(whenKey "active", .nested ⟨[("@spin", .nested spinning)]⟩),
      ("=.Top", .nested ⟨[("span", .nested ⟨[("top", .fixed (.text "0"))]⟩)]⟩)]⟩),
    (whenKey ":focus", .fixed (.text "red"))]⟩

/-- The keys of `layered` around its entries lead to these selectors. Neither the value under the
qualifying key nor the inner timeline is reported. -/
theorem walk_eq_reported_layered :
    layered.addresses.length = 14 ∧
    Leads ".A" [whenKey ":hover", "Icon"] ".A:hover .Icon" ∧
    Leads ".A" ["div", whenKey "active"] ".A div.active" ∧
    Leads ".A" ["div", "=.Top", "span"] ".Top span" ∧
    layered.walk ".A" = [.fixed ".A" "line-height" (.text "1"),
      .computed ".A:hover .Icon" "color" 0, .keyframes ".A div.active" "@spin" spinning,
      .fixed ".Top span" "top" (.text "0")] := by
  have hicon : Leads ".A" [whenKey ":hover", "Icon"] ".A:hover .Icon" :=
    .through (.qualified ":hover") (.through (.descended (by decide)) (.here _))
  have hactive : Leads ".A" ["div", whenKey "active"] ".A div.active" :=
    .through (.descended (by decide)) (.through (.qualified "active") (.here _))
  have htop : Leads ".A" ["div", "=.Top", "span"] ".Top span" :=
    .through (.descended (by decide))
      (.through (.replaced ".Top") (.through (.descended (by decide)) (.here _)))
  have hsites : (layered.addresses.filterMap layered.siteAt?).filter Site.isReported =
      [⟨[], "lineHeight", .fixed (.text "1")⟩, ⟨[whenKey ":hover", "Icon"], "color", .computed 0⟩,
        ⟨["div", whenKey "active"], "@spin", .nested spinning⟩,
        ⟨["div", "=.Top", "span"], "top", .fixed (.text "0")⟩] := rfl
  obtain ⟨-, -, hwalk⟩ := Definition.walk_eq_reported layered ".A"
  refine ⟨rfl, hicon, hactive, htop, ((hwalk _).mpr ?_).symm⟩
  rw [hsites]
  exact .cons (.fixed (.here ".A")) (.cons (.computed hicon)
    (.cons (.keyframes hactive) (.cons (.fixed htop) .nil)))

end Restyle
