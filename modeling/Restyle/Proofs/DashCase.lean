import Mathlib
import Restyle.Proofs.Compilation.Placement
import Restyle.Proofs.Definition.Extension

/-!
# Properties in dash case

The conversion of a property to dash case takes each character to a stretch of the result. A capital
takes up two places there and any other character one, so where the stretch of a character begins is
known from the number of capitals before it (`dashPlace`), and the characters stay in their order.

A name that has no dash can be read back: every dash of the result was put in front of a capital
(`camelCase_dashCase`). Two such names therefore never have the same dash-case spelling, and the
declarations of a definition under different keys without dashes never meet at one property
(`dashCase_faithful`).
-/

namespace Restyle

/-! ### Characters of the result -/

/-- The spelling of a character has no capital. -/
lemma isUpper_of_mem_dashChar {c d : Char} (h : d ∈ dashChar c) : d.isUpper = false := by
  unfold dashChar at h
  split at h
  · rcases List.mem_cons.mp h with rfl | h
    · rfl
    · obtain rfl := List.mem_singleton.mp h
      exact c.isUpper_toLower_eq_false
  · rename_i hc
    obtain rfl := List.mem_singleton.mp h
    exact Bool.eq_false_iff.mpr hc

/-- A name in dash case has no capital. -/
lemma isUpper_of_mem_dashCase {p : String} {d : Char} (h : d ∈ (dashCase p).toList) :
    d.isUpper = false := by
  rw [toList_dashCase] at h
  obtain ⟨c, -, hd⟩ := List.mem_flatMap.mp h
  exact isUpper_of_mem_dashChar hd

/-- Every character is spelled, and every capital takes up one place more. -/
lemma length_flatMap_dashChar (cs : List Char) :
    (cs.flatMap dashChar).length = cs.length + cs.countP Char.isUpper := by
  induction cs with
  | nil => rfl
  | cons c cs ih =>
    rw [List.flatMap_cons, List.length_append, ih, List.length_cons, List.countP_cons, dashChar]
    split
    · simp only [List.length_cons, List.length_nil]
      omega
    · simp only [List.length_cons, List.length_nil]
      omega

/-- A result is longer than the name by the number of capitals. -/
lemma length_dashCase (p : String) :
    (dashCase p).length = p.length + p.toList.countP Char.isUpper := by
  rw [← String.length_toList, toList_dashCase, length_flatMap_dashChar, String.length_toList]

/-! ### Places in the result -/

/-- Where the spelling of the character at place `i` begins. -/
def dashPlace (p : String) (i : ℕ) : ℕ := i + (p.toList.take i).countP Char.isUpper

/-- Characters stay in their order. -/
lemma strictMono_dashPlace (p : String) : StrictMono (dashPlace p) := by
  refine strictMono_nat_of_lt_succ fun i => ?_
  have hcount : (p.toList.take i).countP Char.isUpper ≤
      (p.toList.take (i + 1)).countP Char.isUpper :=
    (List.take_sublist_take_left (Nat.le_succ i)).countP_le
  unfold dashPlace
  omega

/-- From the place of a character on, the result is the spelling of this character and then of those
behind it. -/
lemma drop_dashPlace {p : String} {i : ℕ} {c : Char} (h : p.toList[i]? = some c) :
    (dashCase p).toList.drop (dashPlace p i) =
      dashChar c ++ (p.toList.drop (i + 1)).flatMap dashChar := by
  obtain ⟨hi, hc⟩ := List.getElem?_eq_some_iff.mp h
  have hplace : dashPlace p i = ((p.toList.take i).flatMap dashChar).length := by
    rw [length_flatMap_dashChar, List.length_take_of_le hi.le, dashPlace]
  have hsplit : p.toList = p.toList.take i ++ c :: p.toList.drop (i + 1) := by
    rw [← hc, List.getElem_cons_drop, List.take_append_drop]
  calc (dashCase p).toList.drop (dashPlace p i)
      = ((p.toList.take i).flatMap dashChar ++
          (c :: p.toList.drop (i + 1)).flatMap dashChar).drop (dashPlace p i) := by
        rw [toList_dashCase, ← List.flatMap_append, ← hsplit]
    _ = (c :: p.toList.drop (i + 1)).flatMap dashChar := List.drop_left' hplace.symm
    _ = dashChar c ++ (p.toList.drop (i + 1)).flatMap dashChar := List.flatMap_cons

/-- A character that is no capital stands at its place. -/
lemma getElem?_dashPlace {p : String} {i : ℕ} {c : Char} (h : p.toList[i]? = some c)
    (hc : c.isUpper = false) : (dashCase p).toList[dashPlace p i]? = some c := by
  have hdrop := congrArg (fun cs : List Char => cs[0]?) (drop_dashPlace h)
  simpa [dashChar, hc] using hdrop

/-- At the place of a capital stands a dash, and behind it the small letter. -/
lemma getElem?_dashPlace_of_isUpper {p : String} {i : ℕ} {c : Char} (h : p.toList[i]? = some c)
    (hc : c.isUpper = true) : (dashCase p).toList[dashPlace p i]? = some '-' ∧
      (dashCase p).toList[dashPlace p i + 1]? = some c.toLower := by
  have hdash := congrArg (fun cs : List Char => cs[0]?) (drop_dashPlace h)
  have hletter := congrArg (fun cs : List Char => cs[1]?) (drop_dashPlace h)
  exact ⟨by simpa [dashChar, hc] using hdash, by simpa [dashChar, hc] using hletter⟩

/-! ### Reading a result back -/

/-- Reads a dash and the letter behind it as a capital. -/
def camelChars : List Char → List Char
  | '-' :: c :: cs => c.toUpper :: camelChars cs
  | c :: cs => c :: camelChars cs
  | [] => []

/-- The camel-case spelling of a name in dash case. -/
def camelCase (property : String) : String := String.ofList (camelChars property.toList)

/-- The spelling of a character is read as this character, unless it is itself a dash. -/
lemma camelChars_dashChar_append {c : Char} (h : c ≠ '-') (cs : List Char) :
    camelChars (dashChar c ++ cs) = c :: camelChars cs := by
  unfold dashChar
  split
  · rename_i hupper
    have hback : c.toLower.toUpper = c := by
      rw [Char.toUpper_toLower_eq_toUpper]
      exact Char.toUpper_eq_of_not_isLower (Char.not_isLower_of_isUpper hupper)
    rw [List.cons_append, List.cons_append, List.nil_append, camelChars, hback]
  · rw [List.cons_append, List.nil_append, camelChars]
    exact fun _ _ heq _ => h heq

/-- A name without dashes is read back from its dash-case spelling. -/
lemma camelCase_dashCase {p : String} (h : '-' ∉ p.toList) : camelCase (dashCase p) = p := by
  rw [← String.toList_inj, camelCase, String.toList_ofList, toList_dashCase]
  generalize p.toList = cs at h
  induction cs with
  | nil => rfl
  | cons c cs ih =>
    obtain ⟨hc, hcs⟩ := List.ne_and_not_mem_of_not_mem_cons h
    rw [List.flatMap_cons, camelChars_dashChar_append hc.symm, ih hcs]

/-- No two names without dashes have the same dash-case spelling. -/
lemma injOn_dashCase : Set.InjOn dashCase {p | '-' ∉ p.toList} :=
  Set.LeftInvOn.injOn fun _ h => camelCase_dashCase h

/-- A dash of its own may look like that of a capital. -/
example : dashCase "-a" = dashCase "A" := rfl

/-! ### Keys of one definition -/

section Sites

variable {P : Type}

/-- The keys that lead to a site, its own last. -/
def Site.keys (site : Site P) : List String := site.path ++ [site.key]

/-- The first of the keys that lead to a site is that of the entry around it. -/
lemma Entry.exists_keys_eq_cons {key : String} {entry : Entry P} {site : Site P}
    (h : site ∈ entry.sites key) : ∃ deeper, site.keys = key :: deeper := by
  rcases (Entry.mem_sites_iff key entry).mp h with ⟨rfl, -⟩ | ⟨inner, -, -, deeper, -, rfl⟩
  · exact ⟨[], rfl⟩
  · exact ⟨deeper.keys, rfl⟩

mutual

/-- If an entry is a nested definition that is built, no two sites of it have the same keys. -/
theorem Entry.pairwise_keys_ne (key : String) : (entry : Entry P) →
    (∀ inner, entry = .nested inner → Definition.Built inner) →
    (entry.sites key).Pairwise fun s t => s.keys ≠ t.keys
  | .fixed _, _ => by
    unfold Entry.sites
    cases whenSuffix? key <;> simp
  | .computed _, _ => by
    unfold Entry.sites
    cases whenSuffix? key <;> simp
  | .nested ⟨entries⟩, hentry => by
    have hinner : Definition.Built ⟨entries⟩ := hentry _ rfl
    unfold Entry.sites
    split
    · exact List.pairwise_singleton _ _
    · rw [List.pairwise_map]
      refine (pairwise_keys_ne_sitesIn entries hinner.distinct fun _ _ h => hinner.of_mem h).imp ?_
      exact fun hne heq => hne (List.cons.inj heq).2

/-- If the keys of a list of entries are distinct and what is nested in it is built, no two sites in
it have the same keys. -/
theorem pairwise_keys_ne_sitesIn : (entries : List (String × Entry P)) →
    (entries.map Prod.fst).Nodup →
    (∀ key inner, (key, .nested inner) ∈ entries → Definition.Built inner) →
    (sitesIn entries).Pairwise fun s t => s.keys ≠ t.keys
  | [], _, _ => List.Pairwise.nil
  | (key, entry) :: rest, hkeys, hbuilt => by
    obtain ⟨hkey, hrest⟩ := List.nodup_cons.mp hkeys
    rw [sitesIn, List.pairwise_append]
    refine ⟨Entry.pairwise_keys_ne key entry fun inner heq => hbuilt key inner (by simp [heq]),
      pairwise_keys_ne_sitesIn rest hrest fun k inner h => hbuilt k inner (by simp [h]), ?_⟩
    -- the keys that lead to sites of different entries differ at the start
    intro s hs t ht heq
    obtain ⟨e, he, hte⟩ := Definition.mem_sites_iff_exists (d := ⟨rest⟩).mp ht
    obtain ⟨deeper, hsk⟩ := Entry.exists_keys_eq_cons hs
    obtain ⟨deeper', htk⟩ := Entry.exists_keys_eq_cons hte
    rw [hsk, htk] at heq
    exact hkey (List.mem_map.mpr ⟨e, he, (List.cons.inj heq).1.symm⟩)

end

/-- In a definition that is built, no two sites have the same keys. -/
lemma Definition.Built.pairwise_keys_ne {d : Definition P} (h : d.Built) :
    d.sites.Pairwise fun s t => s.keys ≠ t.keys :=
  pairwise_keys_ne_sitesIn d.entries h.distinct fun _ _ hmem => h.of_mem hmem

/-- What is declared at a site has the key of the site as its property. -/
lemma Site.dashCase_key_of_declares {site : Site P} {base selector property : String}
    (h : (site.event base).declares selector property = true) : dashCase site.key = property := by
  unfold Site.event at h
  split at h
  · simp only [Event.declares, Bool.and_eq_true, decide_eq_true_eq] at h
    exact h.2
  · simp only [Event.declares, Bool.and_eq_true, decide_eq_true_eq] at h
    exact h.2
  · cases h

/-- The keys of a definition that have no dash name different properties. -/
lemma nodup_map_dashCase {d : Definition P} (h : d.Distinct) :
    ((d.keys.filter fun key => '-' ∉ key.toList).map dashCase).Nodup := by
  refine List.Nodup.map_on (fun key hkey other hother heq => ?_) (h.filter _)
  exact injOn_dashCase (by simpa using (List.mem_filter.mp hkey).2)
    (by simpa using (List.mem_filter.mp hother).2) heq

/-- No two entries of one definition under keys without dashes declare the same property. -/
lemma Definition.Built.pairwise_not_declares {d : Definition P} (h : d.Built) :
    d.sites.Pairwise fun s t => s.path = t.path → '-' ∉ s.key.toList → '-' ∉ t.key.toList →
      ∀ base selector property, ¬((s.event base).declares selector property = true ∧
        (t.event base).declares selector property = true) := by
  refine h.pairwise_keys_ne.imp fun {s t} hne hpath hs ht base selector property => ?_
  rintro ⟨hsdeclares, htdeclares⟩
  have hproperty : dashCase s.key = dashCase t.key :=
    (Site.dashCase_key_of_declares hsdeclares).trans
      (Site.dashCase_key_of_declares htdeclares).symm
  have hkey : s.key = t.key := injOn_dashCase hs ht hproperty
  exact hne (by rw [Site.keys, Site.keys, hpath, hkey])

end Sites

/-- What conversion to dash case does. It distributes over concatenation, and repeated it changes
nothing more. The result has no capital and is longer by the number of capitals. The characters keep
their order: one that is no capital stands at its place, and at the place of a capital stands a dash
with the small letter behind it. The names that are left as they are, told apart by their bytes, are
those without capitals, and to convert them character by character would make no difference. No two
names without dashes have the same result. So the keys of a definition that have no dash name
different properties, and at any depth, no two entries under such keys of one definition declare the
same property where a walk reports them. -/
theorem dashCase_faithful (p q : String) :
    dashCase (p ++ q) = dashCase p ++ dashCase q ∧
    dashCase (dashCase p) = dashCase p ∧
    (∀ c ∈ (dashCase p).toList, c.isUpper = false) ∧
    (dashCase p).length = p.length + p.toList.countP Char.isUpper ∧
    StrictMono (dashPlace p) ∧
    (∀ i c, p.toList[i]? = some c → c.isUpper = false →
      (dashCase p).toList[dashPlace p i]? = some c) ∧
    (∀ i c, p.toList[i]? = some c → c.isUpper = true →
      (dashCase p).toList[dashPlace p i]? = some '-' ∧
      (dashCase p).toList[dashPlace p i + 1]? = some c.toLower) ∧
    dashCase p = dashEachChar p ∧
    (hasCapitalByte p = true ↔ ∃ c ∈ p.toList, c.isUpper = true) ∧
    ('-' ∉ p.toList → '-' ∉ q.toList → dashCase p = dashCase q → p = q) ∧
    ∀ (P : Type) (d : Definition P), d.Built →
      ((d.keys.filter fun key => '-' ∉ key.toList).map dashCase).Nodup ∧
      d.sites.Pairwise fun s t => s.path = t.path → '-' ∉ s.key.toList → '-' ∉ t.key.toList →
        ∀ base selector property, ¬((s.event base).declares selector property = true ∧
          (t.event base).declares selector property = true) := by
  have hnone : ∀ c ∈ (dashCase p).toList, c.isUpper = false := fun _ => isUpper_of_mem_dashCase
  exact ⟨dashCase_append p q, dashCase_of_no_capital hnone, hnone, length_dashCase p,
    strictMono_dashPlace p, fun _ _ => getElem?_dashPlace, fun _ _ => getElem?_dashPlace_of_isUpper,
    dashCase_eq_dashEachChar p, by rw [hasCapitalByte_eq_any, List.any_eq_true],
    fun hp hq heq => injOn_dashCase hp hq heq,
    fun _ _ hd => ⟨nodup_map_dashCase hd.distinct, hd.pairwise_not_declares⟩⟩

/-- A definition with two keys that differ in one capital. -/
def twoSizes : Definition Nat :=
  Definition.set (Definition.set .empty "MaxGröße" (.text "1px")) "maxGröße" (.text "2px")

/-- The umlaut of `MaxGröße` has two capitals before it, so it moves by two places. The two keys of
`twoSizes` name two properties, and their entries declare nothing in common. -/
theorem dashCase_faithful_twoSizes :
    '-' ∉ "MaxGröße".toList ∧ '-' ∉ "maxGröße".toList ∧ twoSizes.Built ∧
    "MaxGröße".toList[5]? = some 'ö' ∧ (dashCase "MaxGröße").toList[7]? = some 'ö' ∧
    "MaxGröße".toList[3]? = some 'G' ∧ (dashCase "MaxGröße").toList[4]? = some '-' ∧
    (dashCase "MaxGröße").toList[5]? = some 'g' ∧
    dashCase "MaxGröße" ≠ dashCase "maxGröße" ∧
    (["MaxGröße", "maxGröße"].map dashCase).Nodup ∧
    twoSizes.walk ".A" = [.fixed ".A" "-max-größe" (.text "1px"),
      .fixed ".A" "max-größe" (.text "2px")] ∧
    (twoSizes.walk ".A").Pairwise fun e e' => ∀ selector property,
      ¬(e.declares selector property = true ∧ e'.declares selector property = true) := by
  have hp : '-' ∉ "MaxGröße".toList := by decide
  have hq : '-' ∉ "maxGröße".toList := by decide
  have hbuilt : twoSizes.Built := .set (.set .empty _ _) _ _
  have humlaut : "MaxGröße".toList[5]? = some 'ö' := rfl
  have hcapital : "MaxGröße".toList[3]? = some 'G' := rfl
  have hwalk : twoSizes.walk ".A" = [.fixed ".A" "-max-größe" (.text "1px"),
      .fixed ".A" "max-größe" (.text "2px")] := rfl
  obtain ⟨-, -, -, -, -, hplain, hupper, -, -, hinj, hkeys⟩ :=
    dashCase_faithful "MaxGröße" "maxGröße"
  obtain ⟨hdash, hsmall⟩ := hupper 3 'G' hcapital rfl
  obtain ⟨hnodup, hsites⟩ := hkeys Nat twoSizes hbuilt
  refine ⟨hp, hq, hbuilt, humlaut, hplain 5 'ö' humlaut rfl, hcapital, hdash, hsmall,
    fun heq => absurd (hinj hp hq heq) (by decide), hnodup, hwalk, ?_⟩
  exact List.pairwise_pair.mpr (List.pairwise_pair.mp hsites rfl hp hq ".A")

end Restyle
