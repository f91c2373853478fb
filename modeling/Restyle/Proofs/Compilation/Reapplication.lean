import Restyle.Proofs.Compilation.LaterCompilation

/-!
# Refreshing again

A rule set is up to date with a collection if it agrees with it wherever both say something: under
headings on whole blocks, elsewhere pair by pair. A refresh makes a rule set up to date, and it
leaves alone exactly those that are up to date already. So a second refresh from the same definition
changes nothing, and a definition that declares nothing changes nothing at all
(`refresh_idempotent`).
-/

namespace Restyle

variable {P : Type}

namespace RuleSet

variable {rules latest : RuleSet P}

/-- Where a collection says something about a rule set, the rule set says the same. -/
structure UpToDate (rules latest : RuleSet P) : Prop where
  /-- Under headings this is so of whole blocks. -/
  block : ∀ heading old fresh, isKeyframesHeading heading = true →
    rules.get? heading = some old → latest.get? heading = some fresh → old = fresh
  /-- Under other selectors this is so of single values. -/
  value : ∀ selector property old fresh, isKeyframesHeading selector = false →
    rules.find? selector property = some old →
      latest.find? selector property = some fresh → old = fresh

/-- The empty collection says nothing. -/
lemma upToDate_empty (rules : RuleSet P) : rules.UpToDate .empty where
  block := fun _ _ _ _ _ hfresh => by simp at hfresh
  value := fun _ _ _ _ _ _ hfresh => by simp at hfresh

/-- What a rule set takes from a collection agrees with the collection. -/
lemma upToDate_refreshed : (rules.refreshed latest).UpToDate latest where
  block := fun heading old fresh hheading hold hfresh => by
    rw [get?_refreshed_of_heading hheading, Option.map_eq_some_iff] at hold
    obtain ⟨before, -, hold⟩ := hold
    rw [hfresh, Option.getD_some] at hold
    exact hold.symm
  value := fun selector property old fresh hselector hold hfresh => by
    rw [find?_refreshed hselector, Option.map_eq_some_iff] at hold
    obtain ⟨before, -, hold⟩ := hold
    rw [hfresh, Option.getD_some] at hold
    exact hold.symm

/-- A block of a rule set that is up to date is refreshed to itself. -/
lemma UpToDate.refreshBlock_eq (h : rules.UpToDate latest) (hrules : rules.WellFormed)
    {e : String × Declarations P} (he : e ∈ rules.blocks.entries) :
    OrderedMap.mk (refreshBlock latest e.1 e.2) = e.2 := by
  have hget : rules.get? e.1 = some e.2 := hrules.distinct.get?_of_mem he
  cases hheading : isKeyframesHeading e.1 with
  | true =>
    rw [refreshBlock_of_heading hheading]
    cases hfresh : latest.get? e.1 with
    | none => rfl
    | some fresh => exact (h.block e.1 e.2 fresh hheading hget hfresh).symm
  | false =>
    have hvalues : ∀ d ∈ e.2.entries, (latest.find? e.1 d.1).getD d.2 = d.2 := by
      intro d hd
      have hfind : rules.find? e.1 d.1 = some d.2 := hrules.find?_of_mem he hd
      cases hfresh : latest.find? e.1 d.1 with
      | none => rfl
      | some fresh => exact (h.value e.1 d.1 d.2 fresh hheading hfind hfresh).symm
    rw [refreshBlock_of_not_heading hheading]
    exact OrderedMap.mapKeyed_eq_self hvalues

/-- A refresh leaves exactly the rule sets alone that are up to date. -/
lemma refreshed_eq_self_iff (hrules : rules.WellFormed) :
    rules.refreshed latest = rules ↔ rules.UpToDate latest := by
  constructor
  · intro hsame
    rw [← hsame]
    exact upToDate_refreshed
  · intro h
    exact congrArg RuleSet.mk
      (OrderedMap.mapKeyed_eq_self fun e he => h.refreshBlock_eq hrules he)

/-- Declaring blocks one after another is an operation on rule sets. -/
lemma Built.insertAll (h : rules.Built) (selector : String)
    (entries : List (String × RuleValue P)) : (rules.insertAll selector entries).Built :=
  List.foldlRecOn entries _ h fun _ hrules e _ => hrules.insert selector e.1 e.2

/-- A refreshed rule set is made by the operations of rule sets. -/
lemma built_refresh (rules : RuleSet P) (d : Definition P) (base : String) :
    (rules.refresh d base).Built :=
  List.foldlRecOn rules.blocks.entries _ Built.empty fun _ hrules e _ => hrules.insertAll e.1 _

end RuleSet

/-- A later compilation can be made again. Its result is made by the operations of rule sets, like
the rules that it starts from, so it can be started from in turn; another later compilation of the
same definition then changes nothing. More generally a definition changes nothing exactly in the
rules that are up to date with it, and a definition that declares nothing changes no rules. -/
theorem refresh_idempotent {compiled : RuleSet P} (h : compiled.Built) (d : Definition P)
    (base : String) :
    (compiled.refresh d base).Built ∧
    (compiled.refresh d base).refresh d base = compiled.refresh d base ∧
    (compiled.refresh d base = compiled ↔ compiled.UpToDate (d.latest base)) ∧
    compiled.refresh .empty base = compiled := by
  have hunchanged : ∀ {rules : RuleSet P}, rules.Built → ∀ d' : Definition P,
      rules.refresh d' base = rules ↔ rules.UpToDate (d'.latest base) := by
    intro rules hrules d'
    rw [RuleSet.refresh_eq_refreshed hrules.wellFormed,
      RuleSet.refreshed_eq_self_iff hrules.wellFormed]
  have hbuilt : (compiled.refresh d base).Built := compiled.built_refresh d base
  refine ⟨hbuilt, (hunchanged hbuilt d).mpr ?_, hunchanged h d,
    (hunchanged h .empty).mpr compiled.upToDate_empty⟩
  rw [RuleSet.refresh_eq_refreshed h.wellFormed]
  exact RuleSet.upToDate_refreshed

/-- Rules with a produced value in a block of their own, and with a frame and a plain declaration
that share a heading. -/
def sharedHeading : RuleSet Nat :=
  ((RuleSet.empty.insert ".A" "color" (.computed 0)).insert "@keyframes x" "from"
    (.frame ⟨[("opacity", .computed 1)]⟩)).insert "@keyframes x" "color" (.computed 2)

/-- A definition that has another frame and another plain declaration under the heading, and fixes
the value in the other block. -/
def reshaped : Definition Nat :=
  ⟨[("@x", .nested ⟨[("to", .nested ⟨[("opacity", .computed 3)]⟩)]⟩),
    ("=@keyframes x", .nested ⟨[("width", .computed 4)]⟩),
    ("color", .fixed (.text "red"))]⟩

/-- The first refresh of `sharedHeading` changes its blocks, and the second one nothing. -/
theorem refresh_idempotent_reshaped :
    sharedHeading.Built ∧ sharedHeading.refresh reshaped ".A" ≠ sharedHeading ∧
    ((sharedHeading.refresh reshaped ".A").get? "@keyframes x").map OrderedMap.keys =
      some ["to", "width"] ∧
    (sharedHeading.refresh reshaped ".A").refresh reshaped ".A" =
      sharedHeading.refresh reshaped ".A" ∧
    sharedHeading.refresh .empty ".A" = sharedHeading := by
  have hbuilt : sharedHeading.Built := ((RuleSet.Built.empty.insert ..).insert ..).insert ..
  have hkeys : ((sharedHeading.refresh reshaped ".A").get? "@keyframes x").map OrderedMap.keys =
      some ["to", "width"] := by decide +kernel
  have hchanges : sharedHeading.refresh reshaped ".A" ≠ sharedHeading := by
    intro hsame
    rw [hsame] at hkeys
    exact absurd hkeys (by decide +kernel)
  obtain ⟨-, hagain, -, hnothing⟩ := refresh_idempotent hbuilt reshaped ".A"
  exact ⟨hbuilt, hchanges, hkeys, hagain, hnothing⟩

end Restyle
