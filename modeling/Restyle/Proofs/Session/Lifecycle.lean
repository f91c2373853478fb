import Restyle.Proofs.Record
import Restyle.Proofs.Session.Moments

/-!
# Initialisations and updates

An initialisation has two parts. It first comes by a record, an old or a new one, and gives the
manager its rules (`Session.prepared`); then it writes the fixed text of the record. An update first
renders a text and then writes it (`Session.renderedText?`). In both only the second part can be
refused by a target, and the first part stays if it is.
-/

namespace Restyle

variable {P C σ : Type}

/-- The shared part of a session: its records and its targets. -/
abbrev Store (P : Type) := Registry P × Targets

namespace Session

/-- The records and targets of a session. -/
def store (s : Session P σ) : Store P := (s.registry, s.targets)

/-! ### Managers and records by name -/

section Named

variable {s : Session P σ} {I : Session P σ → Prop}

lemma withManager_of_some {name : String} {m : Manager P} (hm : s.manager? name = some m)
    (act : Manager P → Reply P × Session P σ) : s.withManager name act = act m := by
  rw [withManager, hm]

lemma withManager_of_none {name : String} (hm : s.manager? name = none)
    (act : Manager P → Reply P × Session P σ) : s.withManager name act = (.noManager, s) := by
  rw [withManager, hm]

/-- Something done with a manager is nothing if there is no such manager. -/
lemma withManager_cases {name : String} {act : Manager P → Reply P × Session P σ} (hs : I s)
    (h : ∀ m, s.manager? name = some m → I (act m).2) : I (s.withManager name act).2 := by
  unfold withManager
  cases hm : s.manager? name with
  | none => exact hs
  | some m => exact h m hm

/-- Something done with a record is nothing if there is no such record. -/
lemma withRecord_cases {key : String} {act : Record P → Reply P × Session P σ} (hs : I s)
    (h : ∀ record, s.registry.get? key = some record → I (act record).2) :
    I (s.withRecord key act).2 := by
  unfold withRecord
  cases hrecord : s.registry.get? key with
  | none => exact hs
  | some record => exact h record hrecord

end Named

/-! ### Initialisations -/

/-- The definition that the provider of a manager gives at present. -/
def definitionOf (s : Session P σ) (m : Manager P) : Definition P :=
  s.providers.definition m.provider

/-- The record that an initialisation of a manager works with and the store that holds it. -/
def acquired (s : Session P σ) (m : Manager P) : (Found × Record P) × Store P :=
  match s.registry.get? m.base with
  | some record => ((.hit, record), s.store)
  | none =>
    let new := Record.compile m.base m.provider (s.definitionOf m) s.targets
    ((.compiled, new.1), (s.registry.put m.base new.1, new.2))

/-- A manager with the rules that an initialisation gives it. -/
def equipped (s : Session P σ) (m : Manager P) : Manager P :=
  { m with dynamicRules :=
      rulesFor (s.acquired m).1.1 (s.acquired m).1.2 m.base (s.definitionOf m) }

/-- The session of an initialisation before the fixed text is written. -/
def prepared (s : Session P σ) (name : String) (m : Manager P) : Session P σ :=
  { s with
    registry := (s.acquired m).2.1
    targets := (s.acquired m).2.2
    providers := (s.providers.call m.provider).2
    managers := s.managers.insert name (s.equipped m) }

section Initialise

variable (s : Session P σ) (name : String) (m : Manager P)

lemma acquired_of_get? {record : Record P} (h : s.registry.get? m.base = some record) :
    s.acquired m = ((.hit, record), s.store) := by
  simp [acquired, h]

lemma acquired_of_none (h : s.registry.get? m.base = none) :
    s.acquired m =
      ((.compiled, (Record.compile m.base m.provider (s.definitionOf m) s.targets).1),
        (s.registry.put m.base (Record.compile m.base m.provider (s.definitionOf m) s.targets).1,
          (Record.compile m.base m.provider (s.definitionOf m) s.targets).2)) := by
  simp [acquired, h]

/-- The record that an initialisation works with is of the base rule of the manager. -/
lemma base_acquired (h : ∀ record, s.registry.get? m.base = some record → record.base = m.base) :
    (s.acquired m).1.2.base = m.base := by
  cases hrecord : s.registry.get? m.base with
  | none => rw [acquired_of_none s m hrecord, Record.base_compile]
  | some record =>
    rw [acquired_of_get? s m hrecord]
    exact h record hrecord

/-- The record that an initialisation works with is stored. -/
lemma get?_prepared : (s.prepared name m).registry.get? m.base = some (s.acquired m).1.2 := by
  cases h : s.registry.get? m.base with
  | none => simp [prepared, acquired_of_none s m h]
  | some record => simpa [prepared, acquired_of_get? s m h, store] using h

/-- An initialisation does not change the configuration. -/
lemma config_prepared : (s.prepared name m).config = s.config := by
  cases h : s.registry.get? m.base with
  | none => simp [prepared, acquired_of_none s m h, config]
  | some record => simp [prepared, acquired_of_get? s m h, store, config]

/-- An initialisation detaches nothing. -/
lemma isDetached_prepared (base : String) (kind : TargetKind) :
    (s.prepared name m).targets.isDetached base kind = s.targets.isDetached base kind := by
  cases h : s.registry.get? m.base with
  | none => simp [prepared, acquired_of_none s m h]
  | some record => simp [prepared, acquired_of_get? s m h, store]

/-- An initialisation is prepared and then writes the fixed text of its record. If that fails, the
session stays as it was prepared. -/
lemma initialise_eq :
    s.initialise name m =
      match (s.acquired m).1.2.writeStatic s.config.layout (s.prepared name m).targets with
      | .error e => (.error e, s.prepared name m)
      | .ok (_, record, targets) =>
        (.ok (), { s.prepared name m with
          registry := (s.prepared name m).registry.put m.base record
          targets
          managers := s.managers.insert name { s.equipped m with initialised := true } }) := by
  have hcompile : s.registry.getOrCompile m.base
      (fun targets => Except.ok
        (Record.compile m.base m.provider (s.providers.definition m.provider) targets)) s.targets =
        .ok ((s.acquired m).1, (s.acquired m).2) := by
    unfold Registry.getOrCompile
    cases h : s.registry.get? m.base with
    | none =>
      rw [acquired_of_none s m h]
      rfl
    | some record =>
      rw [acquired_of_get? s m h]
      rfl
  have hconfig : (s.acquired m).2.1.config = s.registry.config := config_prepared s name m
  unfold initialise
  simp only [Providers.call, hcompile, config, hconfig, OrderedMap.insert_insert]
  rfl

end Initialise

/-! ### Updates -/

section Update

variable {eval : Evaluator P C σ} {s : Session P σ} {m : Manager P} {component : Option C}

/-- A manager renders rules only if it is initialised and its record is stored and has something to
render; it renders its own rules, and those of the record if it has none. -/
lemma of_renderedBy {record : Record P} {rules : RuleSet P}
    (h : s.renderedBy m = some (record, rules)) :
    m.initialised = true ∧ s.registry.get? m.base = some record ∧
      record.stage = .staticAndDynamic ∧ m.dynamicRules.or record.dynamicRules? = some rules := by
  unfold renderedBy at h
  split at h
  · rename_i hinit
    split at h
    · cases h
    · rename_i found hfound
      split at h
      · rename_i hstage
        obtain ⟨rules', hrules, heq⟩ := Option.map_eq_some_iff.mp h
        cases heq
        exact ⟨hinit, hfound, hstage, hrules⟩
      · cases h
  · cases h

/-- An update of a manager that renders nothing does nothing. -/
lemma update_of_renderedBy_eq_none (h : s.renderedBy m = none) :
    s.update eval m component = (.ok false, s) := by
  unfold update
  rw [h]

/-- An update of a manager that renders rules writes their text, if they have one. The memory that
the rendering leaves stays in any case. -/
lemma update_of_render {record : Record P} {rules : RuleSet P}
    (hby : s.renderedBy m = some (record, rules)) {rendered : Except StyleError String} {memory : σ}
    (hrender : rules.render eval component s.config.layout s.memory = (rendered, memory)) :
    s.update eval m component =
      match rendered with
      | .error e => (.error e, { s with memory })
      | .ok text =>
        { s with memory }.writeDynamic m.base record text s.config.skipUnchanged := by
  unfold update
  rw [hby]
  simp only [hrender]
  cases rendered <;> rfl

/-- An update that renders a text writes it to the record of its manager. -/
lemma update_of_renderedText? {text : String} (h : s.renderedText? eval m component = some text) :
    ∃ record memory, s.registry.get? m.base = some record ∧
      s.update eval m component =
        { s with memory }.writeDynamic m.base record text s.config.skipUnchanged := by
  unfold renderedText? at h
  split at h
  · rename_i record rules hby
    split at h
    · rename_i text' htext
      cases h
      refine ⟨record, (rules.render eval component s.config.layout s.memory).2,
        (of_renderedBy hby).2.1, ?_⟩
      unfold update
      rw [hby]
      simp only [htext]
      rfl
    · cases h
  · cases h

/-- An update that renders no text changes nothing but the memory of the producers. -/
lemma update_of_renderedText?_eq_none (h : s.renderedText? eval m component = none) :
    ∃ reply memory, s.update eval m component = (reply, { s with memory }) := by
  cases hby : s.renderedBy m with
  | none => exact ⟨_, s.memory, update_of_renderedBy_eq_none hby⟩
  | some found =>
    obtain ⟨record, rules⟩ := found
    unfold update
    rw [hby]
    cases hrendered : (rules.render eval component s.config.layout s.memory).1 with
    | error e =>
      refine ⟨.error e, (rules.render eval component s.config.layout s.memory).2, ?_⟩
      simp only [hrendered]
    | ok text => simp [renderedText?, hby, hrendered] at h

/-- A command that is to write a dynamic text to a record does it as the record does, whichever
command it is. -/
lemma step_of_dynamicWrite? {key : String} {command : Command P C} {write : DynamicWrite}
    (h : s.dynamicWrite? eval key command = some write) :
    ∃ record memory, s.registry.get? key = some record ∧
      s.step eval command =
        ({ s with memory }.writeDynamic key record write.text write.skip).map
          (.ofExcept .written) id := by
  cases command with
  | writeDynamic other text skip =>
    simp only [dynamicWrite?, Bool.and_eq_true, decide_eq_true_eq] at h
    split at h
    · rename_i hkey
      obtain ⟨rfl, hcontains⟩ := hkey
      cases h
      obtain ⟨record, hrecord⟩ := Option.isSome_iff_exists.mp hcontains
      refine ⟨record, s.memory, hrecord, ?_⟩
      have hget : s.registry.get? other = some record := hrecord
      simp only [step, withRecord, hget]
    · cases h
  | update name component =>
    simp only [dynamicWrite?] at h
    split at h
    · rename_i m hm
      split at h
      · rename_i hbase
        subst hbase
        obtain ⟨text, htext, rfl⟩ := Option.map_eq_some_iff.mp h
        obtain ⟨record, memory, hrecord, hupdate⟩ := update_of_renderedText? htext
        refine ⟨record, memory, hrecord, ?_⟩
        simp only [step, withManager, hm, hupdate]
      · cases h
    · cases h
  | _ => cases h

end Update

end Session

end Restyle
