import Mathlib.Logic.Relation
import Restyle.Proofs.Session.Lifecycle

/-!
# What a command does to records and targets

Records and targets are shared by everything in a session. Whatever a command does to them is made
up of few kinds of deeds: a record is compiled and stored or compiled and thrown away, a fixed or a
dynamic text is written to the target of a stored record, an output is detached or attached.
`Deed.Leads` says what each deed does and when it can happen, `Session.Permits` which deeds belong
to which command, and `Session.step_leads` that every command does nothing beyond these.

An invariant of records and targets is thus proved by looking at the deeds, once for all commands
(`Session.store_after`).
-/

namespace Restyle

variable {P C σ : Type}

/-! ### Deeds -/

/-- A change of records and targets. -/
inductive Deed (P : Type) where
  /-- A record is compiled and thrown away; its targets stay requested. -/
  | discard (base : String) (d : Definition P)
  /-- A record is compiled and stored. -/
  | compile (key base : String) (d : Definition P)
  /-- The fixed text of the record of a key is written. -/
  | writeStatic (key : String) (layout : Layout)
  /-- A dynamic text is written to the record of a key. -/
  | writeDynamic (key text : String)
  /-- An output is detached or attached. -/
  | setDetached (base : String) (kind : TargetKind) (on : Bool)

/-- When a deed can happen and what it leads to. -/
inductive Deed.Leads : Deed P → Store P → Store P → Prop
  | discard {r : Registry P} {t : Targets} {base : String} (provider : ProviderId)
      {d : Definition P} :
      Leads (.discard base d) (r, t) (r, (Record.compile base provider d t).2)
  | compile {r : Registry P} {t : Targets} {key base : String} (provider : ProviderId)
      {d : Definition P} (hkey : r.get? key = none) :
      Leads (.compile key base d) (r, t)
        (r.put key (Record.compile base provider d t).1, (Record.compile base provider d t).2)
  | writeStatic {r : Registry P} {t : Targets} {key text : String} {record : Record P}
      {layout : Layout} {id : TargetId} (hkey : r.get? key = some record)
      (hid : record.staticTarget = some id) (hpending : record.staticText = none)
      (htext : record.renderStatic layout = .ok text)
      (hattached : t.isDetached id.base id.kind = false) :
      Leads (.writeStatic key layout) (r, t) (r.put key (record.withStatic text), t.logged id text)
  | writeDynamic {r : Registry P} {t : Targets} {key text : String} {record : Record P}
      {id : TargetId} (hkey : r.get? key = some record) (hid : record.dynamicTarget = some id)
      (hattached : t.isDetached id.base id.kind = false) :
      Leads (.writeDynamic key text) (r, t) (r.put key (record.withDynamic text), t.logged id text)
  | setDetached {r : Registry P} {t : Targets} {base : String} {kind : TargetKind} {on : Bool} :
      Leads (.setDetached base kind on) (r, t) (r, t.setDetached base kind on)

/-- No deed changes the configuration. -/
lemma Deed.Leads.config_eq {deed : Deed P} {x y : Store P} (h : deed.Leads x y) :
    y.1.config = x.1.config := by
  cases h <;> rfl

/-- The deeds that belong to a command. -/
inductive Session.Permits (eval : Evaluator P C σ) (s : Session P σ) :
    Command P C → Deed P → Prop
  | initialiseCompile {name : String} {m : Manager P} (hm : s.manager? name = some m)
      (hnone : s.registry.get? m.base = none) :
      Permits eval s (.initialise name)
        (.compile m.base m.base (s.providers.definition m.provider))
  | initialiseWrite {name : String} {m : Manager P} (hm : s.manager? name = some m) :
      Permits eval s (.initialise name) (.writeStatic m.base s.config.layout)
  | update {name key : String} {component : Option C} {write : DynamicWrite}
      (hwrite : s.dynamicWrite? eval key (.update name component) = some write) :
      Permits eval s (.update name component) (.writeDynamic key write.text)
  | createCompile {base : String} {d : Definition P} (hnone : s.registry.get? base = none) :
      Permits eval s (.create base d) (.compile base base d)
  | createDiscard {base : String} {d : Definition P} :
      Permits eval s (.create base d) (.discard base d)
  | getOrCompile {key base : String} {d : Definition P} {refusal : Option String}
      (hnone : s.registry.get? key = none) :
      Permits eval s (.getOrCompile key base d refusal) (.compile key base d)
  | writeStatic {key : String} {layout : Layout} :
      Permits eval s (.writeStatic key layout) (.writeStatic key layout)
  | writeDynamic {key text : String} {skip : Bool} {write : DynamicWrite}
      (hwrite : s.dynamicWrite? eval key (.writeDynamic key text skip) = some write) :
      Permits eval s (.writeDynamic key text skip) (.writeDynamic key write.text)
  | setDetached {base : String} {kind : TargetKind} {on : Bool} :
      Permits eval s (.setDetached base kind on) (.setDetached base kind on)

/-- Some deed out of those allowed leads from one store to another. -/
def Store.Step (allowed : Deed P → Prop) (a b : Store P) : Prop :=
  ∃ deed, allowed deed ∧ deed.Leads a b

/-- Deeds out of those allowed lead, one after another, from one store to another. -/
def Store.Steps (allowed : Deed P → Prop) : Store P → Store P → Prop :=
  Relation.ReflTransGen (Store.Step allowed)

namespace Store.Steps

variable {allowed : Deed P → Prop} {a b : Store P}

/-- No deed at all. -/
lemma of_eq (h : b = a) : Store.Steps allowed a b := h ▸ Relation.ReflTransGen.refl

/-- One deed. -/
lemma single {deed : Deed P} (hallowed : allowed deed) (h : deed.Leads a b) :
    Store.Steps allowed a b :=
  Relation.ReflTransGen.single ⟨deed, hallowed, h⟩

/-- What every allowed deed keeps is kept by all of them. -/
lemma induction {I : Store P → Prop} (h : Store.Steps allowed a b) (ha : I a)
    (hdeed : ∀ deed, allowed deed → ∀ x y, deed.Leads x y → I x → I y) : I b := by
  induction h with
  | refl => exact ha
  | tail _ hstep ih =>
    obtain ⟨deed, hallowed, hleads⟩ := hstep
    exact hdeed deed hallowed _ _ hleads ih

end Store.Steps

/-! ### Writing to stored records -/

namespace Store

variable {r : Registry P} {t t' : Targets} {key : String} {record record' : Record P}
  {written : Bool} {allowed : Deed P → Prop}

/-- A write of a fixed text that does not fail is one deed or none. -/
lemma steps_of_writeStatic {layout : Layout} (hkey : r.get? key = some record)
    (hwrite : record.writeStatic layout t = .ok (written, record', t'))
    (hallowed : allowed (.writeStatic key layout)) :
    Store.Steps allowed (r, t) (r.put key record', t') := by
  obtain ⟨-, rfl, rfl⟩ | ⟨id, text, hid, hnone, htext, hattached, rfl, rfl⟩ :=
    Record.writeStatic_ok_cases hwrite
  · exact Store.Steps.of_eq (by rw [Registry.put_of_get? hkey])
  · exact Store.Steps.single hallowed (.writeStatic hkey hid hnone htext hattached)

/-- A write of a dynamic text that does not fail is one deed or none. -/
lemma steps_of_writeDynamic {text : String} {skip : Bool} (hkey : r.get? key = some record)
    (hwrite : record.writeDynamic text skip t = .ok (written, record', t'))
    (hallowed : allowed (.writeDynamic key text)) :
    Store.Steps allowed (r, t) (r.put key record', t') := by
  cases hid : record.dynamicTarget with
  | none =>
    rw [Record.writeDynamic_of_no_target hid] at hwrite
    cases hwrite
    exact Store.Steps.of_eq (by rw [Registry.put_of_get? hkey])
  | some id =>
    obtain ⟨-, -, heq⟩ | ⟨-, -, heq⟩ | ⟨-, hattached, heq⟩ :=
      Record.writeDynamic_cases hid text skip t
    · rw [heq] at hwrite
      cases hwrite
      exact Store.Steps.of_eq (by rw [Registry.put_of_get? hkey])
    · rw [heq] at hwrite
      cases hwrite
    · rw [heq] at hwrite
      cases hwrite
      exact Store.Steps.single hallowed (.writeDynamic hkey hid hattached)

end Store

/-! ### Commands -/

namespace Session

variable {eval : Evaluator P C σ} {s : Session P σ}

/-- The record of an initialisation is there, or compiling it is the one deed that leads there. -/
lemma steps_of_acquired {allowed : Deed P → Prop} {m : Manager P}
    (hallowed : s.registry.get? m.base = none →
      allowed (.compile m.base m.base (s.definitionOf m))) :
    Store.Steps allowed s.store (s.acquired m).2 := by
  cases hrecord : s.registry.get? m.base with
  | some record =>
    rw [acquired_of_get? s m hrecord]
    exact Store.Steps.of_eq rfl
  | none =>
    rw [acquired_of_none s m hrecord]
    exact Store.Steps.single (hallowed hrecord) (.compile m.provider hrecord)

lemma steps_of_initialise {name : String} {m : Manager P} (hm : s.manager? name = some m) :
    Store.Steps (s.Permits eval (.initialise name)) s.store (s.initialise name m).2.store := by
  have hacquired : Store.Steps (s.Permits eval (.initialise name)) s.store (s.acquired m).2 :=
    steps_of_acquired (.initialiseCompile hm)
  rw [initialise_eq]
  cases hwrite : (s.acquired m).1.2.writeStatic s.config.layout (s.prepared name m).targets with
  | error e => exact hacquired
  | ok result =>
    obtain ⟨written, record, targets⟩ := result
    exact hacquired.trans (Store.steps_of_writeStatic (get?_prepared s name m) hwrite
      (.initialiseWrite hm))

lemma steps_of_writeStatic {key : String} {record : Record P} {layout : Layout}
    (hkey : s.registry.get? key = some record) :
    Store.Steps (s.Permits eval (.writeStatic key layout)) s.store
      (s.writeStatic key record layout).2.store := by
  unfold writeStatic
  cases hwrite : record.writeStatic layout s.targets with
  | error e => exact Store.Steps.of_eq rfl
  | ok result =>
    obtain ⟨written, record', targets⟩ := result
    exact Store.steps_of_writeStatic hkey hwrite .writeStatic

lemma steps_of_writeDynamic {allowed : Deed P → Prop} {key : String} {record : Record P}
    {text : String} {skip : Bool} {memory : σ} (hkey : s.registry.get? key = some record)
    (hallowed : allowed (.writeDynamic key text)) :
    Store.Steps allowed s.store
      ({ s with memory }.writeDynamic key record text skip).2.store := by
  unfold writeDynamic
  cases hwrite : record.writeDynamic text skip s.targets with
  | error e => exact Store.Steps.of_eq rfl
  | ok result =>
    obtain ⟨written, record', targets⟩ := result
    exact Store.steps_of_writeDynamic hkey hwrite hallowed

/-- Creating a record stores what was compiled, or throws it away if there is a record. -/
lemma steps_of_create (base : String) (d : Definition P) :
    Store.Steps (s.Permits eval (.create base d)) s.store (s.create base d).2.store := by
  have hcreate : (s.create base d).2.store =
      ((s.registry.create (Record.compile base s.providers.current.length d s.targets).1).2,
        (Record.compile base s.providers.current.length d s.targets).2) := rfl
  rw [hcreate, Registry.create, Record.base_compile]
  cases hrecord : s.registry.get? base with
  | some stored => exact Store.Steps.single .createDiscard (.discard _)
  | none => exact Store.Steps.single (.createCompile hrecord) (.compile _ hrecord)

lemma steps_of_getOrCompile (key base : String) (d : Definition P) (refusal : Option String) :
    Store.Steps (s.Permits eval (.getOrCompile key base d refusal)) s.store
      (s.getOrCompile key base d refusal).2.store := by
  unfold getOrCompile Registry.getOrCompile
  cases hrecord : s.registry.get? key with
  | some record => exact Store.Steps.of_eq rfl
  | none =>
    cases refusal with
    | some reason => exact Store.Steps.of_eq rfl
    | none => exact Store.Steps.single (.getOrCompile hrecord) (.compile _ hrecord)

/-- Whatever a command does to records and targets is made up of the deeds that belong to it. -/
lemma step_leads (eval : Evaluator P C σ) (s : Session P σ) (command : Command P C) :
    Store.Steps (s.Permits eval command) s.store (s.step eval command).2.store := by
  have hnone : Store.Steps (s.Permits eval command) s.store s.store := Store.Steps.of_eq rfl
  cases command with
  | addManager name base d => exact hnone
  | define name d =>
    exact withManager_cases (I := fun s' => Store.Steps _ s.store s'.store) hnone fun m _ => hnone
  | initialise name =>
    exact withManager_cases (I := fun s' => Store.Steps _ s.store s'.store) hnone
      fun m hm => steps_of_initialise hm
  | update name component =>
    refine withManager_cases (I := fun s' => Store.Steps _ s.store s'.store) hnone fun m hm => ?_
    change Store.Steps _ _ (s.update eval m component).2.store
    cases htext : s.renderedText? eval m component with
    | none =>
      obtain ⟨reply, memory, hupdate⟩ := update_of_renderedText?_eq_none htext
      rw [hupdate]
      exact hnone
    | some text =>
      obtain ⟨record, memory, hrecord, hupdate⟩ := update_of_renderedText? htext
      have hwrite : s.dynamicWrite? eval m.base (.update name component) =
          some ⟨text, s.config.skipUnchanged⟩ := by simp [dynamicWrite?, hm, htext]
      rw [hupdate]
      exact steps_of_writeDynamic hrecord (.update hwrite)
  | create base d => exact steps_of_create base d
  | getOrCompile key base d refusal => exact steps_of_getOrCompile key base d refusal
  | writeStatic key layout =>
    exact withRecord_cases (I := fun s' => Store.Steps _ s.store s'.store) hnone
      fun record hrecord => steps_of_writeStatic hrecord
  | writeDynamic key text skip =>
    refine withRecord_cases (I := fun s' => Store.Steps _ s.store s'.store) hnone
      fun record hrecord => ?_
    have hcontains : s.registry.contains key = true :=
      Option.isSome_iff_exists.mpr ⟨record, hrecord⟩
    have hwrite : s.dynamicWrite? eval key (.writeDynamic key text skip) = some ⟨text, skip⟩ := by
      simp [dynamicWrite?, hcontains]
    exact steps_of_writeDynamic hrecord (.writeDynamic hwrite)
  | callProvider key =>
    exact withRecord_cases (I := fun s' => Store.Steps _ s.store s'.store) hnone
      fun record _ => hnone
  | setDetached base kind on => exact Store.Steps.single .setDetached .setDetached

section Invariant

variable {I : Store P → Prop}

/-- What every deed keeps is kept by every command. -/
lemma store_step (hdeed : ∀ (deed : Deed P) (x y : Store P), deed.Leads x y → I x → I y)
    (eval : Evaluator P C σ) (command : Command P C) (hs : I s.store) :
    I (s.step eval command).2.store :=
  (step_leads eval s command).induction hs fun deed _ => hdeed deed

/-- What every deed keeps is kept by every run. -/
lemma store_after (hdeed : ∀ (deed : Deed P) (x y : Store P), deed.Leads x y → I x → I y)
    (eval : Evaluator P C σ) (commands : List (Command P C)) (hs : I s.store) :
    I (s.after eval commands).store := by
  refine after_induction (I := fun s => I s.store) hs fun s' hs' command _ => ?_
  exact store_step hdeed eval command hs'

end Invariant

/-- The configuration stays as it is through a run. -/
lemma config_after (eval : Evaluator P C σ) (s : Session P σ) (commands : List (Command P C)) :
    (s.after eval commands).config = s.config := by
  refine store_after (I := fun y => y.1.config = s.config) ?_ eval commands rfl
  intro deed x y hleads hx
  exact hleads.config_eq.trans hx

end Session

end Restyle
