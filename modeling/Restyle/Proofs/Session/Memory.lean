import Restyle.Proofs.Rendering.Memory
import Restyle.Proofs.Session.Lifecycle

/-!
# The memory of the producers

Rendering depends on what producers remember through the values that they give only, and so does a
session. Let two evaluators give the same values from related memories and leave related memories
behind (`Evaluator.Follows`). Then two runs of the same commands that start with related memories
answer alike and differ in the memory only (`Session.replies_remembering`, `Session.recalls_after`).

Producers that note their runs are one use: what is counted with notes is what happens without
(`Session.after_traced`). Producers that depend on the component only are another: it does not
matter what was rendered before.
-/

namespace Restyle

variable {P C σ τ α β : Type}

namespace Session

/-- The session with another memory in place of its own. -/
def remembering (s : Session P σ) (memory : τ) : Session P τ :=
  ⟨s.registry, s.targets, s.providers, s.managers, memory⟩

/-- Two answers are the same, and the sessions that follow differ in the memory only and remember
related things. -/
def Recalls (R : σ → τ → Prop) (answer : α × Session P σ) (answer' : α × Session P τ) : Prop :=
  ∃ memory, R answer.2.memory memory ∧ answer' = (answer.1, answer.2.remembering memory)

variable {R : σ → τ → Prop} {eval : Evaluator P C σ} {eval' : Evaluator P C τ}
  {s : Session P σ} {memory : τ}

lemma Recalls.map {answer : α × Session P σ} {answer' : α × Session P τ} (f : α → β)
    (h : Recalls R answer answer') : Recalls R (answer.map f id) (answer'.map f id) := by
  obtain ⟨memory, hmemory, rfl⟩ := h
  exact ⟨memory, hmemory, rfl⟩

/-- Nothing is done without a manager, whatever is remembered. -/
lemma recalls_withManager (hmemory : R s.memory memory) (name : String)
    {act : Manager P → Reply P × Session P σ} {act' : Manager P → Reply P × Session P τ}
    (h : ∀ m, Recalls R (act m) (act' m)) :
    Recalls R (s.withManager name act) ((s.remembering memory).withManager name act') := by
  have hsame : (s.remembering memory).manager? name = s.manager? name := rfl
  rw [withManager, withManager, hsame]
  cases s.manager? name with
  | none => exact ⟨memory, hmemory, rfl⟩
  | some m => exact h m

/-- Nothing is done without a record, whatever is remembered. -/
lemma recalls_withRecord (hmemory : R s.memory memory) (key : String)
    {act : Record P → Reply P × Session P σ} {act' : Record P → Reply P × Session P τ}
    (h : ∀ record, Recalls R (act record) (act' record)) :
    Recalls R (s.withRecord key act) ((s.remembering memory).withRecord key act') := by
  have hsame : (s.remembering memory).registry.get? key = s.registry.get? key := rfl
  rw [withRecord, withRecord, hsame]
  cases s.registry.get? key with
  | none => exact ⟨memory, hmemory, rfl⟩
  | some record => exact h record

section Operations

variable (hmemory : R s.memory memory)
include hmemory

lemma recalls_initialise (name : String) (m : Manager P) :
    Recalls R (s.initialise name m) ((s.remembering memory).initialise name m) := by
  have hacquired : (s.remembering memory).acquired m = s.acquired m := rfl
  have hprepared : (s.remembering memory).prepared name m =
      (s.prepared name m).remembering memory := rfl
  have hconfig : (s.remembering memory).config = s.config := rfl
  have htargets : ((s.prepared name m).remembering memory).targets =
      (s.prepared name m).targets := rfl
  rw [initialise_eq, initialise_eq, hacquired, hprepared, hconfig, htargets]
  cases (s.acquired m).1.2.writeStatic s.config.layout (s.prepared name m).targets with
  | error e => exact ⟨memory, hmemory, rfl⟩
  | ok result => exact ⟨memory, hmemory, rfl⟩

lemma recalls_writeStatic (key : String) (record : Record P) (layout : Layout) :
    Recalls R (s.writeStatic key record layout)
      ((s.remembering memory).writeStatic key record layout) := by
  have hsame : (s.remembering memory).targets = s.targets := rfl
  rw [writeStatic, writeStatic, hsame]
  cases record.writeStatic layout s.targets with
  | error e => exact ⟨memory, hmemory, rfl⟩
  | ok result => exact ⟨memory, hmemory, rfl⟩

lemma recalls_writeDynamic (key : String) (record : Record P) (text : String) (skip : Bool) :
    Recalls R (s.writeDynamic key record text skip)
      ((s.remembering memory).writeDynamic key record text skip) := by
  have hsame : (s.remembering memory).targets = s.targets := rfl
  rw [writeDynamic, writeDynamic, hsame]
  cases record.writeDynamic text skip s.targets with
  | error e => exact ⟨memory, hmemory, rfl⟩
  | ok result => exact ⟨memory, hmemory, rfl⟩

lemma recalls_getOrCompile (key base : String) (d : Definition P) (refusal : Option String) :
    Recalls R (s.getOrCompile key base d refusal)
      ((s.remembering memory).getOrCompile key base d refusal) := by
  have hsame : (s.remembering memory).registry.get? key = s.registry.get? key := rfl
  unfold getOrCompile Registry.getOrCompile
  rw [hsame]
  cases s.registry.get? key with
  | some record => exact ⟨memory, hmemory, rfl⟩
  | none =>
    cases refusal with
    | some reason => exact ⟨memory, hmemory, rfl⟩
    | none => exact ⟨memory, hmemory, rfl⟩

/-- An update renders the same text and writes it in the same way. -/
lemma recalls_update (heval : eval.Follows R eval') (m : Manager P) (component : Option C) :
    Recalls R (s.update eval m component) ((s.remembering memory).update eval' m component) := by
  have hsame : (s.remembering memory).renderedBy m = s.renderedBy m := rfl
  cases hby : s.renderedBy m with
  | none =>
    rw [update_of_renderedBy_eq_none hby, update_of_renderedBy_eq_none (hsame.trans hby)]
    exact ⟨memory, hmemory, rfl⟩
  | some found =>
    obtain ⟨record, rules⟩ := found
    obtain ⟨htext, hleft⟩ := rules.render_follows heval component s.config.layout hmemory
    cases hrender : rules.render eval component s.config.layout s.memory with
    | mk rendered left =>
      cases hrender' : rules.render eval' component s.config.layout memory with
      | mk rendered' left' =>
        rw [hrender, hrender'] at htext hleft
        obtain rfl : rendered' = rendered := htext
        rw [update_of_render hby hrender,
          update_of_render (s := s.remembering memory) (hsame.trans hby) hrender']
        cases rendered' with
        | error e => exact ⟨left', hleft, rfl⟩
        | ok text =>
          exact recalls_writeDynamic (s := s.remembering left) hleft m.base record text
            s.config.skipUnchanged

/-- A command answers alike and leaves sessions that differ in the memory only. -/
lemma recalls_step (heval : eval.Follows R eval') (command : Command P C) :
    Recalls R (s.step eval command) ((s.remembering memory).step eval' command) := by
  cases command with
  | addManager name base d => exact ⟨memory, hmemory, rfl⟩
  | define name d => exact recalls_withManager hmemory name fun m => ⟨memory, hmemory, rfl⟩
  | initialise name =>
    exact recalls_withManager hmemory name fun m => (recalls_initialise hmemory name m).map _
  | update name component =>
    exact recalls_withManager hmemory name fun m =>
      (recalls_update hmemory heval m component).map _
  | create base d => exact ⟨memory, hmemory, rfl⟩
  | getOrCompile key base d refusal => exact (recalls_getOrCompile hmemory key base d refusal).map _
  | writeStatic key layout =>
    exact recalls_withRecord hmemory key fun record =>
      (recalls_writeStatic hmemory key record layout).map _
  | writeDynamic key text skip =>
    exact recalls_withRecord hmemory key fun record =>
      (recalls_writeDynamic hmemory key record text skip).map _
  | callProvider key =>
    exact recalls_withRecord hmemory key fun record => ⟨memory, hmemory, rfl⟩
  | setDetached base kind on => exact ⟨memory, hmemory, rfl⟩

/-- After a run the sessions differ in the memory only. -/
theorem recalls_after (heval : eval.Follows R eval') (commands : List (Command P C)) :
    ∃ memory', R (s.after eval commands).memory memory' ∧
      (s.remembering memory).after eval' commands =
        (s.after eval commands).remembering memory' := by
  induction commands generalizing s memory with
  | nil => exact ⟨memory, hmemory, rfl⟩
  | cons command rest ih =>
    obtain ⟨memory', hmemory', hstep⟩ := recalls_step hmemory heval command
    rw [after_cons, after_cons, hstep]
    exact ih hmemory'

/-- A run gets the same replies. -/
theorem replies_remembering (heval : eval.Follows R eval') (commands : List (Command P C)) :
    (s.remembering memory).replies eval' commands = s.replies eval commands := by
  induction commands generalizing s memory with
  | nil => rfl
  | cons command rest ih =>
    obtain ⟨memory', hmemory', hstep⟩ := recalls_step hmemory heval command
    simp only [replies, hstep]
    rw [ih hmemory']

end Operations

/-- A run with producers that note their runs gets the replies of the same run without notes, and
apart from the notes it ends in the same session. -/
theorem after_traced (eval : Evaluator P C σ) (config : Config) (memory : σ)
    (commands : List (Command P C)) :
    let last : Session P (σ × List (P × C)) :=
      (fresh config (memory, [])).after eval.traced commands
    (fresh config (memory, [])).replies eval.traced commands =
        (fresh config memory).replies eval commands ∧
      last.remembering last.memory.1 = (fresh config memory).after eval commands := by
  intro last
  have hfollows := Evaluator.follows_traced eval
  have hnotes : ((memory, []) : σ × List (P × C)).1 = (fresh config memory : Session P σ).memory :=
    rfl
  have hfresh : (fresh config (memory, []) : Session P (σ × List (P × C))) =
      (fresh config memory : Session P σ).remembering (memory, []) := rfl
  constructor
  · rw [hfresh]
    exact replies_remembering (R := fun memory memory' => memory'.1 = memory) rfl hfollows commands
  · obtain ⟨memory', hmemory', hlast⟩ := recalls_after
      (R := fun (memory : σ) (memory' : σ × List (P × C)) => memory'.1 = memory) hnotes hfollows
      commands
    change last = _ at hlast
    rw [hlast]
    change ((fresh config memory).after eval commands).remembering memory'.1 = _
    rw [hmemory']
    rfl

end Session

end Restyle
