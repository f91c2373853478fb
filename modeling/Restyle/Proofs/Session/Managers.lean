import Restyle.Proofs.Session.Ledger

/-!
# Runs of managers

In a run whose commands are those of managers, records are made by initialisations only. So the
record of a base rule is the compilation of one definition, the one that the provider of a manager
gave to the initialisation that found no record (`Session.firstCompiled?_of_get?`). Managers that
come later, and managers whose first initialisation failed, share this record.

An initialisation either ends well, and then its record has no fixed text left to write, or a fixed
text is pending and its target refuses it (`Session.step_initialise_cases`).
-/

namespace Restyle

variable {P C σ : Type}

namespace Session

variable {eval : Evaluator P C σ} {s : Session P σ} {name base : String} {m : Manager P}
  {command : Command P C}

/-! ### What an initialisation comes to -/

/-- The manager that an initialisation leaves if it ends well. -/
def ready (s : Session P σ) (m : Manager P) : Manager P := { s.equipped m with initialised := true }

/-- The session that an initialisation leaves if it ends well. -/
def initialised (s : Session P σ) (name : String) (m : Manager P) (record : Record P)
    (targets : Targets) : Session P σ :=
  { s.prepared name m with
    registry := (s.prepared name m).registry.put m.base record
    targets
    managers := s.managers.insert name (s.ready m) }

/-- The ledger is right once an initialisation has its record. -/
lemma ledger_acquired (hs : s.store.Ledger) (m : Manager P) : (s.acquired m).2.Ledger := by
  have hsteps : Store.Steps (fun _ => True) s.store (s.acquired m).2 :=
    steps_of_acquired fun _ => trivial
  exact hsteps.induction hs fun deed _ _ _ hleads hx => hx.of_leads hleads

/-- An initialisation fails if a fixed text is pending and its target refuses it; otherwise it ends
well, and nothing is pending after it. -/
lemma step_initialise_cases (eval : Evaluator P C σ) (hs : s.store.Ledger)
    (hm : s.manager? name = some m) :
    ((s.acquired m).1.2.isPending = true ∧
      s.targets.isDetached (s.acquired m).1.2.base .static = true ∧
      s.step eval (.initialise name) =
        (.failed (.output (s.acquired m).1.2.base Targets.refusal), s.prepared name m)) ∨
    ∃ record targets, (s.acquired m).1.2.Continues record ∧ record.isPending = false ∧
      s.step eval (.initialise name) = (.done, s.initialised name m record targets) := by
  have hstep : s.step eval (.initialise name) =
      (s.initialise name m).map (.ofExcept fun _ => .done) id := by
    simp [step, withManager, hm]
  have hbooked : (s.acquired m).1.2.Booked (s.prepared name m).targets :=
    (ledger_acquired hs m).booked m.base _ (get?_prepared s name m)
  rw [hstep, initialise_eq]
  cases hwrite : (s.acquired m).1.2.writeStatic s.config.layout (s.prepared name m).targets with
  | ok result =>
    obtain ⟨written, record, targets⟩ := result
    obtain ⟨hcontinues, hpending⟩ := Record.continues_of_writeStatic_ok hwrite
    exact Or.inr ⟨record, targets, hcontinues, hpending, rfl⟩
  | error e =>
    obtain ⟨d, hcompiled⟩ := hbooked.compiled
    obtain ⟨-, heq⟩ | ⟨id, hid, hnone, ⟨hdetached, heq⟩ | ⟨-, heq⟩⟩ :=
      Record.writeStatic_cases hcompiled s.config.layout (s.prepared name m).targets
    · rw [heq] at hwrite
      cases hwrite
    · rw [heq] at hwrite
      cases hwrite
      obtain ⟨-, hbase, hkind⟩ := hbooked.opened .static id hid
      rw [isDetached_prepared, hbase, hkind] at hdetached
      exact Or.inl ⟨by simp [Record.isPending, hid, hnone], hdetached, rfl⟩
    · rw [heq] at hwrite
      cases hwrite

/-! ### The records of managers -/

/-- A command of a manager compiles only as an initialisation that finds no record. -/
lemma Permits.compile_of_isManagerial {key b : String} {d : Definition P}
    (h : s.Permits eval command (.compile key b d)) (hmanager : command.isManagerial = true) :
    b = key ∧ s.compiles? key command = some d := by
  cases h with
  | initialiseCompile hm hnone => simp [compiles?, hm, hnone]
  | createCompile hnone => cases hmanager
  | getOrCompile hnone => cases hmanager

/-- A record that a command of a manager adds is the compilation of the definition that the command
compiles. -/
lemma of_get?_step (hmanager : command.isManagerial = true) (hnone : s.registry.get? base = none)
    {record : Record P} (h : (s.step eval command).2.registry.get? base = some record) :
    record.base = base ∧
      ∃ d, s.compiles? base command = some d ∧ record.compiled = d.compile base := by
  refine (step_leads eval s command).induction
    (I := fun y => ∀ record, y.1.get? base = some record → record.base = base ∧
      ∃ d, s.compiles? base command = some d ∧ record.compiled = d.compile base) ?_ ?_ record h
  · intro record hrecord
    change s.registry.get? base = some record at hrecord
    rw [hnone] at hrecord
    cases hrecord
  intro deed hpermits x y hleads hx record hrecord
  rcases hleads.record_cases hrecord with
    ⟨old, hold, hcontinues⟩ | ⟨b, provider, d, -, rfl, rfl, -⟩
  · obtain ⟨hbase, d, hd, hcompiled⟩ := hx old hold
    exact ⟨hcontinues.base.trans hbase, d, hd, hcontinues.compiled.trans hcompiled⟩
  · obtain ⟨rfl, hcompiles⟩ := hpermits.compile_of_isManagerial hmanager
    exact ⟨rfl, d, hcompiles, rfl⟩

/-- Only an initialisation of a manager that finds no record compiles. -/
lemma of_compiles? {d : Definition P} (h : s.compiles? base command = some d) :
    ∃ name m, command = .initialise name ∧ s.manager? name = some m ∧ m.base = base ∧
      s.registry.get? base = none ∧ d = s.definitionOf m := by
  cases command with
  | initialise name =>
    simp only [compiles?] at h
    split at h
    · rename_i m hm
      split at h
      · rename_i hboth
        obtain ⟨hbase, hnone⟩ : m.base = base ∧ s.registry.get? base = none := by
          simpa using hboth
        cases h
        exact ⟨name, m, rfl, hm, hbase, hnone, rfl⟩
      · cases h
    · cases h
  | _ => cases h

/-- An initialisation leaves a record for the base rule of its manager. -/
lemma get?_step_initialise (eval : Evaluator P C σ) (hs : s.store.Ledger)
    (hm : s.manager? name = some m) :
    ∃ record, (s.step eval (.initialise name)).2.registry.get? m.base = some record ∧
      (s.acquired m).1.2.Continues record := by
  obtain ⟨-, -, hstep⟩ | ⟨record, targets, hcontinues, -, hstep⟩ :=
    step_initialise_cases eval hs hm
  · rw [hstep]
    exact ⟨_, get?_prepared s name m, .refl _⟩
  · rw [hstep]
    exact ⟨record, Registry.get?_put_self, hcontinues⟩

section Run

variable (eval : Evaluator P C σ) (config : Config) (memory : σ) (base : String)
  {commands : List (Command P C)}

/-- A base rule that a run compiled a definition for has a record. -/
lemma exists_get?_of_firstCompiled? {d : Definition P}
    (h : (fresh config memory : Session P σ).firstCompiled? eval base commands = some d) :
    ∃ record, ((fresh config memory : Session P σ).after eval commands).registry.get? base =
      some record := by
  obtain ⟨moment, hmoment, hcompiles⟩ := List.exists_of_findSome?_eq_some h
  obtain ⟨earlier, rest, hsplit, hbefore⟩ := exists_append_of_mem_moments eval _ hmoment
  obtain ⟨name, m, hcommand, hm, rfl, -, -⟩ := of_compiles? hcompiles
  have hledger : moment.before.store.Ledger := by
    rw [hbefore]
    exact ledger_after eval config memory earlier
  obtain ⟨record, hrecord, -⟩ := get?_step_initialise eval hledger hm
  obtain ⟨record', hrecord', -⟩ := keeps_after eval _ rest m.base record hrecord
  refine ⟨record', ?_⟩
  rw [hsplit, after_append, after_cons, ← hbefore, hcommand]
  exact hrecord'

/-- In a run of managers the record of a base rule is the compilation of the definition that was
compiled first. -/
lemma firstCompiled?_of_get? (hmanagers : ∀ command ∈ commands, command.isManagerial = true)
    {record : Record P}
    (h : ((fresh config memory : Session P σ).after eval commands).registry.get? base =
      some record) :
    record.base = base ∧
      ∃ d, (fresh config memory : Session P σ).firstCompiled? eval base commands = some d ∧
        record.compiled = d.compile base := by
  induction commands using List.reverseRecOn generalizing record with
  | nil => cases h
  | append_singleton rest command ih =>
    have hrest : ∀ command ∈ rest, command.isManagerial = true :=
      fun c hc => hmanagers c (List.mem_append_left _ hc)
    have hcommand : command.isManagerial = true :=
      hmanagers command (List.mem_append_right _ (List.mem_singleton_self command))
    rw [after_concat] at h
    rw [firstCompiled?_concat]
    cases hold : ((fresh config memory : Session P σ).after eval rest).registry.get? base with
    | some earlier =>
      obtain ⟨hbase, d, hd, hcompiled⟩ := ih hrest hold
      obtain ⟨record', hrecord', hcontinues⟩ := keeps_step eval _ command base earlier hold
      obtain rfl : record = record' := Option.some.inj (h.symm.trans hrecord')
      refine ⟨hcontinues.base.trans hbase, d, ?_, hcontinues.compiled.trans hcompiled⟩
      rw [hd, Option.some_or]
    | none =>
      obtain ⟨hbase, d, hd, hcompiled⟩ := of_get?_step hcommand hold h
      refine ⟨hbase, d, ?_, hcompiled⟩
      cases hfirst : (fresh config memory : Session P σ).firstCompiled? eval base rest with
      | none => exact hd
      | some d' =>
        obtain ⟨earlier, hearlier⟩ := exists_get?_of_firstCompiled? eval config memory base hfirst
        rw [hold] at hearlier
        cases hearlier

end Run

end Session

end Restyle
