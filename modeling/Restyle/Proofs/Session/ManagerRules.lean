import Restyle.Proofs.Compilation.Refresh
import Restyle.Proofs.Session.Managers

/-!
# The rules of a manager

A manager gets its dynamic rules in two ways: the manager that compiles takes those of the record,
and any other one refreshes those of the record from its own definition. Both come to one formula:
the dynamic rules of the definition that was compiled first, refreshed from the definition that the
manager's own latest initialisation saw (`Session.dynamicRules_after`). Nothing that other managers
do in between, and no initialisation that failed, makes a difference.
-/

namespace Restyle

variable {P C σ : Type}

namespace Session

variable {eval : Evaluator P C σ} {s : Session P σ} {name : String} {m : Manager P}

/-! ### Managers that a command leaves alone -/

/-- A write of a dynamic text changes no manager. -/
lemma managers_writeDynamic (s : Session P σ) (key : String) (record : Record P) (text : String)
    (skip : Bool) : (s.writeDynamic key record text skip).2.managers = s.managers := by
  unfold writeDynamic
  split <;> rfl

/-- An update changes no manager. -/
lemma managers_update (eval : Evaluator P C σ) (s : Session P σ) (m : Manager P)
    (component : Option C) : (s.update eval m component).2.managers = s.managers := by
  cases htext : s.renderedText? eval m component with
  | none =>
    obtain ⟨reply, memory, hupdate⟩ := update_of_renderedText?_eq_none htext
    rw [hupdate]
  | some text =>
    obtain ⟨record, memory, -, hupdate⟩ := update_of_renderedText? htext
    rw [hupdate, managers_writeDynamic]

/-- An initialisation changes the manager that it is about and no other one. -/
lemma exists_managers_initialise (s : Session P σ) (name : String) (m : Manager P) :
    ∃ m', (s.initialise name m).2.managers = s.managers.insert name m' := by
  rw [initialise_eq]
  split
  · exact ⟨_, rfl⟩
  · exact ⟨_, rfl⟩

/-- A command that neither makes nor initialises the manager of a name leaves this manager alone. -/
lemma manager?_step_of_not_renews {command : Command P C} (h : command.renews name = false) :
    (s.step eval command).2.manager? name = s.manager? name := by
  cases command with
  | addManager other base d =>
    have hne : other ≠ name := by simpa [Command.renews] using h
    exact OrderedMap.get?_insert_of_ne hne
  | define other d =>
    exact withManager_cases (I := fun s' => s'.manager? name = s.manager? name) rfl fun _ _ => rfl
  | initialise other =>
    have hne : other ≠ name := by simpa [Command.renews] using h
    refine withManager_cases (I := fun s' => s'.manager? name = s.manager? name) rfl fun m _ => ?_
    obtain ⟨m', hmanagers⟩ := exists_managers_initialise s other m
    change (s.initialise other m).2.managers.get? name = s.managers.get? name
    rw [hmanagers]
    exact OrderedMap.get?_insert_of_ne hne
  | update other component =>
    refine withManager_cases (I := fun s' => s'.manager? name = s.manager? name) rfl fun m _ => ?_
    change (s.update eval m component).2.managers.get? name = s.managers.get? name
    rw [managers_update]
  | create base d => rfl
  | getOrCompile key base d refusal =>
    change (s.getOrCompile key base d refusal).2.managers.get? name = s.managers.get? name
    unfold getOrCompile Registry.getOrCompile
    cases s.registry.get? key with
    | some record => rfl
    | none => cases refusal <;> rfl
  | writeStatic key layout =>
    refine withRecord_cases (I := fun s' => s'.manager? name = s.manager? name) rfl
      fun record _ => ?_
    change (s.writeStatic key record layout).2.managers.get? name = s.managers.get? name
    unfold writeStatic
    split <;> rfl
  | writeDynamic key text skip =>
    refine withRecord_cases (I := fun s' => s'.manager? name = s.manager? name) rfl
      fun record _ => ?_
    change (s.writeDynamic key record text skip).2.managers.get? name = s.managers.get? name
    rw [managers_writeDynamic]
  | callProvider key =>
    exact withRecord_cases (I := fun s' => s'.manager? name = s.manager? name) rfl fun _ _ => rfl
  | setDetached base kind on => rfl

/-- A manager is left alone by a run in which it is neither made nor initialised. -/
lemma manager?_after_of_not_renews (eval : Evaluator P C σ) (s : Session P σ)
    {commands : List (Command P C)} (h : ∀ command ∈ commands, command.renews name = false) :
    (s.after eval commands).manager? name = s.manager? name := by
  refine after_induction (I := fun s' => s'.manager? name = s.manager? name) rfl ?_
  intro s' hs' command hcommand
  rw [manager?_step_of_not_renews (h command hcommand), hs']

/-! ### Managers that a command makes or initialises -/

/-- How a command that makes or initialises the manager of a name leaves it: a manager that is made
has no rules, and one that is initialised has the rules of its initialisation, which failed or ended
well. -/
inductive Renewal (eval : Evaluator P C σ) (s : Session P σ) (name : String) :
    Command P C → Manager P → Prop
  | made {base : String} {provider : ProviderId} {d : Definition P} :
      Renewal eval s name (.addManager name base d) ⟨base, provider, false, none⟩
  | failed {m : Manager P} {e : StyleError} (hm : s.manager? name = some m)
      (hpending : (s.acquired m).1.2.isPending = true)
      (hstep : s.step eval (.initialise name) = (.failed e, s.prepared name m)) :
      Renewal eval s name (.initialise name) (s.equipped m)
  | done {m : Manager P} {record : Record P} {targets : Targets} (hm : s.manager? name = some m)
      (hcontinues : (s.acquired m).1.2.Continues record) (hpending : record.isPending = false)
      (hstep : s.step eval (.initialise name) = (.done, s.initialised name m record targets)) :
      Renewal eval s name (.initialise name) (s.ready m)

/-- A command that makes or initialises the manager of a name leaves it in one of these ways. -/
lemma renewal_of_renews (hs : s.store.Ledger) {command : Command P C}
    (hrenews : command.renews name = true) {m' : Manager P}
    (hm' : (s.step eval command).2.manager? name = some m') : Renewal eval s name command m' := by
  cases command with
  | addManager other base d =>
    obtain rfl : other = name := by simpa [Command.renews] using hrenews
    obtain rfl : _ = m' := Option.some.inj (OrderedMap.get?_insert_self.symm.trans hm')
    exact .made
  | initialise other =>
    obtain rfl : other = name := by simpa [Command.renews] using hrenews
    cases hm : s.manager? other with
    | none =>
      have hstep : s.step eval (.initialise other) = (.noManager, s) := withManager_of_none hm _
      rw [hstep] at hm'
      cases hm.symm.trans hm'
    | some m =>
      obtain ⟨hpending, -, hstep⟩ | ⟨record, targets, hcontinues, hpending, hstep⟩ :=
        step_initialise_cases eval hs hm
      · rw [hstep] at hm'
        obtain rfl : s.equipped m = m' :=
          Option.some.inj (OrderedMap.get?_insert_self.symm.trans hm')
        exact .failed hm hpending hstep
      · rw [hstep] at hm'
        obtain rfl : s.ready m = m' :=
          Option.some.inj (OrderedMap.get?_insert_self.symm.trans hm')
        exact .done hm hcontinues hpending hstep
  | _ => cases hrenews

/-- A manager of a run was left by the latest command that made or initialised it. Since then
records have only been continued. -/
lemma exists_renewal (eval : Evaluator P C σ) (config : Config) (memory : σ)
    {commands : List (Command P C)}
    (hm : ((fresh config memory : Session P σ).after eval commands).manager? name = some m) :
    ∃ earlier command between, commands = earlier ++ command :: between ∧
      (∀ command ∈ between, command.renews name = false) ∧
      Renewal eval ((fresh config memory).after eval earlier) name command m ∧
      (((fresh config memory).after eval earlier).step eval command).2.store.Keeps
        ((fresh config memory).after eval commands).store := by
  induction commands using List.reverseRecOn with
  | nil => cases hm
  | append_singleton rest command ih =>
    rw [after_concat] at hm ⊢
    cases hrenews : command.renews name with
    | true =>
      have hledger : ((fresh config memory : Session P σ).after eval rest).store.Ledger :=
        ledger_after eval config memory rest
      refine ⟨rest, command, [], rfl, ?_, renewal_of_renews hledger hrenews hm, .refl _⟩
      intro command hcommand
      cases hcommand
    | false =>
      rw [manager?_step_of_not_renews hrenews] at hm
      obtain ⟨earlier, renewing, between, hsplit, hbetween, hrenewal, hkeeps⟩ := ih hm
      refine ⟨earlier, renewing, between ++ [command], ?_, ?_, hrenewal,
        hkeeps.trans (keeps_step eval _ command)⟩
      · rw [hsplit, List.append_assoc, List.cons_append]
      · intro other hother
        rcases List.mem_append.mp hother with hother | hother
        · exact hbetween other hother
        · rw [List.mem_singleton.mp hother]
          exact hrenews

/-! ### The rules that an initialisation gives -/

/-- A manager gets no rules if the record has none. -/
lemma dynamicRules_equipped_of_isEmpty
    (h : (s.acquired m).1.2.compiled.dynamicRules.isEmpty = true) :
    (s.equipped m).dynamicRules = none := by
  have hnone : (s.acquired m).1.2.dynamicRules? = none := by
    rw [Record.dynamicRules?, if_pos h]
  unfold equipped rulesFor
  cases (s.acquired m).1.1 with
  | compiled => exact hnone
  | hit =>
    change (s.acquired m).1.2.dynamicRules?.map _ = none
    rw [hnone]
    rfl

/-- A manager gets the rules of the record refreshed from its own definition, also if the record was
compiled from this definition just now. -/
lemma dynamicRules_equipped (hspares : (s.definitionOf m).SparesHeadings m.base)
    (h : (s.acquired m).1.2.compiled.dynamicRules.isEmpty = false) :
    (s.equipped m).dynamicRules =
      some ((s.acquired m).1.2.compiled.dynamicRules.refresh (s.definitionOf m) m.base) := by
  have hsome : (s.acquired m).1.2.dynamicRules? =
      some (s.acquired m).1.2.compiled.dynamicRules := by
    rw [Record.dynamicRules?, if_neg (Bool.eq_false_iff.mp h)]
  change rulesFor (s.acquired m).1.1 (s.acquired m).1.2 m.base (s.definitionOf m) = _
  cases hrecord : s.registry.get? m.base with
  | some record =>
    rw [acquired_of_get? s m hrecord] at hsome ⊢
    change record.dynamicRules?.map _ = _
    rw [hsome]
    rfl
  | none =>
    rw [acquired_of_none s m hrecord] at hsome ⊢
    change (Record.compile m.base m.provider (s.definitionOf m) s.targets).1.dynamicRules? = _
    rw [hsome, Record.compiled_compile, refresh_dynamicRules_compile hspares]

/-! ### Until the next initialisation -/

/-- An initialisation that ends well is one of a manager. -/
lemma exists_manager?_of_done (hdone : (s.step eval (.initialise name)).1 = .done) :
    ∃ m, s.manager? name = some m := by
  cases hm : s.manager? name with
  | some m => exact ⟨m, rfl⟩
  | none =>
    simp only [step, withManager, hm] at hdone
    cases hdone

/-- From an initialisation that ended well until the next one, a manager keeps its rules, and its
base rule keeps the record that they come from. -/
lemma manager?_after_initialise (hs : s.store.Ledger) (hm : s.manager? name = some m)
    (hdone : (s.step eval (.initialise name)).1 = .done) {commands : List (Command P C)}
    (hlatest : ∀ command ∈ commands, command.renews name = false) :
    (s.after eval (.initialise name :: commands)).manager? name =
        some (s.ready m) ∧
      ∃ record, (s.after eval (.initialise name :: commands)).registry.get? m.base = some record ∧
        (s.acquired m).1.2.Continues record := by
  rw [after_cons]
  constructor
  · rw [manager?_after_of_not_renews eval _ hlatest]
    obtain ⟨-, -, hstep⟩ | ⟨record, targets, -, -, hstep⟩ := step_initialise_cases eval hs hm
    · rw [hstep] at hdone
      cases hdone
    · rw [hstep]
      exact OrderedMap.get?_insert_self
  · obtain ⟨record, hrecord, hcontinues⟩ := get?_step_initialise eval hs hm
    obtain ⟨record', hrecord', hcontinues'⟩ := keeps_after eval _ commands m.base record hrecord
    exact ⟨record', hrecord', hcontinues.trans hcontinues'⟩

/-- The stage of a base rule says whether its record has something to render again. -/
lemma stage_eq_staticAndDynamic_iff {base : String} {record : Record P}
    (hrecord : s.registry.get? base = some record) :
    s.registry.stage base = .staticAndDynamic ↔ record.compiled.hasDynamic = true := by
  rw [Registry.stage, hrecord]
  cases hdynamic : record.compiled.hasDynamic <;> simp [Record.stage, hdynamic]

/-- The stage of an initialised manager says whether its record has something to render again. -/
lemma stageOf_eq_staticAndDynamic_iff (hinit : m.initialised = true) {record : Record P}
    (hrecord : s.registry.get? m.base = some record) :
    s.stageOf m = .staticAndDynamic ↔ record.compiled.dynamicRules.isEmpty = false := by
  rw [stageOf, if_pos hinit, stage_eq_staticAndDynamic_iff hrecord, Compilation.hasDynamic,
    Bool.not_eq_true']

/-- A manager with rules of its own renders these. -/
lemma renderedBy_of_dynamicRules (hinit : m.initialised = true) {record : Record P}
    {rules : RuleSet P} (hrecord : s.registry.get? m.base = some record)
    (hdynamic : record.compiled.dynamicRules.isEmpty = false)
    (hrules : m.dynamicRules = some rules) : s.renderedBy m = some (record, rules) := by
  have hstage : record.stage = .staticAndDynamic := by
    simp [Record.stage, Compilation.hasDynamic, hdynamic]
  simp [renderedBy, hinit, hrecord, hstage, hrules]

/-- A manager whose record has nothing to render again renders nothing. -/
lemma renderedBy_of_isEmpty {record : Record P} (hrecord : s.registry.get? m.base = some record)
    (hempty : record.compiled.dynamicRules.isEmpty = true) : s.renderedBy m = none := by
  have hstage : record.stage = .staticOnly := Record.stage_of_isEmpty hempty
  simp [renderedBy, hrecord, hstage]

/-- In a run of managers, consider a manager whose latest initialisation ended well, the definition
`d` that was compiled first for its base rule, and the definition that its own initialisation saw.
The manager has something to render exactly if the compilation of `d` has dynamic rules. Then it
renders these rules refreshed from its own definition, and never those of the record for want of its
own, provided its own definition spares the headings of keyframes blocks. Otherwise it has no rules,
and its updates do nothing. -/
theorem dynamicRules_after (eval : Evaluator P C σ) (config : Config) (memory : σ)
    (earlier later : List (Command P C)) (name : String)
    (hmanagers : ∀ command ∈ earlier ++ .initialise name :: later, command.isManagerial = true)
    (hlatest : ∀ command ∈ later, command.renews name = false)
    (hdone : (((fresh config memory : Session P σ).after eval earlier).step eval
      (.initialise name)).1 = .done) :
    let start : Session P σ := fresh config memory
    let commands := earlier ++ .initialise name :: later
    let last := start.after eval commands
    ∃ m d, last.manager? name = some m ∧ start.firstCompiled? eval m.base commands = some d ∧
      (last.stageOf m = .staticAndDynamic ↔ (d.compile m.base).dynamicRules.isEmpty = false) ∧
      (((start.after eval earlier).definitionOf m).SparesHeadings m.base →
        (d.compile m.base).dynamicRules.isEmpty = false →
          m.dynamicRules = some ((d.compile m.base).dynamicRules.refresh
            ((start.after eval earlier).definitionOf m) m.base) ∧
          ∃ record, last.renderedBy m = some (record, (d.compile m.base).dynamicRules.refresh
            ((start.after eval earlier).definitionOf m) m.base)) ∧
      ((d.compile m.base).dynamicRules.isEmpty = true →
        m.dynamicRules = none ∧ ∀ component, last.update eval m component = (.ok false, last)) := by
  intro start commands last
  have hledger : (start.after eval earlier).store.Ledger := ledger_after eval config memory earlier
  obtain ⟨m, hm⟩ := exists_manager?_of_done hdone
  have hlast : last = (start.after eval earlier).after eval (.initialise name :: later) :=
    after_append eval start earlier _
  obtain ⟨hmanager, record, hrecord, hcontinues⟩ :=
    manager?_after_initialise hledger hm hdone hlatest
  rw [← hlast] at hmanager hrecord
  obtain ⟨-, d, hd, hcompiled⟩ :=
    firstCompiled?_of_get? eval config memory m.base hmanagers hrecord
  have hacquired : ((start.after eval earlier).acquired m).1.2.compiled = d.compile m.base :=
    hcontinues.compiled.symm.trans hcompiled
  have hstored : last.registry.get? ((start.after eval earlier).ready m).base = some record :=
    hrecord
  refine ⟨(start.after eval earlier).ready m, d, hmanager, hd, ?_, ?_, ?_⟩
  · rw [stageOf_eq_staticAndDynamic_iff rfl hstored, hcompiled]
    rfl
  · intro hspares hdynamic
    change ((start.after eval earlier).definitionOf m).SparesHeadings m.base at hspares
    change (d.compile m.base).dynamicRules.isEmpty = false at hdynamic
    have hrules := dynamicRules_equipped hspares (hacquired ▸ hdynamic)
    rw [hacquired] at hrules
    rw [← hcompiled] at hdynamic
    exact ⟨hrules, record, renderedBy_of_dynamicRules rfl hstored hdynamic hrules⟩
  · intro hempty
    change (d.compile m.base).dynamicRules.isEmpty = true at hempty
    refine ⟨dynamicRules_equipped_of_isEmpty (hacquired ▸ hempty), fun component => ?_⟩
    rw [← hcompiled] at hempty
    exact update_of_renderedBy_eq_none (renderedBy_of_isEmpty hstored hempty)

/-- A definition with one produced value. -/
def firstInstance : Definition Nat := ⟨[("color", .computed 0)]⟩

/-- A definition that produces this value in another way and one more value. -/
def secondInstance : Definition Nat := ⟨[("width", .computed 2), ("color", .computed 1)]⟩

/-- Two instances of a component are made, and the first is initialised. -/
def firstInitialised : List (Command Nat Unit) :=
  [.addManager "first" ".A" firstInstance, .addManager "second" ".A" secondInstance,
    .initialise "first"]

/-- The instance that comes second has its own value in the shape of the first. -/
theorem dynamicRules_after_firstInitialised :
    (((fresh .standard ()).after .silent firstInitialised).step .silent
        (.initialise "second")).1 = .done ∧
      ∃ m, ((fresh .standard ()).after .silent
          (firstInitialised ++ [.initialise "second"])).manager? "second" = some m ∧
        m.dynamicRules = some ⟨⟨[(".A", ⟨[("color", .computed 1)]⟩)]⟩⟩ := by
  have hmanagers : ∀ command ∈ firstInitialised ++ [.initialise "second"],
      command.isManagerial = true := by
    simp [firstInitialised, Command.isManagerial]
  have hdone : (((fresh .standard ()).after .silent firstInitialised).step .silent
      (.initialise "second")).1 = .done := rfl
  obtain ⟨m, d, hm, hd, -, hrules, -⟩ := dynamicRules_after .silent .standard ()
    firstInitialised [] "second" hmanagers (by simp) hdone
  -- The manager of the run and the definition that was compiled are found by computation.
  have hmanager : ((fresh .standard ()).after .silent
      (firstInitialised ++ [.initialise "second"])).manager? "second" =
      some ⟨".A", 1, true, some ⟨⟨[(".A", ⟨[("color", .computed 1)]⟩)]⟩⟩⟩ := rfl
  have hfirst : (fresh .standard ()).firstCompiled? .silent ".A"
      (firstInitialised ++ [.initialise "second"]) = some firstInstance := rfl
  have hown : ((fresh .standard ()).after .silent firstInitialised).providers.definition 1 =
      secondInstance := rfl
  have hdynamic : (firstInstance.compile ".A").dynamicRules.isEmpty = false := rfl
  have hrefresh : (firstInstance.compile ".A").dynamicRules.refresh secondInstance ".A" =
      ⟨⟨[(".A", ⟨[("color", .computed 1)]⟩)]⟩⟩ := rfl
  have hspares : secondInstance.SparesHeadings ".A" := by
    intro event hevent selector hselector
    have hwalk : secondInstance.walk ".A" =
        [.computed ".A" "width" 2, .computed ".A" "color" 1] := rfl
    rw [hwalk] at hevent
    rcases List.mem_pair.mp hevent with rfl | rfl
    · cases hselector
      decide
    · cases hselector
      decide
  obtain rfl : m = _ := Option.some.inj (hm.symm.trans hmanager)
  obtain rfl : d = _ := Option.some.inj (hd.symm.trans hfirst)
  rw [definitionOf, hown, hrefresh] at hrules
  exact ⟨hdone, _, hmanager, (hrules hspares hdynamic).1⟩

end Session

end Restyle
