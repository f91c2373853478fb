import Restyle.Proofs.Session.Callbacks

/-!
# What a failed call leaves behind

Initialisations and updates can fail, and the two leave different things behind.

A failed update leaves nothing behind: records, targets, providers and managers are what they were,
so with producers that depend on the component only, whatever is done next goes as if the update had
never been tried (`Session.failed_update_unnoticed`).

A failed initialisation keeps the stage of its manager, which was not initialised and is not now,
but the manager has the rules of the failed initialisation already
(`Session.failed_initialise_leaves`). It keeps them until it is made anew or initialised again, and
only such a manager has rules at another stage than the dynamic one. They are never rendered.
-/

namespace Restyle

variable {P C σ : Type}

namespace Session

variable {eval : Evaluator P C σ} {s : Session P σ} {name : String} {m : Manager P}
  {component : Option C} {e : StyleError}

/-! ### Failed updates -/

/-- An update that fails changes nothing but what the producers remember. -/
lemma update_of_error (h : (s.update eval m component).1 = .error e) :
    ∃ memory, s.update eval m component = (.error e, s.remembering memory) := by
  cases htext : s.renderedText? eval m component with
  | none =>
    obtain ⟨reply, memory, hupdate⟩ := update_of_renderedText?_eq_none htext
    rw [hupdate] at h ⊢
    exact ⟨memory, Prod.ext h rfl⟩
  | some text =>
    obtain ⟨record, memory, -, hupdate⟩ := update_of_renderedText? htext
    rw [hupdate] at h ⊢
    refine ⟨memory, ?_⟩
    unfold writeDynamic at h ⊢
    cases hwrite : record.writeDynamic text s.config.skipUnchanged s.targets with
    | error e' =>
      simp only [hwrite] at h ⊢
      exact Prod.ext h rfl
    | ok result =>
      simp only [hwrite] at h
      cases h

/-- An update fails for want of a component, because a producer fails, or because the target refuses
the text. -/
lemma error_update_cases (h : (s.update eval m component).1 = .error e) :
    (component = none ∧ ∃ selector property, e = .missingComponent selector property) ∨
    (component.isSome = true ∧ ∃ selector property source,
      e = .producerFailed selector property source) ∨
    ∃ base, e = .output base Targets.refusal := by
  cases hby : s.renderedBy m with
  | none =>
    rw [update_of_renderedBy_eq_none hby] at h
    cases h
  | some found =>
    obtain ⟨record, rules⟩ := found
    cases component with
    | some c =>
      obtain ⟨-, ⟨written, hwritten⟩ | hrefused⟩ | ⟨source, ran, selector, property, -, hfails⟩ :=
        update_cases eval c hby
      · rw [hwritten] at h
        cases h
      · rw [hrefused] at h
        cases h
        exact Or.inr (Or.inr ⟨_, rfl⟩)
      · rw [hfails] at h
        cases h
        exact Or.inr (Or.inl ⟨rfl, selector, property, source, rfl⟩)
    | none =>
      rcases rules.render_none_cases eval s.config.layout s.memory with
        ⟨text, hrender⟩ | ⟨selector, property, hrender⟩
      · rw [update_of_render hby hrender] at h
        obtain ⟨-, -, ⟨written, hwritten⟩ | hrefused⟩ :=
          writeDynamic_silent s m.base record text s.config.skipUnchanged
        · cases hwritten.symm.trans h
        · cases hrefused.symm.trans h
          exact Or.inr (Or.inr ⟨_, rfl⟩)
      · rw [update_of_render hby hrender] at h
        cases h
        exact Or.inl ⟨rfl, selector, property, rfl⟩

/-- A failed command is an update that fails if it is an update at all. -/
lemma of_failed_update (h : (s.step eval (.update name component)).1 = .failed e) :
    ∃ m, s.manager? name = some m ∧ (s.update eval m component).1 = .error e ∧
      s.step eval (.update name component) =
        (s.update eval m component).map (.ofExcept .written) id := by
  cases hm : s.manager? name with
  | none =>
    have hstep : s.step eval (.update name component) = (.noManager, s) := withManager_of_none hm _
    rw [hstep] at h
    cases h
  | some m =>
    have hstep : s.step eval (.update name component) =
        (s.update eval m component).map (.ofExcept .written) id := withManager_of_some hm _
    refine ⟨m, rfl, ?_, hstep⟩
    rw [hstep] at h
    change Reply.ofExcept .written (s.update eval m component).1 = _ at h
    cases hreply : (s.update eval m component).1 with
    | ok written =>
      rw [hreply] at h
      cases h
    | error e' =>
      rw [hreply] at h
      cases h
      rfl

/-- An update that fails, whether for want of a component, because of a producer or because of its
target, leaves all managers, records, targets and providers as they were. With producers that depend
on the component only, every run that goes on from there answers as it would without the update, the
same update tried again included, and it ends in the same session, so it also makes the same writes.
-/
theorem failed_update_unnoticed (eval : Evaluator P C σ) (s : Session P σ) (name : String)
    (component : Option C) {e : StyleError}
    (hfailed : (s.step eval (.update name component)).1 = .failed e) :
    let later := (s.step eval (.update name component)).2
    ((component = none ∧ ∃ selector property, e = .missingComponent selector property) ∨
      (component.isSome = true ∧ ∃ selector property source,
        e = .producerFailed selector property source) ∨
      ∃ base, e = .output base Targets.refusal) ∧
    later.managers = s.managers ∧ later.registry = s.registry ∧ later.targets = s.targets ∧
    later.providers = s.providers ∧
    (eval.IsStateless → ∀ rest : List (Command P C),
      later.replies eval rest = s.replies eval rest ∧
      ∃ memory, later.after eval rest = (s.after eval rest).remembering memory) := by
  intro later
  obtain ⟨m, -, herror, hstep⟩ := of_failed_update hfailed
  obtain ⟨memory, hupdate⟩ := update_of_error herror
  have hlater : later = s.remembering memory := by
    change (s.step eval (.update name component)).2 = _
    rw [hstep, hupdate]
    rfl
  refine ⟨error_update_cases herror, ?_⟩
  rw [hlater]
  refine ⟨rfl, rfl, rfl, rfl, fun heval rest => ?_⟩
  refine ⟨replies_remembering trivial heval.follows rest, ?_⟩
  obtain ⟨memory', -, hafter⟩ : ∃ memory', True ∧ (s.remembering memory).after eval rest =
      (s.after eval rest).remembering memory' :=
    recalls_after trivial heval.follows rest
  exact ⟨memory', hafter⟩

/-- Of the producers of `pulsing`, number 2 fails in the first frame of the keyframes block. The
update is not noticed by whatever comes after it. -/
theorem failed_update_unnoticed_pulsing :
    let s : Session Nat Unit := (fresh .standard ()).after failingSecond pulsingRun
    let later := (s.step failingSecond (.update "m" (some ()))).2
    failingSecond.IsStateless ∧
      (s.step failingSecond (.update "m" (some ()))).1 =
        .failed (.producerFailed "@keyframes pulse" "width" "no width") ∧
      ∀ rest : List (Command Nat Unit),
        later.replies failingSecond rest = s.replies failingSecond rest := by
  intro s later
  have hstateless : failingSecond.IsStateless := fun _ _ _ _ => rfl
  have hfailed : (s.step failingSecond (.update "m" (some ()))).1 =
      .failed (.producerFailed "@keyframes pulse" "width" "no width") := rfl
  obtain ⟨-, -, -, -, -, hrest⟩ :=
    failed_update_unnoticed failingSecond s "m" (some ()) hfailed
  exact ⟨hstateless, hfailed, fun rest => (hrest hstateless rest).1⟩

/-! ### Failed initialisations -/

/-- The latest command of a run that made or initialised the manager of a name is an initialisation,
and it failed. -/
def BrokeOff (eval : Evaluator P C σ) (start : Session P σ) (name : String)
    (commands : List (Command P C)) : Prop :=
  ∃ earlier between e, commands = earlier ++ .initialise name :: between ∧
    (∀ command ∈ between, command.renews name = false) ∧
    ((start.after eval earlier).step eval (.initialise name)).1 = .failed e

/-- An initialised manager has a stored record with no fixed text left to write. -/
lemma settled_after (eval : Evaluator P C σ) (config : Config) (memory : σ)
    {commands : List (Command P C)}
    (hm : ((fresh config memory : Session P σ).after eval commands).manager? name = some m)
    (hinit : m.initialised = true) :
    ∃ record, ((fresh config memory : Session P σ).after eval commands).registry.get? m.base =
      some record ∧ record.isPending = false := by
  induction hlength : commands.length using Nat.strongRecOn generalizing commands m with
  | ind length ih =>
    obtain ⟨earlier, command, between, hsplit, -, hrenewal, hkeeps⟩ :=
      exists_renewal eval config memory hm
    cases hrenewal with
    | made => cases hinit
    | @failed old e hold hpending hstep =>
      -- The manager was initialised before, so its initialisation had nothing to write.
      have hshorter : earlier.length < length := by
        rw [← hlength, hsplit, List.length_append, List.length_cons]
        omega
      obtain ⟨record, hrecord, hdone⟩ := ih earlier.length hshorter hold hinit rfl
      rw [acquired_of_get? _ old hrecord] at hpending
      exact absurd hpending (Bool.eq_false_iff.mp hdone)
    | @done old record targets hold hmade hpending hstep =>
      rw [hstep] at hkeeps
      obtain ⟨record', hrecord', hcontinues⟩ := hkeeps old.base record Registry.get?_put_self
      exact ⟨record', hrecord', hcontinues.isPending_eq_false hpending⟩

/-- A manager that is not initialised is at no stage. -/
lemma stageOf_of_not_initialised (h : m.initialised = false) : s.stageOf m = .uncompiled := by
  rw [stageOf, if_neg (Bool.eq_false_iff.mp h)]

/-- A manager that is not initialised is not at the dynamic stage. -/
lemma stageOf_ne_of_not_initialised (h : m.initialised = false) :
    s.stageOf m ≠ .staticAndDynamic := by
  rw [stageOf_of_not_initialised h]
  decide

/-- A manager that is not initialised renders nothing. -/
lemma update_of_not_initialised (eval : Evaluator P C σ) (h : m.initialised = false)
    (component : Option C) : s.update eval m component = (.ok false, s) :=
  update_of_renderedBy_eq_none (renderedBy_of_stageOf_ne (stageOf_ne_of_not_initialised h))

/-- An initialisation that fails stops before the fixed text is written. -/
lemma of_failed_initialise_step (hs : s.store.Ledger) (hm : s.manager? name = some m)
    (hfailed : (s.step eval (.initialise name)).1 = .failed e) :
    (s.acquired m).1.2.isPending = true ∧
      (s.step eval (.initialise name)).2 = s.prepared name m := by
  obtain ⟨hpending, -, hstep⟩ | ⟨record, targets, -, -, hstep⟩ :=
    step_initialise_cases eval hs hm
  · exact ⟨hpending, congrArg Prod.snd hstep⟩
  · rw [hstep] at hfailed
    cases hfailed

section Run

variable (eval : Evaluator P C σ) (config : Config) (memory : σ) {commands : List (Command P C)}

/-- In a run an initialisation fails only if its manager is not initialised yet. -/
lemma of_failed_initialise_after
    (hm : ((fresh config memory : Session P σ).after eval commands).manager? name = some m)
    (hfailed : (((fresh config memory : Session P σ).after eval commands).step eval
      (.initialise name)).1 = .failed e) :
    m.initialised = false ∧
      (((fresh config memory : Session P σ).after eval commands).step eval (.initialise name)).2 =
        ((fresh config memory).after eval commands).prepared name m := by
  obtain ⟨hpending, hlater⟩ :=
    of_failed_initialise_step (ledger_after eval config memory commands) hm hfailed
  refine ⟨?_, hlater⟩
  by_contra hinit
  obtain ⟨record, hrecord, hdone⟩ :=
    settled_after eval config memory hm (Bool.of_not_eq_false hinit)
  rw [acquired_of_get? _ m hrecord] at hpending
  exact absurd hpending (Bool.eq_false_iff.mp hdone)

/-- A manager whose latest initialisation failed is not initialised, and it has rules exactly if its
base rule has something to render again. -/
lemma BrokeOff.of_manager? (h : BrokeOff eval (fresh config memory : Session P σ) name commands)
    (hm : ((fresh config memory : Session P σ).after eval commands).manager? name = some m) :
    m.initialised = false ∧
      (m.dynamicRules.isSome = true ↔
        ((fresh config memory : Session P σ).after eval commands).registry.stage m.base =
          .staticAndDynamic) := by
  obtain ⟨earlier, between, e, rfl, hbetween, hfailed⟩ := h
  rw [after_append, after_cons] at hm ⊢
  rw [manager?_after_of_not_renews eval _ hbetween] at hm
  cases hold : ((fresh config memory : Session P σ).after eval earlier).manager? name with
  | none =>
    have hstep : ((fresh config memory : Session P σ).after eval earlier).step eval
        (.initialise name) = (.noManager, _) := withManager_of_none hold _
    rw [hstep] at hfailed
    cases hfailed
  | some old =>
    obtain ⟨hinit, hlater⟩ := of_failed_initialise_after eval config memory hold hfailed
    rw [hlater] at hm ⊢
    obtain rfl : _ = m := Option.some.inj (OrderedMap.get?_insert_self.symm.trans hm)
    obtain ⟨record, hrecord, hcontinues⟩ :=
      keeps_after eval (((fresh config memory).after eval earlier).prepared name old) between
        old.base _ (get?_prepared _ name old)
    refine ⟨hinit, ?_⟩
    rw [isSome_dynamicRules_equipped, ← hcontinues.compiled]
    exact (stage_eq_staticAndDynamic_iff hrecord).symm

/-- A manager that has rules has a record with something to render again. -/
lemma stage_of_dynamicRules
    (hm : ((fresh config memory : Session P σ).after eval commands).manager? name = some m)
    (hrules : m.dynamicRules.isSome = true) :
    ((fresh config memory : Session P σ).after eval commands).registry.stage m.base =
      .staticAndDynamic := by
  obtain ⟨-, hnone⟩ | ⟨record, hrecord, hsame⟩ := new_or_furnished eval config memory hm
  · rw [hnone] at hrules
    cases hrules
  · rw [stage_eq_staticAndDynamic_iff hrecord, ← hsame]
    exact hrules

/-- If an initialisation gives a manager no rules, the manager is as it was. -/
lemma equipped_eq_self
    (hm : ((fresh config memory : Session P σ).after eval commands).manager? name = some m)
    (hnot : ¬(((fresh config memory : Session P σ).after eval commands).equipped
      m).dynamicRules.isSome = true) :
    ((fresh config memory : Session P σ).after eval commands).equipped m = m := by
  have hnone : m.dynamicRules = none := by
    obtain ⟨-, hnone⟩ | ⟨record, hrecord, hsame⟩ := new_or_furnished eval config memory hm
    · exact hnone
    · rw [isSome_dynamicRules_equipped, acquired_of_get? _ m hrecord, ← hsame] at hnot
      exact Option.not_isSome_iff_eq_none.mp hnot
  have hgiven : (((fresh config memory : Session P σ).after eval commands).equipped
      m).dynamicRules = m.dynamicRules := by
    rw [hnone]
    exact Option.not_isSome_iff_eq_none.mp hnot
  exact congrArg (fun rules => { m with dynamicRules := rules }) hgiven

/-- A manager that has rules and is not initialised has them from an initialisation that failed. -/
lemma brokeOff_of_dynamicRules
    (hm : ((fresh config memory : Session P σ).after eval commands).manager? name = some m)
    (hrules : m.dynamicRules.isSome = true) (hinit : m.initialised = false) :
    BrokeOff eval (fresh config memory) name commands := by
  obtain ⟨earlier, command, between, hsplit, hbetween, hrenewal, -⟩ :=
    exists_renewal eval config memory hm
  cases hrenewal with
  | made => cases hrules
  | failed hold hpending hstep =>
    exact ⟨earlier, between, _, hsplit, hbetween, congrArg Prod.fst hstep⟩
  | done hold hmade hpending hstep => cases hinit

end Run

/-- Consider a manager at any time of a run of commands of any kind.

It has rules at another stage than the dynamic one exactly if its latest initialisation failed and
its base rule has something to render again.

If it is initialised now and that fails, it was at no stage and is at none afterwards, but it has
the rules of an initialisation that ends well: those of the record, refreshed from its own
definition if the record was there before. So it has rules exactly if its base rule has something to
render again, and if not, the manager is as it was. Whatever rules it has, an update renders
nothing. -/
theorem failed_initialise_leaves (eval : Evaluator P C σ) (config : Config) (memory : σ)
    (commands : List (Command P C)) (name : String) (m : Manager P)
    (hm : ((fresh config memory : Session P σ).after eval commands).manager? name = some m) :
    let start : Session P σ := fresh config memory
    let s := start.after eval commands
    let later := (s.step eval (.initialise name)).2
    (m.dynamicRules.isSome = true ∧ s.stageOf m ≠ .staticAndDynamic ↔
      start.BrokeOff eval name commands ∧ s.registry.stage m.base = .staticAndDynamic) ∧
    ∀ e, (s.step eval (.initialise name)).1 = .failed e →
      s.stageOf m = .uncompiled ∧
      later.manager? name = some (s.equipped m) ∧
      later.stageOf (s.equipped m) = .uncompiled ∧
      ((s.equipped m).dynamicRules.isSome = true ↔
        later.registry.stage m.base = .staticAndDynamic) ∧
      (later.registry.stage m.base ≠ .staticAndDynamic → s.equipped m = m) ∧
      ∀ component, later.update eval (s.equipped m) component = (.ok false, later) := by
  intro start s later
  refine ⟨⟨?_, ?_⟩, ?_⟩
  · rintro ⟨hrules, hother⟩
    have hstage : s.registry.stage m.base = .staticAndDynamic :=
      stage_of_dynamicRules eval config memory hm hrules
    refine ⟨brokeOff_of_dynamicRules eval config memory hm hrules ?_, hstage⟩
    by_contra hinit
    rw [stageOf, if_pos (Bool.of_not_eq_false hinit)] at hother
    exact hother hstage
  · rintro ⟨hbroke, hstage⟩
    obtain ⟨hinit, hrules⟩ := hbroke.of_manager? eval config memory hm
    exact ⟨hrules.mpr hstage, stageOf_ne_of_not_initialised hinit⟩
  · intro e hfailed
    obtain ⟨hinit, hlater⟩ := of_failed_initialise_after eval config memory hm hfailed
    change later = s.prepared name m at hlater
    have hrules : (s.equipped m).dynamicRules.isSome = true ↔
        later.registry.stage m.base = .staticAndDynamic := by
      rw [hlater, isSome_dynamicRules_equipped]
      exact (stage_eq_staticAndDynamic_iff (get?_prepared s name m)).symm
    have hinit' : (s.equipped m).initialised = false := hinit
    refine ⟨stageOf_of_not_initialised hinit, ?_, stageOf_of_not_initialised hinit', hrules, ?_,
      update_of_not_initialised eval hinit'⟩
    · rw [hlater]
      exact OrderedMap.get?_insert_self
    · intro hother
      exact equipped_eq_self eval config memory hm (mt hrules.mp hother)

/-- A manager with a fixed and a produced value, whose target is detached from the beginning. -/
def detachedRun : List (Command Unit Unit) :=
  [.addManager "m" ".A" ⟨[("width", .fixed (.text "1px")), ("color", .computed ())]⟩,
    .setDetached ".A" .static true]

/-- The session after this run. -/
def detachedSession : Session Unit Unit := (fresh .standard ()).after .silent detachedRun

/-- The manager of this session has the rule for its produced value after an initialisation that
failed, and none of its updates renders it. -/
theorem failed_initialise_leaves_detached :
    ∃ m, detachedSession.manager? "m" = some m ∧
      (detachedSession.step .silent (.initialise "m")).1 =
        .failed (.output ".A" Targets.refusal) ∧
      (detachedSession.equipped m).dynamicRules.isSome = true ∧
      ∀ component, ((detachedSession.step .silent (.initialise "m")).2.update .silent
        (detachedSession.equipped m) component).1 = .ok false := by
  obtain ⟨m, hm⟩ : ∃ m, detachedSession.manager? "m" = some m := ⟨_, rfl⟩
  have hfailed : (detachedSession.step .silent (.initialise "m")).1 =
      .failed (.output ".A" Targets.refusal) := rfl
  obtain ⟨-, hleaves⟩ := failed_initialise_leaves .silent .standard () detachedRun "m" m hm
  obtain ⟨-, -, -, hrules, -, hupdate⟩ := hleaves _ hfailed
  have hbase : m.base = ".A" := by
    rw [← Option.some.inj hm]
  refine ⟨m, hm, hfailed, hrules.mpr ?_, fun component => ?_⟩
  · rw [hbase]
    rfl
  · exact congrArg Prod.fst (hupdate component)

/-- An initialisation that fails does not leave its manager as it was. Here the manager is at no
stage before and after, but it had no rules and has one. -/
theorem not_unchanged_detached :
    ∃ before after : Manager Unit,
      detachedSession.manager? "m" = some before ∧
      detachedSession.stageOf before = .uncompiled ∧
      before.dynamicRules = none ∧
      (detachedSession.step .silent (.initialise "m")).1 =
        .failed (.output ".A" Targets.refusal) ∧
      (detachedSession.step .silent (.initialise "m")).2.manager? "m" = some after ∧
      (detachedSession.step .silent (.initialise "m")).2.stageOf after = .uncompiled ∧
      after.dynamicRules = some ⟨⟨[(".A", ⟨[("color", .computed ())]⟩)]⟩⟩ :=
  ⟨_, _, rfl, rfl, rfl, rfl, rfl, rfl, rfl⟩

end Session

end Restyle
