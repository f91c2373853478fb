import Restyle.Proofs.Producers
import Restyle.Proofs.Session.ManagerRules
import Restyle.Proofs.Session.Memory

/-!
# Which callbacks run

A session calls back to its users in two places: an initialisation calls the provider of its
manager, and an update runs producers. An initialisation calls the provider once, whatever comes of
it, and runs no producer. An update calls no provider; it runs the producers of the manager's own
dynamic rules in rendering order, each once, up to the first one that fails, and it does so before
it is known whether the text is written, skipped or refused (`Session.callbacks_after`).

That a manager with something to render always has rules of its own, and never renders those of the
record instead, is an invariant of all runs (`Session.Furnished`).
-/

namespace Restyle

variable {P C σ : Type}

namespace Session

variable {eval : Evaluator P C σ} {s : Session P σ} {name : String} {m : Manager P}

/-! ### Managers with rules of their own -/

/-- Every initialised manager has a stored record, and it has rules of its own exactly if the record
has something to render again. -/
def Furnished (s : Session P σ) : Prop := ∀ name m, s.manager? name = some m →
  m.initialised = true → ∃ record, s.registry.get? m.base = some record ∧
    m.dynamicRules.isSome = record.compiled.hasDynamic

/-- An initialisation gives a manager rules exactly if its record has something to render again. -/
lemma isSome_dynamicRules_equipped (s : Session P σ) (m : Manager P) :
    (s.equipped m).dynamicRules.isSome = (s.acquired m).1.2.compiled.hasDynamic := by
  have hrecord : (s.acquired m).1.2.dynamicRules?.isSome =
      (s.acquired m).1.2.compiled.hasDynamic := by
    unfold Record.dynamicRules? Compilation.hasDynamic
    cases (s.acquired m).1.2.compiled.dynamicRules.isEmpty <;> rfl
  rw [← hrecord]
  unfold equipped rulesFor
  cases (s.acquired m).1.1 with
  | compiled => rfl
  | hit => exact Option.isSome_map

/-- A manager of a run is new, or it has a stored record, and it has rules of its own exactly if the
record has something to render again. -/
lemma new_or_furnished (eval : Evaluator P C σ) (config : Config) (memory : σ)
    {commands : List (Command P C)}
    (hm : ((fresh config memory : Session P σ).after eval commands).manager? name = some m) :
    (m.initialised = false ∧ m.dynamicRules = none) ∨
    ∃ record, ((fresh config memory : Session P σ).after eval commands).registry.get? m.base =
      some record ∧ m.dynamicRules.isSome = record.compiled.hasDynamic := by
  obtain ⟨earlier, command, between, -, -, hrenewal, hkeeps⟩ :=
    exists_renewal eval config memory hm
  cases hrenewal with
  | made => exact Or.inl ⟨rfl, rfl⟩
  | @failed m e hm hpending hstep =>
    rw [hstep] at hkeeps
    obtain ⟨record, hrecord, hcontinues⟩ := hkeeps m.base _ (get?_prepared _ name m)
    refine Or.inr ⟨record, hrecord, ?_⟩
    rw [hcontinues.compiled]
    exact isSome_dynamicRules_equipped _ m
  | @done m record targets hm hmade hpending hstep =>
    rw [hstep] at hkeeps
    obtain ⟨record', hrecord', hcontinues⟩ := hkeeps m.base record Registry.get?_put_self
    refine Or.inr ⟨record', hrecord', ?_⟩
    rw [hcontinues.compiled, hmade.compiled]
    exact isSome_dynamicRules_equipped _ m

/-- All managers of a run are furnished. -/
lemma furnished_after (eval : Evaluator P C σ) (config : Config) (memory : σ)
    (commands : List (Command P C)) :
    ((fresh config memory : Session P σ).after eval commands).Furnished := by
  intro name m hm hinit
  obtain ⟨hnew, -⟩ | hfurnished := new_or_furnished eval config memory hm
  · rw [hinit] at hnew
    cases hnew
  · exact hfurnished

/-- A manager that is not at the dynamic stage renders nothing. -/
lemma renderedBy_of_stageOf_ne (h : s.stageOf m ≠ .staticAndDynamic) : s.renderedBy m = none := by
  rw [Option.eq_none_iff_forall_ne_some]
  rintro ⟨record, rules⟩ hby
  obtain ⟨hinit, hrecord, hstage, -⟩ := of_renderedBy hby
  apply h
  rw [stageOf, if_pos hinit, Registry.stage, hrecord]
  exact hstage

/-- A manager at the dynamic stage renders its own rules. -/
lemma Furnished.renderedBy_eq (hs : s.Furnished) (hm : s.manager? name = some m)
    (hstage : s.stageOf m = .staticAndDynamic) :
    ∃ record rules, m.dynamicRules = some rules ∧ s.renderedBy m = some (record, rules) := by
  have hinit : m.initialised = true := by
    by_contra hnot
    rw [stageOf, if_neg hnot] at hstage
    cases hstage
  obtain ⟨record, hrecord, hrules⟩ := hs name m hm hinit
  have hdynamic : record.compiled.dynamicRules.isEmpty = false :=
    (stageOf_eq_staticAndDynamic_iff hinit hrecord).mp hstage
  have hsome : m.dynamicRules.isSome = true := by
    rw [hrules, Compilation.hasDynamic, hdynamic]
    rfl
  obtain ⟨rules, hown⟩ := Option.isSome_iff_exists.mp hsome
  exact ⟨record, rules, hown, renderedBy_of_dynamicRules hinit hrecord hdynamic hown⟩

/-! ### Calls of providers -/

/-- An initialisation calls the provider of its manager and runs no producer. -/
lemma called_initialise (s : Session P σ) (name : String) (m : Manager P) :
    (s.initialise name m).2.providers.called = s.providers.called ++ [m.provider] ∧
      (s.initialise name m).2.memory = s.memory := by
  rw [initialise_eq]
  split
  · exact ⟨rfl, rfl⟩
  · exact ⟨rfl, rfl⟩

/-- A write of a dynamic text calls nobody back, and it fails only if the target refuses. -/
lemma writeDynamic_silent (s : Session P σ) (key : String) (record : Record P) (text : String)
    (skip : Bool) :
    (s.writeDynamic key record text skip).2.providers = s.providers ∧
      (s.writeDynamic key record text skip).2.memory = s.memory ∧
      ((∃ written, (s.writeDynamic key record text skip).1 = .ok written) ∨
        (s.writeDynamic key record text skip).1 =
          .error (.output record.base Targets.refusal)) := by
  unfold writeDynamic
  cases hid : record.dynamicTarget with
  | none =>
    rw [Record.writeDynamic_of_no_target hid]
    exact ⟨rfl, rfl, Or.inl ⟨false, rfl⟩⟩
  | some id =>
    obtain ⟨-, -, hwrite⟩ | ⟨-, -, hwrite⟩ | ⟨-, -, hwrite⟩ :=
      Record.writeDynamic_cases hid text skip s.targets
    · rw [hwrite]
      exact ⟨rfl, rfl, Or.inl ⟨false, rfl⟩⟩
    · rw [hwrite]
      exact ⟨rfl, rfl, Or.inr rfl⟩
    · rw [hwrite]
      exact ⟨rfl, rfl, Or.inl ⟨true, rfl⟩⟩

/-- An update calls no provider. -/
lemma providers_update (eval : Evaluator P C σ) (s : Session P σ) (m : Manager P)
    (component : Option C) : (s.update eval m component).2.providers = s.providers := by
  cases htext : s.renderedText? eval m component with
  | none =>
    obtain ⟨reply, memory, hupdate⟩ := update_of_renderedText?_eq_none htext
    rw [hupdate]
  | some text =>
    obtain ⟨record, memory, -, hupdate⟩ := update_of_renderedText? htext
    rw [hupdate]
    exact (writeDynamic_silent _ _ _ _ _).1

/-! ### Runs of producers -/

/-- An update without a component runs no producer. -/
lemma memory_update_without_component (eval : Evaluator P C σ) (s : Session P σ)
    (m : Manager P) : (s.update eval m none).2.memory = s.memory := by
  cases hby : s.renderedBy m with
  | none => rw [update_of_renderedBy_eq_none hby]
  | some found =>
    obtain ⟨record, rules⟩ := found
    cases hrender : rules.render eval none s.config.layout s.memory with
    | mk rendered left =>
      have hleft : left = s.memory := by
        rw [← RuleSet.render_without_component rules eval s.config.layout s.memory, hrender]
      rw [update_of_render hby hrender]
      cases rendered with
      | error e => exact hleft
      | ok text => exact (writeDynamic_silent _ _ _ _ _).2.1.trans hleft

variable (eval) in
/-- An update for a component runs all producers of the rules that it renders, and writes, skips or
is refused; or it runs them up to the first one that fails, and fails with its error. -/
lemma update_cases (c : C) {record : Record P} {rules : RuleSet P}
    (hby : s.renderedBy m = some (record, rules)) :
    (eval.Runs c rules.producers s.memory (s.update eval m (some c)).2.memory ∧
      ((∃ written, (s.update eval m (some c)).1 = .ok written) ∨
        (s.update eval m (some c)).1 = .error (.output record.base Targets.refusal))) ∨
    ∃ source ran selector property,
      eval.Breaks c source rules.producers ran s.memory (s.update eval m (some c)).2.memory ∧
      (s.update eval m (some c)).1 = .error (.producerFailed selector property source) := by
  rcases rules.render_cases eval s.config.layout s.memory c with
    ⟨text, last, hruns, hrender⟩ | ⟨source, ran, last, selector, property, hbreaks, hrender⟩
  · rw [update_of_render hby hrender]
    obtain ⟨-, hmemory, hreply⟩ :=
      writeDynamic_silent { s with memory := last } m.base record text s.config.skipUnchanged
    refine Or.inl ⟨?_, hreply⟩
    rw [hmemory]
    exact hruns
  · rw [update_of_render hby hrender]
    exact Or.inr ⟨source, ran, selector, property, hbreaks, rfl⟩

/-! ### The callbacks of a run -/

/-- Consider a manager at any time of a run of commands of any kind, with producers that note every
run of theirs behind those noted before. An initialisation calls the provider of the manager and
nobody else. An update calls no provider. It runs no producer if the manager is not at the dynamic
stage or if there is no component. Otherwise the manager has rules of its own, and the update runs
the producers of these in rendering order, those in frames included: either all of them, each once,
and then the text is written, skipped or refused; or those up to and including the first one that
fails, and then the update fails with the error of this producer. -/
theorem callbacks_after (eval : Evaluator P C σ) (config : Config) (memory : σ)
    (commands : List (Command P C)) (name : String) (m : Manager P)
    (hm : ((fresh config (memory, [])).after eval.traced commands).manager? name = some m) :
    let s := (fresh config (memory, [])).after eval.traced commands
    let first : Moment P C (σ × List (P × C)) := ⟨s, .initialise name⟩
    (first.later eval.traced).providers.called = s.providers.called ++ [m.provider] ∧
    (first.later eval.traced).memory = s.memory ∧
    ∀ component,
      let moment : Moment P C (σ × List (P × C)) := ⟨s, .update name component⟩
      let later := moment.later eval.traced
      later.providers.called = s.providers.called ∧
      (s.stageOf m ≠ .staticAndDynamic → later.memory = s.memory) ∧
      (component = none → later.memory = s.memory) ∧
      ∀ c, component = some c → s.stageOf m = .staticAndDynamic →
        ∃ rules, m.dynamicRules = some rules ∧
          ((eval.Runs c rules.producers s.memory.1 later.memory.1 ∧
              later.memory.2 = s.memory.2 ++ rules.producers.map (·, c) ∧
              ((∃ written, moment.reply eval.traced = .written written) ∨
                ∃ base reason, moment.reply eval.traced = .failed (.output base reason))) ∨
            ∃ before producer after mid selector property source,
              rules.producers = before ++ producer :: after ∧
              eval.Runs c before s.memory.1 mid ∧
              eval producer c mid = (.error source, later.memory.1) ∧
              later.memory.2 = s.memory.2 ++ (before ++ [producer]).map (·, c) ∧
              moment.reply eval.traced = .failed (.producerFailed selector property source)) := by
  intro s first
  have hinitialise : s.step eval.traced (.initialise name) =
      (s.initialise name m).map (.ofExcept fun _ => .done) id := by
    simp only [step, withManager, s, hm]
  have hupdate : ∀ component, s.step eval.traced (.update name component) =
      (s.update eval.traced m component).map (.ofExcept .written) id := by
    intro component
    simp only [step, withManager, s, hm]
  have hfirst : first.later eval.traced = (s.initialise name m).2 := congrArg Prod.snd hinitialise
  obtain ⟨hcalled, hquiet⟩ := called_initialise s name m
  refine ⟨?_, ?_, ?_⟩
  · rw [hfirst, hcalled]
  · rw [hfirst, hquiet]
  intro component moment later
  have hlater : later = (s.update eval.traced m component).2 :=
    congrArg Prod.snd (hupdate component)
  have hreply : moment.reply eval.traced =
      .ofExcept .written (s.update eval.traced m component).1 :=
    congrArg Prod.fst (hupdate component)
  rw [hlater, hreply]
  refine ⟨congrArg Providers.called (providers_update eval.traced s m component), ?_, ?_, ?_⟩
  · intro hstage
    rw [update_of_renderedBy_eq_none (renderedBy_of_stageOf_ne hstage)]
  · rintro rfl
    exact memory_update_without_component eval.traced s m
  · rintro c rfl hstage
    have hfurnished : s.Furnished := furnished_after eval.traced config (memory, []) commands
    obtain ⟨record, rules, hrules, hby⟩ := hfurnished.renderedBy_eq hm hstage
    refine ⟨rules, hrules, ?_⟩
    rcases update_cases eval.traced c hby with
      ⟨hruns, hresult⟩ | ⟨source, ran, selector, property, hbreaks, hresult⟩
    · obtain ⟨hgive, hnoted⟩ := hruns.of_traced
      refine Or.inl ⟨hgive, hnoted, ?_⟩
      rcases hresult with ⟨written, hwritten⟩ | hrefused
      · rw [hwritten]
        exact Or.inl ⟨written, rfl⟩
      · rw [hrefused]
        exact Or.inr ⟨_, _, rfl⟩
    · obtain ⟨hfails, hnoted⟩ := hbreaks.of_traced
      obtain ⟨before, producer, after, mid, hlist, rfl, hgive, hlast⟩ := hfails.exists_append
      refine Or.inr ⟨before, producer, after, mid, selector, property, source, hlist, hgive, hlast,
        hnoted, ?_⟩
      rw [hresult]
      rfl

/-- A definition with a produced value in a block and three more in the frames of a keyframes block.
-/
def pulsing : Definition Nat :=
  ⟨[("color", .computed 0),
    ("@pulse", .nested ⟨[("50", .nested ⟨[("opacity", .computed 1), ("width", .computed 2)]⟩),
      ("100", .nested ⟨[("opacity", .computed 3)]⟩)]⟩)]⟩

/-- Producers of which number 2 fails. -/
def failingSecond : Evaluator Nat Unit Unit := fun producer _ memory =>
  (if producer = 2 then .error "no width" else .ok (.text "1"), memory)

/-- A manager of `pulsing` is added and initialised. -/
def pulsingRun : List (Command Nat Unit) := [.addManager "m" ".A" pulsing, .initialise "m"]

/-- An update of this manager runs the producers 0 and 1, and 2 inside the first frame, but not 3 in
the second one. -/
theorem callbacks_after_pulsingRun :
    ∃ m, ((fresh .standard ((), [])).after failingSecond.traced pulsingRun).manager? "m" = some m ∧
      ((fresh .standard ((), [])).after failingSecond.traced pulsingRun).stageOf m =
        .staticAndDynamic ∧
      (Moment.later failingSecond.traced
        ⟨(fresh .standard ((), [])).after failingSecond.traced pulsingRun,
          .update "m" (some ())⟩).memory.2 = [(0, ()), (1, ()), (2, ())] := by
  obtain ⟨m, hm⟩ : ∃ m, ((fresh .standard ((), [])).after failingSecond.traced
      pulsingRun).manager? "m" = some m := ⟨_, rfl⟩
  have hstage : ((fresh .standard ((), [])).after failingSecond.traced pulsingRun).stageOf m =
      .staticAndDynamic := by
    rw [← Option.some.inj hm]
    rfl
  obtain ⟨-, -, hupdate⟩ := callbacks_after failingSecond .standard () pulsingRun "m" m hm
  obtain ⟨-, -, -, hrun⟩ := hupdate (some ())
  obtain ⟨rules, hrules, hrun⟩ := hrun () rfl hstage
  have hproducers : rules.producers = [0, 1, 2, 3] := by
    rw [← Option.some.inj hm] at hrules
    rw [← Option.some.inj hrules]
    rfl
  refine ⟨m, hm, hstage, ?_⟩
  rcases hrun with ⟨hruns, -, -⟩ | ⟨before, producer, after, mid, selector, property, source,
    hlist, -, hfails, hnoted, -⟩
  · -- Number 2 does not give a value.
    rw [hproducers] at hruns
    obtain _ | ⟨-, _ | ⟨-, _ | ⟨hsecond, -⟩⟩⟩ := hruns
    cases hsecond
  · obtain rfl : producer = 2 := by
      by_contra hne
      simp [failingSecond, hne] at hfails
    have hbefore : before = [0, 1] := by
      rw [hproducers] at hlist
      rcases before with _ | ⟨a, _ | ⟨b, _ | ⟨c, _ | ⟨d, before⟩⟩⟩⟩ <;> simp at hlist ⊢
      exact ⟨hlist.1.symm, hlist.2.1.symm⟩
    rw [hnoted, hbefore]
    rfl

end Session

end Restyle
