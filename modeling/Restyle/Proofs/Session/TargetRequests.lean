import Restyle.Proofs.Session.Effects

/-!
# When targets are requested and written

In a run of managers a target is requested only by the initialisation that makes the record of its
base rule, and that happens once for each base rule. So there is at most one target for an output,
and there is one exactly if the definition that was compiled first has something to render for it
(`Session.targetRequests_after`). No later definition makes a difference.

That the targets requested are those of the records, and no others, is an invariant of these runs
(`Store.Native`). It fails as soon as records are created beside managers, which may request targets
in vain.
-/

namespace Restyle

variable {P C σ : Type}

/-- The targets that the first compilation of a definition for a base rule asks for, in order. -/
def Definition.firstTargets (d : Definition P) (base : String) : List TargetId :=
  ([TargetKind.static, .dynamic].filter (d.compile base).wants).map fun kind => ⟨base, kind, 0⟩

/-! ### Targets belong to records -/

namespace Record

variable (base : String) (provider : ProviderId) (d : Definition P) (t : Targets)

/-- A new record has one target for an output or none. -/
lemma filter_targetIds_compile (kind : TargetKind) :
    ((compile base provider d t).1.targetIds.filter fun id => id.holds base kind) =
      ((compile base provider d t).1.target? kind).toList := by
  have hown : ∀ other, (((compile base provider d t).1.target? other).toList.filter
      fun id => id.holds base kind) =
      if other = kind then ((compile base provider d t).1.target? other).toList else [] := by
    intro other
    rw [target?_compile]
    split
    · by_cases hkind : other = kind <;> simp [TargetId.holds, hkind]
    · simp
  rw [targetIds, List.filter_append]
  change (((compile base provider d t).1.target? .static).toList.filter _) ++
    (((compile base provider d t).1.target? .dynamic).toList.filter _) = _
  rw [hown, hown]
  cases kind <;> simp

end Record

/-- The targets that were requested are the targets of the records, one for each output that has
content. -/
structure Store.Native (store : Store P) : Prop where
  /-- A record has the first targets of its base rule. -/
  target? : ∀ key record, store.1.get? key = some record → ∀ kind, record.target? kind =
    if record.compiled.wants kind then some ⟨key, kind, 0⟩ else none
  /-- No other target was requested. -/
  requestedFor : ∀ base kind, store.2.requestedFor base kind =
    ((store.1.get? base).bind fun record => record.target? kind).toList

namespace Store.Native

variable {r : Registry P} {t t' : Targets} {key : String} {record record' : Record P}

lemma fresh (config : Config) : Store.Native ((Registry.fresh config, .empty) : Store P) where
  target? := by
    intro key record hrecord
    cases hrecord
  requestedFor := by
    intro base kind
    rfl

/-- A record makes the first targets of its base rule its own. -/
lemma compile (h : Store.Native (r, t)) (hkey : r.get? key = none) (provider : ProviderId)
    (d : Definition P) :
    Store.Native (r.put key (Record.compile key provider d t).1,
      (Record.compile key provider d t).2) := by
  have hcount : ∀ kind, t.requestedFor key kind = [] := by
    intro kind
    rw [h.requestedFor key kind, hkey]
    rfl
  refine ⟨?_, ?_⟩
  · intro key' record hrecord kind
    rcases Registry.of_get?_put hrecord with ⟨rfl, rfl⟩ | ⟨-, hrecord⟩
    · rw [Record.target?_compile, hcount]
      rfl
    · exact h.target? key' record hrecord kind
  · intro base kind
    have hold : t.requestedFor base kind =
        ((r.get? base).bind fun record => record.target? kind).toList := h.requestedFor base kind
    rw [Record.targets_compile_eq_extend, Targets.requestedFor_extend, hold, Registry.get?_put]
    by_cases hbase : key = base
    · subst hbase
      rw [Record.filter_targetIds_compile, if_pos rfl, hkey]
      rfl
    · have hother := Targets.filter_holds_of_ne
        (fun id hid => Record.base_of_mem_targetIds_compile key provider d t hid) hbase kind
      rw [hother, if_neg hbase, List.append_nil]

/-- Writes request nothing. -/
lemma put (h : Store.Native (r, t)) (hkey : r.get? key = some record)
    (hcontinues : record.Continues record') (hopened : t'.opened = t.opened) :
    Store.Native (r.put key record', t') := by
  refine ⟨?_, ?_⟩
  · intro key' stored hstored kind
    rcases Registry.of_get?_put hstored with ⟨rfl, rfl⟩ | ⟨-, hstored⟩
    · rw [hcontinues.target?, hcontinues.compiled]
      exact h.target? key record hkey kind
    · exact h.target? key' stored hstored kind
  · intro base kind
    have hold : t'.requestedFor base kind = t.requestedFor base kind := by
      rw [Targets.requestedFor, hopened, Targets.requestedFor]
    refine hold.trans ((h.requestedFor base kind).trans ?_)
    change ((r.get? base).bind _).toList = (((r.put key record').get? base).bind _).toList
    rw [Registry.get?_put]
    by_cases hbase : key = base
    · subst hbase
      rw [if_pos rfl, hkey]
      exact congrArg Option.toList (hcontinues.target? kind).symm
    · rw [if_neg hbase]

/-- The deeds of managers keep to the targets of their base rules. -/
lemma of_leads {deed : Deed P} {x y : Store P} (h : deed.Leads x y) (hx : x.Native)
    (hcompile : ∀ key base d, deed = .compile key base d → base = key)
    (hdiscard : ∀ base d, deed ≠ .discard base d) : y.Native := by
  cases h with
  | discard provider => exact absurd rfl (hdiscard _ _)
  | @compile r t key base provider d hkey =>
    obtain rfl : base = key := hcompile key base d rfl
    exact hx.compile hkey provider d
  | writeStatic hkey hid hnone htext hattached =>
    exact hx.put hkey (Record.continues_withStatic hnone _) rfl
  | writeDynamic hkey hid hattached => exact hx.put hkey (Record.continues_withDynamic _ _) rfl
  | setDetached => exact ⟨hx.target?, hx.requestedFor⟩

end Store.Native

namespace Session

variable {eval : Evaluator P C σ} {s : Session P σ} {base : String}

/-- Throwing records away is not for managers. -/
lemma Permits.ne_discard_of_isManagerial {command : Command P C} {deed : Deed P}
    (h : s.Permits eval command deed) (hmanager : command.isManagerial = true) (base : String)
    (d : Definition P) : deed ≠ .discard base d := by
  rintro rfl
  cases h with
  | createDiscard => cases hmanager

/-- A command of a manager requests targets for the record that it makes, and no others. -/
lemma native_step (eval : Evaluator P C σ) (hs : s.store.Native) {command : Command P C}
    (hmanager : command.isManagerial = true) : (s.step eval command).2.store.Native := by
  refine (step_leads eval s command).induction (I := fun y => y.Native) hs ?_
  intro deed hpermits x y hleads hx
  refine hx.of_leads hleads ?_ (hpermits.ne_discard_of_isManagerial hmanager)
  rintro key base d rfl
  exact (hpermits.compile_of_isManagerial hmanager).1

/-- In a run of managers the targets requested are those of the records. -/
lemma native_after (eval : Evaluator P C σ) (config : Config) (memory : σ)
    {commands : List (Command P C)}
    (hmanagers : ∀ command ∈ commands, command.isManagerial = true) :
    ((fresh config memory : Session P σ).after eval commands).store.Native :=
  after_induction (I := fun s => s.store.Native) (Store.Native.fresh config)
    fun _ hs command hcommand => native_step eval hs (hmanagers command hcommand)

/-! ### What a moment requests and writes -/

/-- Targets that were added show in the activity. -/
lemma activity_of_extend {s' : Session P σ} {opened : List TargetId}
    {writes : List (TargetId × String)} (h : s'.targets = s.targets.extend opened writes) :
    (s.activity s').opened = opened ∧ (s.activity s').writes = writes := by
  rw [activity, h]
  exact ⟨List.drop_left, List.drop_left⟩

/-- A command of a manager is a visit to it, or it leaves the targets and their texts as they are.
-/
lemma visit_or_idle (eval : Evaluator P C σ) (s : Session P σ) {command : Command P C}
    (hmanager : command.isManagerial = true) :
    (∃ name m, ∃ visit : Visit C, s.manager? name = some m ∧ command = visit.command name) ∨
      ((s.activity (s.step eval command).2).opened = [] ∧
        (s.activity (s.step eval command).2).writes = []) := by
  have hidle : ∀ s' : Session P σ, s'.targets.opened = s.targets.opened →
      s'.targets.log = s.targets.log →
      (s.activity s').opened = [] ∧ (s.activity s').writes = [] := by
    intro s' hopened hlog
    rw [activity, hopened, hlog]
    exact ⟨List.drop_length, List.drop_length⟩
  have hvisit : ∀ name (visit : Visit C),
      (∃ name' m, ∃ visit' : Visit C, s.manager? name' = some m ∧
        (visit.command name : Command P C) = visit'.command name') ∨
      ((s.activity (s.step eval (visit.command name)).2).opened = [] ∧
        (s.activity (s.step eval (visit.command name)).2).writes = []) := by
    intro name visit
    cases hm : s.manager? name with
    | some m => exact Or.inl ⟨name, m, visit, hm, rfl⟩
    | none =>
      rw [step_visit_of_none eval hm]
      exact Or.inr (hidle s rfl rfl)
  cases command with
  | addManager name base d => exact Or.inr (hidle _ rfl rfl)
  | setDetached base kind on => exact Or.inr (hidle _ rfl rfl)
  | define name d =>
    refine Or.inr (withManager_cases (I := fun s' => (s.activity s').opened = [] ∧
      (s.activity s').writes = []) (hidle s rfl rfl) fun m _ => hidle _ rfl rfl)
  | initialise name => exact hvisit name .initialise
  | update name component => exact hvisit name (.update component)
  | _ => cases hmanager

/-- A visit requests and writes what its effect says. -/
lemma activity_visit (eval : Evaluator P C σ) {name : String} {m : Manager P}
    (hm : s.manager? name = some m) (visit : Visit C) :
    (s.activity (s.step eval (visit.command name)).2).opened = (s.effect eval m visit).opened ∧
      (s.activity (s.step eval (visit.command name)).2).writes =
        (s.effect eval m visit).writes := by
  obtain ⟨memory, hstep⟩ := step_visit eval hm visit
  rw [hstep]
  exact activity_of_extend rfl

/-- The first initialisation for a base rule requests the targets that its definition wants. -/
lemma requests_of_native (hs : s.store.Native) {m : Manager P}
    (hnone : s.registry.get? m.base = none) :
    s.requests m = (s.definitionOf m).firstTargets m.base := by
  have hcount : ∀ kind, s.targets.requestedFor m.base kind = [] := by
    intro kind
    refine (hs.requestedFor m.base kind).trans ?_
    change ((s.registry.get? m.base).bind _).toList = []
    rw [hnone]
    rfl
  have htarget : ∀ kind, (s.acquired m).1.2.target? kind =
      if ((s.definitionOf m).compile m.base).wants kind then some ⟨m.base, kind, 0⟩ else none := by
    intro kind
    rw [acquired_of_none s m hnone, Record.target?_compile, hcount]
    rfl
  have hstatic := htarget .static
  have hdynamic := htarget .dynamic
  simp only [Record.target?] at hstatic hdynamic
  rw [requests, hnone, Record.targetIds, hstatic, hdynamic, Definition.firstTargets]
  cases hs : ((s.definitionOf m).compile m.base).wants .static <;>
    cases hd : ((s.definitionOf m).compile m.base).wants .dynamic <;> simp [hs, hd]

/-- A moment of a manager that compiles a definition requests the targets that it wants. -/
lemma opened_of_compiles? {command : Command P C} (hs : s.store.Native) {d : Definition P}
    (h : s.compiles? base command = some d) :
    (s.activity (s.step eval command).2).opened = d.firstTargets base := by
  obtain ⟨name, m, rfl, hm, rfl, hnone, rfl⟩ := of_compiles? h
  have hopened := (activity_visit eval hm .initialise).1
  rw [opened_initialise, requests_of_native hs hnone] at hopened
  exact hopened

/-- A moment of a manager that compiles nothing requests no target. -/
lemma opened_of_compiles?_eq_none {command : Command P C} (hmanager : command.isManagerial = true)
    (h : ∀ base, s.compiles? base command = none) :
    (s.activity (s.step eval command).2).opened = [] := by
  rcases visit_or_idle eval s hmanager with ⟨name, m, visit, hm, rfl⟩ | ⟨hopened, -⟩
  · rw [(activity_visit eval hm visit).1]
    cases visit with
    | update component => exact opened_update eval s m component
    | initialise =>
      rw [opened_initialise, requests]
      cases hrecord : s.registry.get? m.base with
      | some record => rfl
      | none =>
        have hcompiles := h m.base
        simp [Visit.command, compiles?, hm, hrecord] at hcompiles
  · exact hopened

/-- What a command writes to a target is the fixed text of an initialisation, or the text that an
update renders. -/
lemma writes_step (eval : Evaluator P C σ) (hs : s.store.Native) {command : Command P C}
    (hmanager : command.isManagerial = true) {entry : TargetId × String}
    (hentry : entry ∈ (s.activity (s.step eval command).2).writes) :
    ∃ record, (s.step eval command).2.registry.get? entry.1.base = some record ∧
      match entry.1.kind with
      | .static => (∃ name m, command = .initialise name ∧ s.manager? name = some m ∧
          m.base = entry.1.base) ∧ record.renderStatic s.config.layout = .ok entry.2
      | .dynamic => ∃ name m component, command = .update name component ∧
          s.manager? name = some m ∧ m.base = entry.1.base ∧
          s.renderedText? eval m component = some entry.2 := by
  rcases visit_or_idle eval s hmanager with ⟨name, m, visit, hm, rfl⟩ | ⟨-, hwrites⟩
  · rw [(activity_visit eval hm visit).2] at hentry
    have hlater := native_step eval hs hmanager
    obtain ⟨memory, hstep⟩ := step_visit eval hm visit
    rw [hstep] at hlater ⊢
    obtain ⟨record, hrecord, hsource⟩ := of_mem_writes eval s m visit hentry
    have hstored : (s.apply name (s.effect eval m visit) memory).registry.get? m.base =
        some record := by
      rw [get?_apply, if_pos (manager_effect eval s m visit).1, hrecord, Option.some_or]
    -- A target of the record is the first one of the base rule for its output.
    have hfirst : ∀ kind, record.target? kind = some entry.1 → entry.1 = ⟨m.base, kind, 0⟩ := by
      intro kind hid
      have htarget := hlater.target? m.base record hstored kind
      rw [hid] at htarget
      split at htarget
      · exact Option.some.inj htarget
      · cases htarget
    rcases hsource with ⟨rfl, hid, htext⟩ | ⟨component, rfl, hid, htext⟩
    · rw [hfirst .static hid]
      exact ⟨record, hstored, ⟨name, m, rfl, hm, rfl⟩, htext⟩
    · rw [hfirst .dynamic hid]
      exact ⟨record, hstored, name, m, component, rfl, hm, rfl, htext⟩
  · rw [hwrites] at hentry
    cases hentry

/-! ### The requests of a run -/

section Run

variable (eval : Evaluator P C σ) (config : Config) (memory : σ) {commands : List (Command P C)}

/-- A base rule is compiled once. -/
lemma filterMap_compiles? (base : String) (commands : List (Command P C)) :
    (((fresh config memory : Session P σ).moments eval commands).filterMap fun moment =>
      moment.before.compiles? base moment.command) =
      ((fresh config memory : Session P σ).firstCompiled? eval base commands).toList := by
  induction commands using List.reverseRecOn with
  | nil => rfl
  | append_singleton rest command ih =>
    rw [filterMap_moments_concat, ih, firstCompiled?_concat]
    cases hfirst : (fresh config memory : Session P σ).firstCompiled? eval base rest with
    | none => rfl
    | some d =>
      -- There is a record by now, so nothing is compiled.
      obtain ⟨record, hrecord⟩ := exists_get?_of_firstCompiled? eval config memory base hfirst
      cases hcompiles : ((fresh config memory : Session P σ).after eval rest).compiles? base
          command with
      | none => rfl
      | some d' =>
        obtain ⟨name, m, -, -, -, hnone, -⟩ := of_compiles? hcompiles
        rw [hrecord] at hnone
        cases hnone

/-- The targets of an output are those that the definition compiled first wants. -/
lemma requestedFor_after (hmanagers : ∀ command ∈ commands, command.isManagerial = true)
    (base : String) (kind : TargetKind) :
    ((fresh config memory : Session P σ).after eval commands).targets.requestedFor base kind =
      match (fresh config memory : Session P σ).firstCompiled? eval base commands with
      | some d => if (d.compile base).wants kind then [⟨base, kind, 0⟩] else []
      | none => [] := by
  have hnative := native_after eval config memory hmanagers
  refine (hnative.requestedFor base kind).trans ?_
  change ((((fresh config memory : Session P σ).after eval commands).registry.get? base).bind
    _).toList = _
  cases hrecord : ((fresh config memory : Session P σ).after eval commands).registry.get? base with
  | some record =>
    obtain ⟨-, d, hd, hcompiled⟩ :=
      firstCompiled?_of_get? eval config memory base hmanagers hrecord
    have htarget := hnative.target? base record hrecord kind
    rw [hcompiled] at htarget
    simp only [hd, Option.bind_some, htarget]
    split <;> rfl
  | none =>
    cases hfirst : (fresh config memory : Session P σ).firstCompiled? eval base commands with
    | none => rfl
    | some d =>
      obtain ⟨record, hstored⟩ := exists_get?_of_firstCompiled? eval config memory base hfirst
      rw [hrecord] at hstored
      cases hstored

/-- A base rule that was compiled has a static target exactly if the definition has fixed rules or
fixed keyframes, and a dynamic one exactly if it has dynamic rules. -/
lemma requestedFor_of_firstCompiled? (hmanagers : ∀ command ∈ commands, command.isManagerial = true)
    {base : String} {d : Definition P}
    (hd : (fresh config memory : Session P σ).firstCompiled? eval base commands = some d) :
    let targets := ((fresh config memory : Session P σ).after eval commands).targets
    (targets.requestedFor base .static =
      if (d.compile base).staticRules.isEmpty ∧ (d.compile base).staticKeyframes.isEmpty then []
      else [⟨base, .static, 0⟩]) ∧
    targets.requestedFor base .dynamic =
      if (d.compile base).dynamicRules.isEmpty then [] else [⟨base, .dynamic, 0⟩] := by
  intro targets
  have hrequested := requestedFor_after eval config memory hmanagers base
  rw [hd] at hrequested
  constructor
  · refine (hrequested .static).trans ?_
    by_cases hrules : (d.compile base).staticRules.isEmpty <;>
      by_cases hkeyframes : (d.compile base).staticKeyframes.isEmpty <;>
        simp [Compilation.wants, Compilation.hasStatic, hrules, hkeyframes]
  · refine (hrequested .dynamic).trans ?_
    by_cases hrules : (d.compile base).dynamicRules.isEmpty <;>
      simp [Compilation.wants, Compilation.hasDynamic, hrules]

/-- A moment of a run of managers ends a shorter run of managers. -/
lemma exists_run_of_mem_moments (hmanagers : ∀ command ∈ commands, command.isManagerial = true)
    {moment : Moment P C σ}
    (hmoment : moment ∈ (fresh config memory : Session P σ).moments eval commands) :
    ∃ earlier rest, commands = earlier ++ [moment.command] ++ rest ∧
      moment.before = (fresh config memory : Session P σ).after eval earlier ∧
      ∀ command ∈ earlier ++ [moment.command], command.isManagerial = true := by
  obtain ⟨earlier, rest, hsplit, hbefore⟩ := exists_append_of_mem_moments eval _ hmoment
  have hcommands : commands = earlier ++ [moment.command] ++ rest := by
    rw [hsplit, List.append_assoc, List.singleton_append]
  refine ⟨earlier, rest, hcommands, hbefore, ?_⟩
  intro command hcommand
  apply hmanagers
  rw [hcommands]
  exact List.mem_append_left _ hcommand

/-- What a moment of a run writes is what the definition compiled first says, or what an update
renders. -/
lemma writes_moment (hmanagers : ∀ command ∈ commands, command.isManagerial = true)
    {moment : Moment P C σ}
    (hmoment : moment ∈ (fresh config memory : Session P σ).moments eval commands)
    {entry : TargetId × String}
    (hentry : entry ∈ (moment.before.activity (moment.later eval)).writes) :
    ∃ d, (fresh config memory : Session P σ).firstCompiled? eval entry.1.base commands = some d ∧
      match entry.1.kind with
      | .static => moment.Initialises entry.1.base ∧
        RuleSet.renderFixed [(d.compile entry.1.base).staticRules,
          (d.compile entry.1.base).staticKeyframes] config.layout = .ok entry.2
      | .dynamic => ∃ name m component, moment.command = .update name component ∧
        moment.before.manager? name = some m ∧ m.base = entry.1.base ∧
        moment.before.renderedText? eval m component = some entry.2 := by
  obtain ⟨earlier, rest, hsplit, hbefore, hearlier⟩ :=
    exists_run_of_mem_moments eval config memory hmanagers hmoment
  have hnative : moment.before.store.Native := by
    rw [hbefore]
    exact native_after eval config memory
      fun command hcommand => hearlier command (List.mem_append_left _ hcommand)
  obtain ⟨record, hrecord, hsource⟩ := writes_step eval hnative
    (hearlier moment.command (List.mem_append_right _ List.mem_cons_self)) hentry
  -- The record that the moment leaves tells which definition was compiled first.
  have hlater : ((fresh config memory : Session P σ).after eval
      (earlier ++ [moment.command])).registry.get? entry.1.base = some record := by
    rw [after_concat, ← hbefore]
    exact hrecord
  obtain ⟨-, d, hd, hcompiled⟩ :=
    firstCompiled?_of_get? eval config memory entry.1.base hearlier hlater
  have hconfig : moment.before.config = config := by
    rw [hbefore]
    exact config_after eval _ earlier
  refine ⟨d, ?_, ?_⟩
  · rw [hsplit, firstCompiled?_append, hd, Option.some_or]
  cases hkind : entry.1.kind with
  | static =>
    rw [hkind] at hsource
    obtain ⟨hinitialises, htext⟩ := hsource
    rw [Record.renderStatic, hcompiled, hconfig] at htext
    exact ⟨hinitialises, htext⟩
  | dynamic =>
    rw [hkind] at hsource
    exact hsource

/-- Consider a run of managers over a new registry. Every base rule is compiled at most once, and
after the run it has a static target exactly if the definition that was compiled then has fixed
rules or fixed keyframes, a dynamic one exactly if it has dynamic rules, and no second target of
either kind. A target is requested only when its base rule is compiled, by the initialisation that
does it, the static one first; no other command requests one. A static target is written only by
initialisations for its base rule, and the text is that of the fixed rules and keyframes of the
definition compiled first; a dynamic target is written only by updates, and the text is what the
update renders. -/
theorem targetRequests_after
    (hmanagers : ∀ command ∈ commands, command.isManagerial = true) :
    let start : Session P σ := fresh config memory
    let last := start.after eval commands
    (∀ base,
      ((start.moments eval commands).filterMap fun moment =>
        moment.before.compiles? base moment.command) =
          (start.firstCompiled? eval base commands).toList ∧
      (∀ d, start.firstCompiled? eval base commands = some d →
        (last.targets.requestedFor base .static =
          if (d.compile base).staticRules.isEmpty ∧ (d.compile base).staticKeyframes.isEmpty then []
          else [⟨base, .static, 0⟩]) ∧
        last.targets.requestedFor base .dynamic =
          if (d.compile base).dynamicRules.isEmpty then [] else [⟨base, .dynamic, 0⟩]) ∧
      (start.firstCompiled? eval base commands = none →
        ∀ kind, last.targets.requestedFor base kind = [])) ∧
    ∀ moment ∈ start.moments eval commands,
      let activity := moment.before.activity (moment.later eval)
      (∀ base d, moment.before.compiles? base moment.command = some d →
        moment.Initialises base ∧ activity.opened = d.firstTargets base) ∧
      ((∀ base, moment.before.compiles? base moment.command = none) → activity.opened = []) ∧
      ∀ entry ∈ activity.writes, ∃ d, start.firstCompiled? eval entry.1.base commands = some d ∧
        match entry.1.kind with
        | .static => moment.Initialises entry.1.base ∧
          RuleSet.renderFixed [(d.compile entry.1.base).staticRules,
            (d.compile entry.1.base).staticKeyframes] config.layout = .ok entry.2
        | .dynamic => ∃ name m component, moment.command = .update name component ∧
          moment.before.manager? name = some m ∧ m.base = entry.1.base ∧
          moment.before.renderedText? eval m component = some entry.2 := by
  intro start last
  constructor
  · intro base
    refine ⟨filterMap_compiles? eval config memory base commands, ?_, ?_⟩
    · intro d hd
      exact requestedFor_of_firstCompiled? eval config memory hmanagers hd
    · intro hnone kind
      have hrequested := requestedFor_after eval config memory hmanagers base kind
      rw [hnone] at hrequested
      exact hrequested
  intro moment hmoment activity
  obtain ⟨earlier, rest, -, hbefore, hearlier⟩ :=
    exists_run_of_mem_moments eval config memory hmanagers hmoment
  have hmanager : moment.command.isManagerial = true :=
    hearlier moment.command (List.mem_append_right _ List.mem_cons_self)
  have hnative : moment.before.store.Native := by
    rw [hbefore]
    exact native_after eval config memory
      fun command hcommand => hearlier command (List.mem_append_left _ hcommand)
  refine ⟨?_, opened_of_compiles?_eq_none hmanager, ?_⟩
  · intro base d hcompiles
    obtain ⟨name, m, hcommand, hm, hbase, -, -⟩ := of_compiles? hcompiles
    exact ⟨⟨name, m, hcommand, hm, hbase⟩, opened_of_compiles? hnative hcompiles⟩
  · intro entry hentry
    exact writes_moment eval config memory hmanagers hmoment hentry

/-- A run in which a manager compiles a static definition for a base rule, fails to write, and
another manager comes with a definition that has dynamic rules too. -/
def lateDynamic : List (Command Unit Unit) :=
  [.setDetached ".A" .static true,
    .addManager "first" ".A" ⟨[("color", .fixed (.text "red"))]⟩, .initialise "first",
    .addManager "second" ".A" ⟨[("color", .fixed (.text "blue")), ("width", .computed ())]⟩,
    .setDetached ".A" .static false, .initialise "second", .update "second" (some ())]

/-- The base rule has a static target and no dynamic one. -/
theorem targetRequests_after_lateDynamic :
    (∀ command ∈ lateDynamic, command.isManagerial = true) ∧
      let last := (fresh .standard ()).after .silent lateDynamic
      last.targets.requestedFor ".A" .static = [⟨".A", .static, 0⟩] ∧
      last.targets.requestedFor ".A" .dynamic = [] := by
  have hmanagers : ∀ command ∈ lateDynamic, command.isManagerial = true := by
    simp [lateDynamic, Command.isManagerial]
  obtain ⟨hbases, -⟩ := targetRequests_after .silent .standard () hmanagers
  obtain ⟨-, hrequested, -⟩ := hbases ".A"
  have hfirst : (fresh .standard ()).firstCompiled? .silent ".A" lateDynamic =
      some ⟨[("color", .fixed (.text "red"))]⟩ := rfl
  obtain ⟨hstatic, hdynamic⟩ := hrequested _ hfirst
  refine ⟨hmanagers, ?_, ?_⟩
  · rw [hstatic]
    rfl
  · rw [hdynamic]
    rfl

end Run

end Session

end Restyle
