import Restyle.Proofs.Session.Isolation

/-!
# Interleavings

In a run of managers, the visits for different base rules come in any order. For each base rule it
is as if the others were not there: if the visits for other base rules are left out (`Session.own`),
the remaining commands answer the same, request the same targets and write the same texts, and in
the end the base rule has the same managers, the same record and the same texts in its targets
(`Session.isolated_after`).
-/

namespace Restyle

variable {P C σ : Type}

/-- The name of the manager that a command visits. -/
def Command.visited? : Command P C → Option String
  | .initialise name => some name
  | .update name _ => some name
  | _ => none

/-- Whether a moment is no visit for another base rule. A visit to a manager that does not exist is
for none. -/
def Moment.concerns (base : String) (moment : Moment P C σ) : Bool :=
  match moment.command.visited? with
  | some name => (moment.before.manager? name).any fun m => m.base = base
  | none => true

/-- What a moment shows from outside: its command, the reply, and what happened. -/
def Moment.account (eval : Evaluator P C σ) (moment : Moment P C σ) :
    Command P C × Reply P × Activity :=
  (moment.command, moment.reply eval, moment.before.activity (moment.later eval))

namespace Session

/-- The commands of a run without the visits for base rules other than the given one. -/
def own (eval : Evaluator P C σ) (s : Session P σ) (base : String)
    (commands : List (Command P C)) : List (Command P C) :=
  ((s.moments eval commands).filter fun moment => moment.concerns base).map (·.command)

variable {eval : Evaluator P C σ} {s s' : Session P σ} {base : String} {command : Command P C}

lemma own_cons_of_concerns (h : (⟨s, command⟩ : Moment P C σ).concerns base = true)
    (rest : List (Command P C)) :
    s.own eval base (command :: rest) = command :: (s.step eval command).2.own eval base rest := by
  rw [own, moments, List.filter_cons_of_pos h, List.map_cons]
  rfl

lemma own_cons_of_not_concerns (h : (⟨s, command⟩ : Moment P C σ).concerns base = false)
    (rest : List (Command P C)) :
    s.own eval base (command :: rest) = (s.step eval command).2.own eval base rest := by
  rw [own, moments, List.filter_cons_of_neg (Bool.eq_false_iff.mp h)]
  rfl

/-- A command that visits is the command of a visit. -/
lemma exists_visit {name : String} (h : command.visited? = some name) :
    ∃ visit : Visit C, command = visit.command name := by
  cases command with
  | initialise other =>
    cases h
    exact ⟨.initialise, rfl⟩
  | update other component =>
    cases h
    exact ⟨.update component, rfl⟩
  | _ => cases h

/-! ### Commands that concern a base rule -/

/-- Sessions with the same targets and calls have nothing between them. -/
lemma activity_eq_nothing (htargets : s'.targets.opened = s.targets.opened)
    (hlog : s'.targets.log = s.targets.log) (hcalled : s'.providers.called = s.providers.called) :
    s.activity s' = ⟨[], [], 0⟩ := by
  rw [activity, htargets, hlog, Providers.calls, Providers.calls, hcalled, List.drop_length,
    List.drop_length, Nat.sub_self]

/-- A command after which the targets and calls are the same shows nothing but its reply. -/
lemma account_of_step {reply : Reply P} {later : Session P σ}
    (hstep : s.step eval command = (reply, later))
    (hopened : later.targets.opened = s.targets.opened)
    (hlog : later.targets.log = s.targets.log)
    (hcalled : later.providers.called = s.providers.called) :
    Moment.account eval ⟨s, command⟩ = (command, reply, ⟨[], [], 0⟩) := by
  simp only [Moment.account, Moment.reply, Moment.later, hstep,
    activity_eq_nothing hopened hlog hcalled]

/-- A visit does what its effect says. -/
lemma activity_apply (s : Session P σ) (name : String) (effect : Effect P) (memory : σ) :
    s.activity (s.apply name effect memory) =
      ⟨effect.opened, effect.writes, effect.called.length⟩ := by
  have hcalls : (s.apply name effect memory).providers.calls =
      s.providers.calls + effect.called.length := List.length_append
  rw [activity, hcalls, Nat.add_sub_cancel_left]
  congr 1
  · exact List.drop_left
  · exact List.drop_left

section Agree

variable (h : s.AgreeOn base s')
include h

lemma AgreeOn.addManager (name other : String) (d : Definition P) :
    (s.addManager name other d).AgreeOn base (s'.addManager name other d) := by
  have hnew : s'.providers.current.length = s.providers.current.length := by rw [h.current]
  refine ⟨h.config, ?_, h.detached, ?_, ?_, h.record, h.requested⟩
  · exact congrArg (· ++ [d]) h.current
  · intro name'
    change ((s'.managers.insert name ⟨other, s'.providers.current.length, false, none⟩).get?
      name').map _ = ((s.managers.insert name _).get? name').map _
    rw [hnew, OrderedMap.get?_insert, OrderedMap.get?_insert]
    split
    · rfl
    · exact h.owner name'
  · intro name' m hm hbase
    change (s.managers.insert name ⟨other, s.providers.current.length, false, none⟩).get? name' =
      some m at hm
    change (s'.managers.insert name ⟨other, s'.providers.current.length, false, none⟩).get? name' =
      some m
    rw [hnew]
    by_cases hname : name = name'
    · subst hname
      rw [OrderedMap.get?_insert_self] at hm ⊢
      exact hm
    · rw [OrderedMap.get?_insert_of_ne hname] at hm ⊢
      exact h.manager name' m hm hbase

lemma AgreeOn.define {m m' : Manager P} (hprovider : m'.provider = m.provider)
    (d : Definition P) : (s.define m d).AgreeOn base (s'.define m' d) := by
  refine ⟨h.config, ?_, h.detached, h.owner, h.manager, h.record, h.requested⟩
  change s'.providers.current.set m'.provider d = s.providers.current.set m.provider d
  rw [h.current, hprovider]

lemma AgreeOn.setDetached (other : String) (kind : TargetKind) (on : Bool) :
    (s.setDetached other kind on).AgreeOn base (s'.setDetached other kind on) := by
  refine ⟨h.config, h.current, ?_, h.owner, h.manager, h.record, h.requested⟩
  simp only [Session.setDetached, Targets.setDetached, h.detached]

/-- A visit to a manager of the base rule does the same in both sessions. -/
lemma AgreeOn.visit (heval : eval.IsStateless) {name : String} {m : Manager P}
    (hm : s.manager? name = some m) (hbase : m.base = base) (visit : Visit C) :
    Moment.account eval ⟨s', visit.command name⟩ = Moment.account eval ⟨s, visit.command name⟩ ∧
      (s.step eval (visit.command name)).2.AgreeOn base
        (s'.step eval (visit.command name)).2 := by
  subst hbase
  obtain ⟨memory, hstep⟩ := step_visit eval hm visit
  obtain ⟨memory', hstep'⟩ := step_visit eval (h.manager name m hm rfl) visit
  rw [h.effect_eq heval] at hstep'
  refine ⟨?_, ?_⟩
  · simp only [Moment.account, Moment.reply, Moment.later, hstep, hstep', activity_apply]
  · rw [hstep, hstep']
    exact h.apply name _ memory memory'

/-- A change of a definition does the same in both sessions. -/
lemma AgreeOn.step_define (name : String) (d : Definition P) :
    Moment.account eval ⟨s', .define name d⟩ = Moment.account eval ⟨s, .define name d⟩ ∧
      (s.step eval (.define name d)).2.AgreeOn base (s'.step eval (.define name d)).2 := by
  have howner := h.owner name
  cases hm : s.manager? name with
  | none =>
    rw [hm, Option.map_none, Option.map_eq_none_iff] at howner
    have hstep : s.step eval (.define name d) = (.noManager, s) := withManager_of_none hm _
    have hstep' : s'.step eval (.define name d) = (.noManager, s') := withManager_of_none howner _
    rw [account_of_step hstep rfl rfl rfl, account_of_step hstep' rfl rfl rfl, hstep, hstep']
    exact ⟨rfl, h⟩
  | some m =>
    rw [hm] at howner
    obtain ⟨m', hm', hsame⟩ := Option.map_eq_some_iff.mp howner
    have hstep : s.step eval (.define name d) = (.done, s.define m d) := withManager_of_some hm _
    have hstep' : s'.step eval (.define name d) = (.done, s'.define m' d) :=
      withManager_of_some hm' _
    rw [account_of_step hstep rfl rfl rfl, account_of_step hstep' rfl rfl rfl, hstep, hstep']
    exact ⟨rfl, h.define (congrArg Prod.snd hsame) d⟩

/-- A command of a manager that concerns a base rule does the same in sessions that agree on it, and
they agree on it afterwards. -/
lemma AgreeOn.step (heval : eval.IsStateless) (hmanager : command.isManagerial = true)
    (hconcerns : Moment.concerns base ⟨s, command⟩ = true) :
    Moment.account eval ⟨s', command⟩ = Moment.account eval ⟨s, command⟩ ∧
      (s.step eval command).2.AgreeOn base (s'.step eval command).2 := by
  have hvisit : ∀ name (visit : Visit C),
      (s.manager? name).any (fun m => m.base = base) = true →
      Moment.account eval ⟨s', visit.command name⟩ = Moment.account eval ⟨s, visit.command name⟩ ∧
        (s.step eval (visit.command name)).2.AgreeOn base
          (s'.step eval (visit.command name)).2 := by
    intro name visit hany
    cases hm : s.manager? name with
    | none =>
      rw [hm] at hany
      cases hany
    | some m =>
      rw [hm] at hany
      exact h.visit heval hm (of_decide_eq_true hany) visit
  cases command with
  | initialise name => exact hvisit name .initialise hconcerns
  | update name component => exact hvisit name (.update component) hconcerns
  | define name d => exact h.step_define name d
  | addManager name other d =>
    have hstep : ∀ t : Session P σ, t.step eval (.addManager name other d) =
        (.done, t.addManager name other d) := fun _ => rfl
    rw [account_of_step (hstep s) rfl rfl rfl, account_of_step (hstep s') rfl rfl rfl]
    exact ⟨rfl, h.addManager name other d⟩
  | setDetached other kind on =>
    have hstep : ∀ t : Session P σ, t.step eval (.setDetached other kind on) =
        (.done, t.setDetached other kind on) := fun _ => rfl
    rw [account_of_step (hstep s) rfl rfl rfl, account_of_step (hstep s') rfl rfl rfl]
    exact ⟨rfl, h.setDetached other kind on⟩
  | _ => cases hmanager

end Agree

/-! ### Texts of targets -/

/-- The targets of the record of a base rule have the same texts. -/
def SameTexts (base : String) (s s' : Session P σ) : Prop :=
  ∀ record kind id, s.registry.get? base = some record → record.target? kind = some id →
    s'.targets.writes id = s.targets.writes id

/-- Every command adds to the log. -/
lemma prefix_log_step (eval : Evaluator P C σ) (s : Session P σ) (command : Command P C) :
    s.targets.log <+: (s.step eval command).2.targets.log := by
  refine (step_leads eval s command).induction (I := fun y => s.targets.log <+: y.2.log)
    List.prefix_rfl ?_
  intro deed _ x y hleads hx
  cases hleads with
  | discard provider =>
    rw [Record.log_compile]
    exact hx
  | compile provider hkey =>
    rw [Record.log_compile]
    exact hx
  | writeStatic hkey hid hpending htext hattached => exact hx.trans (List.prefix_append _ _)
  | writeDynamic hkey hid hattached => exact hx.trans (List.prefix_append _ _)
  | setDetached => exact hx

/-- After a command a target has its earlier texts and those of the command. -/
lemma writes_step_eq (eval : Evaluator P C σ) (s : Session P σ) (command : Command P C)
    (id : TargetId) :
    (s.step eval command).2.targets.writes id = s.targets.writes id ++
      Targets.textsFor id (s.activity (s.step eval command).2).writes := by
  obtain ⟨added, hadded⟩ := prefix_log_step eval s command
  have hwrites : (s.activity (s.step eval command).2).writes = added := by
    rw [activity, ← hadded]
    exact List.drop_left
  rw [hwrites, Targets.writes, ← hadded, List.filterMap_append]
  rfl

/-- The targets of a record that a command makes are new. -/
lemma notMem_opened_of_new (eval : Evaluator P C σ) (hs : s.store.Ledger)
    (hnone : s.registry.get? base = none) {record : Record P}
    (hrecord : (s.step eval command).2.registry.get? base = some record) {kind : TargetKind}
    {id : TargetId} (hid : record.target? kind = some id) : id ∉ s.targets.opened := by
  have hall : (s.step eval command).2.store.Ledger ∧
      (∀ id ∈ s.targets.opened, id ∈ (s.step eval command).2.targets.opened) ∧
      ∀ record, (s.step eval command).2.registry.get? base = some record →
        ∀ kind id, record.target? kind = some id → id ∉ s.targets.opened := by
    refine (step_leads eval s command).induction (I := fun y => y.Ledger ∧
      (∀ id ∈ s.targets.opened, id ∈ y.2.opened) ∧ ∀ record, y.1.get? base = some record →
        ∀ kind id, record.target? kind = some id → id ∉ s.targets.opened)
      ⟨hs, fun id hid => hid, ?_⟩ ?_
    · intro record hrecord
      change s.registry.get? base = some record at hrecord
      rw [hnone] at hrecord
      cases hrecord
    intro deed _ x y hleads hx
    obtain ⟨hledger, hopened, hnew⟩ := hx
    refine ⟨hledger.of_leads hleads, ?_, ?_⟩
    · intro id hid
      cases hleads with
      | discard provider => exact Record.mem_opened_compile _ provider _ _ (hopened id hid)
      | compile provider hkey => exact Record.mem_opened_compile _ provider _ _ (hopened id hid)
      | writeStatic hkey htarget hpending htext hattached => exact hopened id hid
      | writeDynamic hkey htarget hattached => exact hopened id hid
      | setDetached => exact hopened id hid
    · intro record hrecord kind id hid hold
      rcases hleads.record_cases hrecord with
        ⟨old, hstored, hcontinues⟩ | ⟨b, provider, d, -, -, rfl, -⟩
      · exact hnew old hstored kind id ((hcontinues.target? kind).symm.trans hid) hold
      · obtain ⟨-, -, hfresh, -⟩ := Record.of_target?_compile b provider d x.2 hledger.orderly hid
        exact hfresh (hopened id hold)
  exact hall.2.2 record hrecord kind id hid

/-- A command that does the same in both sessions adds the same texts. -/
lemma SameTexts.step (htexts : SameTexts base s s') (hs : s.store.Ledger) (hs' : s'.store.Ledger)
    (h : s.AgreeOn base s')
    (hsame : Moment.account eval ⟨s', command⟩ = Moment.account eval ⟨s, command⟩)
    (hagree : (s.step eval command).2.AgreeOn base (s'.step eval command).2) :
    SameTexts base (s.step eval command).2 (s'.step eval command).2 := by
  intro record kind id hrecord hid
  have hadded : s'.activity (s'.step eval command).2 = s.activity (s.step eval command).2 :=
    congrArg (fun account => account.2.2) hsame
  have hbefore : s'.targets.writes id = s.targets.writes id := by
    cases hold : s.registry.get? base with
    | some old =>
      obtain ⟨record', hrecord', hcontinues⟩ := keeps_step eval s command base old hold
      obtain rfl : record = record' := Option.some.inj (hrecord.symm.trans hrecord')
      exact htexts old kind id hold ((hcontinues.target? kind).symm.trans hid)
    | none =>
      -- The target is a new one in both sessions.
      have hnew := notMem_opened_of_new eval hs hold hrecord hid
      have hnew' := notMem_opened_of_new eval hs' (h.record.trans hold)
        (hagree.record.trans hrecord) hid
      have hempty : s.targets.writes id = [] := hs.orderly.writes_eq_nil hnew
      have hempty' : s'.targets.writes id = [] := hs'.orderly.writes_eq_nil hnew'
      rw [hempty, hempty']
  rw [writes_step_eq, writes_step_eq, hadded, hbefore]

/-- A visit for another base rule writes to none of the targets of the base rule. -/
lemma sameTexts_visit_of_ne (hs : s.store.Ledger) {name : String} {m : Manager P}
    (hm : s.manager? name = some m) (hne : m.base ≠ base) (visit : Visit C) :
    SameTexts base s (s.step eval (visit.command name)).2 := by
  intro record kind id hrecord hid
  have hledger := ledger_step eval hs (visit.command name)
  obtain ⟨memory, hstep⟩ := step_visit eval hm visit
  rw [hstep] at hledger ⊢
  refine (Targets.writes_extend _ _ _ id).trans ?_
  rw [Targets.textsFor_eq_nil, List.append_nil]
  rintro entry hentry rfl
  obtain ⟨own, hown, hsource⟩ := of_mem_writes eval s m visit hentry
  have hstored : (s.apply name (s.effect eval m visit) memory).registry.get? m.base = some own := by
    rw [get?_apply, if_pos (manager_effect eval s m visit).1, hown, Option.some_or]
  have hkept : (s.apply name (s.effect eval m visit) memory).registry.get? base = some record :=
    (AgreeOn.of_visit_of_ne eval hm hne visit memory).record.trans hrecord
  obtain ⟨kind', hid'⟩ : ∃ kind', own.target? kind' = some entry.1 := by
    rcases hsource with ⟨-, hstatic, -⟩ | ⟨-, -, hdynamic, -⟩
    · exact ⟨.static, hstatic⟩
    · exact ⟨.dynamic, hdynamic⟩
  exact hne (hledger.apart m.base base own record kind' kind entry.1 hstored hkept hid' hid)

/-! ### Runs -/

variable (eval) in
/-- A command of a manager that does not concern a base rule visits a manager of another one, or
does nothing. -/
lemma of_not_concerns (h : Moment.concerns base ⟨s, command⟩ = false) :
    (∃ name m, ∃ visit : Visit C, s.manager? name = some m ∧ m.base ≠ base ∧
      command = visit.command name) ∨ (s.step eval command).2 = s := by
  unfold Moment.concerns at h
  split at h
  · rename_i name hname
    obtain ⟨visit, rfl⟩ := exists_visit hname
    cases hm : s.manager? name with
    | some m =>
      rw [hm] at h
      exact Or.inl ⟨name, m, visit, hm, of_decide_eq_false h, rfl⟩
    | none =>
      exact Or.inr (congrArg Prod.snd (step_visit_of_none eval hm visit))
  · cases h

variable (eval) in
/-- A command that does not concern a base rule can be left out. -/
lemma skip_step (hs : s.store.Ledger) (h : Moment.concerns base ⟨s, command⟩ = false) :
    s.AgreeOn base (s.step eval command).2 ∧ SameTexts base s (s.step eval command).2 := by
  rcases of_not_concerns eval h with ⟨name, m, visit, hm, hne, rfl⟩ | hsame
  · refine ⟨?_, sameTexts_visit_of_ne hs hm hne visit⟩
    obtain ⟨memory, hstep⟩ := step_visit eval hm visit
    rw [hstep]
    exact .of_visit_of_ne eval hm hne visit memory
  · rw [hsame]
    exact ⟨.refl base s, fun _ _ _ _ _ => rfl⟩

lemma SameTexts.trans {s'' : Session P σ} (h : SameTexts base s s')
    (hrecord : s'.registry.get? base = s.registry.get? base) (h' : SameTexts base s' s'') :
    SameTexts base s s'' := by
  intro record kind id hstored hid
  rw [h' record kind id (hrecord.trans hstored) hid, h record kind id hstored hid]

lemma SameTexts.symm (h : SameTexts base s s')
    (hrecord : s'.registry.get? base = s.registry.get? base) : SameTexts base s' s :=
  fun record kind id hstored hid => (h record kind id (hrecord.symm.trans hstored) hid).symm

/-- From sessions that agree on a base rule, a run of managers and the same run without the visits
for other base rules do the same for the base rule. -/
lemma agreeOn_after_own (heval : eval.IsStateless) (hs : s.store.Ledger) (hs' : s'.store.Ledger)
    (h : s.AgreeOn base s') (htexts : SameTexts base s s') {commands : List (Command P C)}
    (hmanagers : ∀ command ∈ commands, command.isManagerial = true) :
    (s.after eval commands).AgreeOn base (s'.after eval (s.own eval base commands)) ∧
      SameTexts base (s.after eval commands) (s'.after eval (s.own eval base commands)) ∧
      (s'.moments eval (s.own eval base commands)).map (Moment.account eval) =
        ((s.moments eval commands).filter fun moment => moment.concerns base).map
          (Moment.account eval) := by
  induction commands generalizing s s' with
  | nil => exact ⟨h, htexts, rfl⟩
  | cons command rest ih =>
    have hmanager := hmanagers command List.mem_cons_self
    have hrest : ∀ command ∈ rest, command.isManagerial = true :=
      fun c hc => hmanagers c (List.mem_cons_of_mem _ hc)
    have hledger := ledger_step eval hs command
    cases hconcerns : Moment.concerns base ⟨s, command⟩ with
    | true =>
      obtain ⟨hsame, hagree⟩ := h.step heval hmanager hconcerns
      have hsameTexts := htexts.step hs hs' h hsame hagree
      obtain ⟨hafter, htextsAfter, haccounts⟩ :=
        ih hledger (ledger_step eval hs' command) hagree hsameTexts hrest
      rw [own_cons_of_concerns hconcerns, after_cons, after_cons]
      refine ⟨hafter, htextsAfter, ?_⟩
      rw [moments, moments, List.filter_cons_of_pos hconcerns, List.map_cons, List.map_cons, hsame,
        haccounts]
    | false =>
      obtain ⟨hagree, hsameTexts⟩ := skip_step eval hs hconcerns
      obtain ⟨hafter, htextsAfter, haccounts⟩ :=
        ih hledger hs' (hagree.symm.trans h)
          ((hsameTexts.symm hagree.record).trans hagree.symm.record htexts) hrest
      rw [own_cons_of_not_concerns hconcerns, after_cons]
      refine ⟨hafter, htextsAfter, ?_⟩
      rw [moments, List.filter_cons_of_neg (Bool.eq_false_iff.mp hconcerns)]
      exact haccounts

/-- Let the values of producers depend on the component only, and consider a session at any time of
a run of commands of any kind.

Two visits to managers of different base rules can change places: both answer as before, and the
managers, the records, the targets of every output, the texts of every target and the calls to
providers are the same in the end. Only the order of the two base rules may differ, and that of
their targets and calls.

So what a run of managers does for a base rule does not depend on the visits for other base rules.
If these are left out, the other commands get the same replies, request the same targets, write the
same texts and call as many providers, and in the end the base rule has the same managers, the same
record, the same targets, and the same texts in them. -/
theorem isolated_after (heval : eval.IsStateless) (config : Config) (memory : σ)
    (earlier : List (Command P C)) :
    let s : Session P σ := (fresh config memory).after eval earlier
    (∀ name name' m m' (visit visit' : Visit C), s.manager? name = some m →
      s.manager? name' = some m' → m.base ≠ m'.base →
        s.Exchangeable eval m.base m'.base (visit.command name) (visit'.command name')) ∧
    ∀ base (commands : List (Command P C)),
      (∀ command ∈ commands, command.isManagerial = true) →
      let whole := s.after eval commands
      let alone := s.after eval (s.own eval base commands)
      (s.moments eval (s.own eval base commands)).map (Moment.account eval) =
        ((s.moments eval commands).filter fun moment => moment.concerns base).map
          (Moment.account eval) ∧
      (∀ name m, m.base = base → (alone.manager? name = some m ↔ whole.manager? name = some m)) ∧
      alone.registry.get? base = whole.registry.get? base ∧
      (∀ kind, alone.targets.requestedFor base kind = whole.targets.requestedFor base kind) ∧
      ∀ record kind id, whole.registry.get? base = some record → record.target? kind = some id →
        alone.targets.writes id = whole.targets.writes id := by
  intro s
  have hs : s.store.Ledger := ledger_after eval config memory earlier
  refine ⟨?_, ?_⟩
  · intro name name' m m' visit visit' hm hm' hne
    exact exchangeable_visits heval hs hm hm' hne visit visit'
  intro base commands hmanagers whole alone
  obtain ⟨hagree, htexts, haccounts⟩ :=
    agreeOn_after_own heval hs hs (.refl base s) (fun _ _ _ _ _ => rfl) hmanagers
  refine ⟨haccounts, ?_, hagree.record, hagree.requested, htexts⟩
  intro name m hbase
  exact ⟨fun hm => hagree.symm.manager name m hm hbase, fun hm => hagree.manager name m hm hbase⟩

/-- A producer that shows the component, and counts how often it was asked. -/
def counting : Evaluator Unit String Nat := fun _ c count => (.ok (.text c), count + 1)

/-- Two managers of different base rules are added. -/
def neighbours : List (Command Unit String) :=
  [.addManager "a" ".A" ⟨[("color", .computed ())]⟩,
    .addManager "b" ".B" ⟨[("color", .fixed (.text "red")), ("width", .computed ())]⟩]

/-- The managers are initialised and updated in turn. -/
def interleaved : List (Command Unit String) :=
  [.initialise "b", .initialise "a", .update "b" (some "1px"), .update "a" (some "blue")]

/-- The first visits to both managers can change places, and what is written for the first base rule
is what its two own visits write. -/
theorem isolated_after_neighbours :
    counting.IsStateless ∧
      let s := (fresh .standard 0).after counting neighbours
      s.Exchangeable counting ".A" ".B" (.initialise "a") (.initialise "b") ∧
      s.own counting ".A" interleaved = [.initialise "a", .update "a" (some "blue")] ∧
      (s.after counting [.initialise "a", .update "a" (some "blue")]).targets.writes
          ⟨".A", .dynamic, 0⟩ =
        (s.after counting interleaved).targets.writes ⟨".A", .dynamic, 0⟩ := by
  have hstateless : counting.IsStateless := fun _ _ _ _ => rfl
  obtain ⟨hexchange, hown⟩ := isolated_after hstateless .standard 0 neighbours
  refine ⟨hstateless, ?_, rfl, ?_⟩
  · exact hexchange "a" "b" ⟨".A", 0, false, none⟩ ⟨".B", 1, false, none⟩ .initialise .initialise
      rfl rfl (by decide)
  · have hmanagers : ∀ command ∈ interleaved, command.isManagerial = true := by
      simp [interleaved, Command.isManagerial]
    obtain ⟨-, -, -, -, htexts⟩ := hown ".A" interleaved hmanagers
    exact htexts _ .dynamic ⟨".A", .dynamic, 0⟩ rfl rfl

end Session

end Restyle
