import Restyle.Proofs.Session.Managers

/-!
# The fixed text of a base rule

However many managers of a base rule are initialised, its fixed text is written at most once, and it
is the text of the definition that was compiled first, even if another manager with another
definition is the one that writes it. An initialisation can only fail because the text is still to
be written and its target refuses it. Once an initialisation has ended well, no later one for the
same base rule fails.
-/

namespace Restyle

variable {P C σ : Type}

/-! ### Which text is written -/

/-- The fixed texts of a store are those that its records render in a layout. -/
def Store.Printed (store : Store P) (layout : Layout) : Prop :=
  ∀ key record text, store.1.get? key = some record → record.staticText = some text →
    record.renderStatic layout = .ok text

/-- A deed keeps fixed texts as rendered if every fixed text is written in the same layout. -/
lemma Store.Printed.of_leads {deed : Deed P} {x y : Store P} {layout : Layout}
    (h : deed.Leads x y) (hx : x.Printed layout)
    (hdeed : ∀ key layout', deed = .writeStatic key layout' → layout' = layout) :
    y.Printed layout := by
  intro key record text hrecord htext
  cases h with
  | discard provider => exact hx key record text hrecord htext
  | compile provider hnone =>
    rcases Registry.of_get?_put hrecord with ⟨-, rfl⟩ | ⟨-, hrecord⟩
    · cases htext
    · exact hx key record text hrecord htext
  | writeStatic hkey hid hpending hrender hattached =>
    rcases Registry.of_get?_put hrecord with ⟨-, rfl⟩ | ⟨-, hrecord⟩
    · cases htext
      rw [← hdeed _ _ rfl]
      exact hrender
    · exact hx key record text hrecord htext
  | @writeDynamic r t other dynamic old id hkey hid hattached =>
    rcases Registry.of_get?_put hrecord with ⟨-, rfl⟩ | ⟨-, hrecord⟩
    · exact hx other old text hkey htext
    · exact hx key record text hrecord htext
  | setDetached => exact hx key record text hrecord htext

namespace Session

variable {eval : Evaluator P C σ} {s : Session P σ} {base : String} {command : Command P C}

/-- A command of a manager writes fixed texts in the layout of the configuration only. -/
lemma Permits.layout_of_isManagerial {key : String} {layout : Layout}
    (h : s.Permits eval command (.writeStatic key layout))
    (hmanager : command.isManagerial = true) : layout = s.config.layout := by
  cases h with
  | initialiseWrite hm => rfl
  | writeStatic => cases hmanager

/-- In a run of managers the fixed texts are rendered in the layout of the configuration. -/
lemma printed_after (eval : Evaluator P C σ) (config : Config) (memory : σ)
    {commands : List (Command P C)}
    (hmanagers : ∀ command ∈ commands, command.isManagerial = true) :
    ((fresh config memory : Session P σ).after eval commands).store.Printed config.layout := by
  have hboth : ((fresh config memory : Session P σ).after eval commands).config = config ∧
      ((fresh config memory : Session P σ).after eval commands).store.Printed config.layout := by
    refine after_induction (I := fun s => s.config = config ∧ s.store.Printed config.layout) ?_ ?_
    · refine ⟨rfl, ?_⟩
      intro key record text hrecord
      cases hrecord
    · intro s hs command hcommand
      refine ⟨(config_after eval s [command]).trans hs.1, ?_⟩
      refine (step_leads eval s command).induction (I := fun y => y.Printed config.layout) hs.2 ?_
      intro deed hpermits x y hleads hx
      refine hx.of_leads hleads ?_
      rintro key layout rfl
      rw [hpermits.layout_of_isManagerial (hmanagers command hcommand), hs.1]
  exact hboth.2

/-- In a run of managers a fixed text that was written is the sheet of its record. -/
lemma eq_sheet_of_staticText (eval : Evaluator P C σ) (config : Config) (memory : σ)
    {commands : List (Command P C)}
    (hmanagers : ∀ command ∈ commands, command.isManagerial = true) {record : Record P}
    (hrecord : ((fresh config memory : Session P σ).after eval commands).registry.get? base =
      some record) {text : String} (htext : record.staticText = some text) :
    text = Record.sheet record.compiled config.layout := by
  have hprinted : record.renderStatic config.layout = .ok text :=
    printed_after eval config memory hmanagers base record text hrecord htext
  obtain ⟨d, hcompiled⟩ :=
    ((ledger_after eval config memory commands).booked base record hrecord).compiled
  rw [Record.renderStatic_eq hcompiled] at hprinted
  exact (Except.ok.inj hprinted).symm

/-- The fixed text of a base rule is known exactly if it is what its static target received. -/
lemma staticText?_eq_some_iff (hs : s.store.Ledger) (text : String) :
    s.registry.staticText? base = some text ↔
      ∃ record id, s.registry.get? base = some record ∧ record.staticTarget = some id ∧
        s.targets.writes id = [text] := by
  rw [Registry.staticText?, Option.bind_eq_some_iff]
  constructor
  · rintro ⟨record, hrecord, htext⟩
    have hbooked : record.Booked s.targets := hs.booked base record hrecord
    obtain ⟨id, hid⟩ : ∃ id, record.target? .static = some id := by
      refine Option.ne_none_iff_exists'.mp fun hnone => ?_
      rw [hbooked.unfixed hnone] at htext
      cases htext
    refine ⟨record, id, hrecord, hid, ?_⟩
    rw [hbooked.fixed id hid, htext]
    rfl
  · rintro ⟨record, id, hrecord, hid, hwrites⟩
    have hfixed : s.targets.writes id = record.staticText.toList :=
      (hs.booked base record hrecord).fixed id hid
    rw [hfixed] at hwrites
    exact ⟨record, hrecord, Option.toList_eq_singleton_iff.mp hwrites⟩

/-! ### Initialisations that fail -/

/-- An initialisation fails only with a refusal of its target, and then the text is still pending.
-/
lemma of_failed_initialise {moment : Moment P C σ} (hledger : moment.before.store.Ledger)
    (hbase : ∀ record, moment.before.registry.get? base = some record → record.base = base)
    (hmoment : moment.Initialises base) {e : StyleError} (hfailed : moment.reply eval = .failed e) :
    e = .output base Targets.refusal ∧ moment.before.targets.isDetached base .static = true ∧
      ∃ record, (moment.later eval).registry.get? base = some record ∧ record.isPending = true := by
  obtain ⟨s, command⟩ := moment
  obtain ⟨name, m, rfl, hm, rfl⟩ := hmoment
  obtain ⟨hpending, hdetached, hstep⟩ | ⟨record, targets, -, -, hstep⟩ :=
    step_initialise_cases eval hledger hm
  · rw [base_acquired s m hbase] at hdetached hstep
    rw [Moment.reply, hstep] at hfailed
    cases hfailed
    refine ⟨rfl, hdetached, _, ?_, hpending⟩
    rw [Moment.later, hstep]
    exact get?_prepared s name m
  · rw [Moment.reply, hstep] at hfailed
    cases hfailed

/-- After an initialisation that ended well, the base rule has a record with nothing pending. -/
lemma of_done_initialise {moment : Moment P C σ} (hledger : moment.before.store.Ledger)
    (hmoment : moment.Initialises base) (hdone : moment.reply eval = .done) :
    ∃ record, (moment.later eval).registry.get? base = some record ∧ record.isPending = false := by
  obtain ⟨s, command⟩ := moment
  obtain ⟨name, m, rfl, hm, rfl⟩ := hmoment
  obtain ⟨-, -, hstep⟩ | ⟨record, targets, -, hpending, hstep⟩ :=
    step_initialise_cases eval hledger hm
  · rw [Moment.reply, hstep] at hdone
    cases hdone
  · refine ⟨record, ?_, hpending⟩
    rw [Moment.later, hstep]
    exact Registry.get?_put_self

/-- An initialisation ends well if the base rule has a record with nothing pending. -/
lemma reply_initialise_of_not_pending {moment : Moment P C σ}
    (hledger : moment.before.store.Ledger) {record : Record P}
    (hrecord : moment.before.registry.get? base = some record) (hpending : record.isPending = false)
    (hmoment : moment.Initialises base) : moment.reply eval = .done := by
  obtain ⟨s, command⟩ := moment
  obtain ⟨name, m, rfl, hm, rfl⟩ := hmoment
  obtain ⟨hstill, -, -⟩ | ⟨record', targets, -, -, hstep⟩ := step_initialise_cases eval hledger hm
  · rw [acquired_of_get? s m hrecord] at hstill
    exact absurd hstill (Bool.eq_false_iff.mp hpending)
  · rw [Moment.reply, hstep]

/-- Once an initialisation has ended well, all later ones for the same base rule do. -/
lemma pairwise_initialise (eval : Evaluator P C σ) (base : String)
    (commands : List (Command P C)) (hs : s.store.Ledger) :
    (s.moments eval commands).Pairwise fun earlier later =>
      earlier.Initialises base → earlier.reply eval = .done → later.Initialises base →
        later.reply eval = .done := by
  induction commands generalizing s with
  | nil => exact List.Pairwise.nil
  | cons command rest ih =>
    have hnext : (s.step eval command).2.store.Ledger := ledger_step eval hs command
    refine List.pairwise_cons.mpr ⟨?_, ih hnext⟩
    intro later hlater hinitialises hdone hagain
    obtain ⟨record, hrecord, hpending⟩ := of_done_initialise hs hinitialises hdone
    -- From here on the record stays stored and nothing is pending again.
    obtain ⟨pre, post, -, hbefore⟩ := exists_append_of_mem_moments eval _ hlater
    obtain ⟨record', hrecord', hcontinues⟩ := keeps_after eval _ pre base record hrecord
    have hledger : later.before.store.Ledger := by
      rw [hbefore]
      exact store_after (fun _ _ _ hleads hx => hx.of_leads hleads) eval pre hnext
    have hstored : later.before.registry.get? base = some record' := by
      rw [hbefore]
      exact hrecord'
    exact reply_initialise_of_not_pending hledger hstored (hcontinues.isPending_eq_false hpending)
      hagain

/-! ### The static target -/

/-- Through every run of managers, the static target of the record of a base rule receives one text
at most. It is the fixed text of the definition that was compiled first, in the layout of the
configuration; it is remembered exactly if it was written; an initialisation fails only while it is
pending and refused; and after an initialisation that ended well none fails. -/
theorem staticTarget_after (eval : Evaluator P C σ) (config : Config) (memory : σ)
    (commands : List (Command P C))
    (hmanagers : ∀ command ∈ commands, command.isManagerial = true) (base : String) :
    let start : Session P σ := fresh config memory
    let last := start.after eval commands
    (∀ record, last.registry.get? base = some record →
      ∃ d fixed keyframes, start.firstCompiled? eval base commands = some d ∧
        record.compiled = d.compile base ∧
        (∀ component memory,
          (d.compile base).staticRules.render eval component config.layout memory =
            (.ok fixed, memory)) ∧
        (∀ component memory,
          (d.compile base).staticKeyframes.render eval component config.layout memory =
            (.ok keyframes, memory)) ∧
        ∀ id, record.staticTarget = some id →
          last.targets.writes id = [] ∨ last.targets.writes id = [fixed ++ keyframes]) ∧
    (∀ text, last.registry.staticText? base = some text ↔
      ∃ record id, last.registry.get? base = some record ∧ record.staticTarget = some id ∧
        last.targets.writes id = [text]) ∧
    (∀ moment ∈ start.moments eval commands, moment.Initialises base →
      ∀ e, moment.reply eval = .failed e →
        e = .output base Targets.refusal ∧ moment.before.targets.isDetached base .static = true ∧
          ∃ record, (moment.later eval).registry.get? base = some record ∧
            record.isPending = true) ∧
    (start.moments eval commands).Pairwise fun earlier later =>
      earlier.Initialises base → earlier.reply eval = .done → later.Initialises base →
        later.reply eval = .done := by
  intro start last
  have hledger : last.store.Ledger := ledger_after eval config memory commands
  refine ⟨?_, ?_, ?_, pairwise_initialise eval base commands (Store.Ledger.fresh config)⟩
  · intro record hrecord
    obtain ⟨-, d, hd, hcompiled⟩ := firstCompiled?_of_get? eval config memory base hmanagers hrecord
    refine ⟨d, (d.compile base).staticRules.fixedText config.layout,
      (d.compile base).staticKeyframes.fixedText config.layout, hd, hcompiled, ?_, ?_, ?_⟩
    · intro component memory
      exact RuleSet.render_of_not_hasDynamic (hasDynamic_staticRules_compile d base) ..
    · intro component memory
      exact RuleSet.render_of_not_hasDynamic (hasDynamic_staticKeyframes_compile d base) ..
    intro id hid
    have hwrites : last.targets.writes id = record.staticText.toList :=
      (hledger.booked base record hrecord).fixed id hid
    rw [hwrites]
    cases htext : record.staticText with
    | none => exact Or.inl rfl
    | some text =>
      rw [eq_sheet_of_staticText eval config memory hmanagers hrecord htext, hcompiled]
      exact Or.inr rfl
  · exact staticText?_eq_some_iff hledger
  · intro moment hmoment hinitialises e hfailed
    obtain ⟨earlier, rest, hsplit, hbefore⟩ := exists_append_of_mem_moments eval start hmoment
    have hearlier : ∀ command ∈ earlier, command.isManagerial = true := by
      intro command hcommand
      refine hmanagers command ?_
      rw [hsplit]
      exact List.mem_append_left _ hcommand
    have hthen : moment.before.store.Ledger := by
      rw [hbefore]
      exact ledger_after eval config memory earlier
    refine of_failed_initialise hthen ?_ hinitialises hfailed
    intro record hrecord
    rw [hbefore] at hrecord
    exact (firstCompiled?_of_get? eval config memory base hearlier hrecord).1

/-- A run in which the target refuses the text of the manager that compiles, and a manager with
another definition is initialised when it no longer does. -/
def retried : List (Command Unit Unit) :=
  [.addManager "first" ".A" ⟨[("color", .fixed (.text "red"))]⟩,
    .addManager "second" ".A" ⟨[("color", .fixed (.text "blue"))]⟩,
    .setDetached ".A" .static true, .initialise "first",
    .setDetached ".A" .static false, .initialise "second"]

/-- The second manager writes the text of the first. -/
theorem staticTarget_after_retried :
    (∀ command ∈ retried, command.isManagerial = true) ∧
      ∃ record id, ((fresh .standard ()).after .silent retried).registry.get? ".A" = some record ∧
        record.staticTarget = some id ∧
        ((fresh .standard ()).after .silent retried).targets.writes id =
          [".A \x7b\ncolor: red;\n\x7d\n"] := by
  have hmanagers : ∀ command ∈ retried, command.isManagerial = true := by
    simp [retried, Command.isManagerial]
  have htext : ((fresh .standard ()).after .silent retried).registry.staticText? ".A" =
      some ".A \x7b\ncolor: red;\n\x7d\n" := rfl
  obtain ⟨-, hknown, -, -⟩ := staticTarget_after .silent .standard () retried hmanagers ".A"
  exact ⟨hmanagers, (hknown _).mp htext⟩

end Session

end Restyle
