import Restyle.Proofs.Session.Managers

/-!
# What initialisations and updates add

An initialisation or an update of a manager (a `Visit`) has a small effect: it answers, changes the
manager and the record of its base rule, requests targets, writes texts and calls the provider, and
everything else stays as it is. `Session.effect` says what these things are, in terms of what the
visit finds, and `Session.step_visit` that the visit does just this.

An effect stays within its base rule: the targets it requests are for this base rule, and the texts
it writes go to the targets of the record.
-/

namespace Restyle

variable {P C σ : Type}

/-! ### Records -/

namespace Record

variable {r : Record P}

/-- The targets of a record, that of the fixed text first. -/
def targetIds (r : Record P) : List TargetId := r.staticTarget.toList ++ r.dynamicTarget.toList

lemma mem_targetIds {id : TargetId} : id ∈ r.targetIds ↔ ∃ kind, r.target? kind = some id := by
  rw [targetIds, List.mem_append, Option.mem_toList, Option.mem_toList]
  constructor
  · rintro (hid | hid)
    · exact ⟨.static, hid⟩
    · exact ⟨.dynamic, hid⟩
  · rintro ⟨kind, hid⟩
    cases kind with
    | static => exact Or.inl hid
    | dynamic => exact Or.inr hid

/-- What a write of the fixed text comes to if these outputs are detached: the answer, the record
afterwards, and what is written. -/
def attemptStatic (r : Record P) (layout : Layout) (detached : List (String × TargetKind)) :
    Except StyleError (Bool × Record P × List (TargetId × String)) :=
  (r.writeStatic layout ⟨[], [], detached⟩).map fun done => (done.1, done.2.1, done.2.2.log)

/-- What a write of a dynamic text comes to if these outputs are detached. -/
def attemptDynamic (r : Record P) (text : String) (skip : Bool)
    (detached : List (String × TargetKind)) :
    Except StyleError (Bool × Record P × List (TargetId × String)) :=
  (r.writeDynamic text skip ⟨[], [], detached⟩).map fun done => (done.1, done.2.1, done.2.2.log)

section Attempts

variable (r) (t : Targets)

/-- A delivered text is added to the log. -/
lemma deliver_eq_extend (id : TargetId) (text : String) :
    r.deliver t id text =
      (r.deliver ⟨[], [], t.detached⟩ id text).map fun added => t.extend [] added.log := by
  rw [deliver, deliver, Targets.write_eq_extend]
  cases Targets.write ⟨[], [], t.detached⟩ id text <;> rfl

/-- A write of the fixed text adds what it comes to. -/
lemma writeStatic_eq_attempt (layout : Layout) :
    r.writeStatic layout t = (r.attemptStatic layout t.detached).map fun done =>
      (done.1, done.2.1, t.extend [] done.2.2) := by
  unfold attemptStatic
  cases hpending : r.isPending with
  | false =>
    rw [writeStatic_of_not_pending hpending, writeStatic_of_not_pending hpending]
    simp [Except.map]
  | true =>
    obtain ⟨id, hid, hnone⟩ := exists_of_isPending hpending
    rw [writeStatic_eq_bind hid hnone, writeStatic_eq_bind hid hnone]
    cases r.renderStatic layout with
    | error e => rfl
    | ok text =>
      change (r.deliver t id text >>= fun targets => .ok (true, r.withStatic text, targets)) =
        ((r.deliver ⟨[], [], t.detached⟩ id text >>= fun targets =>
          .ok (true, r.withStatic text, targets)).map _).map _
      rw [deliver_eq_extend]
      cases r.deliver ⟨[], [], t.detached⟩ id text <;> rfl

/-- A write of a dynamic text adds what it comes to. -/
lemma writeDynamic_eq_attempt (text : String) (skip : Bool) :
    r.writeDynamic text skip t = (r.attemptDynamic text skip t.detached).map fun done =>
      (done.1, done.2.1, t.extend [] done.2.2) := by
  unfold attemptDynamic writeDynamic
  split
  · simp [Except.map]
  · rename_i id hid
    split
    · simp [Except.map]
    · change (r.deliver t id text >>= fun targets => .ok (true, r.withDynamic text, targets)) =
        ((r.deliver ⟨[], [], t.detached⟩ id text >>= fun targets =>
          .ok (true, r.withDynamic text, targets)).map _).map _
      rw [deliver_eq_extend]
      cases r.deliver ⟨[], [], t.detached⟩ id text <;> rfl

end Attempts

variable {layout : Layout} {detached : List (String × TargetKind)} {written : Bool} {r' : Record P}
  {writes : List (TargetId × String)}

/-- A write of the fixed text that does not fail has nothing to write, or writes the text to its
target. -/
lemma of_attemptStatic (h : r.attemptStatic layout detached = .ok (written, r', writes)) :
    r.Continues r' ∧ (writes = [] ∨ ∃ id text, r.target? .static = some id ∧
      r.renderStatic layout = .ok text ∧ writes = [(id, text)]) := by
  unfold attemptStatic at h
  cases hwrite : r.writeStatic layout ⟨[], [], detached⟩ with
  | error e =>
    rw [hwrite] at h
    cases h
  | ok done =>
    obtain ⟨written', r'', t'⟩ := done
    rw [hwrite] at h
    cases h
    refine ⟨(continues_of_writeStatic_ok hwrite).1, ?_⟩
    obtain ⟨-, -, rfl⟩ | ⟨id, text, hid, -, htext, -, -, rfl⟩ := writeStatic_ok_cases hwrite
    · exact Or.inl rfl
    · exact Or.inr ⟨id, text, hid, htext, rfl⟩

/-- A write of a dynamic text that does not fail skips it, or writes it to its target. -/
lemma of_attemptDynamic {text : String} {skip : Bool}
    (h : r.attemptDynamic text skip detached = .ok (written, r', writes)) :
    r.Continues r' ∧
      (writes = [] ∨ ∃ id, r.target? .dynamic = some id ∧ writes = [(id, text)]) := by
  unfold attemptDynamic at h
  cases hid : r.dynamicTarget with
  | none =>
    rw [writeDynamic_of_no_target hid] at h
    cases h
    exact ⟨.refl r, Or.inl rfl⟩
  | some id =>
    obtain ⟨-, -, hwrite⟩ | ⟨-, -, hwrite⟩ | ⟨-, -, hwrite⟩ :=
      writeDynamic_cases hid text skip ⟨[], [], detached⟩
    · rw [hwrite] at h
      cases h
      exact ⟨.refl r, Or.inl rfl⟩
    · rw [hwrite] at h
      cases h
    · rw [hwrite] at h
      cases h
      exact ⟨continues_withDynamic r text, Or.inr ⟨id, hid, rfl⟩⟩

section Compile

variable (base : String) (provider : ProviderId) (d : Definition P) (t : Targets)

/-- A new record has the targets that its compilation wants. Each counts the earlier ones for its
output. -/
lemma target?_compile (kind : TargetKind) :
    (compile base provider d t).1.target? kind =
      if (d.compile base).wants kind then some ⟨base, kind, (t.requestedFor base kind).length⟩
      else none := by
  cases kind with
  | static =>
    rw [target?_static_compile, Targets.requestIf_fst]
    rfl
  | dynamic =>
    have hcount : (t.requestIf (d.compile base).hasStatic base .static).2.requestedFor base
        .dynamic = t.requestedFor base .dynamic := by
      rw [Targets.requestIf_snd, Targets.requestedFor_extend, Targets.requestIf_fst]
      cases (d.compile base).hasStatic <;> simp [TargetId.holds]
    rw [target?_dynamic_compile, Targets.requestIf_fst, hcount]
    rfl

/-- A compilation requests the targets of the new record. -/
lemma targets_compile_eq_extend :
    (compile base provider d t).2 = t.extend (compile base provider d t).1.targetIds [] := by
  have hstatic := Targets.requestIf_snd t (d.compile base).hasStatic base .static
  have hdynamic := Targets.requestIf_snd (t.requestIf (d.compile base).hasStatic base .static).2
    (d.compile base).hasDynamic base .dynamic
  calc (compile base provider d t).2
      = (t.requestIf (d.compile base).hasStatic base .static).2.extend
          (compile base provider d t).1.dynamicTarget.toList [] := hdynamic
    _ = (t.extend (compile base provider d t).1.staticTarget.toList []).extend
          (compile base provider d t).1.dynamicTarget.toList [] := by
        rw [hstatic]
        rfl
    _ = t.extend (compile base provider d t).1.targetIds [] := Targets.extend_extend _ _ _ _ _

/-- The targets of a new record are of its base rule. -/
lemma base_of_mem_targetIds_compile {id : TargetId}
    (hid : id ∈ (compile base provider d t).1.targetIds) : id.base = base := by
  obtain ⟨kind, hkind⟩ := mem_targetIds.mp hid
  rw [target?_compile] at hkind
  split at hkind
  · cases hkind
    rfl
  · cases hkind

/-- Of the targets, compiling sees the number of those for its two outputs only. -/
lemma compile_congr {t' : Targets}
    (h : ∀ kind, t'.requestedFor base kind = t.requestedFor base kind) :
    (compile base provider d t').1 = (compile base provider d t).1 := by
  have htarget : ∀ kind, (compile base provider d t').1.target? kind =
      (compile base provider d t).1.target? kind := by
    intro kind
    rw [target?_compile, target?_compile, h]
  have hstatic := htarget .static
  have hdynamic := htarget .dynamic
  unfold compile at hstatic hdynamic ⊢
  simp only [target?] at hstatic hdynamic
  simp only [hstatic, hdynamic]

end Compile

end Record

/-! ### Effects -/

/-- What is done with a manager once it is made. -/
inductive Visit (C : Type) where
  /-- It is initialised. -/
  | initialise
  /-- It is updated for a component. -/
  | update (component : Option C)

/-- The command of a visit to the manager of a name. -/
def Visit.command (name : String) : Visit C → Command P C
  | .initialise => .initialise name
  | .update component => .update name component

/-- What a visit to a manager adds to a session. -/
structure Effect (P : Type) where
  /-- The answer. -/
  reply : Reply P
  /-- The manager as the visit leaves it. -/
  manager : Manager P
  /-- The record of the base rule as the visit leaves it, if there is one. -/
  record : Option (Record P)
  /-- The targets requested. -/
  opened : List TargetId
  /-- The texts written. -/
  writes : List (TargetId × String)
  /-- The providers called. -/
  called : List ProviderId

namespace Session

/-- The targets that an initialisation of a manager requests: those of its record, if it makes one.
-/
def requests (s : Session P σ) (m : Manager P) : List TargetId :=
  if (s.registry.get? m.base).isSome then [] else (s.acquired m).1.2.targetIds

/-- The effect of an initialisation. -/
def initialiseEffect (s : Session P σ) (m : Manager P) : Effect P :=
  match (s.acquired m).1.2.attemptStatic s.config.layout s.targets.detached with
  | .error e =>
    ⟨.failed e, s.equipped m, some (s.acquired m).1.2, s.requests m, [], [m.provider]⟩
  | .ok (_, record, writes) =>
    ⟨.done, s.ready m, some record, s.requests m, writes, [m.provider]⟩

/-- The effect of an update. -/
def updateEffect (eval : Evaluator P C σ) (s : Session P σ) (m : Manager P)
    (component : Option C) : Effect P :=
  match s.renderedBy m with
  | none => ⟨.written false, m, s.registry.get? m.base, [], [], []⟩
  | some (record, rules) =>
    match (rules.render eval component s.config.layout s.memory).1 with
    | .error e => ⟨.failed e, m, some record, [], [], []⟩
    | .ok text =>
      match record.attemptDynamic text s.config.skipUnchanged s.targets.detached with
      | .error e => ⟨.failed e, m, some record, [], [], []⟩
      | .ok (written, record, writes) => ⟨.written written, m, some record, [], writes, []⟩

/-- The effect of a visit to a manager. -/
def effect (eval : Evaluator P C σ) (s : Session P σ) (m : Manager P) : Visit C → Effect P
  | .initialise => s.initialiseEffect m
  | .update component => s.updateEffect eval m component

/-- The session with an effect on the manager of a name added. -/
def apply (s : Session P σ) (name : String) (effect : Effect P) (memory : σ) : Session P σ where
  registry :=
    match effect.record with
    | some record => s.registry.put effect.manager.base record
    | none => s.registry
  targets := s.targets.extend effect.opened effect.writes
  providers := { s.providers with called := s.providers.called ++ effect.called }
  managers := s.managers.insert name effect.manager
  memory

/-- An effect leaves the configuration as it is. -/
lemma config_apply (s : Session P σ) (name : String) (effect : Effect P) (memory : σ) :
    (s.apply name effect memory).config = s.config := by
  unfold apply config
  cases effect.record <;> rfl

/-- An effect puts its record, if it has one, under the base rule of its manager. -/
lemma get?_apply (s : Session P σ) (name : String) (effect : Effect P) (memory : σ)
    (key : String) :
    (s.apply name effect memory).registry.get? key =
      if effect.manager.base = key then effect.record.or (s.registry.get? key)
      else s.registry.get? key := by
  unfold apply
  cases hrecord : effect.record with
  | none => simp
  | some record =>
    rw [Option.some_or]
    exact Registry.get?_put _ _ _ _

section Visits

variable (eval : Evaluator P C σ) {s : Session P σ} {name : String} {m : Manager P}

/-- The targets of an initialisation before the fixed text is written. -/
lemma targets_prepared (s : Session P σ) (name : String) (m : Manager P) :
    (s.prepared name m).targets = s.targets.extend (s.requests m) [] := by
  unfold requests
  cases h : s.registry.get? m.base with
  | some record => simp [prepared, acquired_of_get? s m h, store]
  | none =>
    simp only [prepared, acquired_of_none s m h]
    exact Record.targets_compile_eq_extend _ _ _ _

/-- The records of an initialisation before the fixed text is written. -/
lemma registry_prepared (s : Session P σ) (name : String) (m : Manager P) :
    (s.prepared name m).registry = s.registry.put m.base (s.acquired m).1.2 := by
  cases h : s.registry.get? m.base with
  | some record =>
    simp only [prepared, acquired_of_get? s m h]
    exact (Registry.put_of_get? h).symm
  | none => simp only [prepared, acquired_of_none s m h]

/-- An initialisation has its effect. -/
lemma initialise_eq_apply (s : Session P σ) (name : String) (m : Manager P) :
    (s.initialise name m).map (.ofExcept fun _ => .done) id =
      ((s.initialiseEffect m).reply, s.apply name (s.initialiseEffect m) s.memory) := by
  have hregistry := registry_prepared s name m
  have htargets := targets_prepared s name m
  have hdetached : (s.prepared name m).targets.detached = s.targets.detached := by
    rw [htargets]
    rfl
  rw [initialise_eq, Record.writeStatic_eq_attempt, hdetached]
  unfold initialiseEffect
  cases (s.acquired m).1.2.attemptStatic s.config.layout s.targets.detached with
  | error e =>
    have hprepared : s.prepared name m = { s.prepared name m with
        registry := s.registry.put m.base (s.acquired m).1.2
        targets := s.targets.extend (s.requests m) [] } := by
      rw [← hregistry, ← htargets]
    change (Reply.failed e, s.prepared name m) = _
    rw [hprepared]
    rfl
  | ok done =>
    obtain ⟨written, record, writes⟩ := done
    have hput : (s.prepared name m).registry.put m.base record = s.registry.put m.base record := by
      rw [hregistry, Registry.put, Registry.put, Registry.put, OrderedMap.insert_insert]
    have hextend : (s.prepared name m).targets.extend [] writes =
        s.targets.extend (s.requests m) writes := by
      rw [htargets, Targets.extend_extend, List.append_nil, List.nil_append]
    change (Reply.done,
      s.initialised name m record ((s.prepared name m).targets.extend [] writes)) = _
    rw [initialised, hput, hextend]
    rfl

/-- An update has its effect. -/
lemma update_eq_apply (hm : s.manager? name = some m) (component : Option C) :
    ∃ memory, (s.update eval m component).map (.ofExcept .written) id =
      ((s.updateEffect eval m component).reply,
        s.apply name (s.updateEffect eval m component) memory) := by
  have hmanagers : s.managers.insert name m = s.managers := OrderedMap.insert_of_get? hm
  have hcalled : s.providers.called ++ [] = s.providers.called := List.append_nil _
  cases hby : s.renderedBy m with
  | none =>
    refine ⟨s.memory, ?_⟩
    rw [update_of_renderedBy_eq_none hby]
    simp only [updateEffect, hby, apply, hmanagers, hcalled, Targets.extend_nil]
    cases hrecord : s.registry.get? m.base with
    | none => rfl
    | some record =>
      simp only [Registry.put_of_get? hrecord]
      rfl
  | some found =>
    obtain ⟨record, rules⟩ := found
    have hput : s.registry.put m.base record = s.registry :=
      Registry.put_of_get? (of_renderedBy hby).2.1
    cases hrender : rules.render eval component s.config.layout s.memory with
    | mk rendered left =>
      refine ⟨left, ?_⟩
      rw [update_of_render hby hrender]
      simp only [updateEffect, hby, hrender]
      cases rendered with
      | error e =>
        simp only [apply, hmanagers, hcalled, Targets.extend_nil, hput]
        rfl
      | ok text =>
        simp only [writeDynamic, Record.writeDynamic_eq_attempt]
        cases record.attemptDynamic text s.config.skipUnchanged s.targets.detached with
        | error e =>
          simp only [apply, hmanagers, hcalled, Targets.extend_nil, hput]
          rfl
        | ok done =>
          simp only [apply, hmanagers, hcalled]
          rfl

/-- A visit to a manager has its effect. -/
theorem step_visit (hm : s.manager? name = some m) (visit : Visit C) :
    ∃ memory, s.step eval (visit.command name) =
      ((s.effect eval m visit).reply, s.apply name (s.effect eval m visit) memory) := by
  cases visit with
  | initialise =>
    refine ⟨s.memory, ?_⟩
    rw [effect, ← initialise_eq_apply]
    exact withManager_of_some hm _
  | update component =>
    obtain ⟨memory, hupdate⟩ := update_eq_apply eval hm component
    refine ⟨memory, ?_⟩
    rw [effect, ← hupdate]
    exact withManager_of_some hm _

/-- A visit to a manager that does not exist does nothing. -/
lemma step_visit_of_none (hm : s.manager? name = none) (visit : Visit C) :
    s.step eval (visit.command name) = (.noManager, s) := by
  cases visit with
  | initialise => exact withManager_of_none hm _
  | update component => exact withManager_of_none hm _

/-! ### What is in an effect -/

/-- The base rule and the provider of a manager stay. -/
lemma manager_effect (s : Session P σ) (m : Manager P) (visit : Visit C) :
    (s.effect eval m visit).manager.base = m.base ∧
      (s.effect eval m visit).manager.provider = m.provider := by
  cases visit with
  | initialise =>
    rw [effect, initialiseEffect]
    split <;> exact ⟨rfl, rfl⟩
  | update component =>
    rw [effect, updateEffect]
    split
    · exact ⟨rfl, rfl⟩
    · split
      · exact ⟨rfl, rfl⟩
      · split <;> exact ⟨rfl, rfl⟩

/-- An initialisation requests targets if it makes a record. -/
lemma opened_initialise (s : Session P σ) (m : Manager P) :
    (s.effect eval m .initialise).opened = s.requests m := by
  rw [effect, initialiseEffect]
  split <;> rfl

/-- An update requests no target. -/
lemma opened_update (s : Session P σ) (m : Manager P) (component : Option C) :
    (s.effect eval m (.update component)).opened = [] := by
  rw [effect, updateEffect]
  split
  · rfl
  · split
    · rfl
    · split <;> rfl

/-- The targets requested are for the base rule of the manager. -/
lemma base_of_mem_opened (s : Session P σ) (m : Manager P) (visit : Visit C) {id : TargetId}
    (hid : id ∈ (s.effect eval m visit).opened) : id.base = m.base := by
  cases visit with
  | update component =>
    rw [opened_update] at hid
    cases hid
  | initialise =>
    rw [opened_initialise, requests] at hid
    cases hrecord : s.registry.get? m.base with
    | some record =>
      rw [hrecord] at hid
      cases hid
    | none =>
      rw [hrecord, acquired_of_none s m hrecord] at hid
      exact Record.base_of_mem_targetIds_compile _ _ _ _ hid

/-- An initialisation continues the record that it found or made, and writes the fixed text to its
target if it writes anything. -/
lemma writes_initialise (s : Session P σ) (m : Manager P) :
    ∃ record, (s.effect eval m .initialise).record = some record ∧
      (s.acquired m).1.2.Continues record ∧
      ∀ entry ∈ (s.effect eval m .initialise).writes,
        (s.acquired m).1.2.target? .static = some entry.1 ∧
          (s.acquired m).1.2.renderStatic s.config.layout = .ok entry.2 := by
  rw [effect, initialiseEffect]
  cases hattempt : (s.acquired m).1.2.attemptStatic s.config.layout s.targets.detached with
  | error e => exact ⟨_, rfl, .refl _, fun entry hentry => absurd hentry List.not_mem_nil⟩
  | ok done =>
    obtain ⟨written, record, writes⟩ := done
    obtain ⟨hcontinues, hwrites⟩ := Record.of_attemptStatic hattempt
    refine ⟨record, rfl, hcontinues, ?_⟩
    intro entry hentry
    change entry ∈ writes at hentry
    rcases hwrites with rfl | ⟨id, text, hid, htext, rfl⟩
    · cases hentry
    · obtain rfl := List.mem_singleton.mp hentry
      exact ⟨hid, htext⟩

/-- An update continues the record of the base rule, if there is one. It writes the text that it
renders to the target of the record, if it writes anything. -/
lemma writes_update (s : Session P σ) (m : Manager P) (component : Option C) :
    (∀ record, s.registry.get? m.base = some record →
      ∃ record', (s.effect eval m (.update component)).record = some record' ∧
        record.Continues record') ∧
    ∀ entry ∈ (s.effect eval m (.update component)).writes,
      ∃ record, s.registry.get? m.base = some record ∧
        record.target? .dynamic = some entry.1 ∧
        s.renderedText? eval m component = some entry.2 := by
  cases hby : s.renderedBy m with
  | none =>
    simp only [effect, updateEffect, hby]
    refine ⟨fun record hrecord => ⟨record, hrecord, .refl record⟩, ?_⟩
    exact fun entry hentry => absurd hentry List.not_mem_nil
  | some found =>
    obtain ⟨record, rules⟩ := found
    have hstored : s.registry.get? m.base = some record := (of_renderedBy hby).2.1
    have hsame : ∀ record', s.registry.get? m.base = some record' → record' = record :=
      fun record' hrecord' => Option.some.inj (hrecord'.symm.trans hstored)
    cases hrender : (rules.render eval component s.config.layout s.memory).1 with
    | error e =>
      simp only [effect, updateEffect, hby, hrender]
      refine ⟨fun record' hrecord' => ⟨record, rfl, hsame record' hrecord' ▸ .refl _⟩, ?_⟩
      exact fun entry hentry => absurd hentry List.not_mem_nil
    | ok text =>
      cases hattempt : record.attemptDynamic text s.config.skipUnchanged s.targets.detached with
      | error e =>
        simp only [effect, updateEffect, hby, hrender, hattempt]
        refine ⟨fun record' hrecord' => ⟨record, rfl, hsame record' hrecord' ▸ .refl _⟩, ?_⟩
        exact fun entry hentry => absurd hentry List.not_mem_nil
      | ok done =>
        obtain ⟨written, record', writes⟩ := done
        obtain ⟨hcontinues, hwrites⟩ := Record.of_attemptDynamic hattempt
        simp only [effect, updateEffect, renderedText?, hby, hrender, hattempt]
        refine ⟨fun old hold => ⟨record', rfl, hsame old hold ▸ hcontinues⟩, ?_⟩
        intro entry hentry
        rcases hwrites with rfl | ⟨id, hid, rfl⟩
        · cases hentry
        · obtain rfl := List.mem_singleton.mp hentry
          exact ⟨record, hstored, hid, rfl⟩

/-- All texts go to targets of the record that the visit leaves: those of initialisations are fixed
texts, and those of updates are rendered for the component. -/
lemma of_mem_writes (s : Session P σ) (m : Manager P) (visit : Visit C)
    {entry : TargetId × String} (hentry : entry ∈ (s.effect eval m visit).writes) :
    ∃ record, (s.effect eval m visit).record = some record ∧
      ((visit = .initialise ∧ record.target? .static = some entry.1 ∧
          record.renderStatic s.config.layout = .ok entry.2) ∨
        ∃ component, visit = .update component ∧ record.target? .dynamic = some entry.1 ∧
          s.renderedText? eval m component = some entry.2) := by
  cases visit with
  | initialise =>
    obtain ⟨record, hrecord, hcontinues, hwrites⟩ := writes_initialise eval s m
    obtain ⟨hid, htext⟩ := hwrites entry hentry
    refine ⟨record, hrecord, Or.inl ⟨rfl, (hcontinues.target? _).trans hid, ?_⟩⟩
    rw [hcontinues.renderStatic_eq]
    exact htext
  | update component =>
    obtain ⟨hcontinued, hwrites⟩ := writes_update eval s m component
    obtain ⟨record, hstored, hid, htext⟩ := hwrites entry hentry
    obtain ⟨record', hrecord', hcontinues⟩ := hcontinued record hstored
    exact ⟨record', hrecord', Or.inr ⟨component, rfl, (hcontinues.target? _).trans hid, htext⟩⟩

end Visits

end Session

end Restyle
