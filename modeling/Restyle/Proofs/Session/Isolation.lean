import Restyle.Proofs.Session.Effects
import Restyle.Proofs.Session.Memory

/-!
# Base rules do not see each other

A visit to a manager depends on what the session holds for its base rule: the record, the targets
requested, the managers of the base rule, and the configuration and definitions that all share
(`Session.AgreeOn`). It changes nothing that visits to managers of other base rules depend on. So
visits for different base rules can change places: both answer as before, and the session after them
is the same up to the order of what they add (`Session.SameUpToOrder`).

All this supposes that producers give values that depend on the component only. Otherwise they could
pass on what they were asked to render for another base rule.
-/

namespace Restyle

variable {P C σ : Type}

/-- What no visit changes about a manager: its base rule and its provider. -/
def Manager.owner (m : Manager P) : String × ProviderId := (m.base, m.provider)

/-- The base rule that an effect adds to those that have a record, if it is new. -/
def Effect.newBases (effect : Effect P) (bases : List String) : List String :=
  if effect.record.isSome ∧ effect.manager.base ∉ bases then [effect.manager.base] else []

namespace Session

/-! ### What the visits for a base rule depend on -/

/-- Two sessions agree on all that visits to managers of a base rule depend on. -/
structure AgreeOn (base : String) (s s' : Session P σ) : Prop where
  /-- The configurations are the same. -/
  config : s'.config = s.config
  /-- The providers give the same definitions. -/
  current : s'.providers.current = s.providers.current
  /-- The same outputs are detached. -/
  detached : s'.targets.detached = s.targets.detached
  /-- There are managers of the same names, with the same base rules and providers. -/
  owner : ∀ name, (s'.manager? name).map Manager.owner = (s.manager? name).map Manager.owner
  /-- The managers of the base rule are the same. -/
  manager : ∀ name m, s.manager? name = some m → m.base = base → s'.manager? name = some m
  /-- The records of the base rule are the same. -/
  record : s'.registry.get? base = s.registry.get? base
  /-- The same targets were requested for the base rule. -/
  requested : ∀ kind, s'.targets.requestedFor base kind = s.targets.requestedFor base kind

namespace AgreeOn

variable {base : String} {s s' s'' : Session P σ}

lemma refl (base : String) (s : Session P σ) : s.AgreeOn base s :=
  ⟨rfl, rfl, rfl, fun _ => rfl, fun _ _ hm _ => hm, rfl, fun _ => rfl⟩

lemma symm (h : s.AgreeOn base s') : s'.AgreeOn base s where
  config := h.config.symm
  current := h.current.symm
  detached := h.detached.symm
  owner := fun name => (h.owner name).symm
  manager := by
    intro name m hm hbase
    have howner := h.owner name
    rw [hm] at howner
    obtain ⟨m', hm', hsame⟩ := Option.map_eq_some_iff.mp howner.symm
    have hbase' : m'.base = base := (congrArg Prod.fst hsame).trans hbase
    rw [h.manager name m' hm' hbase'] at hm
    rw [hm', hm]
  record := h.record.symm
  requested := fun kind => (h.requested kind).symm

lemma trans (h : s.AgreeOn base s') (h' : s'.AgreeOn base s'') : s.AgreeOn base s'' where
  config := h'.config.trans h.config
  current := h'.current.trans h.current
  detached := h'.detached.trans h.detached
  owner := fun name => (h'.owner name).trans (h.owner name)
  manager := fun name m hm hbase => h'.manager name m (h.manager name m hm hbase) hbase
  record := h'.record.trans h.record
  requested := fun kind => (h'.requested kind).trans (h.requested kind)

section Effect

variable {m : Manager P} (h : s.AgreeOn m.base s')
include h

lemma definitionOf_eq : s'.definitionOf m = s.definitionOf m := by
  rw [definitionOf, definitionOf, Providers.definition, Providers.definition, h.current]

/-- An initialisation works with the same record, found or made. -/
lemma acquired_eq : (s'.acquired m).1 = (s.acquired m).1 := by
  cases hrecord : s.registry.get? m.base with
  | some record =>
    rw [acquired_of_get? s m hrecord, acquired_of_get? s' m (h.record.trans hrecord)]
  | none =>
    rw [acquired_of_none s m hrecord, acquired_of_none s' m (h.record.trans hrecord),
      h.definitionOf_eq, Record.compile_congr _ _ _ _ h.requested]

/-- A visit to a manager of the base rule has the same effect. -/
lemma effect_eq {eval : Evaluator P C σ} (heval : eval.IsStateless) (visit : Visit C) :
    s'.effect eval m visit = s.effect eval m visit := by
  cases visit with
  | initialise =>
    have hequipped : s'.equipped m = s.equipped m := by
      rw [equipped, equipped, h.acquired_eq, h.definitionOf_eq]
    have hready : s'.ready m = s.ready m := by
      rw [ready, ready, hequipped]
    have hrequests : s'.requests m = s.requests m := by
      rw [requests, requests, h.record, h.acquired_eq]
    simp only [effect, initialiseEffect, h.acquired_eq, h.config, h.detached, hequipped, hready,
      hrequests]
  | update component =>
    have hby : s'.renderedBy m = s.renderedBy m := by
      simp only [renderedBy, h.record]
    have hrender : ∀ rules : RuleSet P,
        (rules.render eval component s.config.layout s'.memory).1 =
          (rules.render eval component s.config.layout s.memory).1 :=
      fun rules => (rules.render_follows heval.follows component s.config.layout trivial).1
    simp only [effect, updateEffect, hby, h.record, h.config, h.detached, hrender]

end Effect

/-- After the same effect for a base rule, sessions that agreed on it agree again. -/
lemma apply (h : s.AgreeOn base s') (name : String) (effect : Effect P) (memory memory' : σ) :
    (s.apply name effect memory).AgreeOn base (s'.apply name effect memory') where
  config := by
    rw [config_apply, config_apply, h.config]
  current := h.current
  detached := h.detached
  owner := by
    intro other
    by_cases hname : name = other
    · subst hname
      change ((s'.managers.insert name _).get? name).map _ =
        ((s.managers.insert name _).get? name).map _
      rw [OrderedMap.get?_insert_self, OrderedMap.get?_insert_self]
    · change ((s'.managers.insert name _).get? other).map _ =
        ((s.managers.insert name _).get? other).map _
      rw [OrderedMap.get?_insert_of_ne hname, OrderedMap.get?_insert_of_ne hname]
      exact h.owner other
  manager := by
    intro other m hm hbase
    change (s.managers.insert name effect.manager).get? other = some m at hm
    change (s'.managers.insert name effect.manager).get? other = some m
    by_cases hname : name = other
    · subst hname
      rw [OrderedMap.get?_insert_self] at hm ⊢
      exact hm
    · rw [OrderedMap.get?_insert_of_ne hname] at hm ⊢
      exact h.manager other m hm hbase
  record := by
    rw [get?_apply, get?_apply, h.record]
  requested := by
    intro kind
    change (s'.targets.extend _ _).requestedFor base kind =
      (s.targets.extend _ _).requestedFor base kind
    rw [Targets.requestedFor_extend, Targets.requestedFor_extend, h.requested]

/-- A visit for another base rule changes nothing that the visits for a base rule depend on. -/
lemma of_visit_of_ne (eval : Evaluator P C σ) {name : String} {m : Manager P}
    (hm : s.manager? name = some m) (hne : m.base ≠ base) (visit : Visit C) (memory : σ) :
    s.AgreeOn base (s.apply name (s.effect eval m visit) memory) where
  config := config_apply s name _ memory
  current := rfl
  detached := rfl
  owner := by
    intro other
    change ((s.managers.insert name _).get? other).map _ = _
    by_cases hname : name = other
    · subst hname
      obtain ⟨hbase, hprovider⟩ := manager_effect eval s m visit
      rw [OrderedMap.get?_insert_self, hm]
      exact congrArg some (Prod.ext hbase hprovider)
    · rw [OrderedMap.get?_insert_of_ne hname]
      rfl
  manager := by
    intro other m' hm' hbase
    have hname : name ≠ other := by
      rintro rfl
      obtain rfl : m = m' := Option.some.inj (hm.symm.trans hm')
      exact hne hbase
    exact (OrderedMap.get?_insert_of_ne hname).trans hm'
  record := by
    rw [get?_apply, if_neg]
    rw [(manager_effect eval s m visit).1]
    exact hne
  requested := by
    intro kind
    refine (Targets.requestedFor_extend _ _ _ _ _).trans ?_
    rw [Targets.filter_holds_of_ne (fun id hid => base_of_mem_opened eval s m visit hid) hne,
      List.append_nil]

end AgreeOn

/-! ### Visits for two base rules -/

/-- Two sessions are the same up to the order of base rules and of requests, writes and calls for
different base rules, and up to what producers remember. -/
structure SameUpToOrder (s s' : Session P σ) : Prop where
  /-- The configurations are the same. -/
  config : s'.config = s.config
  /-- The providers give the same definitions. -/
  current : s'.providers.current = s.providers.current
  /-- The same calls to providers were made. -/
  called : s'.providers.called.Perm s.providers.called
  /-- The same outputs are detached. -/
  detached : s'.targets.detached = s.targets.detached
  /-- The managers are the same. -/
  managers : s'.managers = s.managers
  /-- The records are the same. -/
  record : ∀ key, s'.registry.get? key = s.registry.get? key
  /-- The same targets were requested for every output, in the same order. -/
  requested : ∀ base kind, s'.targets.requestedFor base kind = s.targets.requestedFor base kind
  /-- The same texts were written to every target, in the same order. -/
  writes : ∀ id, s'.targets.writes id = s.targets.writes id

section Effects

variable {s : Session P σ} {name name' : String} {effect effect' : Effect P} {memory : σ}

lemma bases_apply : (s.apply name effect memory).registry.bases =
    s.registry.bases ++ effect.newBases s.registry.bases := by
  unfold apply Effect.newBases
  cases effect.record with
  | none => simp
  | some record =>
    refine (OrderedMap.keys_insert _ _ _).trans ?_
    change (if _ ∈ s.registry.bases then s.registry.bases else s.registry.bases ++ _) = _
    split
    · rename_i hmem
      rw [if_neg fun hnew => hnew.2 hmem, List.append_nil]
    · rename_i hmem
      rw [if_pos ⟨rfl, hmem⟩]

/-- Which base rule an effect adds does not depend on whether others were added. -/
lemma newBases_append {bases others : List String} (h : ∀ key ∈ others, key ≠ effect.manager.base) :
    effect.newBases (bases ++ others) = effect.newBases bases := by
  have hmem : effect.manager.base ∈ bases ++ others ↔ effect.manager.base ∈ bases := by
    rw [List.mem_append, or_iff_left]
    exact fun hother => h _ hother rfl
  simp only [Effect.newBases, hmem]

lemma of_mem_newBases {bases : List String} {key : String} (h : key ∈ effect.newBases bases) :
    key = effect.manager.base := by
  unfold Effect.newBases at h
  split at h
  · exact List.mem_singleton.mp h
  · cases h

/-- Effects on managers of different base rules can change places. -/
lemma sameUpToOrder_apply (hname : name ≠ name') (hmanager : (s.manager? name).isSome = true)
    (hbase : effect.manager.base ≠ effect'.manager.base)
    (hopened : ∀ id ∈ effect.opened, id.base = effect.manager.base)
    (hopened' : ∀ id ∈ effect'.opened, id.base = effect'.manager.base)
    (hwrites : ∀ entry ∈ effect.writes, ∀ entry' ∈ effect'.writes, entry.1 ≠ entry'.1)
    (first second first' second' : σ) :
    ((s.apply name effect first).apply name' effect' second).SameUpToOrder
      ((s.apply name' effect' first').apply name effect second') where
  config := by
    rw [config_apply, config_apply, config_apply, config_apply]
  current := rfl
  called := by
    change ((s.providers.called ++ effect'.called) ++ effect.called).Perm
      ((s.providers.called ++ effect.called) ++ effect'.called)
    rw [List.append_assoc, List.append_assoc]
    exact List.perm_append_comm.append_left _
  detached := rfl
  managers := by
    have hkey : name ∈ s.managers.keys := by
      by_contra hnot
      rw [manager?, OrderedMap.get?_eq_none_iff.mpr hnot] at hmanager
      cases hmanager
    exact (OrderedMap.insert_comm hname hkey effect.manager effect'.manager).symm
  record := by
    intro key
    simp only [get?_apply]
    by_cases hkey : effect.manager.base = key
    · have hkey' : effect'.manager.base ≠ key := fun h => hbase (hkey.trans h.symm)
      simp only [if_pos hkey, if_neg hkey']
    · simp only [if_neg hkey]
  requested := by
    intro base kind
    change ((s.targets.extend _ _).extend _ _).requestedFor base kind =
      ((s.targets.extend _ _).extend _ _).requestedFor base kind
    simp only [Targets.requestedFor_extend, List.append_assoc, List.append_cancel_left_eq]
    by_cases hother : effect.manager.base = base
    · have hother' : effect'.manager.base ≠ base := fun h => hbase (hother.trans h.symm)
      rw [Targets.filter_holds_of_ne hopened' hother', List.append_nil, List.nil_append]
    · rw [Targets.filter_holds_of_ne hopened hother, List.append_nil, List.nil_append]
  writes := by
    intro id
    change ((s.targets.extend _ _).extend _ _).writes id =
      ((s.targets.extend _ _).extend _ _).writes id
    simp only [Targets.writes_extend, List.append_assoc, List.append_cancel_left_eq]
    by_cases hid : ∃ entry ∈ effect.writes, entry.1 = id
    · obtain ⟨entry, hentry, rfl⟩ := hid
      have hnone : Targets.textsFor entry.1 effect'.writes = [] :=
        Targets.textsFor_eq_nil fun entry' hentry' => (hwrites entry hentry entry' hentry').symm
      rw [hnone, List.append_nil, List.nil_append]
    · have hnone : Targets.textsFor id effect.writes = [] :=
        Targets.textsFor_eq_nil fun entry hentry heq => hid ⟨entry, hentry, heq⟩
      rw [hnone, List.append_nil, List.nil_append]

end Effects

section Visits

variable {eval : Evaluator P C σ} {s : Session P σ} {name name' : String} {m m' : Manager P}

/-- After a visit for another base rule, a visit has the effect that it would have had before. -/
lemma step_visit_after (heval : eval.IsStateless) (hm : s.manager? name = some m)
    (hm' : s.manager? name' = some m') (hne : m.base ≠ m'.base) (visit visit' : Visit C)
    (memory : σ) :
    ∃ memory', (s.apply name (s.effect eval m visit) memory).step eval (visit'.command name') =
      ((s.effect eval m' visit').reply,
        (s.apply name (s.effect eval m visit) memory).apply name' (s.effect eval m' visit')
          memory') := by
  have hagree : s.AgreeOn m'.base (s.apply name (s.effect eval m visit) memory) :=
    .of_visit_of_ne eval hm hne visit memory
  obtain ⟨memory', hstep⟩ := step_visit eval (hagree.manager name' m' hm' rfl) visit'
  rw [hagree.effect_eq heval] at hstep
  exact ⟨memory', hstep⟩

/-- Visits for different base rules write to different targets. -/
lemma ne_of_mem_writes {memory memory' : σ} (visit visit' : Visit C)
    (hledger : ((s.apply name (s.effect eval m visit) memory).apply name'
      (s.effect eval m' visit') memory').store.Ledger) (hne : m.base ≠ m'.base)
    {entry entry' : TargetId × String} (hentry : entry ∈ (s.effect eval m visit).writes)
    (hentry' : entry' ∈ (s.effect eval m' visit').writes) : entry.1 ≠ entry'.1 := by
  have hbase := (manager_effect eval s m visit).1
  have hbase' := (manager_effect eval s m' visit').1
  have htarget : ∀ (m : Manager P) (visit : Visit C) (entry : TargetId × String),
      entry ∈ (s.effect eval m visit).writes → ∃ record kind,
        (s.effect eval m visit).record = some record ∧ record.target? kind = some entry.1 := by
    intro m visit entry hentry
    obtain ⟨record, hrecord, ⟨-, hid, -⟩ | ⟨-, -, hid, -⟩⟩ := of_mem_writes eval s m visit hentry
    · exact ⟨record, .static, hrecord, hid⟩
    · exact ⟨record, .dynamic, hrecord, hid⟩
  obtain ⟨record, kind, hrecord, hid⟩ := htarget m visit entry hentry
  obtain ⟨record', kind', hrecord', hid'⟩ := htarget m' visit' entry' hentry'
  intro heq
  rw [heq] at hid
  refine hne (hledger.apart m.base m'.base record record' kind kind' entry'.1 ?_ ?_ hid hid')
  · change ((s.apply name _ memory).apply name' _ memory').registry.get? m.base = some record
    rw [get?_apply, hbase', if_neg hne.symm, get?_apply, hbase, if_pos rfl, hrecord,
      Option.some_or]
  · change ((s.apply name _ memory).apply name' _ memory').registry.get? m'.base = some record'
    rw [get?_apply, hbase', if_pos rfl, hrecord', Option.some_or]

end Visits

/-- Two commands, one for each of two base rules, can change places. -/
structure Exchangeable (eval : Evaluator P C σ) (s : Session P σ) (base base' : String)
    (command command' : Command P C) : Prop where
  /-- The first command answers the same if it comes second. -/
  reply : ((s.step eval command').2.step eval command).1 = (s.step eval command).1
  /-- The second command answers the same if it comes first. -/
  reply' : ((s.step eval command).2.step eval command').1 = (s.step eval command').1
  /-- The sessions are the same in the end, up to order. -/
  session : ((s.step eval command).2.step eval command').2.SameUpToOrder
    ((s.step eval command').2.step eval command).2
  /-- Each command adds its own base rule to those that have a record, or nothing. -/
  bases : ∃ keys keys', (∀ key ∈ keys, key = base) ∧ (∀ key ∈ keys', key = base') ∧
    ((s.step eval command).2.step eval command').2.registry.bases =
      s.registry.bases ++ keys ++ keys' ∧
    ((s.step eval command').2.step eval command).2.registry.bases =
      s.registry.bases ++ keys' ++ keys
  /-- Each command requests targets for its own base rule only. -/
  opened : ∃ ids ids', (∀ id ∈ ids, id.base = base) ∧ (∀ id ∈ ids', id.base = base') ∧
    ((s.step eval command).2.step eval command').2.targets.opened =
      s.targets.opened ++ ids ++ ids' ∧
    ((s.step eval command').2.step eval command).2.targets.opened =
      s.targets.opened ++ ids' ++ ids

/-- Visits to managers of different base rules can change places. -/
theorem exchangeable_visits {eval : Evaluator P C σ} (heval : eval.IsStateless) {s : Session P σ}
    (hs : s.store.Ledger) {name name' : String} {m m' : Manager P}
    (hm : s.manager? name = some m) (hm' : s.manager? name' = some m') (hne : m.base ≠ m'.base)
    (visit visit' : Visit C) :
    s.Exchangeable eval m.base m'.base (visit.command name) (visit'.command name') := by
  obtain ⟨first, hfirst⟩ := step_visit eval hm visit
  obtain ⟨first', hfirst'⟩ := step_visit eval hm' visit'
  obtain ⟨second, hsecond⟩ := step_visit_after heval hm hm' hne visit visit' first
  obtain ⟨second', hsecond'⟩ := step_visit_after heval hm' hm hne.symm visit' visit first'
  have hbase := (manager_effect eval s m visit).1
  have hbase' := (manager_effect eval s m' visit').1
  have hname : name ≠ name' := by
    rintro rfl
    obtain rfl : m = m' := Option.some.inj (hm.symm.trans hm')
    exact hne rfl
  have hledger : ((s.apply name (s.effect eval m visit) first).apply name'
      (s.effect eval m' visit') second).store.Ledger := by
    have hstep := ledger_step eval (ledger_step eval hs (visit.command name)) (visit'.command name')
    rw [hfirst, hsecond] at hstep
    exact hstep
  refine ⟨?_, ?_, ?_, ?_, ?_⟩
  · rw [hfirst', hsecond', hfirst]
  · rw [hfirst, hsecond, hfirst']
  · rw [hfirst, hsecond, hfirst', hsecond']
    refine sameUpToOrder_apply hname (by rw [hm]; rfl) (by rwa [hbase, hbase']) ?_ ?_ ?_
      first second first' second'
    · rw [hbase]
      exact fun id hid => base_of_mem_opened eval s m visit hid
    · rw [hbase']
      exact fun id hid => base_of_mem_opened eval s m' visit' hid
    · exact fun entry hentry entry' hentry' =>
        ne_of_mem_writes visit visit' hledger hne hentry hentry'
  · refine ⟨(s.effect eval m visit).newBases s.registry.bases,
      (s.effect eval m' visit').newBases s.registry.bases, ?_, ?_, ?_, ?_⟩
    · exact fun key hkey => (of_mem_newBases hkey).trans hbase
    · exact fun key hkey => (of_mem_newBases hkey).trans hbase'
    · rw [hfirst, hsecond, bases_apply, bases_apply, newBases_append]
      intro key hkey heq
      exact hne (hbase.symm.trans ((of_mem_newBases hkey).symm.trans (heq.trans hbase')))
    · rw [hfirst', hsecond', bases_apply, bases_apply, newBases_append]
      intro key hkey heq
      exact hne (hbase.symm.trans (heq.symm.trans ((of_mem_newBases hkey).trans hbase')))
  · refine ⟨(s.effect eval m visit).opened, (s.effect eval m' visit').opened, ?_, ?_, ?_, ?_⟩
    · exact fun id hid => base_of_mem_opened eval s m visit hid
    · exact fun id hid => base_of_mem_opened eval s m' visit' hid
    · rw [hfirst, hsecond]
      rfl
    · rw [hfirst', hsecond']
      rfl

end Session

end Restyle
