import Restyle.Proofs.Compilation.Contents
import Restyle.Proofs.Rendering
import Restyle.Proofs.Targets
import Restyle.Registry

/-!
# The life of a record

A record is made by a compilation and from then on changes in its two texts only. This file says
what each operation on a record can come to: a write of the fixed text is done at most once and can
only be refused by the target (`Record.writeStatic_cases`), a write of a dynamic text is skipped,
refused or done (`Record.writeDynamic_cases`). `Record.Continues` relates a record to what it was
earlier.
-/

namespace Restyle

variable {P C σ : Type}

namespace Record

variable {r r' : Record P} {t : Targets}

/-- The target of an output. -/
def target? (r : Record P) : TargetKind → Option TargetId
  | .static => r.staticTarget
  | .dynamic => r.dynamicTarget

/-- Whether there is a fixed text that has not been written yet. -/
def isPending (r : Record P) : Bool := r.staticTarget.isSome && r.staticText.isNone

/-- The fixed text of a compilation: the fixed rules and then the fixed keyframes. -/
def sheet (compiled : Compilation P) (layout : Layout) : String :=
  compiled.staticRules.fixedText layout ++ compiled.staticKeyframes.fixedText layout

/-- The record with its fixed text written. -/
def withStatic (r : Record P) (text : String) : Record P := { r with staticText := some text }

/-- The record with a dynamic text written. -/
def withDynamic (r : Record P) (text : String) : Record P := { r with lastDynamic := some text }

@[simp] lemma target?_withStatic (text : String) (kind : TargetKind) :
    (r.withStatic text).target? kind = r.target? kind := by
  cases kind <;> rfl

@[simp] lemma target?_withDynamic (text : String) (kind : TargetKind) :
    (r.withDynamic text).target? kind = r.target? kind := by
  cases kind <;> rfl

/-! ### Compiling -/

section Compile

variable (base : String) (provider : ProviderId) (d : Definition P) (t : Targets)

@[simp] lemma compiled_compile : (compile base provider d t).1.compiled = d.compile base := rfl

@[simp] lemma base_compile : (compile base provider d t).1.base = base := rfl

@[simp] lemma staticText_compile : (compile base provider d t).1.staticText = none := rfl

@[simp] lemma lastDynamic_compile : (compile base provider d t).1.lastDynamic = none := rfl

/-- The target of the fixed text is requested first. -/
lemma target?_static_compile :
    (compile base provider d t).1.target? .static =
      (t.requestIf (d.compile base).hasStatic base .static).1 := rfl

/-- The target of the dynamic text is requested second. -/
lemma target?_dynamic_compile :
    (compile base provider d t).1.target? .dynamic =
      ((t.requestIf (d.compile base).hasStatic base .static).2.requestIf
        (d.compile base).hasDynamic base .dynamic).1 := rfl

/-- A compilation leaves the targets with those that it requested. -/
lemma targets_compile :
    (compile base provider d t).2 =
      ((t.requestIf (d.compile base).hasStatic base .static).2.requestIf
        (d.compile base).hasDynamic base .dynamic).2 := rfl

/-- A compilation writes nothing. -/
@[simp] lemma log_compile : (compile base provider d t).2.log = t.log := by
  rw [targets_compile, Targets.log_requestIf, Targets.log_requestIf]

/-- A compilation detaches nothing. -/
@[simp] lemma isDetached_compile (b : String) (kind : TargetKind) :
    (compile base provider d t).2.isDetached b kind = t.isDetached b kind := by
  unfold Targets.isDetached
  rw [targets_compile, Targets.detached_requestIf, Targets.detached_requestIf]

lemma mem_opened_compile {id : TargetId} (h : id ∈ t.opened) :
    id ∈ (compile base provider d t).2.opened := by
  rw [targets_compile]
  exact Targets.mem_opened_requestIf _ _ _ _ (Targets.mem_opened_requestIf _ _ _ _ h)

lemma orderly_compile (h : t.Orderly) : (compile base provider d t).2.Orderly := by
  rw [targets_compile]
  exact (h.requestIf _ base .static).requestIf _ base .dynamic

/-- The targets of a new record are new ones, of its base rule and of their kind. -/
lemma of_target?_compile (h : t.Orderly) {kind : TargetKind} {id : TargetId}
    (hid : (compile base provider d t).1.target? kind = some id) :
    id.base = base ∧ id.kind = kind ∧ id ∉ t.opened ∧
      id ∈ (compile base provider d t).2.opened := by
  rw [targets_compile]
  cases kind with
  | static =>
    rw [target?_static_compile] at hid
    obtain ⟨hbase, hkind, hnew, hopened⟩ := h.of_requestIf hid
    exact ⟨hbase, hkind, hnew, Targets.mem_opened_requestIf _ _ _ _ hopened⟩
  | dynamic =>
    rw [target?_dynamic_compile] at hid
    obtain ⟨hbase, hkind, hnew, hopened⟩ := (h.requestIf _ base .static).of_requestIf hid
    exact ⟨hbase, hkind, fun hold => hnew (Targets.mem_opened_requestIf _ _ _ _ hold), hopened⟩

end Compile

/-- A record without dynamic rules has nothing to render again. -/
lemma stage_of_isEmpty (h : r.compiled.dynamicRules.isEmpty = true) : r.stage = .staticOnly := by
  simp [stage, Compilation.hasDynamic, h]

/-! ### Earlier and later states of a record -/

/-- A later state of a record: all but its texts is as it was, and a fixed text stays. -/
structure Continues (r r' : Record P) : Prop where
  /-- The base rule is the same. -/
  base : r'.base = r.base
  /-- The provider is the same. -/
  provider : r'.provider = r.provider
  /-- The rule sets are the same. -/
  compiled : r'.compiled = r.compiled
  /-- The targets are the same. -/
  target? : ∀ kind, r'.target? kind = r.target? kind
  /-- A fixed text that was written stays. -/
  staticText : ∀ text, r.staticText = some text → r'.staticText = some text

lemma Continues.refl (r : Record P) : r.Continues r :=
  ⟨rfl, rfl, rfl, fun _ => rfl, fun _ h => h⟩

lemma Continues.trans {r'' : Record P} (h : r.Continues r') (h' : r'.Continues r'') :
    r.Continues r'' where
  base := h'.base.trans h.base
  provider := h'.provider.trans h.provider
  compiled := h'.compiled.trans h.compiled
  target? := fun kind => (h'.target? kind).trans (h.target? kind)
  staticText := fun text ht => h'.staticText text (h.staticText text ht)

lemma continues_withStatic (h : r.staticText = none) (text : String) :
    r.Continues (r.withStatic text) :=
  ⟨rfl, rfl, rfl, target?_withStatic text, fun _ ht => by rw [h] at ht; cases ht⟩

lemma continues_withDynamic (r : Record P) (text : String) : r.Continues (r.withDynamic text) :=
  ⟨rfl, rfl, rfl, target?_withDynamic text, fun _ ht => ht⟩

/-- The stage stays the same. -/
lemma Continues.stage_eq (h : r.Continues r') : r'.stage = r.stage := by
  rw [stage, stage, h.compiled]

/-- The dynamic rules stay the same. -/
lemma Continues.dynamicRules?_eq (h : r.Continues r') : r'.dynamicRules? = r.dynamicRules? := by
  rw [dynamicRules?, dynamicRules?, h.compiled]

/-- The fixed text stays the same. -/
lemma Continues.renderStatic_eq (h : r.Continues r') (layout : Layout) :
    r'.renderStatic layout = r.renderStatic layout := by
  rw [renderStatic, renderStatic, h.compiled]

/-- Once nothing is pending, nothing is pending later. -/
lemma Continues.isPending_eq_false (h : r.Continues r') (hr : r.isPending = false) :
    r'.isPending = false := by
  have htarget : r'.staticTarget = r.staticTarget := h.target? .static
  cases ht : r.staticText with
  | none =>
    have hnone : r.staticTarget.isSome = false := by simpa [isPending, ht] using hr
    simp [isPending, htarget, hnone]
  | some text => simp [isPending, h.staticText text ht]

/-! ### Writing -/

/-- The fixed text of a compiled record can always be rendered. -/
lemma renderStatic_eq {d : Definition P} {base : String} (h : r.compiled = d.compile base)
    (layout : Layout) : r.renderStatic layout = .ok (sheet r.compiled layout) := by
  unfold renderStatic sheet
  rw [h]
  exact RuleSet.renderFixed_of_not_hasDynamic (hasDynamic_staticRules_compile d base)
    (hasDynamic_staticKeyframes_compile d base) layout

/-- A record without a pending fixed text has nothing to write. -/
lemma writeStatic_of_not_pending (h : r.isPending = false) (layout : Layout) (t : Targets) :
    r.writeStatic layout t = .ok (false, r, t) := by
  unfold writeStatic
  split
  · rename_i htarget htext
    simp [isPending, htarget, htext] at h
  · rfl

lemma exists_of_isPending (h : r.isPending = true) :
    ∃ id, r.staticTarget = some id ∧ r.staticText = none := by
  obtain ⟨hsome, hnone⟩ : r.staticTarget.isSome = true ∧ r.staticText = none := by
    simpa [isPending] using h
  obtain ⟨id, hid⟩ := Option.isSome_iff_exists.mp hsome
  exact ⟨id, hid, hnone⟩

/-- A pending fixed text is rendered and then delivered. -/
lemma writeStatic_eq_bind {id : TargetId} (hid : r.staticTarget = some id)
    (htext : r.staticText = none) (layout : Layout) (t : Targets) :
    r.writeStatic layout t =
      r.renderStatic layout >>= fun text => r.deliver t id text >>= fun targets =>
        .ok (true, r.withStatic text, targets) := by
  unfold writeStatic
  split
  · rename_i id' hid' htext'
    obtain rfl : id = id' := Option.some.inj (hid.symm.trans hid')
    rfl
  · rename_i hnot
    exact absurd htext (hnot id hid)

lemma writeStatic_of_render_error {id : TargetId} (hid : r.staticTarget = some id)
    (htext : r.staticText = none) {layout : Layout} {e : StyleError}
    (hrender : r.renderStatic layout = .error e) (t : Targets) :
    r.writeStatic layout t = .error e := by
  rw [writeStatic_eq_bind hid htext, hrender]
  rfl

/-- A pending fixed text is refused if its target is detached and written otherwise. -/
lemma writeStatic_of_pending {id : TargetId} (hid : r.staticTarget = some id)
    (htext : r.staticText = none) {layout : Layout} {text : String}
    (hrender : r.renderStatic layout = .ok text) (t : Targets) :
    r.writeStatic layout t =
      if t.isDetached id.base id.kind then .error (.output r.base Targets.refusal)
      else .ok (true, r.withStatic text, t.logged id text) := by
  rw [writeStatic_eq_bind hid htext, hrender]
  change (r.deliver t id text >>= fun targets => .ok (true, r.withStatic text, targets)) = _
  unfold deliver
  cases hd : t.isDetached id.base id.kind with
  | true =>
    rw [Targets.write_of_detached hd]
    rfl
  | false =>
    rw [Targets.write_of_attached hd]
    rfl

/-- What a write of the fixed text of a compiled record can come to: nothing is pending and nothing
happens, the target refuses, or the target takes the text. -/
lemma writeStatic_cases {d : Definition P} {base : String} (h : r.compiled = d.compile base)
    (layout : Layout) (t : Targets) :
    (r.isPending = false ∧ r.writeStatic layout t = .ok (false, r, t)) ∨
    ∃ id, r.staticTarget = some id ∧ r.staticText = none ∧
      ((t.isDetached id.base id.kind = true ∧
          r.writeStatic layout t = .error (.output r.base Targets.refusal)) ∨
        (t.isDetached id.base id.kind = false ∧
          r.writeStatic layout t = .ok (true, r.withStatic (sheet r.compiled layout),
            t.logged id (sheet r.compiled layout)))) := by
  cases hpending : r.isPending with
  | false => exact Or.inl ⟨rfl, writeStatic_of_not_pending hpending layout t⟩
  | true =>
    obtain ⟨id, hid, hnone⟩ := exists_of_isPending hpending
    have hwrite := writeStatic_of_pending hid hnone (renderStatic_eq h layout) t
    refine Or.inr ⟨id, hid, hnone, ?_⟩
    cases hd : t.isDetached id.base id.kind with
    | true => exact Or.inl ⟨rfl, by rw [hwrite, if_pos hd]⟩
    | false => exact Or.inr ⟨rfl, by rw [hwrite, if_neg (Bool.eq_false_iff.mp hd)]⟩

/-- A write of a fixed text that does not fail had nothing to do, or it was pending and was taken.
-/
lemma writeStatic_ok_cases {layout : Layout} {t' : Targets} {written : Bool}
    (h : r.writeStatic layout t = .ok (written, r', t')) :
    (r.isPending = false ∧ r' = r ∧ t' = t) ∨
    ∃ id text, r.staticTarget = some id ∧ r.staticText = none ∧ r.renderStatic layout = .ok text ∧
      t.isDetached id.base id.kind = false ∧ r' = r.withStatic text ∧ t' = t.logged id text := by
  cases hpending : r.isPending with
  | false =>
    rw [writeStatic_of_not_pending hpending] at h
    cases h
    exact Or.inl ⟨rfl, rfl, rfl⟩
  | true =>
    obtain ⟨id, hid, hnone⟩ := exists_of_isPending hpending
    cases hrender : r.renderStatic layout with
    | error e =>
      rw [writeStatic_of_render_error hid hnone hrender] at h
      cases h
    | ok text =>
      rw [writeStatic_of_pending hid hnone hrender] at h
      split at h
      · cases h
      · rename_i hattached
        cases h
        exact Or.inr ⟨id, text, hid, hnone, rfl, Bool.eq_false_iff.mpr hattached, rfl, rfl⟩

/-- A record without target for it writes no dynamic text. -/
lemma writeDynamic_of_no_target (h : r.dynamicTarget = none) (text : String) (skip : Bool)
    (t : Targets) : r.writeDynamic text skip t = .ok (false, r, t) := by
  unfold writeDynamic
  split
  · rfl
  · rename_i hsome
    rw [h] at hsome
    cases hsome

/-- After a write of the fixed text that does not fail, the record continues and nothing is pending.
-/
lemma continues_of_writeStatic_ok {layout : Layout} {t' : Targets} {written : Bool}
    (h : r.writeStatic layout t = .ok (written, r', t')) :
    r.Continues r' ∧ r'.isPending = false := by
  obtain ⟨hpending, rfl, rfl⟩ | ⟨id, text, hid, hnone, -, -, rfl, rfl⟩ := writeStatic_ok_cases h
  · exact ⟨.refl r', hpending⟩
  · exact ⟨continues_withStatic hnone text, by simp [isPending, withStatic]⟩

/-- What a write of a dynamic text can come to for a record that has a target for it: the text is
skipped, refused or taken. -/
lemma writeDynamic_cases {id : TargetId} (hid : r.dynamicTarget = some id) (text : String)
    (skip : Bool) (t : Targets) :
    (skip = true ∧ r.lastDynamic = some text ∧ r.writeDynamic text skip t = .ok (false, r, t)) ∨
    (¬(skip = true ∧ r.lastDynamic = some text) ∧ t.isDetached id.base id.kind = true ∧
      r.writeDynamic text skip t = .error (.output r.base Targets.refusal)) ∨
    (¬(skip = true ∧ r.lastDynamic = some text) ∧ t.isDetached id.base id.kind = false ∧
      r.writeDynamic text skip t = .ok (true, r.withDynamic text, t.logged id text)) := by
  have hwrite : r.writeDynamic text skip t =
      if skip && r.lastDynamic == some text then .ok (false, r, t)
      else r.deliver t id text >>= fun targets => .ok (true, r.withDynamic text, targets) := by
    unfold writeDynamic
    split
    · rename_i hnone
      rw [hnone] at hid
      cases hid
    · rename_i id' hid'
      obtain rfl : id = id' := Option.some.inj (hid.symm.trans hid')
      rfl
  by_cases hskip : skip = true ∧ r.lastDynamic = some text
  · exact Or.inl ⟨hskip.1, hskip.2, by rw [hwrite, if_pos (by simp [hskip.1, hskip.2])]⟩
  refine Or.inr ?_
  rw [hwrite, if_neg (by simpa using hskip)]
  unfold deliver
  cases hd : t.isDetached id.base id.kind with
  | true =>
    rw [Targets.write_of_detached hd]
    exact Or.inl ⟨hskip, rfl, rfl⟩
  | false =>
    rw [Targets.write_of_attached hd]
    exact Or.inr ⟨hskip, rfl, rfl⟩

end Record

/-! ### Records in a registry -/

namespace Registry

variable {r : Registry P} {key k : String} {record : Record P}

lemma get?_put (r : Registry P) (key : String) (record : Record P) (k : String) :
    (r.put key record).get? k = if key = k then some record else r.get? k :=
  OrderedMap.get?_insert _ _ _ _

@[simp] lemma get?_put_self : (r.put key record).get? key = some record := by
  simp [get?_put]

lemma get?_put_of_ne (h : key ≠ k) : (r.put key record).get? k = r.get? k := by
  simp [get?_put, h]

/-- A record in a registry after one was put there is that one, or it was there before. -/
lemma of_get?_put {stored : Record P} (h : (r.put key record).get? k = some stored) :
    (key = k ∧ record = stored) ∨ (key ≠ k ∧ r.get? k = some stored) := by
  by_cases hk : key = k
  · subst hk
    rw [get?_put_self] at h
    exact Or.inl ⟨rfl, Option.some.inj h⟩
  · rw [get?_put_of_ne hk] at h
    exact Or.inr ⟨hk, h⟩

@[simp] lemma config_put : (r.put key record).config = r.config := rfl

/-- Putting a record where it stands changes nothing. -/
lemma put_of_get? (h : r.get? key = some record) : r.put key record = r := by
  rw [put, OrderedMap.insert_of_get? h]

end Registry

end Restyle
