import Mathlib.Tactic.Lemma
import Restyle.Target

/-!
# Targets of a run

Targets are only ever requested and written, so what can be said about them grows with a run. The
identity of a new target counts the earlier ones for the same output; `Targets.Orderly` makes this a
property of the whole list and adds that only requested targets are written. From it follows that a
new target is none of the old ones and that nothing was written to it
(`Targets.Orderly.request_notMem`, `Targets.Orderly.writes_eq_nil`).
-/

namespace Restyle

namespace Targets

variable {t : Targets} {id : TargetId} {text : String}

/-- The targets after one more text was written. -/
def logged (t : Targets) (id : TargetId) (text : String) : Targets :=
  { t with log := t.log ++ [(id, text)] }

/-- A target that is not detached takes every text. -/
lemma write_of_attached (h : t.isDetached id.base id.kind = false) (text : String) :
    t.write id text = .ok (t.logged id text) := by
  unfold write
  rw [if_neg (Bool.eq_false_iff.mp h)]
  rfl

/-- A detached target refuses every text. -/
lemma write_of_detached (h : t.isDetached id.base id.kind = true) (text : String) :
    t.write id text = .error refusal := by
  unfold write
  rw [if_pos h]

@[simp] lemma log_logged : (t.logged id text).log = t.log ++ [(id, text)] := rfl

@[simp] lemma log_setDetached (base : String) (kind : TargetKind) (on : Bool) :
    (t.setDetached base kind on).log = t.log := rfl

/-- The texts of a target depend on the log only. -/
lemma writes_congr {t' : Targets} (h : t'.log = t.log) (id : TargetId) :
    t'.writes id = t.writes id := by
  rw [writes, h, writes]

lemma writes_logged_self : (t.logged id text).writes id = t.writes id ++ [text] := by
  simp [writes]

lemma writes_logged_of_ne {other : TargetId} (h : id ≠ other) :
    (t.logged id text).writes other = t.writes other := by
  simp [writes, h]

/-! ### Additions -/

/-- The targets after further requests and writes. -/
def extend (t : Targets) (opened : List TargetId) (log : List (TargetId × String)) : Targets :=
  { t with opened := t.opened ++ opened, log := t.log ++ log }

/-- The texts that a log has for a target, oldest first. -/
def textsFor (id : TargetId) (log : List (TargetId × String)) : List String :=
  log.filterMap fun entry => if entry.1 = id then some entry.2 else none

section Extend

variable (t) (opened opened' : List TargetId) (log log' : List (TargetId × String))

@[simp] lemma extend_nil : t.extend [] [] = t := by
  simp [extend]

lemma extend_extend :
    (t.extend opened log).extend opened' log' = t.extend (opened ++ opened') (log ++ log') := by
  simp [extend]

/-- Every output has its earlier targets and then its further ones. -/
lemma requestedFor_extend (base : String) (kind : TargetKind) :
    (t.extend opened log).requestedFor base kind =
      t.requestedFor base kind ++ opened.filter fun id => id.holds base kind :=
  List.filter_append ..

/-- Targets of one base rule are not targets of another one. -/
lemma filter_holds_of_ne {ids : List TargetId} {base other : String}
    (h : ∀ id ∈ ids, id.base = base) (hne : base ≠ other) (kind : TargetKind) :
    (ids.filter fun id => id.holds other kind) = [] := by
  rw [List.filter_eq_nil_iff]
  intro id hid hholds
  simp only [TargetId.holds, Bool.and_eq_true, decide_eq_true_eq] at hholds
  exact hne ((h id hid).symm.trans hholds.1)

/-- Every target has its earlier texts and then its further ones. -/
lemma writes_extend (id : TargetId) :
    (t.extend opened log).writes id = t.writes id ++ textsFor id log :=
  List.filterMap_append

/-- There are no texts for a target that is not in the log. -/
lemma textsFor_eq_nil {log : List (TargetId × String)} (h : ∀ entry ∈ log, entry.1 ≠ id) :
    textsFor id log = [] := by
  rw [textsFor, List.filterMap_eq_nil_iff]
  intro entry hentry
  exact if_neg (h entry hentry)

/-- A write adds one text or is refused, depending on what is detached only. -/
lemma write_eq_extend (id : TargetId) (text : String) :
    t.write id text =
      (write ⟨[], [], t.detached⟩ id text).map fun added => t.extend [] added.log := by
  have hdetached : isDetached ⟨[], [], t.detached⟩ id.base id.kind =
      t.isDetached id.base id.kind := rfl
  rw [write, write, hdetached]
  split
  · rfl
  · simp [Except.map, extend]

/-- A request that may be left out adds the target that it asks for, if any. -/
lemma requestIf_snd (wanted : Bool) (base : String) (kind : TargetKind) :
    (t.requestIf wanted base kind).2 = t.extend (t.requestIf wanted base kind).1.toList [] := by
  cases wanted with
  | false => simp [requestIf]
  | true => simp [requestIf, request, extend]

/-- The target that is asked for counts the earlier ones for its output. -/
lemma requestIf_fst (wanted : Bool) (base : String) (kind : TargetKind) :
    (t.requestIf wanted base kind).1 =
      if wanted then some ⟨base, kind, (t.requestedFor base kind).length⟩ else none := by
  cases wanted <;> rfl

end Extend

/-! ### Requests -/

/-- Serial numbers count the earlier targets of an output, and only requested targets are written.
-/
structure Orderly (t : Targets) : Prop where
  /-- A serial number is smaller than the number of targets of its output. -/
  serial_lt : ∀ id ∈ t.opened, id.serial < (t.requestedFor id.base id.kind).length
  /-- Only requested targets are written. -/
  log_opened : ∀ entry ∈ t.log, entry.1 ∈ t.opened

lemma orderly_empty : Targets.empty.Orderly :=
  ⟨fun _ h => absurd h List.not_mem_nil, fun _ h => absurd h List.not_mem_nil⟩

lemma opened_request (base : String) (kind : TargetKind) :
    (t.request base kind).2.opened = t.opened ++ [(t.request base kind).1] := rfl

namespace Orderly

/-- A requested target is a new one. -/
lemma request_notMem (h : t.Orderly) (base : String) (kind : TargetKind) :
    (t.request base kind).1 ∉ t.opened := fun hmem =>
  Nat.lt_irrefl _ (h.serial_lt _ hmem)

/-- Nothing was written to a target that was not requested. -/
lemma writes_eq_nil (h : t.Orderly) (hid : id ∉ t.opened) : t.writes id = [] := by
  rw [writes, List.filterMap_eq_nil_iff]
  intro entry hentry
  rw [if_neg]
  rintro rfl
  exact hid (h.log_opened entry hentry)

lemma request (h : t.Orderly) (base : String) (kind : TargetKind) :
    (t.request base kind).2.Orderly where
  serial_lt := fun id hid => by
    have hgrow : (t.request base kind).2.requestedFor id.base id.kind =
        t.requestedFor id.base id.kind ++
          [(t.request base kind).1].filter fun i => i.holds id.base id.kind := by
      rw [requestedFor, opened_request, List.filter_append, requestedFor]
    rw [hgrow, List.length_append]
    rcases List.mem_append.mp hid with hold | hnew
    · exact Nat.lt_of_lt_of_le (h.serial_lt id hold) (Nat.le_add_right _ _)
    · obtain rfl := List.mem_singleton.mp hnew
      change (t.requestedFor base kind).length < (t.requestedFor base kind).length + _
      simp [Targets.request, TargetId.holds]
  log_opened := fun entry hentry => List.mem_append_left _ (h.log_opened entry hentry)

lemma logged (h : t.Orderly) (hid : id ∈ t.opened) (text : String) :
    (t.logged id text).Orderly where
  serial_lt := h.serial_lt
  log_opened := fun entry hentry => by
    rcases List.mem_append.mp hentry with hold | hnew
    · exact h.log_opened entry hold
    · obtain rfl := List.mem_singleton.mp hnew
      exact hid

lemma setDetached (h : t.Orderly) (base : String) (kind : TargetKind) (on : Bool) :
    (t.setDetached base kind on).Orderly :=
  ⟨h.serial_lt, h.log_opened⟩

end Orderly

/-! ### Requests that may be left out -/

section RequestIf

variable (t) (base : String) (kind : TargetKind)

lemma log_requestIf (wanted : Bool) : (t.requestIf wanted base kind).2.log = t.log := by
  cases wanted <;> rfl

lemma detached_requestIf (wanted : Bool) :
    (t.requestIf wanted base kind).2.detached = t.detached := by
  cases wanted <;> rfl

lemma isSome_requestIf (wanted : Bool) : (t.requestIf wanted base kind).1.isSome = wanted := by
  cases wanted <;> rfl

/-- Requests only add targets. -/
lemma mem_opened_requestIf (wanted : Bool) (h : id ∈ t.opened) :
    id ∈ (t.requestIf wanted base kind).2.opened := by
  cases wanted with
  | false => exact h
  | true => exact List.mem_append_left _ h

variable {t base kind}

lemma Orderly.requestIf (h : t.Orderly) (wanted : Bool) (base : String) (kind : TargetKind) :
    (t.requestIf wanted base kind).2.Orderly := by
  cases wanted with
  | false => exact h
  | true => exact h.request base kind

/-- A target that was requested is for the output it was requested for, is among the targets from
then on, and was not among them before. -/
lemma Orderly.of_requestIf (h : t.Orderly) {wanted : Bool}
    (hid : (t.requestIf wanted base kind).1 = some id) :
    id.base = base ∧ id.kind = kind ∧ id ∉ t.opened ∧
      id ∈ (t.requestIf wanted base kind).2.opened := by
  cases wanted with
  | false => cases hid
  | true =>
    obtain rfl := Option.some.inj hid
    exact ⟨rfl, rfl, h.request_notMem base kind, List.mem_append_right _ List.mem_cons_self⟩

end RequestIf

end Targets

end Restyle
