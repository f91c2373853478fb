import Restyle.Proofs.Session.Deeds

/-!
# The ledger of a session

What the records of a session remember is what their targets received: a record holds its fixed text
exactly if that text is the one write to its static target, and the dynamic text that it compares
later ones with is the latest write to its dynamic target (`Record.Booked`). No target belongs to
two records, so this survives whatever happens to other records (`Store.Ledger`).

The invariant holds after every run of commands of any kind (`Session.ledger_after`), and a record
that is stored stays stored and continues what it was (`Session.keeps_after`).
-/

namespace Restyle

variable {P C σ : Type}

/-- Whether a compilation has something to render for an output. -/
def Compilation.wants (c : Compilation P) : TargetKind → Bool
  | .static => c.hasStatic
  | .dynamic => c.hasDynamic

/-! ### Records and their targets -/

/-- A record agrees with the targets about what was requested and written for it. -/
structure Record.Booked (r : Record P) (t : Targets) : Prop where
  /-- The rule sets are those of a definition. -/
  compiled : ∃ d : Definition P, r.compiled = d.compile r.base
  /-- There are targets for the outputs that have content. -/
  wanted : ∀ kind, (r.target? kind).isSome = r.compiled.wants kind
  /-- The targets were requested for the base rule and their output. -/
  opened : ∀ kind id, r.target? kind = some id → id ∈ t.opened ∧ id.base = r.base ∧ id.kind = kind
  /-- The fixed text, once there is one, is all that was written to its target. -/
  fixed : ∀ id, r.target? .static = some id → t.writes id = r.staticText.toList
  /-- A record without target for it has no fixed text. -/
  unfixed : r.target? .static = none → r.staticText = none
  /-- The dynamic text that later ones are compared with is the latest one written. -/
  latest : ∀ id, r.target? .dynamic = some id → t.content? id = r.lastDynamic

namespace Record.Booked

variable {r : Record P} {t t' : Targets} {id : TargetId} {text : String}

/-- Requests of further targets change nothing for a record. -/
lemma grow (h : r.Booked t) (hopened : ∀ id ∈ t.opened, id ∈ t'.opened) (hlog : t'.log = t.log) :
    r.Booked t' where
  compiled := h.compiled
  wanted := h.wanted
  opened := by
    intro kind id hid
    obtain ⟨hmem, hbase, hkind⟩ := h.opened kind id hid
    exact ⟨hopened id hmem, hbase, hkind⟩
  fixed := by
    intro id hid
    rw [Targets.writes_congr hlog, h.fixed id hid]
  unfixed := h.unfixed
  latest := by
    intro id hid
    rw [Targets.content?, Targets.writes_congr hlog]
    exact h.latest id hid

/-- Writes to targets of others change nothing for a record. -/
lemma logged_of_ne (h : r.Booked t) (hid : ∀ kind, r.target? kind ≠ some id) (text : String) :
    r.Booked (t.logged id text) where
  compiled := h.compiled
  wanted := h.wanted
  opened := h.opened
  fixed := by
    intro id' hid'
    have hne : id ≠ id' := fun heq => hid .static (heq ▸ hid')
    rw [Targets.writes_logged_of_ne hne, h.fixed id' hid']
  unfixed := h.unfixed
  latest := by
    intro id' hid'
    have hne : id ≠ id' := fun heq => hid .dynamic (heq ▸ hid')
    rw [Targets.content?, Targets.writes_logged_of_ne hne]
    exact h.latest id' hid'

/-- The targets of different outputs differ. -/
lemma kind_eq (h : r.Booked t) {kind kind' : TargetKind} (hid : r.target? kind = some id)
    (hid' : r.target? kind' = some id) : kind = kind' := by
  rw [← (h.opened kind id hid).2.2, (h.opened kind' id hid').2.2]

/-- A write of the fixed text is booked. -/
lemma withStatic (h : r.Booked t) (hid : r.target? .static = some id) (hnone : r.staticText = none)
    (text : String) : (r.withStatic text).Booked (t.logged id text) where
  compiled := h.compiled
  wanted := by
    intro kind
    rw [target?_withStatic]
    exact h.wanted kind
  opened := by
    intro kind id' hid'
    rw [target?_withStatic] at hid'
    exact h.opened kind id' hid'
  fixed := by
    intro id' hid'
    obtain rfl : id = id' := Option.some.inj (hid.symm.trans hid')
    rw [Targets.writes_logged_self, h.fixed id hid, hnone]
    rfl
  unfixed := by
    intro hnot
    rw [target?_withStatic, hid] at hnot
    cases hnot
  latest := by
    intro id' hid'
    rw [target?_withStatic] at hid'
    have hne : id ≠ id' := by
      rintro rfl
      cases h.kind_eq hid hid'
    rw [Targets.content?, Targets.writes_logged_of_ne hne]
    exact h.latest id' hid'

/-- A write of a dynamic text is booked. -/
lemma withDynamic (h : r.Booked t) (hid : r.target? .dynamic = some id) (text : String) :
    (r.withDynamic text).Booked (t.logged id text) where
  compiled := h.compiled
  wanted := by
    intro kind
    rw [target?_withDynamic]
    exact h.wanted kind
  opened := by
    intro kind id' hid'
    rw [target?_withDynamic] at hid'
    exact h.opened kind id' hid'
  fixed := by
    intro id' hid'
    rw [target?_withDynamic] at hid'
    have hne : id ≠ id' := by
      rintro rfl
      cases h.kind_eq hid hid'
    rw [Targets.writes_logged_of_ne hne]
    exact h.fixed id' hid'
  unfixed := h.unfixed
  latest := by
    intro id' hid'
    obtain rfl : id = id' := Option.some.inj (hid.symm.trans hid')
    rw [Targets.content?, Targets.writes_logged_self, List.getLast?_concat]
    rfl

end Record.Booked

/-- Nothing was written to the targets of a new record, which are new as well. -/
lemma Record.writes_compile {t : Targets} (h : t.Orderly) (base : String) (provider : ProviderId)
    (d : Definition P) {kind : TargetKind} {id : TargetId}
    (hid : (Record.compile base provider d t).1.target? kind = some id) :
    (Record.compile base provider d t).2.writes id = [] := by
  obtain ⟨-, -, hnew, -⟩ := Record.of_target?_compile base provider d t h hid
  rw [Targets.writes_congr (Record.log_compile base provider d t)]
  exact h.writes_eq_nil hnew

/-- A new record is booked. -/
lemma Record.booked_compile {t : Targets} (h : t.Orderly) (base : String) (provider : ProviderId)
    (d : Definition P) :
    (Record.compile base provider d t).1.Booked (Record.compile base provider d t).2 := by
  refine ⟨⟨d, rfl⟩, ?_, ?_, ?_, ?_, ?_⟩
  · intro kind
    cases kind with
    | static =>
      rw [Record.target?_static_compile, Targets.isSome_requestIf]
      rfl
    | dynamic =>
      rw [Record.target?_dynamic_compile, Targets.isSome_requestIf]
      rfl
  · intro kind id hid
    obtain ⟨hbase, hkind, -, hopened⟩ := Record.of_target?_compile base provider d t h hid
    exact ⟨hopened, hbase, hkind⟩
  · intro id hid
    rw [Record.writes_compile h base provider d hid, Record.staticText_compile]
    rfl
  · intro _
    exact Record.staticText_compile base provider d t
  · intro id hid
    rw [Targets.content?, Record.writes_compile h base provider d hid, Record.lastDynamic_compile]
    rfl

/-! ### The ledger of all records -/

/-- All records agree with the targets, and no target belongs to two of them. -/
structure Store.Ledger (store : Store P) : Prop where
  /-- The targets are numbered as they were requested. -/
  orderly : store.2.Orderly
  /-- Every record agrees with the targets. -/
  booked : ∀ key record, store.1.get? key = some record → record.Booked store.2
  /-- The targets of different records differ. -/
  apart : ∀ key key' record record' kind kind' id, store.1.get? key = some record →
    store.1.get? key' = some record' → record.target? kind = some id →
    record'.target? kind' = some id → key = key'

namespace Store.Ledger

variable {r : Registry P} {t : Targets} {key : String} {record : Record P} {id : TargetId}

lemma fresh (config : Config) : Store.Ledger ((Registry.fresh config, .empty) : Store P) where
  orderly := Targets.orderly_empty
  booked := by
    intro key record hrecord
    cases hrecord
  apart := by
    intro key key' record record' kind kind' id hrecord
    cases hrecord

/-- Compiling and throwing away only requests targets. -/
lemma discard (h : Store.Ledger (r, t)) (base : String) (provider : ProviderId)
    (d : Definition P) : Store.Ledger (r, (Record.compile base provider d t).2) where
  orderly := Record.orderly_compile base provider d t h.orderly
  booked := by
    intro key record hrecord
    exact (h.booked key record hrecord).grow (fun _ => Record.mem_opened_compile base provider d t)
      (Record.log_compile base provider d t)
  apart := h.apart

/-- A new record has new targets, so none of another record. -/
lemma compile (h : Store.Ledger (r, t)) (key base : String) (provider : ProviderId)
    (d : Definition P) :
    Store.Ledger (r.put key (Record.compile base provider d t).1,
      (Record.compile base provider d t).2) := by
  have hold := h.discard base provider d
  have hnew : ∀ key' record' kind kind' id, r.get? key' = some record' →
      (Record.compile base provider d t).1.target? kind = some id →
      record'.target? kind' ≠ some id := by
    intro key' record' kind kind' id hrecord' hid hid'
    obtain ⟨-, -, hfresh, -⟩ := Record.of_target?_compile base provider d t h.orderly hid
    exact hfresh ((h.booked key' record' hrecord').opened kind' id hid').1
  refine ⟨hold.orderly, ?_, ?_⟩
  · intro key' record' hrecord'
    rcases Registry.of_get?_put hrecord' with ⟨rfl, rfl⟩ | ⟨-, hrecord'⟩
    · exact Record.booked_compile h.orderly base provider d
    · exact hold.booked key' record' hrecord'
  · intro key₁ key₂ record₁ record₂ kind₁ kind₂ id h₁ h₂ hid₁ hid₂
    rcases Registry.of_get?_put h₁ with ⟨rfl, rfl⟩ | ⟨-, h₁⟩
    · rcases Registry.of_get?_put h₂ with ⟨rfl, rfl⟩ | ⟨-, h₂⟩
      · rfl
      · exact absurd hid₂ (hnew key₂ record₂ kind₁ kind₂ id h₂ hid₁)
    · rcases Registry.of_get?_put h₂ with ⟨rfl, rfl⟩ | ⟨-, h₂⟩
      · exact absurd hid₁ (hnew key₁ record₁ kind₂ kind₁ id h₁ hid₂)
      · exact hold.apart key₁ key₂ record₁ record₂ kind₁ kind₂ id h₁ h₂ hid₁ hid₂

/-- A write to a target of a record is booked if the record books it. -/
lemma logged (h : Store.Ledger (r, t)) (hkey : r.get? key = some record) {kind : TargetKind}
    (hid : record.target? kind = some id) {text : String} {record' : Record P}
    (htarget : ∀ kind, record'.target? kind = record.target? kind)
    (hbooked : record'.Booked (t.logged id text)) :
    Store.Ledger (r.put key record', t.logged id text) := by
  have hold : ∀ k stored, (r.put key record').get? k = some stored →
      ∃ old, r.get? k = some old ∧ ∀ kind, stored.target? kind = old.target? kind := by
    intro k stored hstored
    rcases Registry.of_get?_put hstored with ⟨rfl, rfl⟩ | ⟨-, hstored⟩
    · exact ⟨record, hkey, htarget⟩
    · exact ⟨stored, hstored, fun _ => rfl⟩
  refine ⟨h.orderly.logged ((h.booked key record hkey).opened kind id hid).1 text, ?_, ?_⟩
  · intro k stored hstored
    rcases Registry.of_get?_put hstored with ⟨rfl, rfl⟩ | ⟨hk, hstored⟩
    · exact hbooked
    · refine (h.booked k stored hstored).logged_of_ne ?_ text
      intro kind' hid'
      exact hk (h.apart key k record stored kind kind' id hkey hstored hid hid')
  · intro key₁ key₂ record₁ record₂ kind₁ kind₂ id₀ h₁ h₂ hid₁ hid₂
    obtain ⟨old₁, hold₁, htarget₁⟩ := hold key₁ record₁ h₁
    obtain ⟨old₂, hold₂, htarget₂⟩ := hold key₂ record₂ h₂
    rw [htarget₁] at hid₁
    rw [htarget₂] at hid₂
    exact h.apart key₁ key₂ old₁ old₂ kind₁ kind₂ id₀ hold₁ hold₂ hid₁ hid₂

lemma setDetached (h : Store.Ledger (r, t)) (base : String) (kind : TargetKind) (on : Bool) :
    Store.Ledger (r, t.setDetached base kind on) where
  orderly := h.orderly.setDetached base kind on
  booked := by
    intro key record hrecord
    exact (h.booked key record hrecord).grow (fun _ hid => hid) (Targets.log_setDetached _ _ _)
  apart := h.apart

/-- Every deed is booked. -/
lemma of_leads {deed : Deed P} {x y : Store P} (h : deed.Leads x y) (hx : x.Ledger) :
    y.Ledger := by
  cases h with
  | discard provider => exact hx.discard _ provider _
  | compile provider hkey => exact hx.compile _ _ provider _
  | writeStatic hkey hid hnone htext hattached =>
    exact hx.logged hkey (show Record.target? _ .static = _ from hid) (Record.target?_withStatic _)
      ((hx.booked _ _ hkey).withStatic hid hnone _)
  | writeDynamic hkey hid hattached =>
    exact hx.logged hkey (show Record.target? _ .dynamic = _ from hid)
      (Record.target?_withDynamic _)
      ((hx.booked _ _ hkey).withDynamic hid _)
  | setDetached => exact hx.setDetached _ _ _

end Store.Ledger

/-! ### The ledger of a run -/

/-- Every record of a store is stored in a later one, and continues what it was. -/
def Store.Keeps (x y : Store P) : Prop := ∀ key record, x.1.get? key = some record →
  ∃ record', y.1.get? key = some record' ∧ record.Continues record'

namespace Store.Keeps

variable {x y z : Store P}

lemma refl (x : Store P) : x.Keeps x := fun _ record h => ⟨record, h, .refl record⟩

lemma trans (h : x.Keeps y) (h' : y.Keeps z) : x.Keeps z := by
  intro key record hrecord
  obtain ⟨record', hrecord', hcontinues⟩ := h key record hrecord
  obtain ⟨record'', hrecord'', hcontinues'⟩ := h' key record' hrecord'
  exact ⟨record'', hrecord'', hcontinues.trans hcontinues'⟩

/-- A record may be exchanged for one that continues it. -/
lemma put {r : Registry P} {t t' : Targets} {key : String} {record record' : Record P}
    (hkey : r.get? key = some record) (h : record.Continues record') :
    Store.Keeps (r, t) (r.put key record', t') := by
  intro k r₀ h₀
  by_cases hk : key = k
  · subst hk
    obtain rfl : record = r₀ := Option.some.inj (hkey.symm.trans h₀)
    exact ⟨record', Registry.get?_put_self, h⟩
  · exact ⟨r₀, (Registry.get?_put_of_ne hk).trans h₀, .refl r₀⟩

/-- A record may be put where there is none. -/
lemma put_new {r : Registry P} {t t' : Targets} {key : String} {record : Record P}
    (hkey : r.get? key = none) : Store.Keeps (r, t) (r.put key record, t') := by
  intro k r₀ h₀
  have hne : key ≠ k := by
    rintro rfl
    rw [hkey] at h₀
    cases h₀
  exact ⟨r₀, (Registry.get?_put_of_ne hne).trans h₀, .refl r₀⟩

/-- Targets do not matter. -/
lemma same_records {r : Registry P} {t t' : Targets} : Store.Keeps (r, t) (r, t') :=
  fun _ record h => ⟨record, h, .refl record⟩

/-- No deed exchanges a record for another one. -/
lemma of_leads {deed : Deed P} (h : deed.Leads x y) : x.Keeps y := by
  cases h with
  | discard provider => exact same_records
  | compile provider hkey => exact put_new hkey
  | writeStatic hkey hid hnone htext hattached =>
    exact put hkey (Record.continues_withStatic hnone _)
  | writeDynamic hkey hid hattached => exact put hkey (Record.continues_withDynamic _ _)
  | setDetached => exact same_records

end Store.Keeps

/-- A record after a deed continues one that was there, or the deed compiled it. -/
lemma Deed.Leads.record_cases {deed : Deed P} {x y : Store P} (h : deed.Leads x y) {key : String}
    {record : Record P} (hrecord : y.1.get? key = some record) :
    (∃ old, x.1.get? key = some old ∧ old.Continues record) ∨
    ∃ base provider d, x.1.get? key = none ∧ deed = .compile key base d ∧
      record = (Record.compile base provider d x.2).1 ∧
      y.2 = (Record.compile base provider d x.2).2 := by
  cases hold : x.1.get? key with
  | some old =>
    obtain ⟨record', hrecord', hcontinues⟩ := Store.Keeps.of_leads h key old hold
    obtain rfl : record = record' := Option.some.inj (hrecord.symm.trans hrecord')
    exact Or.inl ⟨old, rfl, hcontinues⟩
  | none =>
    refine Or.inr ?_
    cases h with
    | discard provider =>
      rw [hold] at hrecord
      cases hrecord
    | @compile r t other base provider d hother =>
      rcases Registry.of_get?_put hrecord with ⟨rfl, rfl⟩ | ⟨-, hrecord⟩
      · exact ⟨base, provider, d, rfl, rfl, rfl, rfl⟩
      · rw [hold] at hrecord
        cases hrecord
    | writeStatic hother =>
      rcases Registry.of_get?_put hrecord with ⟨rfl, -⟩ | ⟨-, hrecord⟩
      · rw [hold] at hother
        cases hother
      · rw [hold] at hrecord
        cases hrecord
    | writeDynamic hother =>
      rcases Registry.of_get?_put hrecord with ⟨rfl, -⟩ | ⟨-, hrecord⟩
      · rw [hold] at hother
        cases hother
      · rw [hold] at hrecord
        cases hrecord
    | setDetached =>
      rw [hold] at hrecord
      cases hrecord

namespace Session

variable (eval : Evaluator P C σ)

lemma ledger_step {s : Session P σ} (h : s.store.Ledger) (command : Command P C) :
    (s.step eval command).2.store.Ledger :=
  store_step (fun _ _ _ => Store.Ledger.of_leads) eval command h

/-- The ledger of every run is right. -/
lemma ledger_after (config : Config) (memory : σ) (commands : List (Command P C)) :
    ((fresh config memory : Session P σ).after eval commands).store.Ledger :=
  store_after (fun _ _ _ => Store.Ledger.of_leads) eval commands (Store.Ledger.fresh config)

lemma keeps_step (s : Session P σ) (command : Command P C) :
    s.store.Keeps (s.step eval command).2.store :=
  store_step (I := fun y => s.store.Keeps y) (fun _ _ _ hleads h => h.trans (.of_leads hleads))
    eval command (.refl _)

/-- Records stay stored through a run. -/
lemma keeps_after (s : Session P σ) (commands : List (Command P C)) :
    s.store.Keeps (s.after eval commands).store :=
  store_after (I := fun y => s.store.Keeps y) (fun _ _ _ hleads h => h.trans (.of_leads hleads))
    eval commands (.refl _)

end Session

end Restyle
