import Mathlib.Data.List.Destutter
import Restyle.Proofs.Session.Ledger

/-!
# The dynamic text of a record

A record compares every dynamic text with the latest one that it remembers, and it never asks its
target. That this makes no difference is an invariant of the ledger: the text remembered is the text
last written. It holds however the managers of a session and the commands on its records are
interleaved, and whichever writes are refused.

The writes to the dynamic target of a record are those calls that were taken
(`Session.dynamicTexts_after`), no two neighbours among them are equal unless the second was told
not to skip (`Session.isChain_takenWrites`), and if all calls skip and none is refused, they are all
calls with repetitions left out (`Session.dynamicTexts_eq_destutter`).
-/

namespace Restyle

variable {P C σ : Type}

/-- Leaving out repetitions, one more entry at the end is left out if it is the last one kept. -/
lemma destutter_concat {α : Type} [DecidableEq α] (xs : List α) (a : α) :
    (xs ++ [a]).destutter (· ≠ ·) =
      if (xs.destutter (· ≠ ·)).getLast? = some a then xs.destutter (· ≠ ·)
      else xs.destutter (· ≠ ·) ++ [a] := by
  have hfrom : ∀ (xs : List α) (b : α), (xs ++ [a]).destutter' (· ≠ ·) b =
      if (xs.destutter' (· ≠ ·) b).getLast? = some a then xs.destutter' (· ≠ ·) b
      else xs.destutter' (· ≠ ·) b ++ [a] := by
    intro xs
    induction xs with
    | nil =>
      intro b
      by_cases hba : b = a <;> simp [hba]
    | cons x rest ih =>
      intro b
      by_cases hbx : b ≠ x
      · rw [List.cons_append, List.destutter'_cons_pos _ hbx, List.destutter'_cons_pos _ hbx, ih x,
          List.getLast?_cons_of_ne_nil (List.destutter'_ne_nil _ _)]
        split <;> rfl
      · rw [List.cons_append, List.destutter'_cons_neg _ hbx, List.destutter'_cons_neg _ hbx, ih b]
  cases xs with
  | nil => simp
  | cons x rest => exact hfrom rest x

/-! ### The texts of a record -/

/-- The texts written to the dynamic target of the record of a key, oldest first. -/
def Store.dynamicTexts (store : Store P) (key : String) : List String :=
  match (store.1.get? key).bind fun record => record.target? .dynamic with
  | some id => store.2.writes id
  | none => []

namespace Store

variable {store x y : Store P} {key : String} {record : Record P} {id : TargetId}

lemma dynamicTexts_eq (hkey : store.1.get? key = some record)
    (hid : record.target? .dynamic = some id) : store.dynamicTexts key = store.2.writes id := by
  simp [dynamicTexts, hkey, hid]

lemma dynamicTexts_of_no_target (hkey : store.1.get? key = some record)
    (hid : record.target? .dynamic = none) : store.dynamicTexts key = [] := by
  simp [dynamicTexts, hkey, hid]

lemma dynamicTexts_of_none (hkey : store.1.get? key = none) : store.dynamicTexts key = [] := by
  simp [dynamicTexts, hkey]

/-- The text that later ones are compared with is the latest one of the target. -/
lemma Ledger.lastDynamic_eq (h : store.Ledger) (hkey : store.1.get? key = some record)
    (hid : record.target? .dynamic = some id) :
    record.lastDynamic = (store.dynamicTexts key).getLast? := by
  rw [dynamicTexts_eq hkey hid]
  exact ((h.booked key record hkey).latest id hid).symm

/-- The texts of a record are the same if its target is the same and nothing is written to it. -/
lemma dynamicTexts_congr {record' : Record P} (hx : x.1.get? key = some record)
    (hy : y.1.get? key = some record')
    (htarget : record'.target? .dynamic = record.target? .dynamic)
    (hwrites : ∀ id, record.target? .dynamic = some id → y.2.writes id = x.2.writes id) :
    y.dynamicTexts key = x.dynamicTexts key := by
  cases hid : record.target? .dynamic with
  | none =>
    rw [dynamicTexts_of_no_target hx hid, dynamicTexts_of_no_target hy (htarget.trans hid)]
  | some id =>
    rw [dynamicTexts_eq hx hid, dynamicTexts_eq hy (htarget.trans hid), hwrites id hid]

/-- Nothing was written to the targets of a record that was not there before. -/
lemma dynamicTexts_of_new {deed : Deed P} (h : deed.Leads x y) (hx : x.Ledger)
    (hnone : x.1.get? key = none) : y.dynamicTexts key = [] := by
  cases hrecord : y.1.get? key with
  | none => exact dynamicTexts_of_none hrecord
  | some record =>
    rcases h.record_cases hrecord with ⟨old, hold, -⟩ | ⟨base, provider, d, -, -, rfl, htargets⟩
    · rw [hnone] at hold
      cases hold
    · cases hid : (Record.compile base provider d x.2).1.target? .dynamic with
      | none => exact dynamicTexts_of_no_target hrecord hid
      | some id =>
        rw [dynamicTexts_eq hrecord hid, htargets]
        exact Record.writes_compile hx.orderly base provider d hid

/-- Only a write of a dynamic text to the record of a key adds to the texts of the key. -/
lemma dynamicTexts_of_leads {deed : Deed P} (h : deed.Leads x y) (hx : x.Ledger)
    (hdeed : ∀ text, deed ≠ .writeDynamic key text) :
    y.dynamicTexts key = x.dynamicTexts key := by
  cases hkey : x.1.get? key with
  | none =>
    rw [dynamicTexts_of_none hkey]
    exact dynamicTexts_of_new h hx hkey
  | some record =>
    obtain ⟨record', hkey', hcontinues⟩ := Keeps.of_leads h key record hkey
    refine dynamicTexts_congr hkey hkey' (hcontinues.target? .dynamic) ?_
    intro id hid
    cases h with
    | discard provider => exact Targets.writes_congr (Record.log_compile _ provider _ _) id
    | compile provider hnone => exact Targets.writes_congr (Record.log_compile _ provider _ _) id
    | @writeStatic r t other text written layout target hother htarget hpending htext hattached =>
      refine Targets.writes_logged_of_ne ?_
      rintro rfl
      obtain rfl : other = key := hx.apart _ _ _ _ .static .dynamic _ hother hkey htarget hid
      obtain rfl : written = record := Option.some.inj (hother.symm.trans hkey)
      cases (hx.booked _ _ hkey).kind_eq (show written.target? .static = _ from htarget) hid
    | @writeDynamic r t other text written target hother htarget hattached =>
      refine Targets.writes_logged_of_ne ?_
      rintro rfl
      obtain rfl : other = key := hx.apart _ _ _ _ .dynamic .dynamic _ hother hkey htarget hid
      exact hdeed text rfl
    | setDetached => exact Targets.writes_congr (Targets.log_setDetached _ _ _) id

end Store

/-! ### The calls of a run -/

namespace Session

/-- The dynamic text that a command asks to be written to the record of a key, if it is written. -/
def takenWrite? (eval : Evaluator P C σ) (s : Session P σ) (key : String)
    (command : Command P C) : Option DynamicWrite :=
  match s.dynamicWrite? eval key command, (s.step eval command).1 with
  | some write, .written true => some write
  | _, _ => none

/-- The calls of a run for a dynamic text of the record of a key that were written, in order. -/
def takenWrites (eval : Evaluator P C σ) (s : Session P σ) (key : String)
    (commands : List (Command P C)) : List DynamicWrite :=
  (s.moments eval commands).filterMap fun moment =>
    moment.before.takenWrite? eval key moment.command

section Step

variable {eval : Evaluator P C σ} {s : Session P σ} {key : String} {command : Command P C}
  {write : DynamicWrite} {record : Record P} {id : TargetId}

/-- A command that is not to write a dynamic text to a record adds nothing to its texts. -/
lemma dynamicTexts_step_of_none (hs : s.store.Ledger)
    (h : s.dynamicWrite? eval key command = none) :
    (s.step eval command).2.store.dynamicTexts key = s.store.dynamicTexts key := by
  have hboth : (s.step eval command).2.store.Ledger ∧
      (s.step eval command).2.store.dynamicTexts key = s.store.dynamicTexts key := by
    refine (step_leads eval s command).induction
      (I := fun y => y.Ledger ∧ y.dynamicTexts key = s.store.dynamicTexts key) ⟨hs, rfl⟩ ?_
    intro deed hpermits x y hleads hx
    refine ⟨hx.1.of_leads hleads, (Store.dynamicTexts_of_leads hleads hx.1 ?_).trans hx.2⟩
    rintro text rfl
    cases hpermits with
    | update hwrite =>
      rw [h] at hwrite
      cases hwrite
    | writeDynamic hwrite =>
      rw [h] at hwrite
      cases hwrite
  exact hboth.2

/-- A command that is to write a dynamic text to a record has it skipped, refused or taken. -/
lemma step_dynamicWrite_cases (hkey : s.registry.get? key = some record)
    (hid : record.target? .dynamic = some id)
    (h : s.dynamicWrite? eval key command = some write) :
    (write.skip = true ∧ record.lastDynamic = some write.text ∧
      (s.step eval command).1 = .written false ∧ (s.step eval command).2.store = s.store) ∨
    ((s.step eval command).1 = .failed (.output record.base Targets.refusal) ∧
      (s.step eval command).2.store = s.store) ∨
    (¬(write.skip = true ∧ record.lastDynamic = some write.text) ∧
      (s.step eval command).1 = .written true ∧
      (s.step eval command).2.store =
        (s.registry.put key (record.withDynamic write.text),
          s.targets.logged id write.text)) := by
  obtain ⟨record', memory, hrecord', hstep⟩ := step_of_dynamicWrite? h
  obtain rfl : record = record' := Option.some.inj (hkey.symm.trans hrecord')
  rw [hstep]
  unfold writeDynamic
  obtain ⟨hskip, hlast, heq⟩ | ⟨-, -, heq⟩ | ⟨hnot, -, heq⟩ :=
    Record.writeDynamic_cases hid write.text write.skip s.targets
  · refine Or.inl ⟨hskip, hlast, ?_, ?_⟩
    · rw [heq]
      rfl
    · rw [heq]
      change (s.registry.put key record, s.targets) = s.store
      rw [Registry.put_of_get? hkey]
      rfl
  · refine Or.inr (Or.inl ⟨?_, ?_⟩)
    · rw [heq]
      rfl
    · rw [heq]
      rfl
  · refine Or.inr (Or.inr ⟨hnot, ?_, ?_⟩)
    · rw [heq]
      rfl
    · rw [heq]
      rfl

/-- For a record without a target no text is written. -/
lemma step_dynamicWrite_of_no_target (hkey : s.registry.get? key = some record)
    (hid : record.target? .dynamic = none) (h : s.dynamicWrite? eval key command = some write) :
    (s.step eval command).1 = .written false ∧ (s.step eval command).2.store = s.store := by
  obtain ⟨record', memory, hrecord', hstep⟩ := step_of_dynamicWrite? h
  obtain rfl : record = record' := Option.some.inj (hkey.symm.trans hrecord')
  rw [hstep]
  unfold writeDynamic
  rw [Record.writeDynamic_of_no_target hid]
  refine ⟨rfl, ?_⟩
  change (s.registry.put key record, s.targets) = s.store
  rw [Registry.put_of_get? hkey]
  rfl

/-- What a command adds to the texts of a record is the text that it asked for and that was taken.
-/
lemma dynamicTexts_step (hs : s.store.Ledger) (eval : Evaluator P C σ) (key : String)
    (command : Command P C) :
    (s.step eval command).2.store.dynamicTexts key =
      s.store.dynamicTexts key ++ (s.takenWrite? eval key command).toList.map (·.text) := by
  cases hwrite : s.dynamicWrite? eval key command with
  | none =>
    rw [dynamicTexts_step_of_none hs hwrite]
    simp [takenWrite?, hwrite]
  | some write =>
    obtain ⟨record, memory, hkey, -⟩ := step_of_dynamicWrite? hwrite
    cases hid : record.target? .dynamic with
    | none =>
      obtain ⟨hreply, hstore⟩ := step_dynamicWrite_of_no_target hkey hid hwrite
      rw [hstore]
      simp [takenWrite?, hwrite, hreply]
    | some id =>
      obtain ⟨-, -, hreply, hstore⟩ | ⟨hreply, hstore⟩ | ⟨-, hreply, hstore⟩ :=
        step_dynamicWrite_cases hkey hid hwrite
      · rw [hstore]
        simp [takenWrite?, hwrite, hreply]
      · rw [hstore]
        simp [takenWrite?, hwrite, hreply]
      · have hold : s.store.dynamicTexts key = s.targets.writes id :=
          Store.dynamicTexts_eq hkey hid
        have hnew : (s.step eval command).2.store.dynamicTexts key =
            (s.targets.logged id write.text).writes id := by
          rw [hstore]
          exact Store.dynamicTexts_eq Registry.get?_put_self hid
        rw [hnew, hold, Targets.writes_logged_self]
        simp [takenWrite?, hwrite, hreply]

lemma of_takenWrite? (h : s.takenWrite? eval key command = some write) :
    s.dynamicWrite? eval key command = some write ∧ (s.step eval command).1 = .written true := by
  unfold takenWrite? at h
  split at h
  · rename_i hwrite hreply
    cases h
    exact ⟨hwrite, hreply⟩
  · cases h

/-- A text that was taken although it should be skipped if unchanged differs from the latest one. -/
lemma getLast?_ne_of_takenWrite? (hs : s.store.Ledger)
    (h : s.takenWrite? eval key command = some write) (hskip : write.skip = true) :
    (s.store.dynamicTexts key).getLast? ≠ some write.text := by
  obtain ⟨hwrite, hreply⟩ := of_takenWrite? h
  obtain ⟨record, memory, hkey, -⟩ := step_of_dynamicWrite? hwrite
  cases hid : record.target? .dynamic with
  | none =>
    obtain ⟨hfalse, -⟩ := step_dynamicWrite_of_no_target hkey hid hwrite
    rw [hfalse] at hreply
    cases hreply
  | some id =>
    obtain ⟨-, -, hfalse, -⟩ | ⟨hfailed, -⟩ | ⟨hnot, -, -⟩ :=
      step_dynamicWrite_cases hkey hid hwrite
    · rw [hfalse] at hreply
      cases hreply
    · rw [hfailed] at hreply
      cases hreply
    · rw [← hs.lastDynamic_eq hkey hid]
      exact fun hlast => hnot ⟨hskip, hlast⟩

end Step

section Run

variable (eval : Evaluator P C σ) (config : Config) (memory : σ) (key : String)
  (commands : List (Command P C))

lemma takenWrites_concat (s : Session P σ) (command : Command P C) :
    s.takenWrites eval key (commands ++ [command]) = s.takenWrites eval key commands ++
      ((s.after eval commands).takenWrite? eval key command).toList :=
  filterMap_moments_concat eval s _ commands command

lemma dynamicWrites_concat (s : Session P σ) (command : Command P C) :
    s.dynamicWrites eval key (commands ++ [command]) = s.dynamicWrites eval key commands ++
      ((s.after eval commands).dynamicWrite? eval key command).toList :=
  filterMap_moments_concat eval s _ commands command

/-- The texts of a record after a run are those that were taken in the run. -/
lemma dynamicTexts_after :
    ((fresh config memory : Session P σ).after eval commands).store.dynamicTexts key =
      ((fresh config memory : Session P σ).takenWrites eval key commands).map (·.text) := by
  induction commands using List.reverseRecOn with
  | nil => rfl
  | append_singleton rest command ih =>
    rw [after_concat, dynamicTexts_step (ledger_after eval config memory rest), ih,
      takenWrites_concat, List.map_append]

/-- Of two texts taken one after another the later one is a new text, unless it was not to be
skipped. -/
lemma isChain_takenWrites :
    ((fresh config memory : Session P σ).takenWrites eval key commands).IsChain
      fun a b => a.text = b.text → b.skip = false := by
  induction commands using List.reverseRecOn with
  | nil => exact List.isChain_nil
  | append_singleton rest command ih =>
    rw [takenWrites_concat]
    cases htaken : ((fresh config memory).after eval rest).takenWrite? eval key command with
    | none => simpa using ih
    | some write =>
      refine List.isChain_append.mpr ⟨ih, List.isChain_singleton write, ?_⟩
      intro earlier hearlier later hlater htext
      obtain rfl : write = later := by simpa using hlater
      by_contra hskip
      refine getLast?_ne_of_takenWrite? (ledger_after eval config memory rest) htaken
        (Bool.not_eq_false _ ▸ hskip) ?_
      rw [dynamicTexts_after, List.getLast?_map, hearlier, ← htext]
      rfl

/-- If every text is to be skipped if unchanged and none is refused, the texts of a record are those
that the run was asked to write, with repetitions left out. -/
lemma dynamicTexts_eq_destutter
    (htarget : ∀ record,
      ((fresh config memory : Session P σ).after eval commands).registry.get? key = some record →
        record.target? .dynamic ≠ none)
    (hskip : ∀ write ∈ (fresh config memory : Session P σ).dynamicWrites eval key commands,
      write.skip = true)
    (hreply : ∀ moment ∈ (fresh config memory : Session P σ).moments eval commands,
      (moment.before.dynamicWrite? eval key moment.command).isSome →
        ∀ e, moment.reply eval ≠ .failed e) :
    ((fresh config memory : Session P σ).after eval commands).store.dynamicTexts key =
      (((fresh config memory : Session P σ).dynamicWrites eval key commands).map (·.text)).destutter
        (· ≠ ·) := by
  induction commands using List.reverseRecOn with
  | nil => rfl
  | append_singleton rest command ih =>
    have hledger := ledger_after (P := P) eval config memory rest
    rw [after_concat] at htarget ⊢
    rw [dynamicWrites_concat] at hskip ⊢
    rw [moments_concat] at hreply
    -- The run without its last command is such a run as well, as records keep their targets.
    have htexts := ih
      (by
        intro record hrecord hnone
        obtain ⟨record', hrecord', hcontinues⟩ := keeps_step eval _ command key record hrecord
        exact htarget record' hrecord' ((hcontinues.target? .dynamic).trans hnone))
      (fun write hwrite => hskip write (List.mem_append_left _ hwrite))
      (fun moment hmoment => hreply moment (List.mem_append_left _ hmoment))
    cases hwrite : ((fresh config memory).after eval rest).dynamicWrite? eval key command with
    | none =>
      rw [dynamicTexts_step_of_none hledger hwrite, htexts, Option.toList_none, List.append_nil]
    | some write =>
      obtain ⟨record, memory', hkey, -⟩ := step_of_dynamicWrite? hwrite
      obtain ⟨record', hrecord', hcontinues⟩ := keeps_step eval _ command key record hkey
      obtain ⟨id, hid⟩ : ∃ id, record.target? .dynamic = some id := by
        rw [← hcontinues.target? .dynamic]
        exact Option.ne_none_iff_exists'.mp (htarget record' hrecord')
      have hlast := hledger.lastDynamic_eq hkey hid
      have hskipped : write.skip = true := hskip write (by simp [hwrite])
      rw [Option.toList_some, List.map_append, List.map_singleton, destutter_concat, ← htexts,
        ← hlast]
      obtain ⟨-, heq, -, hstore⟩ | ⟨hfailed, -⟩ | ⟨hnot, htrue, -⟩ :=
        step_dynamicWrite_cases hkey hid hwrite
      · rw [hstore, if_pos heq]
      · have hmoment := hreply _ (List.mem_append_right _ (List.mem_singleton_self _))
        exact absurd hfailed (hmoment (by simp [hwrite]) _)
      · rw [if_neg (fun heq => hnot ⟨hskipped, heq⟩), dynamicTexts_step hledger]
        simp [takenWrite?, hwrite, htrue]

end Run

end Session

/-- A call for a dynamic text of a record did to the target `id` of the record what it answered. -/
structure Moment.Tracks (eval : Evaluator P C σ) (moment : Moment P C σ) (id : TargetId)
    (write : DynamicWrite) : Prop where
  /-- The call says whether it wrote, or it fails. -/
  answer : (∃ changed, moment.reply eval = .written changed) ∨ ∃ e, moment.reply eval = .failed e
  /-- Unless the call fails, its text is the latest one of the target from then on. -/
  current : ∀ changed, moment.reply eval = .written changed →
    (moment.later eval).targets.content? id = some write.text
  /-- The call says that it wrote if it added one write, which is the write of its text. -/
  written_true : moment.reply eval = .written true ↔
    (moment.later eval).targets.log = moment.before.targets.log ++ [(id, write.text)]
  /-- The call says that it did not write or fails if it added no write. -/
  not_written : (moment.reply eval = .written false ∨ ∃ e, moment.reply eval = .failed e) ↔
    (moment.later eval).targets.log = moment.before.targets.log
  /-- A call that fails changes neither records nor targets, so later calls are compared with what
  this one was compared with. -/
  failed : ∀ e, moment.reply eval = .failed e →
    (moment.later eval).store = moment.before.store

/-- Every call for a dynamic text of a record that has a target for it does what it answers. -/
lemma Moment.tracks {eval : Evaluator P C σ} {moment : Moment P C σ} {key : String}
    {record : Record P} {id : TargetId} {write : DynamicWrite}
    (hledger : moment.before.store.Ledger)
    (hkey : moment.before.registry.get? key = some record)
    (hid : record.target? .dynamic = some id)
    (hwrite : moment.before.dynamicWrite? eval key moment.command = some write) :
    moment.Tracks eval id write := by
  obtain ⟨-, hlast, hreply, hstore⟩ | ⟨hreply, hstore⟩ | ⟨-, hreply, hstore⟩ :=
    Session.step_dynamicWrite_cases hkey hid hwrite
  · change moment.reply eval = _ at hreply
    change (moment.later eval).store = _ at hstore
    have htargets : (moment.later eval).targets = moment.before.targets := congrArg Prod.snd hstore
    refine ⟨Or.inl ⟨false, hreply⟩, ?_, ?_, ?_, ?_⟩
    · intro changed _
      rw [htargets, ← hlast]
      exact (hledger.booked key record hkey).latest id hid
    · simp [hreply, htargets]
    · simp [hreply, htargets]
    · exact fun _ _ => hstore
  · change moment.reply eval = _ at hreply
    change (moment.later eval).store = _ at hstore
    have htargets : (moment.later eval).targets = moment.before.targets := congrArg Prod.snd hstore
    refine ⟨Or.inr ⟨_, hreply⟩, ?_, ?_, ?_, ?_⟩
    · intro changed hchanged
      rw [hreply] at hchanged
      cases hchanged
    · simp [hreply, htargets]
    · simp [hreply, htargets]
    · exact fun _ _ => hstore
  · change moment.reply eval = _ at hreply
    change (moment.later eval).store = _ at hstore
    have htargets : (moment.later eval).targets = moment.before.targets.logged id write.text :=
      congrArg Prod.snd hstore
    refine ⟨Or.inl ⟨true, hreply⟩, ?_, ?_, ?_, ?_⟩
    · intro changed _
      rw [htargets, Targets.content?, Targets.writes_logged_self, List.getLast?_concat]
    · simp [hreply, htargets]
    · simp [hreply, htargets]
    · intro e hfailed
      rw [hreply] at hfailed
      cases hfailed

/-- Through every run, the target of a record with dynamic rules follows the calls for its dynamic
text: each call does to the target what it answers, and the record remembers what is there. The
texts of the target are those of the calls that were taken; neighbours among them are equal only if
the later one was not to be skipped; and if all calls skip and none fails, they are the texts of all
calls with repetitions left out. -/
theorem Session.dynamicTarget_after (eval : Evaluator P C σ) (config : Config) (memory : σ)
    (commands : List (Command P C)) {key : String} {record : Record P}
    (hrecord : ((fresh config memory).after eval commands).registry.get? key = some record)
    (hdynamic : record.compiled.hasDynamic = true) :
    let start : Session P σ := fresh config memory
    let last := start.after eval commands
    ∃ id, record.dynamicTarget = some id ∧ last.targets.content? id = record.lastDynamic ∧
      (∀ moment ∈ start.moments eval commands, ∀ write,
        moment.before.dynamicWrite? eval key moment.command = some write →
          moment.Tracks eval id write) ∧
      last.targets.writes id = (start.takenWrites eval key commands).map (·.text) ∧
      (start.takenWrites eval key commands).IsChain (fun a b => a.text = b.text → b.skip = false) ∧
      ((∀ write ∈ start.dynamicWrites eval key commands, write.skip = true) →
        (∀ moment ∈ start.moments eval commands,
          (moment.before.dynamicWrite? eval key moment.command).isSome →
            ∀ e, moment.reply eval ≠ .failed e) →
        last.targets.writes id =
          ((start.dynamicWrites eval key commands).map (·.text)).destutter (· ≠ ·)) := by
  intro start last
  have hledger : last.store.Ledger := ledger_after eval config memory commands
  have hbooked : record.Booked last.targets := hledger.booked key record hrecord
  obtain ⟨id, hid⟩ : ∃ id, record.target? .dynamic = some id := by
    refine Option.isSome_iff_exists.mp ?_
    rw [hbooked.wanted .dynamic]
    exact hdynamic
  have htexts : last.store.dynamicTexts key = last.targets.writes id :=
    Store.dynamicTexts_eq hrecord hid
  refine ⟨id, hid, hbooked.latest id hid, ?_, ?_, ?_, ?_⟩
  · intro moment hmoment write hwrite
    obtain ⟨earlier, rest, hsplit, hbefore⟩ := exists_append_of_mem_moments eval start hmoment
    obtain ⟨record', memory', hkey, -⟩ := step_of_dynamicWrite? hwrite
    -- The record of the moment is an earlier state of the record that is stored in the end.
    obtain ⟨later, hlater, hcontinues⟩ := keeps_after eval moment.before
      (moment.command :: rest) key record' hkey
    have hlast : (moment.before.after eval (moment.command :: rest)).store = last.store := by
      rw [hbefore, ← after_append, ← hsplit]
    rw [hlast] at hlater
    obtain rfl : record = later := Option.some.inj (hrecord.symm.trans hlater)
    refine Moment.tracks ?_ hkey ((hcontinues.target? .dynamic).symm.trans hid) hwrite
    rw [hbefore]
    exact ledger_after eval config memory earlier
  · rw [← htexts]
    exact dynamicTexts_after eval config memory key commands
  · exact isChain_takenWrites eval config memory key commands
  · intro hskip hreply
    rw [← htexts]
    refine dynamicTexts_eq_destutter eval config memory key commands ?_ hskip hreply
    intro other hother hnone
    obtain rfl : record = other := Option.some.inj (hrecord.symm.trans hother)
    rw [hid] at hnone
    cases hnone

namespace Session

/-- A definition with one produced value. -/
def oneProduced : Definition Unit := ⟨[("color", .computed ())]⟩

/-- A run that asks for one text twice and then for another one. -/
def repeatedTexts : List (Command Unit Unit) :=
  [.create ".A" oneProduced, .writeDynamic ".A" "x" true, .writeDynamic ".A" "x" true,
    .writeDynamic ".A" "y" true]

/-- The record of that run in the end. -/
def repeatedRecord : Record Unit := (Record.compile ".A" 0 oneProduced .empty).1.withDynamic "y"

/-- The repeated text is written once. -/
theorem dynamicTarget_after_repeatedTexts :
    ((fresh .standard ()).after .silent repeatedTexts).registry.get? ".A" = some repeatedRecord ∧
      repeatedRecord.compiled.hasDynamic = true ∧
      ∃ id, repeatedRecord.dynamicTarget = some id ∧
        ((fresh .standard ()).after .silent repeatedTexts).targets.writes id = ["x", "y"] := by
  have hrecord : ((fresh .standard ()).after .silent repeatedTexts).registry.get? ".A" =
      some repeatedRecord := rfl
  have hdynamic : repeatedRecord.compiled.hasDynamic = true := rfl
  obtain ⟨id, hid, -, -, hwrites, -⟩ :=
    dynamicTarget_after .silent .standard () repeatedTexts hrecord hdynamic
  have htaken : (fresh .standard ()).takenWrites .silent ".A" repeatedTexts =
      [⟨"x", true⟩, ⟨"y", true⟩] := rfl
  refine ⟨hrecord, hdynamic, id, hid, ?_⟩
  rw [hwrites, htaken]
  rfl

end Session

end Restyle
