import Restyle.Proofs.Session.Ledger

/-!
# What a registry stores

Records come into a registry in two ways. A record that was made before is offered to it under its
own base rule; or a record is asked for under some key, and only if there is none it is made and
stored. How a record is made is left open here: the making may do anything to a session except to
its records, and it may fail (`Maker`). A `Request` is an offer, a question of this kind, or any
command of a session.

Whatever is requested, the first record stored under a key stays there, and the base rules of a
registry are the keys that were to be stored, each at its first place
(`Session.registry_served`).
-/

namespace Restyle

variable {P C σ : Type}

/-- A way to make a record. What it does to the session stays if it fails, but it cannot touch the
records that are stored. -/
abbrev Maker (P σ : Type) := Session P σ → Except StyleError (Record P) × Session P σ

/-- The compilation that a registry runs to have a record made; it gives no session if it fails. -/
def Maker.compile (make : Maker P σ) (s : Session P σ) :
    Except StyleError (Record P × Session P σ) :=
  match make s with
  | (.ok record, made) => .ok (record, made)
  | (.error e, _) => .error e

/-- Something that may lead to a record being stored. -/
inductive Request (P C σ : Type) where
  /-- A command of a session. -/
  | command (command : Command P C)
  /-- Stores a record, unless its base rule has one. -/
  | offer (record : Record P)
  /-- Gives the record of a key, and makes one if there is none. -/
  | fetch (key : String) (make : Maker P σ)

/-- Whether a request stores records under their own base rules only. -/
def Request.isPlain : Request P C σ → Bool
  | .command (.getOrCompile _ _ _ _) => false
  | .fetch _ _ => false
  | _ => true

namespace Session

/-! ### Offering and fetching -/

/-- Stores a record unless its base rule has one, and gives the record that is stored in the end. -/
def offer (s : Session P σ) (record : Record P) : Record P × Session P σ :=
  let (stored, registry) := s.registry.create record
  (stored, { s with registry })

/-- Gives the record of a key. If there is none, `make` makes one; what it did to the session
besides stays in any case. -/
def fetch (s : Session P σ) (key : String) (make : Maker P σ) :
    Except StyleError (Found × Record P) × Session P σ :=
  match s.registry.getOrCompile key make.compile s with
  | .error e => (.error e, { (make s).2 with registry := s.registry })
  | .ok (found, registry, made) => (.ok found, { made with registry })

/-- The way in which a command makes a record: it compiles a definition with a provider of its own,
unless there is a reason to refuse. -/
def compiling (base : String) (d : Definition P) (refusal : Option String) : Maker P σ := fun s =>
  match refusal with
  | some reason => (.error (.parse (.refused reason)), s)
  | none =>
    let (provider, providers) := s.providers.add d
    let (record, targets) := Record.compile base provider d s.targets
    (.ok record, { s with providers, targets })

/-- Answers a request. -/
def serve (eval : Evaluator P C σ) (s : Session P σ) : Request P C σ → Reply P × Session P σ
  | .command command => s.step eval command
  | .offer record => (s.offer record).map .stored id
  | .fetch key make => (s.fetch key make).map (.ofExcept fun f => .found f.1 f.2) id

/-- The session after a list of requests. -/
def served (eval : Evaluator P C σ) (s : Session P σ) (requests : List (Request P C σ)) :
    Session P σ :=
  requests.foldl (fun s request => (s.serve eval request).2) s

section Offer

variable {s : Session P σ} {record stored : Record P} {key : String} {make : Maker P σ}

lemma offer_of_get? (h : s.registry.get? record.base = some stored) :
    s.offer record = (stored, s) := by
  simp [offer, Registry.create, h]

lemma offer_of_none (h : s.registry.get? record.base = none) :
    s.offer record = (record, { s with registry := s.registry.put record.base record }) := by
  simp [offer, Registry.create, h]

/-- Where there is a record, nothing is made. -/
lemma fetch_of_get? (h : s.registry.get? key = some stored) :
    s.fetch key make = (.ok (.hit, stored), s) := by
  simp [fetch, Registry.getOrCompile, h]

/-- Where there is none, the record that is made is stored. -/
lemma fetch_of_made {made : Session P σ} (h : s.registry.get? key = none)
    (hmake : make s = (.ok record, made)) :
    s.fetch key make =
      (.ok (.compiled, record), { made with registry := s.registry.put key record }) := by
  have hcompile : make.compile s = .ok (record, made) := by simp only [Maker.compile, hmake]
  have hcompiled : s.registry.getOrCompile key make.compile s =
      .ok ((.compiled, record), s.registry.put key record, made) := by
    simp only [Registry.getOrCompile, h, hcompile]
    rfl
  simp only [fetch, hcompiled]

/-- If making one fails, nothing is stored. -/
lemma fetch_of_error {made : Session P σ} {e : StyleError} (h : s.registry.get? key = none)
    (hmake : make s = (.error e, made)) :
    s.fetch key make = (.error e, { made with registry := s.registry }) := by
  have hcompile : make.compile s = .error e := by simp only [Maker.compile, hmake]
  have hfailed : s.registry.getOrCompile key make.compile s = .error e := by
    simp only [Registry.getOrCompile, h, hcompile]
    rfl
  simp only [fetch, hfailed, hmake]

end Offer

/-- The command that compiles a record and stores it offers the record. -/
lemma create_eq_offer (s : Session P σ) (base : String) (d : Definition P) :
    s.create base d =
      { s with
        providers := (s.providers.add d).2
        targets := (Record.compile base (s.providers.add d).1 d s.targets).2 }.offer
          (Record.compile base (s.providers.add d).1 d s.targets).1 := rfl

/-- The command that gives the record of a key fetches it. -/
lemma getOrCompile_eq_fetch (s : Session P σ) (key base : String) (d : Definition P)
    (refusal : Option String) :
    s.getOrCompile key base d refusal = s.fetch key (compiling base d refusal) := by
  cases hkey : s.registry.get? key with
  | some record =>
    rw [fetch_of_get? hkey]
    simp [getOrCompile, Registry.getOrCompile, hkey]
  | none =>
    cases refusal with
    | some reason =>
      have hmake : compiling base d (some reason) s = (.error (.parse (.refused reason)), s) := rfl
      rw [fetch_of_error hkey hmake]
      simp only [getOrCompile, Registry.getOrCompile, hkey]
      rfl
    | none =>
      have hmake : compiling base d none s =
          (.ok (Record.compile base (s.providers.add d).1 d s.targets).1,
            { s with
              providers := (s.providers.add d).2
              targets := (Record.compile base (s.providers.add d).1 d s.targets).2 }) := rfl
      rw [fetch_of_made hkey hmake]
      simp only [getOrCompile, Registry.getOrCompile, hkey]
      rfl

end Session

/-! ### The base rules of a registry -/

namespace Registry

variable {r : Registry P} {key : String} {record : Record P}

/-- The base rules once there is a record under a key. -/
def basesWith (r : Registry P) (key : String) : List String :=
  if key ∈ r.bases then r.bases else r.bases ++ [key]

lemma get?_eq_none_iff : r.get? key = none ↔ key ∉ r.bases := OrderedMap.get?_eq_none_iff

lemma mem_bases_of_get? (h : r.get? key = some record) : key ∈ r.bases := by
  by_contra hnot
  rw [get?_eq_none_iff.mpr hnot] at h
  cases h

lemma bases_put (r : Registry P) (key : String) (record : Record P) :
    (r.put key record).bases = r.basesWith key :=
  OrderedMap.keys_insert r.records key record

lemma basesWith_of_get? (h : r.get? key = some record) : r.basesWith key = r.bases :=
  if_pos (mem_bases_of_get? h)

/-- A base rule has come some way exactly if it has a record. -/
lemma stage_eq_uncompiled_iff : r.stage key = .uncompiled ↔ key ∉ r.bases := by
  rw [← get?_eq_none_iff, stage]
  cases r.get? key with
  | none => simp
  | some record => by_cases h : record.compiled.hasDynamic = true <;> simp [Record.stage, h]

end Registry

/-- As long as the records stay stored, a base rule leaves the uncompiled stage only. -/
lemma Store.Keeps.stage_eq {x y : Store P} (h : x.Keeps y) (key : String) :
    x.1.stage key = .uncompiled ∨ y.1.stage key = x.1.stage key := by
  cases hrecord : x.1.get? key with
  | none =>
    have hnot : key ∉ x.1.bases := Registry.get?_eq_none_iff.mp hrecord
    exact Or.inl (Registry.stage_eq_uncompiled_iff.mpr hnot)
  | some record =>
    obtain ⟨record', hrecord', hcontinues⟩ := h key record hrecord
    refine Or.inr ?_
    rw [Registry.stage, Registry.stage, hrecord', hrecord]
    exact hcontinues.stage_eq

namespace Session

variable {eval : Evaluator P C σ} {s : Session P σ}

/-- The key under which a request stores a record, unless there is one. -/
def keyOf? (s : Session P σ) : Request P C σ → Option String
  | .command (.initialise name) => (s.manager? name).map Manager.base
  | .command (.create base _) => some base
  | .command (.getOrCompile key _ _ none) => some key
  | .command _ => none
  | .offer record => some record.base
  | .fetch key make => (make s).1.toOption.map fun _ => key

/-- The keys under which the requests of a list store records, unless there are some. -/
def keysOf (eval : Evaluator P C σ) (s : Session P σ) : List (Request P C σ) → List String
  | [] => []
  | request :: rest => (s.keyOf? request).toList ++ (s.serve eval request).2.keysOf eval rest

/-! ### One request -/

/-- A command that compiles nothing stores nothing. -/
lemma bases_step_of_not_compile {command : Command P C}
    (hnot : ∀ key base d, ¬s.Permits eval command (.compile key base d)) :
    (s.step eval command).2.registry.bases = s.registry.bases := by
  refine (step_leads eval s command).induction (I := fun y => y.1.bases = s.registry.bases) rfl ?_
  intro deed hpermits x y hleads hx
  cases hleads with
  | discard provider => exact hx
  | compile provider hkey => exact absurd hpermits (hnot _ _ _)
  | writeStatic hkey =>
    exact (Registry.bases_put ..).trans ((Registry.basesWith_of_get? hkey).trans hx)
  | writeDynamic hkey =>
    exact (Registry.bases_put ..).trans ((Registry.basesWith_of_get? hkey).trans hx)
  | setDetached => exact hx

lemma bases_prepared (s : Session P σ) (name : String) (m : Manager P) :
    (s.prepared name m).registry.bases = s.registry.basesWith m.base := by
  cases hbase : s.registry.get? m.base with
  | some record =>
    rw [Registry.basesWith_of_get? hbase, prepared, acquired_of_get? s m hbase]
    rfl
  | none =>
    rw [prepared, acquired_of_none s m hbase]
    exact Registry.bases_put ..

/-- An initialisation stores a record under the base rule of its manager. -/
lemma bases_initialise (s : Session P σ) (name : String) (m : Manager P) :
    (s.initialise name m).2.registry.bases = s.registry.basesWith m.base := by
  have hprepared : (s.prepared name m).registry.bases = s.registry.basesWith m.base :=
    bases_prepared s name m
  have hstored : (s.prepared name m).registry.basesWith m.base =
      (s.prepared name m).registry.bases :=
    Registry.basesWith_of_get? (get?_prepared s name m)
  rw [initialise_eq]
  split
  · exact hprepared
  · exact (Registry.bases_put ..).trans (hstored.trans hprepared)

lemma bases_offer (s : Session P σ) (record : Record P) :
    (s.offer record).2.registry.bases = s.registry.basesWith record.base := by
  cases hbase : s.registry.get? record.base with
  | some stored => rw [offer_of_get? hbase, Registry.basesWith_of_get? hbase]
  | none =>
    rw [offer_of_none hbase]
    exact Registry.bases_put ..

lemma bases_fetch (s : Session P σ) (key : String) (make : Maker P σ) :
    (s.fetch key make).2.registry.bases =
      ((make s).1.toOption.map fun _ => key).elim s.registry.bases s.registry.basesWith := by
  cases hkey : s.registry.get? key with
  | some stored =>
    rw [fetch_of_get? hkey]
    cases (make s).1 with
    | error e => rfl
    | ok record => exact (Registry.basesWith_of_get? hkey).symm
  | none =>
    cases hmake : make s with
    | mk answer made =>
      cases answer with
      | error e =>
        rw [fetch_of_error hkey hmake]
        rfl
      | ok record =>
        rw [fetch_of_made hkey hmake]
        exact Registry.bases_put ..

/-- A request adds its key to the base rules if it is missing, and no other one. -/
lemma bases_serve (eval : Evaluator P C σ) (s : Session P σ) (request : Request P C σ) :
    (s.serve eval request).2.registry.bases =
      (s.keyOf? request).elim s.registry.bases s.registry.basesWith := by
  cases request with
  | offer record => exact bases_offer s record
  | fetch key make => exact bases_fetch s key make
  | command command =>
    cases command with
    | initialise name =>
      change (s.withManager name _).2.registry.bases = ((s.manager? name).map Manager.base).elim _ _
      unfold withManager
      cases hm : s.manager? name with
      | none => rfl
      | some m => exact bases_initialise s name m
    | create base d =>
      change (s.create base d).2.registry.bases = s.registry.basesWith base
      rw [create_eq_offer]
      exact bases_offer _ _
    | getOrCompile key base d refusal =>
      change (s.getOrCompile key base d refusal).2.registry.bases = _
      rw [getOrCompile_eq_fetch, bases_fetch]
      cases refusal <;> rfl
    | _ => exact bases_step_of_not_compile fun _ _ _ h => nomatch h

lemma keeps_offer (s : Session P σ) (record : Record P) :
    s.store.Keeps (s.offer record).2.store := by
  cases hbase : s.registry.get? record.base with
  | some stored =>
    rw [offer_of_get? hbase]
    exact .refl _
  | none =>
    rw [offer_of_none hbase]
    exact .put_new hbase

lemma keeps_fetch (s : Session P σ) (key : String) (make : Maker P σ) :
    s.store.Keeps (s.fetch key make).2.store := by
  cases hkey : s.registry.get? key with
  | some stored =>
    rw [fetch_of_get? hkey]
    exact .refl _
  | none =>
    cases hmake : make s with
    | mk answer made =>
      cases answer with
      | error e =>
        rw [fetch_of_error hkey hmake]
        exact .same_records
      | ok record =>
        rw [fetch_of_made hkey hmake]
        exact .put_new hkey

/-- A record stays stored whatever is requested. -/
lemma keeps_serve (eval : Evaluator P C σ) (s : Session P σ) (request : Request P C σ) :
    s.store.Keeps (s.serve eval request).2.store := by
  cases request with
  | command command => exact keeps_step eval s command
  | offer record => exact keeps_offer s record
  | fetch key make => exact keeps_fetch s key make

/-- A record that is offered is stored if its base rule has none; the answer is the one stored. -/
lemma serve_offer (eval : Evaluator P C σ) (s : Session P σ) (record : Record P) :
    s.serve eval (.offer record) =
      match s.registry.get? record.base with
      | some stored => (.stored stored, s)
      | none => (.stored record, { s with registry := s.registry.put record.base record }) := by
  change (s.offer record).map _ _ = _
  cases hbase : s.registry.get? record.base with
  | some stored =>
    rw [offer_of_get? hbase]
    rfl
  | none =>
    rw [offer_of_none hbase]
    rfl

/-- A record that is fetched is made if there is none; if that fails, none is stored. -/
lemma serve_fetch (eval : Evaluator P C σ) (s : Session P σ) (key : String) (make : Maker P σ) :
    s.serve eval (.fetch key make) =
      match s.registry.get? key, make s with
      | some stored, _ => (.found .hit stored, s)
      | none, (.ok record, made) =>
        (.found .compiled record, { made with registry := s.registry.put key record })
      | none, (.error e, made) => (.failed e, { made with registry := s.registry }) := by
  change (s.fetch key make).map _ _ = _
  cases hkey : s.registry.get? key with
  | some stored =>
    rw [fetch_of_get? hkey]
    rfl
  | none =>
    cases hmake : make s with
    | mk answer made =>
      cases answer with
      | error e =>
        rw [fetch_of_error hkey hmake]
        rfl
      | ok record =>
        rw [fetch_of_made hkey hmake]
        rfl

/-! ### Many requests -/

/-- What every request of a list keeps holds after all of them. -/
lemma served_induction {I : Session P σ → Prop} {requests : List (Request P C σ)} (hs : I s)
    (hserve : ∀ s', I s' → ∀ request ∈ requests, I (s'.serve eval request).2) :
    I (s.served eval requests) :=
  List.foldlRecOn requests _ hs hserve

section Served

variable (eval : Evaluator P C σ) (s : Session P σ)

lemma served_concat (requests : List (Request P C σ)) (request : Request P C σ) :
    s.served eval (requests ++ [request]) = ((s.served eval requests).serve eval request).2 :=
  List.foldl_concat ..

lemma keysOf_concat (requests : List (Request P C σ)) (request : Request P C σ) :
    s.keysOf eval (requests ++ [request]) =
      s.keysOf eval requests ++ ((s.served eval requests).keyOf? request).toList := by
  induction requests generalizing s with
  | nil => simp [keysOf, served]
  | cons first rest ih =>
    have hrest := ih (s.serve eval first).2
    rw [List.cons_append, keysOf, hrest, keysOf, List.append_assoc]
    rfl

/-- Records stay stored whatever is requested of a session. -/
lemma keeps_served (requests : List (Request P C σ)) :
    s.store.Keeps (s.served eval requests).store := by
  refine served_induction (I := fun s' => s.store.Keeps s'.store) (.refl _) ?_
  intro s' hs' request _
  exact hs'.trans (keeps_serve eval s' request)

/-- The base rules only ever grow at the end. -/
lemma bases_prefix_served (requests : List (Request P C σ)) :
    s.registry.bases <+: (s.served eval requests).registry.bases := by
  refine served_induction (I := fun s' => s.registry.bases <+: s'.registry.bases) List.prefix_rfl ?_
  intro s' hs' request _
  have hgrow : s'.registry.bases <+: (s'.serve eval request).2.registry.bases := by
    rw [bases_serve]
    cases s'.keyOf? request with
    | none => exact List.prefix_rfl
    | some key =>
      change s'.registry.bases <+: s'.registry.basesWith key
      unfold Registry.basesWith
      split
      · exact List.prefix_rfl
      · exact List.prefix_append _ _
  exact hs'.trans hgrow

/-- The base rules are the keys that were to be stored, in order of their first places. -/
lemma bases_served (config : Config) (memory : σ) (requests : List (Request P C σ)) :
    ((fresh config memory : Session P σ).served eval requests).registry.bases =
      ((fresh config memory : Session P σ).keysOf eval requests).eraseDups := by
  induction requests using List.reverseRecOn with
  | nil => rfl
  | append_singleton rest request ih =>
    rw [served_concat, bases_serve, keysOf_concat]
    cases ((fresh config memory : Session P σ).served eval rest).keyOf? request with
    | none => simpa using ih
    | some key =>
      change Registry.basesWith _ key = (_ ++ [key]).eraseDups
      rw [OrderedMap.eraseDups_concat, Registry.basesWith, ih]
      simp only [List.mem_eraseDups]

end Served

/-! ### Records under their own base rules -/

/-- A command that is plain compiles a record for the key under which it stores it. -/
lemma Permits.base_eq {command : Command P C} {key base : String} {d : Definition P}
    (h : s.Permits eval command (.compile key base d))
    (hplain : (Request.command command : Request P C σ).isPlain = true) : base = key := by
  cases h with
  | initialiseCompile hm hnone => rfl
  | createCompile hnone => rfl
  | getOrCompile hnone => cases hplain

/-- Every record is stored under its own base rule. -/
def Filed (r : Registry P) : Prop := ∀ key record, r.get? key = some record → record.base = key

lemma Filed.put {r : Registry P} (h : Filed r) {record : Record P} {key : String}
    (hbase : record.base = key) : Filed (r.put key record) := by
  intro k stored hstored
  rcases Registry.of_get?_put hstored with ⟨rfl, rfl⟩ | ⟨-, hold⟩
  · exact hbase
  · exact h k stored hold

lemma Filed.of_leads {deed : Deed P} {x y : Store P} (h : deed.Leads x y) (hx : Filed x.1)
    (hdeed : ∀ key base d, deed = .compile key base d → base = key) : Filed y.1 := by
  cases h with
  | discard provider => exact hx
  | compile provider hkey => exact hx.put (hdeed _ _ _ rfl)
  | @writeStatic _ _ key _ record _ _ hkey =>
    have hbase : record.base = key := hx key record hkey
    exact hx.put hbase
  | @writeDynamic _ _ key _ record _ hkey =>
    have hbase : record.base = key := hx key record hkey
    exact hx.put hbase
  | setDetached => exact hx

lemma Filed.serve {request : Request P C σ} (hs : Filed s.registry)
    (hplain : request.isPlain = true) : Filed (s.serve eval request).2.registry := by
  cases request with
  | command command =>
    refine (step_leads eval s command).induction (I := fun y => Filed y.1) hs ?_
    intro deed hpermits x y hleads hx
    refine hx.of_leads hleads ?_
    rintro key base d rfl
    exact hpermits.base_eq hplain
  | offer record =>
    change Filed (s.offer record).2.registry
    cases hbase : s.registry.get? record.base with
    | some stored =>
      rw [offer_of_get? hbase]
      exact hs
    | none =>
      rw [offer_of_none hbase]
      exact hs.put rfl
  | fetch key make => cases hplain

lemma filed_served (eval : Evaluator P C σ) (config : Config) (memory : σ)
    {requests : List (Request P C σ)} (hplain : ∀ request ∈ requests, request.isPlain = true) :
    Filed ((fresh config memory : Session P σ).served eval requests).registry := by
  refine served_induction (I := fun s' => Filed s'.registry) ?_ ?_
  · intro key record hrecord
    cases hrecord
  · intro s' hs' request hrequest
    exact hs'.serve (hplain request hrequest)

/-! ### What is stored stays -/

/-- Whatever is requested of a session, before some time and after it: the base rules are the keys
that were to be stored, each at its first place, and grow at the end only; a record stays stored
under its key with its provider, its rules and its stage, so a base rule leaves the uncompiled stage
once at most. A record that is offered is stored only if its base rule has none, and the answer is
the one that is stored. A record that is fetched is made only if there is none under the key, and if
that fails no record is stored. Unless records are fetched under keys of their own, every key is the
base rule of its record. -/
theorem registry_served (eval : Evaluator P C σ) (config : Config) (memory : σ)
    (earlier later : List (Request P C σ)) :
    let start : Session P σ := fresh config memory
    let mid := start.served eval earlier
    let last := mid.served eval later
    (mid.registry.bases = (start.keysOf eval earlier).eraseDups ∧ mid.registry.bases.Nodup ∧
      mid.registry.bases <+: last.registry.bases ∧
      ∀ request, (mid.serve eval request).2.registry.bases =
        (mid.keyOf? request).elim mid.registry.bases mid.registry.basesWith) ∧
    (∀ key record, mid.registry.get? key = some record →
      ∃ record', last.registry.get? key = some record' ∧ record.Continues record' ∧
        record'.stage = record.stage ∧ record'.dynamicRules? = record.dynamicRules?) ∧
    (∀ key, (mid.registry.stage key = .uncompiled ↔ key ∉ mid.registry.bases) ∧
      (mid.registry.stage key = .uncompiled ∨
        last.registry.stage key = mid.registry.stage key)) ∧
    (∀ record, mid.serve eval (.offer record) =
      match mid.registry.get? record.base with
      | some stored => (.stored stored, mid)
      | none =>
        (.stored record, { mid with registry := mid.registry.put record.base record })) ∧
    (∀ key make, mid.serve eval (.fetch key make) =
      match mid.registry.get? key, make mid with
      | some stored, _ => (.found .hit stored, mid)
      | none, (.ok record, made) =>
        (.found .compiled record, { made with registry := mid.registry.put key record })
      | none, (.error e, made) => (.failed e, { made with registry := mid.registry })) ∧
    ((∀ request ∈ earlier, request.isPlain = true) →
      ∀ key record, mid.registry.get? key = some record → record.base = key) := by
  intro start mid last
  have hbases : mid.registry.bases = (start.keysOf eval earlier).eraseDups :=
    bases_served eval config memory earlier
  have hkeeps : mid.store.Keeps last.store := keeps_served eval mid later
  refine ⟨⟨hbases, ?_, bases_prefix_served eval mid later, bases_serve eval mid⟩, ?_, ?_, ?_, ?_,
    filed_served eval config memory⟩
  · rw [hbases]
    exact OrderedMap.nodup_eraseDups _
  · intro key record hrecord
    obtain ⟨record', hrecord', hcontinues⟩ := hkeeps key record hrecord
    exact ⟨record', hrecord', hcontinues, hcontinues.stage_eq, hcontinues.dynamicRules?_eq⟩
  · intro key
    exact ⟨Registry.stage_eq_uncompiled_iff, hkeeps.stage_eq key⟩
  · exact serve_offer eval mid
  · exact serve_fetch eval mid

/-- A definition with one fixed value. -/
def reddened : Definition Unit := ⟨[("color", .fixed (.text "red"))]⟩

/-- A manager is initialised for a base rule, and a record of another one is offered for it. -/
def offeredLate : List (Request Unit Unit Unit) :=
  [.command (.addManager "first" ".A" reddened), .command (.initialise "first"),
    .offer (Record.compile ".A" 7 .empty .empty).1, .offer (Record.compile ".B" 8 .empty .empty).1]

/-- A record is asked for that cannot be made. -/
def unmade : List (Request Unit Unit Unit) :=
  [.fetch ".C" fun s => (.error (.parse (.refused "no")), s)]

/-- The offer changes nothing, and the record of the manager is still there when records have been
asked for that could not be made. -/
theorem registry_served_offeredLate :
    (∀ request ∈ offeredLate, request.isPlain = true) ∧
      ∃ record,
        ((fresh .standard () : Session Unit Unit).served .silent offeredLate).registry.get? ".A" =
          some record ∧
        record.base = ".A" ∧ record.provider = 0 ∧
        ((fresh .standard () : Session Unit Unit).served .silent offeredLate).registry.bases =
          [".A", ".B"] ∧
        ∃ record', (((fresh .standard () : Session Unit Unit).served .silent offeredLate).served
            .silent unmade).registry.get? ".A" = some record' ∧ record.Continues record' := by
  have hplain : ∀ request ∈ offeredLate, request.isPlain = true := by
    simp [offeredLate, Request.isPlain]
  obtain ⟨⟨hbases, -, -, -⟩, hstays, -, -, -, hfiled⟩ :=
    registry_served .silent .standard () offeredLate unmade
  let record : Record Unit :=
    (Record.compile ".A" 0 reddened .empty).1.withStatic ".A \x7b\ncolor: red;\n\x7d\n"
  have hrecord : ((fresh .standard () : Session Unit Unit).served .silent
      offeredLate).registry.get? ".A" = some record := rfl
  have hkeys : (fresh .standard () : Session Unit Unit).keysOf .silent offeredLate =
      [".A", ".A", ".B"] := rfl
  obtain ⟨record', hrecord', hcontinues, -, -⟩ := hstays ".A" record hrecord
  refine ⟨hplain, record, hrecord, hfiled hplain ".A" record hrecord, rfl, ?_, record', hrecord',
    hcontinues⟩
  rw [hbases, hkeys]
  decide

end Session

end Restyle
