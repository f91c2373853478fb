import Restyle.Proofs.Definition.Loading
import Restyle.Proofs.Session.ManagerRules

/-!
# Sessions with loaded definitions

A walk of a definition without produced values meets fixed declarations and timelines that produce
nothing, so its compilation never puts anything among the dynamic rules
(`Definition.IsFixed.dynamicRules_compile`). A session keeps the compilation of a record for good.
Once a loaded definition was compiled under a key, by whatever command, the record stays without
dynamic rules, and no update of a manager with this base rule renders anything
(`Session.static_of_loaded`).
-/

namespace Restyle

variable {P C σ : Type}

/-! ### Compilations without dynamic rules -/

namespace Definition

variable {d : Definition P}

/-- A timeline that stands in a definition without produced values produces nothing. -/
lemma IsFixed.isDynamicTimeline_eq_false (h : d.IsFixed) {path : List String} {key : String}
    {timeline : Definition P} (hholds : d.Holds path key (.nested timeline)) :
    timeline.isDynamicTimeline = false := by
  refine Bool.eq_false_iff.mpr fun hdynamic => ?_
  obtain ⟨offset, frame, property, producer, hframe, hvalue⟩ := isDynamicTimeline_iff.mp hdynamic
  exact h _ property producer (hholds.append (.inside hframe (.here hvalue)))

/-- A definition without produced values has no dynamic rules, whatever it is compiled for. -/
lemma IsFixed.dynamicRules_compile (h : d.IsFixed) (base : String) :
    (d.compile base).dynamicRules = .empty := by
  refine List.foldlRecOn (motive := fun c : Compilation P => c.dynamicRules = .empty)
    (d.walk base) _ rfl fun c hc event hevent => ?_
  rw [walk_eq_map_sites] at hevent
  obtain ⟨⟨path, key, entry⟩, hsite, rfl⟩ := List.mem_map.mp hevent
  obtain ⟨hholds, -, -⟩ := of_mem_sites hsite
  cases entry with
  | fixed value =>
    change c.dynamicRules.erase _ _ = .empty
    rw [hc]
    rfl
  | computed producer => exact absurd hholds (h path key producer)
  | nested timeline =>
    have hstatic := h.isDynamicTimeline_eq_false hholds
    change (c.record (.keyframes _ key timeline)).dynamicRules = .empty
    rw [Compilation.record_keyframes_of_static c _ key hstatic, hc]
    rfl

end Definition

namespace Session

/-! ### Commands that compile -/

/-- A command compiles a definition for a base rule and stores the record under a key. -/
inductive Compiles (s : Session P σ) : Command P C → String → String → Definition P → Prop
  /-- An initialisation of a manager whose base rule has no record yet. -/
  | initialise {name : String} {m : Manager P} (hm : s.manager? name = some m)
      (hnone : s.registry.get? m.base = none) :
      Compiles s (.initialise name) m.base m.base (s.definitionOf m)
  /-- A creation for a base rule without record. -/
  | create {base : String} {d : Definition P} (hnone : s.registry.get? base = none) :
      Compiles s (.create base d) base base d
  /-- A request for the record of a key without one. -/
  | getOrCompile {key base : String} {d : Definition P} (hnone : s.registry.get? key = none) :
      Compiles s (.getOrCompile key base d none) key base d

variable {eval : Evaluator P C σ} {s : Session P σ} {command : Command P C} {key base : String}
  {d : Definition P}

lemma Compiles.get?_eq_none (h : s.Compiles command key base d) : s.registry.get? key = none := by
  cases h with
  | initialise hm hnone => exact hnone
  | create hnone => exact hnone
  | getOrCompile hnone => exact hnone

/-- A command that compiles leaves a record with the compilation, also if an initialisation fails to
write the fixed text. -/
lemma Compiles.exists_record (h : s.Compiles command key base d) (eval : Evaluator P C σ) :
    ∃ record, (s.step eval command).2.registry.get? key = some record ∧
      record.compiled = d.compile base := by
  cases h with
  | @initialise name m hm hnone =>
    have hcompiled : (s.acquired m).1.2.compiled = (s.definitionOf m).compile m.base := by
      rw [acquired_of_none s m hnone, Record.compiled_compile]
    have hstep : (s.step eval (.initialise name)).2 = (s.initialise name m).2 := by
      rw [step, withManager_of_some hm]
      rfl
    rw [hstep, initialise_eq]
    cases hwrite : (s.acquired m).1.2.writeStatic s.config.layout (s.prepared name m).targets with
    | error e => exact ⟨_, get?_prepared s name m, hcompiled⟩
    | ok result =>
      obtain ⟨written, record, targets⟩ := result
      have hcontinues := (Record.continues_of_writeStatic_ok hwrite).1
      exact ⟨record, Registry.get?_put_self, hcontinues.compiled.trans hcompiled⟩
  | create hnone =>
    have hregistry : (s.step eval (.create key d)).2.registry =
        (s.registry.create (Record.compile key s.providers.current.length d s.targets).1).2 := rfl
    rw [hregistry, Registry.create, Record.base_compile, hnone]
    exact ⟨_, Registry.get?_put_self, Record.compiled_compile ..⟩
  | getOrCompile hnone =>
    change ∃ record, (s.getOrCompile key base d none).2.registry.get? key = some record ∧ _
    rw [Session.getOrCompile, Registry.getOrCompile, hnone]
    exact ⟨_, Registry.get?_put_self, Record.compiled_compile base s.providers.current.length ..⟩

/-! ### Records without dynamic rules -/

/-- A manager without a record for its base rule renders nothing. -/
lemma renderedBy_of_get?_eq_none {m : Manager P} (h : s.registry.get? m.base = none) :
    s.renderedBy m = none := by
  simp [renderedBy, h]

/-- Once the record of a key has no dynamic rules, its stage and the updates of its managers show
it for the rest of the run. -/
lemma static_after {record : Record P} (hrecord : s.registry.get? key = some record)
    (hempty : record.compiled.dynamicRules.isEmpty = true) (rest : List (Command P C)) :
    (s.after eval rest).registry.stage key = .staticOnly ∧
      ∀ m : Manager P, m.base = key → ∀ component,
        (s.after eval rest).update eval m component = (.ok false, s.after eval rest) := by
  obtain ⟨later, hlater, hcontinues⟩ := keeps_after eval s rest key record hrecord
  change (s.after eval rest).registry.get? key = some later at hlater
  rw [← hcontinues.compiled] at hempty
  constructor
  · rw [Registry.stage, hlater]
    exact Record.stage_of_isEmpty hempty
  · rintro m rfl component
    exact update_of_renderedBy_eq_none (renderedBy_of_isEmpty hlater hempty)

/-- Every object and every mapping is loaded to the one definition that it gives: a nested entry for
each object or mapping and a fixed one for all else, at any depth, with each key at its first place
and with its last value. The keys of a mapping count as the texts that they have.

No produced value stands in a loaded definition. So its compilation has no dynamic rules for any
base rule, and its record has nothing to render again. When a command compiles it and stores the
record under a key, updates of the managers with this key for their base rule answer that nothing
was written, right before the command and at any time after it. -/
theorem static_of_loaded (eval : Evaluator P C σ) :
    (∀ members, ∃ d : Definition P, Definition.ofJson (.object members) = .ok d ∧
      ∀ entry, Json.reading.Gives (.object members) entry ↔ entry = .nested d) ∧
    (∀ pairs, ∃ d : Definition P, Definition.ofYaml (.mapping pairs) = .ok d ∧
      ∀ entry, Yaml.Value.reading.Gives (.mapping pairs) entry ↔ entry = .nested d) ∧
    (∀ (key : Yaml.Value) (text : String), key.KeyText text ↔ text = key.name) ∧
    ∀ d : Definition P, d.Loaded →
      (∀ path key producer, ¬d.Holds path key (.computed producer)) ∧
      ∀ base, (d.compile base).dynamicRules = .empty ∧
        (∀ provider targets, (Record.compile base provider d targets).1.stage = .staticOnly) ∧
        ∀ (s : Session P σ) (command : Command P C) (key : String),
          s.Compiles command key base d →
            (∀ m : Manager P, m.base = key → ∀ component,
              s.update eval m component = (.ok false, s)) ∧
            ∀ rest, (s.after eval (command :: rest)).registry.stage key = .staticOnly ∧
              ∀ m : Manager P, m.base = key → ∀ component,
                (s.after eval (command :: rest)).update eval m component =
                  (.ok false, s.after eval (command :: rest)) := by
  refine ⟨Definition.gives_ofJson_iff, Definition.gives_ofYaml_iff,
    fun _ _ => Yaml.Value.keyText_iff, fun d hloaded => ?_⟩
  have hfixed : d.IsFixed := hloaded.isFixed
  refine ⟨hfixed, fun base => ?_⟩
  have hdynamic : (d.compile base).dynamicRules = .empty := hfixed.dynamicRules_compile base
  have hempty : (d.compile base).dynamicRules.isEmpty = true := by
    rw [hdynamic]
    rfl
  refine ⟨hdynamic, fun provider targets => Record.stage_of_isEmpty hempty,
    fun s command key hcompiles => ⟨?_, fun rest => ?_⟩⟩
  · rintro m rfl component
    exact update_of_renderedBy_eq_none (renderedBy_of_get?_eq_none hcompiles.get?_eq_none)
  · obtain ⟨record, hrecord, hcompiled⟩ := hcompiles.exists_record eval
    rw [← hcompiled] at hempty
    exact static_after hrecord hempty rest

/-- Pairs of a mapping in which the keys `1` and `"1"` have one text. -/
def collapsingPairs : List (Yaml.Value × Yaml.Value) :=
  [(.number (.whole 1), .string "red"),
    (.null, .tagged "!states" (.mapping [(.string "color", .string "blue")])),
    (.string "1", .bool true)]

/-- The two keys become one, a tagged mapping is nested, and a manager with this definition has
nothing to update. -/
theorem static_of_loaded_collapsingPairs :
    ∃ d : Definition Unit, Definition.ofYaml (.mapping collapsingPairs) = .ok d ∧
      d = ⟨[("1", .fixed (.text "true")), ("null", .nested ⟨[("color", .fixed (.text "blue"))]⟩)]⟩ ∧
      (d.compile ".A").dynamicRules = .empty ∧
      ∃ s : Session Unit Unit,
        s = ((fresh .standard ()).addManager "m" ".A" d).after .silent [.initialise "m"] ∧
        s.registry.stage ".A" = .staticOnly ∧
        ∃ m, s.manager? "m" = some m ∧ s.update .silent m (some ()) = (.ok false, s) := by
  obtain ⟨-, hyaml, -, hstatic⟩ := static_of_loaded (P := Unit) .silent
  obtain ⟨d, hd, -⟩ := hyaml collapsingPairs
  obtain ⟨-, hcompile⟩ := hstatic d (.yaml hd)
  obtain ⟨hdynamic, -, hsession⟩ := hcompile ".A"
  have heq : d = ⟨[("1", .fixed (.text "true")),
      ("null", .nested ⟨[("color", .fixed (.text "blue"))]⟩)]⟩ :=
    (Except.ok.inj hd).symm
  have hcompiles : ((fresh .standard ()).addManager "m" ".A" d).Compiles
      (.initialise "m" : Command Unit Unit) ".A" ".A" d :=
    .initialise (m := ⟨".A", 0, false, none⟩) rfl rfl
  obtain ⟨-, hlater⟩ := hsession _ _ ".A" hcompiles
  obtain ⟨hstage, hupdate⟩ := hlater []
  have hmanager : (((fresh .standard ()).addManager "m" ".A" d).after .silent
      [(.initialise "m" : Command Unit Unit)]).manager? "m" = some ⟨".A", 0, true, none⟩ := by
    subst heq
    rfl
  exact ⟨d, hd, heq, hdynamic, _, rfl, hstage, _, hmanager, hupdate _ rfl (some ())⟩

end Session

end Restyle
