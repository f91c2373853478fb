import Restyle.Registry

/-!
# Sessions

A session is one registry with its targets and providers, and the managers that share them. A
manager belongs to one instance of a component: it is initialised when the instance appears and
updated whenever the instance changes.

The first initialisation for a base rule compiles the definition that its provider gives; later ones
keep that record and only take new values for its dynamic rules. An update renders the dynamic rules
of its manager for a component.

Every operation answers together with the session that follows. An operation on a manager that does
not exist has no answer.
-/

namespace Restyle

variable {P C σ : Type}

/-- The styles of one instance of a component. -/
structure Manager (P : Type) where
  /-- The base rule. -/
  base : String
  /-- The provider of the instance's definition. -/
  provider : ProviderId
  /-- Whether an initialisation has succeeded. -/
  initialised : Bool
  /-- The dynamic rules of the latest initialisation. -/
  dynamicRules : Option (RuleSet P)

/-- A registry with everything around it. -/
structure Session (P σ : Type) where
  /-- The records. -/
  registry : Registry P
  /-- The targets of the records. -/
  targets : Targets
  /-- The providers of managers and records. -/
  providers : Providers P
  /-- The managers by name. -/
  managers : OrderedMap (Manager P)
  /-- The memory of the producers. -/
  memory : σ

namespace Session

/-- The session in which nothing has happened. -/
def fresh (config : Config) (memory : σ) : Session P σ :=
  ⟨.fresh config, .empty, .empty, .empty, memory⟩

/-- The configuration shared by all managers. -/
def config (s : Session P σ) : Config := s.registry.config

/-- The manager of a name. -/
def manager? (s : Session P σ) (name : String) : Option (Manager P) := s.managers.get? name

/-- The stage of a manager: that of its record, once it is initialised. -/
def stageOf (s : Session P σ) (m : Manager P) : Stage :=
  if m.initialised then s.registry.stage m.base else .uncompiled

/-- Adds a manager with a provider of its own; a manager of the same name is gone. -/
def addManager (s : Session P σ) (name base : String) (d : Definition P) : Session P σ :=
  let (provider, providers) := s.providers.add d
  { s with providers, managers := s.managers.insert name ⟨base, provider, false, none⟩ }

/-- Changes what the provider of a manager gives. -/
def define (s : Session P σ) (m : Manager P) (d : Definition P) : Session P σ :=
  { s with providers := s.providers.change m.provider d }

/-- The dynamic rules that an initialisation leaves with its manager: those of the record, and if
the record was there before, with the values of the manager's own definition. -/
def rulesFor (found : Found) (record : Record P) (base : String) (d : Definition P) :
    Option (RuleSet P) :=
  match found with
  | .compiled => record.dynamicRules?
  | .hit => record.dynamicRules?.map fun compiled => compiled.refresh d base

/-- Initialises a manager. The provider is called in any case. The fixed text is written if it has
not been; if that fails, the record stays stored, the manager has its new dynamic rules, and whether
it counts as initialised does not change. -/
def initialise (s : Session P σ) (name : String) (m : Manager P) :
    Except StyleError Unit × Session P σ :=
  let (d, providers) := s.providers.call m.provider
  let s := { s with providers }
  let compile := fun targets => Except.ok (Record.compile m.base m.provider d targets)
  match s.registry.getOrCompile m.base compile s.targets with
  | .error e => (.error e, s)
  | .ok ((found, record), registry, targets) =>
    let m := { m with dynamicRules := rulesFor found record m.base d }
    let s := { s with registry, targets, managers := s.managers.insert name m }
    match record.writeStatic s.config.layout targets with
    | .error e => (.error e, s)
    | .ok (_, record, targets) =>
      (.ok (), { s with
        registry := s.registry.put m.base record
        targets
        managers := s.managers.insert name { m with initialised := true } })

/-- The record and the rules that an update of a manager renders, if it renders any: the manager
must be initialised and its record must have something dynamic. A manager without rules of its own
takes those of the record. -/
def renderedBy (s : Session P σ) (m : Manager P) : Option (Record P × RuleSet P) :=
  if m.initialised then
    match s.registry.get? m.base with
    | none => none
    | some record =>
      if record.stage = .staticAndDynamic then
        (m.dynamicRules.or record.dynamicRules?).map fun rules => (record, rules)
      else none
  else none

/-- Updates a manager for a component: renders its dynamic rules and writes the text. The answer
says whether the target was written. The memory of the producers is kept even if the update fails.
-/
def update (s : Session P σ) (eval : Evaluator P C σ) (m : Manager P) (component : Option C) :
    Except StyleError Bool × Session P σ :=
  match s.renderedBy m with
  | none => (.ok false, s)
  | some (record, rules) =>
    let (rendered, memory) := rules.render eval component s.config.layout s.memory
    let s := { s with memory }
    match rendered with
    | .error e => (.error e, s)
    | .ok text =>
      match record.writeDynamic text s.config.skipUnchanged s.targets with
      | .error e => (.error e, s)
      | .ok (written, record, targets) =>
        (.ok written, { s with registry := s.registry.put m.base record, targets })

/-- Compiles a record with a provider of its own and stores it, unless its base rule has one
already. Targets are requested in either case. -/
def create (s : Session P σ) (base : String) (d : Definition P) : Record P × Session P σ :=
  let (provider, providers) := s.providers.add d
  let (record, targets) := Record.compile base provider d s.targets
  let (stored, registry) := s.registry.create record
  (stored, { s with providers, registry, targets })

/-- Gives the record of a key. If there is none, a record is compiled for `base` with a provider of
its own and stored under the key, unless there is a reason to refuse. -/
def getOrCompile (s : Session P σ) (key base : String) (d : Definition P)
    (refusal : Option String) : Except StyleError (Found × Record P) × Session P σ :=
  let compile := fun (state : Providers P × Targets) =>
    match refusal with
    | some reason => .error (.parse (.refused reason))
    | none =>
      let (provider, providers) := state.1.add d
      let (record, targets) := Record.compile base provider d state.2
      .ok (record, (providers, targets))
  match s.registry.getOrCompile key compile (s.providers, s.targets) with
  | .error e => (.error e, s)
  | .ok (found, registry, (providers, targets)) =>
    (.ok found, { s with registry, providers, targets })

/-- Writes the fixed text of a record in the given layout. -/
def writeStatic (s : Session P σ) (key : String) (record : Record P) (layout : Layout) :
    Except StyleError Bool × Session P σ :=
  match record.writeStatic layout s.targets with
  | .error e => (.error e, s)
  | .ok (written, record, targets) =>
    (.ok written, { s with registry := s.registry.put key record, targets })

/-- Writes a dynamic text to the target of a record. -/
def writeDynamic (s : Session P σ) (key : String) (record : Record P) (text : String)
    (skipUnchanged : Bool) : Except StyleError Bool × Session P σ :=
  match record.writeDynamic text skipUnchanged s.targets with
  | .error e => (.error e, s)
  | .ok (written, record, targets) =>
    (.ok written, { s with registry := s.registry.put key record, targets })

/-- Calls the provider of a record. -/
def callProvider (s : Session P σ) (record : Record P) : Definition P × Session P σ :=
  let (d, providers) := s.providers.call record.provider
  (d, { s with providers })

/-- Detaches the targets of an output, or attaches them again. -/
def setDetached (s : Session P σ) (base : String) (kind : TargetKind) (on : Bool) : Session P σ :=
  { s with targets := s.targets.setDetached base kind on }

end Session

end Restyle
