import Restyle.Session.Basic

/-!
# Runs of a session

A command is one thing that can be done to a session, and a run is a list of commands done one after
another. A command names managers by name and records by key; where there is none of that name or
key, nothing happens.

What a command did beyond its reply shows in the difference between the two sessions: targets
requested, texts written, providers called.
-/

namespace Restyle

variable {P C σ : Type}

/-- One thing that can be done to a session. -/
inductive Command (P C : Type) where
  /-- Adds a manager, in place of one of the same name. -/
  | addManager (name base : String) (d : Definition P)
  /-- Changes what the provider of a manager gives. -/
  | define (name : String) (d : Definition P)
  /-- Initialises a manager. -/
  | initialise (name : String)
  /-- Updates a manager for a component. -/
  | update (name : String) (component : Option C)
  /-- Compiles a record and stores it, unless there is one. -/
  | create (base : String) (d : Definition P)
  /-- Gives the record of a key and compiles it if there is none, unless there is a reason to
  refuse. -/
  | getOrCompile (key base : String) (d : Definition P) (refusal : Option String)
  /-- Writes the fixed text of a record. -/
  | writeStatic (key : String) (layout : Layout)
  /-- Writes a dynamic text to a record. -/
  | writeDynamic (key text : String) (skipUnchanged : Bool)
  /-- Calls the provider of a record. -/
  | callProvider (key : String)
  /-- Detaches the targets of an output, or attaches them again. -/
  | setDetached (base : String) (kind : TargetKind) (on : Bool)

/-- What a command answers. -/
inductive Reply (P : Type) where
  /-- The command has nothing to say. -/
  | done
  /-- Whether a target was written. -/
  | written (changed : Bool)
  /-- The record that is stored. -/
  | stored (record : Record P)
  /-- A record, and how it was come by. -/
  | found (how : Found) (record : Record P)
  /-- What a provider gave. -/
  | given (d : Definition P)
  /-- There is no manager of the name. -/
  | noManager
  /-- There is no record under the key. -/
  | noRecord
  /-- The command failed. -/
  | failed (e : StyleError)

/-- The reply to a command that can fail. -/
def Reply.ofExcept {α : Type} (reply : α → Reply P) : Except StyleError α → Reply P
  | .ok a => reply a
  | .error e => .failed e

namespace Session

/-- Does something with the manager of a name. -/
def withManager (s : Session P σ) (name : String) (act : Manager P → Reply P × Session P σ) :
    Reply P × Session P σ :=
  match s.manager? name with
  | some m => act m
  | none => (.noManager, s)

/-- Does something with the record of a key. -/
def withRecord (s : Session P σ) (key : String) (act : Record P → Reply P × Session P σ) :
    Reply P × Session P σ :=
  match s.registry.get? key with
  | some record => act record
  | none => (.noRecord, s)

/-- Does a command. -/
def step (eval : Evaluator P C σ) (s : Session P σ) : Command P C → Reply P × Session P σ
  | .addManager name base d => (.done, s.addManager name base d)
  | .define name d => s.withManager name fun m => (.done, s.define m d)
  | .initialise name =>
    s.withManager name fun m => (s.initialise name m).map (.ofExcept fun _ => .done) id
  | .update name component =>
    s.withManager name fun m => (s.update eval m component).map (.ofExcept .written) id
  | .create base d => (s.create base d).map .stored id
  | .getOrCompile key base d refusal =>
    (s.getOrCompile key base d refusal).map (.ofExcept fun f => .found f.1 f.2) id
  | .writeStatic key layout =>
    s.withRecord key fun r => (s.writeStatic key r layout).map (.ofExcept .written) id
  | .writeDynamic key text skipUnchanged =>
    s.withRecord key fun r => (s.writeDynamic key r text skipUnchanged).map (.ofExcept .written) id
  | .callProvider key => s.withRecord key fun r => (s.callProvider r).map .given id
  | .setDetached base kind on => (.done, s.setDetached base kind on)

/-- The session after a list of commands. -/
def after (eval : Evaluator P C σ) (s : Session P σ) (commands : List (Command P C)) :
    Session P σ :=
  commands.foldl (fun s command => (s.step eval command).2) s

/-- The replies to a list of commands. -/
def replies (eval : Evaluator P C σ) (s : Session P σ) : List (Command P C) → List (Reply P)
  | [] => []
  | command :: rest =>
    let (reply, s) := s.step eval command
    reply :: s.replies eval rest

end Session

/-- What happened between two sessions of a run. -/
structure Activity where
  /-- The targets requested. -/
  opened : List TargetId
  /-- The successful writes. -/
  writes : List (TargetId × String)
  /-- The number of calls to providers. -/
  providerCalls : Nat
deriving Repr, DecidableEq

/-- What happened from one session of a run to a later one. -/
def Session.activity (earlier later : Session P σ) : Activity where
  opened := later.targets.opened.drop earlier.targets.opened.length
  writes := later.targets.log.drop earlier.targets.log.length
  providerCalls := later.providers.calls - earlier.providers.calls

end Restyle
