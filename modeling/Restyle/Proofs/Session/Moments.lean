import Mathlib.Tactic.Lemma
import Restyle.Session.Run

/-!
# The moments of a run

A run of a session is looked at command by command: a `Moment` is a command with the session that it
found, and `Session.moments` lists the moments of a run. What a run did is said through this list,
for instance which definition it compiled for a base rule (`Session.firstCompiled?`) and which
dynamic texts it was asked to write to a record (`Session.dynamicWrites`).

Invariants of a run are proved by `Session.after_induction`. They hold at every moment of the run as
well, since the session of a moment is the last one of a shorter run
(`Session.exists_append_of_mem_moments`).
-/

namespace Restyle

variable {P C σ : Type}

/-- Producers that give the empty text, for components and a memory that say nothing. -/
def Evaluator.silent : Evaluator P Unit Unit := fun _ _ memory => (.ok (.text ""), memory)

/-- A command of a run, with the session that it found. -/
structure Moment (P C σ : Type) where
  /-- The session before the command. -/
  before : Session P σ
  /-- The command. -/
  command : Command P C

namespace Moment

/-- What the command answered. -/
def reply (eval : Evaluator P C σ) (moment : Moment P C σ) : Reply P :=
  (moment.before.step eval moment.command).1

/-- The session that the command left. -/
def later (eval : Evaluator P C σ) (moment : Moment P C σ) : Session P σ :=
  (moment.before.step eval moment.command).2

/-- A moment at which a manager of a base rule is initialised. -/
def Initialises (moment : Moment P C σ) (base : String) : Prop :=
  ∃ name m, moment.command = .initialise name ∧ moment.before.manager? name = some m ∧
    m.base = base

end Moment

/-- Whether a command is one that the owners of managers give: it makes a manager, changes what a
provider gives, initialises or updates; or it is the doing of a target that begins or ceases to
refuse texts. -/
def Command.isManagerial : Command P C → Bool
  | .addManager _ _ _ => true
  | .define _ _ => true
  | .initialise _ => true
  | .update _ _ => true
  | .setDetached _ _ _ => true
  | _ => false

/-- Whether a command makes or initialises the manager of a name. -/
def Command.renews (name : String) : Command P C → Bool
  | .addManager other _ _ => other = name
  | .initialise other => other = name
  | _ => false

namespace Session

/-- The moments of a run. -/
def moments (eval : Evaluator P C σ) (s : Session P σ) :
    List (Command P C) → List (Moment P C σ)
  | [] => []
  | command :: rest => ⟨s, command⟩ :: (s.step eval command).2.moments eval rest

/-! ### Runs and their parts -/

section Runs

variable (eval : Evaluator P C σ) (s : Session P σ)

@[simp] lemma after_nil : s.after eval ([] : List (Command P C)) = s := rfl

lemma after_cons (command : Command P C) (rest : List (Command P C)) :
    s.after eval (command :: rest) = (s.step eval command).2.after eval rest := rfl

lemma after_append (xs ys : List (Command P C)) :
    s.after eval (xs ++ ys) = (s.after eval xs).after eval ys :=
  List.foldl_append

lemma after_concat (xs : List (Command P C)) (command : Command P C) :
    s.after eval (xs ++ [command]) = ((s.after eval xs).step eval command).2 := by
  rw [after_append, after_cons, after_nil]

lemma moments_append (xs ys : List (Command P C)) :
    s.moments eval (xs ++ ys) = s.moments eval xs ++ (s.after eval xs).moments eval ys := by
  induction xs generalizing s with
  | nil => rfl
  | cons command rest ih =>
    rw [List.cons_append, moments, moments, ih, after_cons, List.cons_append]

lemma moments_concat (xs : List (Command P C)) (command : Command P C) :
    s.moments eval (xs ++ [command]) = s.moments eval xs ++ [⟨s.after eval xs, command⟩] :=
  moments_append eval s xs [command]

/-- What one more command adds to a list of things picked from the moments of a run. -/
lemma filterMap_moments_concat {α : Type} (f : Moment P C σ → Option α)
    (xs : List (Command P C)) (command : Command P C) :
    (s.moments eval (xs ++ [command])).filterMap f =
      (s.moments eval xs).filterMap f ++ (f ⟨s.after eval xs, command⟩).toList := by
  rw [moments_concat, List.filterMap_append]
  cases h : f ⟨s.after eval xs, command⟩ <;> simp [h]

/-- A moment of a run divides the run into what was before it, its command, and the rest. -/
lemma exists_append_of_mem_moments {commands : List (Command P C)} {moment : Moment P C σ}
    (h : moment ∈ s.moments eval commands) :
    ∃ pre post, commands = pre ++ moment.command :: post ∧ moment.before = s.after eval pre := by
  induction commands generalizing s with
  | nil => cases h
  | cons command rest ih =>
    rcases List.mem_cons.mp h with rfl | hrest
    · exact ⟨[], rest, rfl, rfl⟩
    · obtain ⟨pre, post, hsplit, hbefore⟩ := ih _ hrest
      refine ⟨command :: pre, post, ?_, hbefore⟩
      rw [hsplit, List.cons_append]

end Runs

section Induction

variable {eval : Evaluator P C σ} {I : Session P σ → Prop} {s : Session P σ}
  {commands : List (Command P C)}

/-- What every command of a run keeps holds after the run. -/
lemma after_induction (hs : I s)
    (hstep : ∀ s', I s' → ∀ command ∈ commands, I (s'.step eval command).2) :
    I (s.after eval commands) :=
  List.foldlRecOn commands _ hs hstep

end Induction

/-! ### What a run compiles and writes -/

/-- The definition that a command compiles for a base rule, if the command is an initialisation that
finds no record for it: the one that the provider of the manager gives. -/
def compiles? (s : Session P σ) (base : String) : Command P C → Option (Definition P)
  | .initialise name =>
    match s.manager? name with
    | some m =>
      if m.base = base && (s.registry.get? base).isNone then
        some (s.providers.definition m.provider)
      else none
    | none => none
  | _ => none

/-- The definition that was compiled first for a base rule in a run of managers. -/
def firstCompiled? (eval : Evaluator P C σ) (s : Session P σ) (base : String)
    (commands : List (Command P C)) : Option (Definition P) :=
  (s.moments eval commands).findSome? fun moment => moment.before.compiles? base moment.command

lemma firstCompiled?_append (eval : Evaluator P C σ) (s : Session P σ) (base : String)
    (xs ys : List (Command P C)) :
    s.firstCompiled? eval base (xs ++ ys) =
      (s.firstCompiled? eval base xs).or ((s.after eval xs).firstCompiled? eval base ys) := by
  rw [firstCompiled?, moments_append, List.findSome?_append]
  rfl

lemma firstCompiled?_concat (eval : Evaluator P C σ) (s : Session P σ) (base : String)
    (xs : List (Command P C)) (command : Command P C) :
    s.firstCompiled? eval base (xs ++ [command]) =
      (s.firstCompiled? eval base xs).or ((s.after eval xs).compiles? base command) := by
  rw [firstCompiled?_append]
  congr 1
  simp [firstCompiled?, moments]

end Session

/-- A dynamic text that is to be written. -/
structure DynamicWrite where
  /-- The text. -/
  text : String
  /-- Whether the text is to be skipped if it is the latest one already. -/
  skip : Bool

namespace Session

/-- The text that an update of a manager writes, if it gets that far. -/
def renderedText? (eval : Evaluator P C σ) (s : Session P σ) (m : Manager P)
    (component : Option C) : Option String :=
  match s.renderedBy m with
  | some (_, rules) =>
    match (rules.render eval component s.config.layout s.memory).1 with
    | .ok text => some text
    | .error _ => none
  | none => none

/-- The dynamic text that a command asks to be written to the record of a key: directly, or by the
update of a manager whose rules can be rendered. -/
def dynamicWrite? (eval : Evaluator P C σ) (s : Session P σ) (key : String) :
    Command P C → Option DynamicWrite
  | .writeDynamic other text skip =>
    if other = key && s.registry.contains key then some ⟨text, skip⟩ else none
  | .update name component =>
    match s.manager? name with
    | some m =>
      if m.base = key then
        (s.renderedText? eval m component).map fun text => ⟨text, s.config.skipUnchanged⟩
      else none
    | none => none
  | _ => none

/-- The dynamic texts that a run was asked to write to the record of a key, in order. -/
def dynamicWrites (eval : Evaluator P C σ) (s : Session P σ) (key : String)
    (commands : List (Command P C)) : List DynamicWrite :=
  (s.moments eval commands).filterMap fun moment =>
    moment.before.dynamicWrite? eval key moment.command

end Session

end Restyle
