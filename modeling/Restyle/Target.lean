/-!
# Output targets

A base rule has up to two outputs, one for its fixed text and one for its dynamic text. A target is
requested for each and receives complete texts. All targets share one log of writes, oldest first;
the content of a target is its latest write. Targets can be detached by base rule and kind: a write
to a detached target is refused and leaves no trace.
-/

namespace Restyle

/-- Which of the two outputs of a base rule a target holds. -/
inductive TargetKind where
  /-- The output that is written once. -/
  | static
  /-- The output that is written again when its text changes. -/
  | dynamic
deriving Repr, DecidableEq

/-- The name of a kind of target. -/
def TargetKind.name : TargetKind → String
  | .static => "static"
  | .dynamic => "dynamic"

/-- The kind of target with the given name. -/
def TargetKind.ofName? (s : String) : Option TargetKind :=
  if s = "static" then some .static
  else if s = "dynamic" then some .dynamic
  else none

/-- A kind of target is found under its name. -/
@[simp] theorem TargetKind.ofName?_name (kind : TargetKind) : ofName? kind.name = some kind := by
  cases kind <;> rfl

/-- A target. Of the targets requested for one base rule and kind, `serial` counts the earlier ones.
-/
structure TargetId where
  /-- The base rule that the target was requested for. -/
  base : String
  /-- The output that the target holds. -/
  kind : TargetKind
  /-- The number of earlier targets for the same output. -/
  serial : Nat
deriving Repr, DecidableEq

/-- Whether a target holds the given output. -/
def TargetId.holds (id : TargetId) (base : String) (kind : TargetKind) : Bool :=
  id.base = base && id.kind = kind

/-- The targets requested so far and what was written to them. -/
structure Targets where
  /-- The targets in order of request. -/
  opened : List TargetId
  /-- The successful writes to all targets, oldest first. -/
  log : List (TargetId × String)
  /-- The outputs whose targets refuse to be written. -/
  detached : List (String × TargetKind)
deriving Repr, DecidableEq

namespace Targets

/-- No target. -/
def empty : Targets := ⟨[], [], []⟩

/-- What a detached target gives as its reason. -/
def refusal : String := "detached"

/-- The targets requested for an output, in order of request. -/
def requestedFor (t : Targets) (base : String) (kind : TargetKind) : List TargetId :=
  t.opened.filter fun id => id.holds base kind

/-- Requests a new target. -/
def request (t : Targets) (base : String) (kind : TargetKind) : TargetId × Targets :=
  let id : TargetId := ⟨base, kind, (t.requestedFor base kind).length⟩
  (id, { t with opened := t.opened ++ [id] })

/-- Requests a new target if it is wanted. -/
def requestIf (t : Targets) (wanted : Bool) (base : String) (kind : TargetKind) :
    Option TargetId × Targets :=
  if wanted then
    let (id, t) := t.request base kind
    (some id, t)
  else (none, t)

/-- Whether the targets of an output refuse to be written. -/
def isDetached (t : Targets) (base : String) (kind : TargetKind) : Bool :=
  t.detached.contains (base, kind)

/-- Detaches the targets of an output, or attaches them again. -/
def setDetached (t : Targets) (base : String) (kind : TargetKind) (on : Bool) : Targets :=
  let others := t.detached.filter fun output => output ≠ (base, kind)
  { t with detached := if on then others ++ [(base, kind)] else others }

/-- Writes a text to a target, or gives the reason why the target refuses it. -/
def write (t : Targets) (id : TargetId) (text : String) : Except String Targets :=
  if t.isDetached id.base id.kind then .error refusal
  else .ok { t with log := t.log ++ [(id, text)] }

/-- The texts written to a target, oldest first. -/
def writes (t : Targets) (id : TargetId) : List String :=
  t.log.filterMap fun entry => if entry.1 = id then some entry.2 else none

/-- The latest text written to a target. -/
def content? (t : Targets) (id : TargetId) : Option String := (t.writes id).getLast?

/-- The latest target requested for an output. -/
def newest? (t : Targets) (base : String) (kind : TargetKind) : Option TargetId :=
  (t.requestedFor base kind).getLast?

/-- A write appends to the texts of its target and to those of no other. -/
theorem writes_write {t t' : Targets} {id : TargetId} {text : String} (h : t.write id text = .ok t')
    (other : TargetId) :
    t'.writes other = t.writes other ++ if id = other then [text] else [] := by
  unfold write at h
  split at h
  · cases h
  · cases h
    by_cases hid : id = other <;> simp [writes, hid]

/-- A write requests no target. -/
theorem opened_write {t t' : Targets} {id : TargetId} {text : String}
    (h : t.write id text = .ok t') : t'.opened = t.opened := by
  unfold write at h
  split at h
  · cases h
  · cases h
    rfl

end Targets

end Restyle
