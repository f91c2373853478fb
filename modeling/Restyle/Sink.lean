/-!
# Byte sinks

A byte sink takes bytes until it is full. It may take only the first part of what it is offered, so
a text is delivered by offering the rest again and again until nothing is left or nothing more is
taken. A text that was delivered whole is followed by a flush.
-/

namespace Restyle

/-- A sink for bytes. -/
structure Sink where
  /-- How many bytes fit in all, if there is a limit. -/
  capacity : Option Nat
  /-- The bytes taken so far. -/
  held : List UInt8
  /-- How often the sink was flushed. -/
  flushes : Nat
deriving Repr, DecidableEq

namespace Sink

/-- A sink that has taken nothing. -/
def fresh (capacity : Option Nat) : Sink := ⟨capacity, [], 0⟩

/-- How many of `n` bytes the sink takes when they are offered. -/
def room (s : Sink) (n : Nat) : Nat :=
  match s.capacity with
  | none => n
  | some limit => min n (limit - s.held.length)

/-- Takes as many of the bytes as fit. -/
def take (s : Sink) (bytes : List UInt8) : Sink :=
  { s with held := s.held ++ bytes.take (s.room bytes.length) }

/-- Offers bytes until all are taken, and says whether that was so. -/
def offerAll (s : Sink) (bytes : List UInt8) : Bool × Sink :=
  if bytes = [] then (true, s)
  else if s.room bytes.length = 0 then (false, s)
  else (s.take bytes).offerAll (bytes.drop (s.room bytes.length))
termination_by bytes.length
decreasing_by
  have hpos : 0 < bytes.length := List.length_pos_iff.2 (by assumption)
  simp only [List.length_drop]
  omega

/-- Counts a flush. -/
def flush (s : Sink) : Sink := { s with flushes := s.flushes + 1 }

/-- Delivers the encoding of a text, and flushes the sink after success. -/
def deliver (s : Sink) (text : String) : Bool × Sink :=
  match s.offerAll text.toUTF8.data.toList with
  | (true, s) => (true, s.flush)
  | (false, s) => (false, s)

/-- Delivers texts one after another and lists which of them succeeded. A failure stops nothing. -/
def deliverAll (s : Sink) : List String → List Bool × Sink
  | [] => ([], s)
  | text :: rest =>
    let (done, s) := s.deliver text
    let (others, s) := s.deliverAll rest
    (done :: others, s)

end Sink

end Restyle
