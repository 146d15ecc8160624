import Triage.Row.Json
import Triage.Sink

/-!
A sink that writes one JSON object per row and line. Text passes through a buffer, which is written
when the next fragment does not fit; a fragment as large as the buffer is written past it.
-/

namespace Triage

/-- What a writer has received. It refuses a write that would make it hold more than `limit` bytes. -/
structure TextWriter where
  received : String := ""
  limit : Option Nat := none
deriving DecidableEq, Repr

def TextWriter.write (w : TextWriter) (s : String) : Except String Unit × TextWriter :=
  if w.limit.all (w.received.utf8ByteSize + s.utf8ByteSize ≤ ·) then
    (.ok (), { w with received := w.received ++ s })
  else (.error "disk full", w)

structure JsonLines where
  writer : TextWriter := {}
  held : String := ""
deriving DecidableEq, Repr

namespace JsonLines

def capacity : Nat := 8192

/-- Writes out what is held. When the writer refuses it, it stays. -/
def release (s : JsonLines) : Except String Unit × JsonLines :=
  if s.held.isEmpty then (.ok (), s)
  else
    match s.writer.write s.held with
    | (.ok (), writer) => (.ok (), ⟨writer, ""⟩)
    | (.error e, writer) => (.error e, { s with writer })

/-- Holds a fragment, or writes it if it is too large to be held. -/
def hold (s : JsonLines) (fragment : String) : Except String Unit × JsonLines :=
  if fragment.utf8ByteSize ≥ capacity then
    let (result, writer) := s.writer.write fragment
    (result, { s with writer })
  else (.ok (), { s with held := s.held ++ fragment })

def put (s : JsonLines) (fragment : String) : Except String Unit × JsonLines :=
  if s.held.utf8ByteSize + fragment.utf8ByteSize > capacity then
    match s.release with
    | (.ok (), s) => s.hold fragment
    | (.error e, s) => (.error e, s)
  else s.hold fragment

def putAll (s : JsonLines) : List String → Except String Unit × JsonLines
  | [] => (.ok (), s)
  | fragment :: rest =>
    match s.put fragment with
    | (.ok (), s) => s.putAll rest
    | (.error e, s) => (.error e, s)

/-- Writes lines until one fails. What fails inside an object counts as a failure to serialize it. -/
def putLines (s : JsonLines) : List JsonValue → Except SinkError Unit × JsonLines
  | [] => (.ok (), s)
  | line :: rest =>
    match s.putAll line.fragments with
    | (.error e, s) => (.error (.serialization e), s)
    | (.ok (), s) =>
      match s.put "\n" with
      | (.error e, s) => (.error (.io e), s)
      | (.ok (), s) => s.putLines rest

end JsonLines

instance : Sink JsonLines where
  write rows s := s.putLines rows.lines
  flush s :=
    match s.release with
    | (.ok (), s) => (.ok (), s)
    | (.error e, s) => (.error (.io e), s)

end Triage
