/-
The boundary: callers that know nothing of this library reach its allocators by
number. All allocators of a session are in one table behind one lock. A fault in a
call is caught: the call answers that it panicked, the message is kept for the
caller to fetch, and since the table may be in any state then, the lock answers
every later call with an internal error.
-/

import Allotment.Boundary.KeyTable
import Allotment.Boundary.Request

namespace Allotment

/-- The table of allocators, whether a fault spoiled it, and the message of the last
fault. -/
structure Session where
  table : KeyTable BuiltAllocator
  spoiled : Bool
  lastFault : String
deriving DecidableEq

/-- A call across the boundary. -/
inductive Call where
  | createArena (chunkWords : Nat) (result : Place)
  | createSystem (result : Place)
  | destroy (key : UInt64)
  | onAllocator (key : UInt64) (request : Request)
  | count (result : Place)

namespace Session

/-- A session without allocators. -/
def empty : Session := ⟨.empty, false, ""⟩

/-- The configuration of an arena made across the boundary: loans are tracked, so that a bad
release is refused, and no chunk size means the usual one. -/
def arenaConfig (chunkWords : Nat) : Config :=
  if chunkWords = 0 then { trackLoans := true }
  else { chunkWords := chunkWords, trackLoans := true }

/-- The event of a caught fault. -/
def caughtEvent (reason : Fault) : Event :=
  ⟨.error, "panic caught at FFI boundary", [("message", reason.message)]⟩

/-- The table of a session as the state of a step, unless the lock refuses it. -/
def withTable (session : Session) (work : KeyTable BuiltAllocator →
    Step (KeyTable BuiltAllocator) Reply) : Session × Reply × List Event :=
  if session.spoiled then (session, .bare .internalError, [])
  else
    match work session.table with
    | .done reply next events => ({ session with table := next }, reply, events)
    | .fault reason events =>
      ({ session with spoiled := true, lastFault := reason.message }, .bare .panicked,
        events ++ [caughtEvent reason])

/-- A call that leaves the session alone. -/
def replied (session : Session) (reply : Reply) : Session × Reply × List Event :=
  (session, reply, [])

/-- Puts an allocator into the table. -/
def register (allocator : BuiltAllocator) (table : KeyTable BuiltAllocator) :
    Step (KeyTable BuiltAllocator) Reply :=
  match table.insert allocator with
  | .error reason => .fault reason []
  | .ok none => .done (.bare .capacityExceeded) table []
  | .ok (some (key, next)) => .done (.wrote (.key key)) next []

/-- Takes an allocator out of the table. -/
def unregister (key : UInt64) (table : KeyTable BuiltAllocator) :
    Step (KeyTable BuiltAllocator) Reply :=
  match table.remove key with
  | .error reason => .fault reason []
  | .ok none => .done (.bare .invalidHandle) table []
  | .ok (some (_, next)) => .done (.bare .ok) next []

/-- Has one allocator of the table serve a request. -/
def serve (memory : Memory) (key : UInt64) (request : Request)
    (table : KeyTable BuiltAllocator) : Step (KeyTable BuiltAllocator) Reply :=
  match table.get? key with
  | none => .done (.bare .invalidHandle) table []
  | some allocator => (request.serve memory allocator).within (table.update key)

/-- Carries out a call. -/
def perform (memory : Memory) (session : Session) : Call → Session × Reply × List Event
  | .createArena _ .missing => session.replied (.bare .invalidArgument)
  | .createArena chunkWords .given =>
    match SegregatedAllocator.create (arenaConfig chunkWords) with
    | .error cause => session.replied (.bare (.ofRefusal cause))
    | .ok allocator => session.withTable (register (.arena allocator))
  | .createSystem .missing => session.replied (.bare .invalidArgument)
  | .createSystem .given => session.withTable (register (.system .empty))
  | .destroy key => session.withTable (unregister key)
  | .onAllocator key request =>
    match request.early? with
    | some reply => session.replied reply
    | none => session.withTable (serve memory key request)
  | .count .missing => session.replied (.bare .invalidArgument)
  | .count .given =>
    session.withTable fun table => .done (.wrote (.count table.live)) table []

/-- Copies the message of the last fault into a buffer, cut to leave room for a closing zero
byte; a buffer of no bytes is left alone. -/
def copyLastFault (session : Session) (buffer : List UInt8) : List UInt8 :=
  match buffer.length with
  | 0 => buffer
  | room + 1 =>
    let copied := session.lastFault.toUTF8.toList.take room
    copied ++ 0 :: buffer.drop (copied.length + 1)

/-- How many bytes the message of the last fault has, as far as 31 bits can say. -/
def lastFaultLength (session : Session) : Nat :=
  min session.lastFault.utf8ByteSize (2 ^ 31 - 1)

end Session

end Allotment
