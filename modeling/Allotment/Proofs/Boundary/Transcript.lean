/-
Transcripts of sessions: the calls with their replies, the latest first. A transcript says
by itself which keys were issued and given up, and what happened under a key while it was
live, so a session can be compared with allocators that each caller would have alone.
-/

import Allotment.Boundary.Session

namespace Allotment

/-- A call of a session and the reply to it. -/
structure Exchange where
  call : Call
  reply : Reply

/-- The requests that were made under a key since it was issued, the latest first, with their
replies, and the allocator that it was issued for. -/
structure Life where
  founder : BuiltAllocator
  requests : List Request
  replies : List Reply

namespace Exchange

/-- The allocator that a call asks for: an arena that records its loans, with the usual chunk size
if none is given, or a system allocator. -/
def founder? (exchange : Exchange) : Option BuiltAllocator :=
  match exchange.call with
  | .createArena chunkWords _ =>
    match SegregatedAllocator.create
        { chunkWords := if chunkWords = 0 then 2 ^ 22 else chunkWords, trackLoans := true } with
    | .ok allocator => some (.arena allocator)
    | .error _ => none
  | .createSystem _ => some (.system .empty)
  | _ => none

/-- The key that was issued to a new allocator. -/
def issued? (exchange : Exchange) : Option UInt64 :=
  match exchange.call, exchange.reply.output with
  | .createArena .., some (.key key) => some key
  | .createSystem .., some (.key key) => some key
  | _, _ => none

/-- The key that was given up. -/
def ended? (exchange : Exchange) : Option UInt64 :=
  match exchange.call with
  | .destroy key => if exchange.reply.status = .ok then some key else none
  | _ => none

/-- The request that was made, with the key it was made under. -/
def request? (exchange : Exchange) : Option (UInt64 × Request) :=
  match exchange.call with
  | .onAllocator key request => some (key, request)
  | _ => none

end Exchange

/-- Calls and replies, the latest first. -/
abbrev Transcript := List Exchange

namespace Transcript

/-- What happened under a key, if it is live. -/
def life? (key : UInt64) : Transcript → Option Life
  | [] => none
  | exchange :: earlier =>
    if exchange.issued? = some key then
      exchange.founder?.map fun founder => ⟨founder, [], []⟩
    else if exchange.ended? = some key then none
    else
      match exchange.request? with
      | some (other, request) =>
        if other = key then
          (life? key earlier).map fun life =>
            ⟨life.founder, request :: life.requests, exchange.reply :: life.replies⟩
        else life? key earlier
      | none => life? key earlier

/-- The keys that were issued. -/
def issued (transcript : Transcript) : List UInt64 :=
  transcript.filterMap Exchange.issued?

/-- The keys that were given up. -/
def ended (transcript : Transcript) : List UInt64 :=
  transcript.filterMap Exchange.ended?

section Exchange

variable (exchange : Exchange) (earlier : Transcript) (key : UInt64)

theorem issued_cons_none (silent : exchange.issued? = none) :
    issued (exchange :: earlier) = issued earlier :=
  List.filterMap_cons_none silent

theorem issued_cons_some (issues : exchange.issued? = some key) :
    issued (exchange :: earlier) = key :: issued earlier :=
  List.filterMap_cons_some issues

theorem ended_cons_none (silent : exchange.ended? = none) :
    ended (exchange :: earlier) = ended earlier :=
  List.filterMap_cons_none silent

theorem ended_cons_some (ends : exchange.ended? = some key) :
    ended (exchange :: earlier) = key :: ended earlier :=
  List.filterMap_cons_some ends

theorem life?_issued (issued : exchange.issued? = some key) :
    life? key (exchange :: earlier) = exchange.founder?.map fun founder => ⟨founder, [], []⟩ := by
  rw [life?, if_pos issued]

theorem life?_ended (issued : exchange.issued? ≠ some key) (ended : exchange.ended? = some key) :
    life? key (exchange :: earlier) = none := by
  rw [life?, if_neg issued, if_pos ended]

theorem life?_requested (issued : exchange.issued? ≠ some key)
    (ended : exchange.ended? ≠ some key) (request : Request)
    (requested : exchange.request? = some (key, request)) :
    life? key (exchange :: earlier) = (life? key earlier).map fun life =>
      ⟨life.founder, request :: life.requests, exchange.reply :: life.replies⟩ := by
  rw [life?, if_neg issued, if_neg ended, requested]
  exact if_pos rfl

/-- What does not concern a key leaves its life. -/
theorem life?_other (issued : exchange.issued? ≠ some key) (ended : exchange.ended? ≠ some key)
    (requested : ∀ request, exchange.request? ≠ some (key, request)) :
    life? key (exchange :: earlier) = life? key earlier := by
  rw [life?, if_neg issued, if_neg ended]
  cases same : exchange.request? with
  | none => rfl
  | some pair =>
    obtain ⟨other, request⟩ := pair
    refine if_neg fun equal => requested request ?_
    rw [same, equal]

end Exchange

/-- A request under one key leaves the life under another. -/
theorem life?_onAllocator (earlier : Transcript) (key other : UInt64) (request : Request)
    (reply : Reply) (different : key ≠ other) :
    life? other (⟨.onAllocator key request, reply⟩ :: earlier) = life? other earlier :=
  life?_other _ _ _ (by simp [Exchange.issued?]) (by simp [Exchange.ended?])
    (by simp [Exchange.request?, different])

end Transcript

/-- Answers a request, without the allocator if that can be. -/
def Request.answer (memory : Memory) (allocator : BuiltAllocator) (request : Request) :
    Step BuiltAllocator Reply :=
  match request.early? with
  | some reply => .done reply allocator []
  | none => request.serve memory allocator

/-- Answers requests to one allocator that nobody else uses, the latest first. -/
def BuiltAllocator.answerAll (memory : Memory) (founder : BuiltAllocator) :
    List Request → Step BuiltAllocator (List Reply)
  | [] => .done [] founder []
  | request :: earlier => (answerAll memory founder earlier).andThen fun replies allocator =>
    (request.answer memory allocator).mapAnswer (· :: replies)

/-! ### Sessions -/

/-- How many chunks an allocator has. -/
def BuiltAllocator.chunkCount : BuiltAllocator → Nat
  | arena allocator => allocator.arena.chunks.size
  | system _ => 0

/-- How many chunks the allocator in an entry has, if there is one. -/
def Entry.chunkCount : Entry BuiltAllocator → Nat
  | .occupied _ allocator => allocator.chunkCount
  | _ => 0

namespace Session

/-- The largest number of chunks that an arena in the table has. -/
def mostChunks (session : Session) : Nat :=
  (session.table.entries.toList.map Entry.chunkCount).max?.getD 0

/-- The transcripts and sessions that calls lead to, with the largest number of chunks that an
arena had when a call was made. -/
inductive Run (memory : Memory) : Nat → Transcript → Session → Prop
  | start : Run memory 0 [] .empty
  | call (chunks : Nat) (transcript : Transcript) (session : Session) (call : Call)
    (run : Run memory chunks transcript session) :
    Run memory (max chunks session.mostChunks)
      (⟨call, (session.perform memory call).2.1⟩ :: transcript) (session.perform memory call).1

end Session

end Allotment
