/-
What a session keeps under its keys. A relation between the life of a key and the
allocator that is found there holds in every session, if it holds for new allocators and
each answered request keeps it. So what is to be shown of all allocators behind the
boundary is shown for one allocator and one request.

A call does one of four things: it changes nothing that a key shows, or it issues a key,
gives one up, or has the allocator under one key answer. Whichever it is, no fault comes of
it, because every allocator in the table is in order.
-/

import Allotment.Proofs.Boundary.Keys
import Allotment.Proofs.Boundary.Serving
import Allotment.Proofs.Boundary.Transcript

namespace Allotment

/-- The life of a key after one more answered request. -/
def Life.answered (life : Life) (request : Request) (reply : Reply) : Life :=
  ⟨life.founder, request :: life.requests, reply :: life.replies⟩

/-- A reply without the allocator is not that of a fault. -/
theorem Request.not_broken_early (request : Request) (reply : Reply)
    (early : request.early? = some reply) : ¬ reply.status.Broken := by
  unfold Request.early? at early
  repeat' split at early
  all_goals cases early
  all_goals first
    | exact Status.not_broken_ok
    | exact Status.not_broken_invalidArgument

/-- A reply without the allocator tells of no change. -/
theorem Request.loansAfter_early (request : Request) (loans : List Block) (reply : Reply)
    (early : request.early? = some reply) : request.loansAfter loans reply = loans := by
  unfold Request.early? at early
  repeat' split at early
  all_goals cases early
  all_goals rfl

/-- A request is answered without a fault, whether the allocator is needed for it or not, and the
blocks on loan afterwards are those that the reply tells. -/
theorem BuiltAllocator.leaves_answer {allocator : BuiltAllocator} {loans : List Block}
    (lends : allocator.Lends loans) (named : allocator.Named) (memory : Memory)
    (request : Request) :
    Leaves (request.answer memory allocator) (fun reply => ¬ reply.status.Broken)
      (request.loansAfter loans) := by
  rw [Request.answer]
  cases early : request.early? with
  | none => exact leaves_serve lends named memory request
  | some reply =>
    refine ⟨reply, allocator, [], rfl, request.not_broken_early reply early, ?_⟩
    rwa [request.loansAfter_early loans reply early]

namespace Session

/-- The numbers of all places in all allocators fit into handles. -/
def Named (session : Session) : Prop :=
  session.table.All BuiltAllocator.Named

instance (session : Session) : Decidable session.Named :=
  inferInstanceAs (Decidable (KeyTable.All _ _))

/-- The numbers fit where no arena has too many chunks. -/
theorem named_of_mostChunks_le (session : Session) (few : session.mostChunks ≤ 2 ^ 32) :
    session.Named := by
  intro entry member
  have fewHere : entry.chunkCount ≤ 2 ^ 32 :=
    Nat.le_trans (List.le_max?_getD_of_mem (List.mem_map_of_mem member)) few
  cases entry with
  | occupied generation allocator =>
    cases allocator with
    | arena allocator => exact fun _ => fewHere
    | system allocator => exact trivial
  | vacant generation next => exact trivial
  | retired => exact trivial

/-- The usual chunk size is taken if none is given. -/
theorem arenaConfig_eq (chunkWords : Nat) : arenaConfig chunkWords =
    { chunkWords := if chunkWords = 0 then 2 ^ 22 else chunkWords, trackLoans := true } := by
  unfold arenaConfig
  by_cases none : chunkWords = 0
  · rw [if_pos none, if_pos none]
  · rw [if_neg none, if_neg none]

/-- A request that is answered without the allocator changes nothing. -/
theorem perform_onAllocator_early (session : Session) (memory : Memory) (key : UInt64)
    (request : Request) (reply : Reply) (early : request.early? = some reply) :
    session.perform memory (.onAllocator key request) = (session, reply, []) := by
  simp only [perform, early, replied]

/-- A request that is not answered early goes to the table. -/
theorem perform_onAllocator_complete (session : Session) (memory : Memory) (key : UInt64)
    (request : Request) (complete : request.early? = none) :
    session.perform memory (.onAllocator key request) =
      session.withTable (serve memory key request) := by
  simp only [perform, complete]

/-! ### The invariant -/

/-- A relation between lives and allocators that holds for new allocators and that answered
requests keep. Related allocators are in order. -/
structure Kept (memory : Memory) (relates : Life → BuiltAllocator → Prop) : Prop where
  lends : ∀ life allocator, relates life allocator → ∃ loans, allocator.Lends loans
  founded : ∀ founder : BuiltAllocator, founder.Lends [] → relates ⟨founder, [], []⟩ founder
  answered : ∀ life allocator request reply next events, relates life allocator →
    allocator.Named → request.answer memory allocator = .done reply next events →
      relates (life.answered request reply) next

/-- What is found under a key is related to the life of the key. -/
inductive Follows (relates : Life → BuiltAllocator → Prop) :
    Option Life → Option BuiltAllocator → Prop
  | dead : Follows relates none none
  | live (life : Life) (allocator : BuiltAllocator) (related : relates life allocator) :
    Follows relates (some life) (some allocator)

namespace Follows

variable {relates : Life → BuiltAllocator → Prop} {life? : Option Life}
  {found? : Option BuiltAllocator}

theorem exists_life {allocator : BuiltAllocator}
    (follows : Follows relates life? (some allocator)) :
    ∃ life, life? = some life ∧ relates life allocator := by
  cases follows with
  | live life _ related => exact ⟨life, rfl, related⟩

theorem exists_related {life : Life} (follows : Follows relates (some life) found?) :
    ∃ allocator, found? = some allocator ∧ relates life allocator := by
  cases follows with
  | live _ allocator related => exact ⟨allocator, rfl, related⟩

theorem absent (follows : Follows relates none found?) : found? = none := by
  cases follows with
  | dead => rfl

theorem unborn (follows : Follows relates life? none) : life? = none := by
  cases follows with
  | dead => rfl

end Follows

/-- No call was broken, and the table agrees with the transcript under every key. -/
structure Isolated (relates : Life → BuiltAllocator → Prop) (transcript : Transcript)
    (session : Session) : Prop where
  intact : session.spoiled = false
  unfaulted : session.lastFault = ""
  served : ∀ exchange ∈ transcript, ¬ exchange.reply.status.Broken
  sound : session.table.Sound
  follows : ∀ key, Follows relates (transcript.life? key) (session.table.get? key)
  counted : session.table.live + transcript.ended.length = transcript.issued.length
  once : transcript.issued.Nodup
  spent : ∀ key ∈ transcript.issued, session.table.Spent key

namespace Isolated

variable {relates : Life → BuiltAllocator → Prop} {transcript : Transcript} {session : Session}

theorem empty (relates : Life → BuiltAllocator → Prop) : Isolated relates [] Session.empty where
  intact := rfl
  unfaulted := rfl
  served _ member := nomatch member
  sound := KeyTable.sound_empty
  follows _ := .dead
  counted := rfl
  once := List.nodup_nil
  spent _ member := nomatch member

section Exchange

variable (isolated : Isolated relates transcript session) (exchange : Exchange)
  (served : ¬ exchange.reply.status.Broken)
include isolated served

theorem served_cons : ∀ other ∈ exchange :: transcript, ¬ other.reply.status.Broken :=
  List.forall_mem_cons.mpr ⟨served, isolated.served⟩

/-- An exchange that issues and ends nothing, and is not about a live key, changes nothing. -/
theorem idle (issued : exchange.issued? = none) (ended : exchange.ended? = none)
    (unheard : ∀ key request, exchange.request? = some (key, request) →
      session.table.get? key = none) :
    Isolated relates (exchange :: transcript) session := by
  have same : ∀ key, Transcript.life? key (exchange :: transcript) = transcript.life? key := by
    intro key
    by_cases requested : ∃ request, exchange.request? = some (key, request)
    · obtain ⟨request, requested⟩ := requested
      have unborn := (unheard key request requested ▸ isolated.follows key).unborn
      rw [Transcript.life?_requested _ _ _ (by simp [issued]) (by simp [ended]) request requested,
        unborn, Option.map_none]
    · exact Transcript.life?_other _ _ _ (by simp [issued]) (by simp [ended])
        fun request equal => requested ⟨request, equal⟩
  have sameIssued := Transcript.issued_cons_none exchange transcript issued
  refine ⟨isolated.intact, isolated.unfaulted, isolated.served_cons exchange served,
    isolated.sound, fun key => ?_, ?_, ?_, ?_⟩
  · rw [same]
    exact isolated.follows key
  · rw [sameIssued, Transcript.ended_cons_none _ _ ended]
    exact isolated.counted
  · rw [sameIssued]
    exact isolated.once
  · rw [sameIssued]
    exact isolated.spent

/-- An exchange that issues a key begins its life. -/
theorem created (key : UInt64) (founder : BuiltAllocator) (table : KeyTable BuiltAllocator)
    (issued : exchange.issued? = some key) (ended : exchange.ended? = none)
    (requested : exchange.request? = none) (founded : exchange.founder? = some founder)
    (inserts : session.table.Inserts key founder table) (sound : table.Sound)
    (related : relates ⟨founder, [], []⟩ founder) :
    Isolated relates (exchange :: transcript) { session with table := table } := by
  have moreIssued := Transcript.issued_cons_some exchange transcript key issued
  refine ⟨isolated.intact, isolated.unfaulted, isolated.served_cons exchange served, sound,
    fun other => ?_, ?_, ?_, ?_⟩
  · show Follows relates _ (table.get? other)
    by_cases same : other = key
    · subst same
      rw [Transcript.life?_issued _ _ _ issued, founded, inserts.get?_self]
      exact .live ⟨founder, [], []⟩ founder related
    · rw [inserts.get?_other other same, Transcript.life?_other _ _ _
        (by simpa [issued] using Ne.symm same) (by simp [ended]) (by simp [requested])]
      exact isolated.follows other
  · rw [moreIssued, Transcript.ended_cons_none _ _ ended, List.length_cons, ← isolated.counted]
    show table.live + _ = _
    rw [inserts.live, Nat.add_right_comm]
  · rw [moreIssued, List.nodup_cons]
    exact ⟨fun again => inserts.unspent (isolated.spent key again), isolated.once⟩
  · rw [moreIssued]
    intro other member
    exact inserts.spent other ((List.mem_cons.mp member).imp id (isolated.spent other))

/-- An exchange that gives a key up ends its life. -/
theorem destroyed (key : UInt64) (table : KeyTable BuiltAllocator)
    (issued : exchange.issued? = none) (ended : exchange.ended? = some key)
    (requested : exchange.request? = none) (removes : session.table.Removes key table)
    (sound : table.Sound) :
    Isolated relates (exchange :: transcript) { session with table := table } := by
  have sameIssued := Transcript.issued_cons_none exchange transcript issued
  refine ⟨isolated.intact, isolated.unfaulted, isolated.served_cons exchange served, sound,
    fun other => ?_, ?_, ?_, ?_⟩
  · show Follows relates _ (table.get? other)
    by_cases same : other = key
    · subst same
      rw [Transcript.life?_ended _ _ _ (by simp [issued]) ended, removes.get?_self]
      exact .dead
    · rw [removes.get?_other other same, Transcript.life?_other _ _ _ (by simp [issued])
        (by simpa [ended] using Ne.symm same) (by simp [requested])]
      exact isolated.follows other
  · rw [sameIssued, Transcript.ended_cons_some _ _ _ ended, List.length_cons, ← isolated.counted,
      ← removes.live]
    show table.live + _ = _
    rw [Nat.add_right_comm, Nat.add_assoc]
  · rw [sameIssued]
    exact isolated.once
  · rw [sameIssued]
    exact fun other member => removes.spent other (isolated.spent other member)

/-- An exchange about a live key goes on with its life, and with no other one. -/
theorem answered (key : UInt64) (request : Request) (allocator next : BuiltAllocator)
    (table : KeyTable BuiltAllocator) (issued : exchange.issued? = none)
    (ended : exchange.ended? = none) (requested : exchange.request? = some (key, request))
    (found : session.table.get? key = some allocator)
    (related : ∀ life, relates life allocator →
      relates (life.answered request exchange.reply) next)
    (updates : session.table.Updates key next table) (sound : table.Sound) :
    Isolated relates (exchange :: transcript) { session with table := table } := by
  have sameIssued := Transcript.issued_cons_none exchange transcript issued
  refine ⟨isolated.intact, isolated.unfaulted, isolated.served_cons exchange served, sound,
    fun other => ?_, ?_, ?_, ?_⟩
  · show Follows relates _ (table.get? other)
    by_cases same : other = key
    · subst same
      obtain ⟨life, lives, before⟩ := (found ▸ isolated.follows other).exists_life
      rw [Transcript.life?_requested _ _ _ (by simp [issued]) (by simp [ended]) request requested,
        lives, updates.self]
      exact .live _ next (related life before)
    · rw [updates.other other same, Transcript.life?_other _ _ _ (by simp [issued])
        (by simp [ended]) (by simp [requested, Ne.symm same])]
      exact isolated.follows other
  · rw [sameIssued, Transcript.ended_cons_none _ _ ended, ← isolated.counted]
    exact congrArg (· + _) updates.live
  · rw [sameIssued]
    exact isolated.once
  · rw [sameIssued]
    exact fun other member => updates.spent other (isolated.spent other member)

end Exchange

/-! ### Calls -/

section Calls

variable {memory : Memory} (isolated : Isolated relates transcript session)
include isolated

/-- Work on the table goes through to it. -/
theorem withTable_eq (work : KeyTable BuiltAllocator → Step (KeyTable BuiltAllocator) Reply)
    (reply : Reply) (table : KeyTable BuiltAllocator) (events : List Event)
    (done : work session.table = .done reply table events) :
    session.withTable work = ({ session with table := table }, reply, events) := by
  rw [withTable, isolated.intact, if_neg Bool.false_ne_true, done]

/-- A new allocator gets a key, or is refused when there is none left. -/
theorem register_cases (founder : BuiltAllocator) :
    session.withTable (register founder) = (session, .bare .capacityExceeded, []) ∨
    ∃ key table, session.table.Inserts key founder table ∧ table.Sound ∧
      session.withTable (register founder) =
        ({ session with table := table }, .wrote (.key key), []) := by
  rcases isolated.sound.insert founder with full | ⟨key, table, inserted, inserts, sound⟩
  · refine Or.inl (isolated.withTable_eq _ _ _ _ ?_)
    rw [register, full]
  · refine Or.inr ⟨key, table, inserts, sound, isolated.withTable_eq _ _ _ _ ?_⟩
    rw [register, inserted]

/-- A create call issues a key for the allocator that it asks for, or it changes nothing. -/
theorem registered (call : Call) (founder : BuiltAllocator)
    (related : relates ⟨founder, [], []⟩ founder)
    (founded : ∀ reply, Exchange.founder? ⟨call, reply⟩ = some founder)
    (issues : ∀ key, Exchange.issued? ⟨call, .wrote (.key key)⟩ = some key)
    (silent : ∀ status, Exchange.issued? ⟨call, .bare status⟩ = none)
    (ended : ∀ reply, Exchange.ended? ⟨call, reply⟩ = none)
    (requested : ∀ reply, Exchange.request? ⟨call, reply⟩ = none)
    (same : session.perform memory call = session.withTable (register founder)) :
    Isolated relates (⟨call, (session.perform memory call).2.1⟩ :: transcript)
      (session.perform memory call).1 := by
  rw [same]
  rcases isolated.register_cases founder with refused | ⟨key, table, inserts, sound, granted⟩
  · rw [refused]
    exact isolated.idle _ (show ¬ Status.Broken .capacityExceeded by decide) (silent _) (ended _)
      fun key request equal => nomatch (requested _).symm.trans equal
  · rw [granted]
    exact isolated.created _ Status.not_broken_ok key founder table (issues key) (ended _)
      (requested _) (founded _) inserts sound related

/-- A key is given up if it is live, and else nothing changes. -/
theorem perform_destroy_cases (key : UInt64) :
    (session.table.get? key = none ∧
      session.perform memory (.destroy key) = (session, .bare .invalidHandle, [])) ∨
    ∃ table, (session.table.get? key).isSome ∧ session.table.Removes key table ∧ table.Sound ∧
      session.perform memory (.destroy key) =
        ({ session with table := table }, .bare .ok, []) := by
  rcases isolated.sound.remove key with ⟨absent, same⟩ |
    ⟨value, table, found, removed, removes, sound⟩
  · refine Or.inl ⟨absent, isolated.withTable_eq _ _ _ _ ?_⟩
    rw [unregister, same]
  · refine Or.inr ⟨table, found ▸ rfl, removes, sound, isolated.withTable_eq _ _ _ _ ?_⟩
    rw [unregister, removed]

theorem performed_destroy (key : UInt64) :
    Isolated relates (⟨.destroy key, (session.perform memory (.destroy key)).2.1⟩ :: transcript)
      (session.perform memory (.destroy key)).1 := by
  rcases isolated.perform_destroy_cases key with ⟨_, refused⟩ | ⟨table, _, removes, sound, granted⟩
  · rw [refused]
    exact isolated.idle _ (show ¬ Status.Broken .invalidHandle by decide) rfl rfl nofun
  · rw [granted]
    exact isolated.destroyed _ Status.not_broken_ok key table rfl rfl rfl removes sound

/-- A request under a key that is not live reaches nothing. -/
theorem perform_onAllocator_dead (key : UInt64) (request : Request)
    (complete : request.early? = none) (absent : session.table.get? key = none) :
    session.perform memory (.onAllocator key request) = (session, .bare .invalidHandle, []) := by
  rw [perform_onAllocator_complete _ memory key request complete]
  refine isolated.withTable_eq _ _ _ _ ?_
  rw [serve, absent]

/-- A request under a live key is answered by the allocator there, which stays under the key. -/
theorem perform_onAllocator_live (key : UInt64) (request : Request)
    (allocator next : BuiltAllocator) (reply : Reply) (events : List Event)
    (found : session.table.get? key = some allocator)
    (answer : request.answer memory allocator = .done reply next events) :
    ∃ table, session.table.Updates key next table ∧ table.Sound ∧
      session.perform memory (.onAllocator key request) =
        ({ session with table := table }, reply, events) := by
  cases early : request.early? with
  | some other =>
    rw [Request.answer, early] at answer
    cases answer
    exact ⟨session.table, .refl found, isolated.sound,
      perform_onAllocator_early session memory key request reply early⟩
  | none =>
    rw [Request.answer, early] at answer
    refine ⟨_, KeyTable.updates_update found next, isolated.sound.update found next, ?_⟩
    rw [perform_onAllocator_complete _ memory key request early]
    refine isolated.withTable_eq _ _ _ _ ?_
    rw [serve, found]
    exact congrArg (Step.within (session.table.update key)) answer

theorem performed_onAllocator (kept : Kept memory relates) (named : session.Named) (key : UInt64)
    (request : Request) :
    Isolated relates
      (⟨.onAllocator key request, (session.perform memory (.onAllocator key request)).2.1⟩ ::
        transcript)
      (session.perform memory (.onAllocator key request)).1 := by
  cases found : session.table.get? key with
  | some allocator =>
    obtain ⟨life, lives, related⟩ := (found ▸ isolated.follows key).exists_life
    obtain ⟨loans, lends⟩ := kept.lends life allocator related
    have namedThere := named.get? key allocator found
    obtain ⟨reply, next, events, answer, served, _⟩ :=
      BuiltAllocator.leaves_answer lends namedThere memory request
    obtain ⟨table, updates, sound, performed⟩ :=
      isolated.perform_onAllocator_live key request allocator next reply events found answer
    rw [performed]
    exact isolated.answered ⟨_, reply⟩ served key request allocator next table rfl rfl rfl found
      (fun life related => kept.answered life allocator request reply next events related
        namedThere answer) updates sound
  | none =>
    have unheard : ∀ other another, some (key, request) = some (other, another) →
        session.table.get? other = none := by
      rintro _ _ ⟨⟩
      exact found
    cases early : request.early? with
    | some reply =>
      rw [perform_onAllocator_early session memory key request reply early]
      exact isolated.idle _ (request.not_broken_early reply early) rfl rfl unheard
    | none =>
      rw [isolated.perform_onAllocator_dead key request early found]
      exact isolated.idle _ (show ¬ Status.Broken .invalidHandle by decide) rfl rfl unheard

theorem perform_count :
    session.perform memory (.count .given) =
      (session, .wrote (.count session.table.live), []) :=
  isolated.withTable_eq (fun table => .done (.wrote (.count table.live)) table []) _ _ _ rfl

/-- A new arena records its loans, and has the usual chunk size if none is given. -/
theorem performed_createArena (kept : Kept memory relates) (chunkWords : Nat) :
    Isolated relates (⟨.createArena chunkWords .given,
        (session.perform memory (.createArena chunkWords .given)).2.1⟩ :: transcript)
      (session.perform memory (.createArena chunkWords .given)).1 := by
  cases created : SegregatedAllocator.create (arenaConfig chunkWords) with
  | error cause =>
    have refused : session.perform memory (.createArena chunkWords .given) =
        (session, .bare (.ofRefusal cause), []) := by
      simp only [perform, created, replied]
    rw [refused]
    exact isolated.idle _ (Status.ofRefusal_cases cause).2 rfl rfl nofun
  | ok allocator =>
    have tracked : (arenaConfig chunkWords).trackLoans = true := by
      rw [arenaConfig_eq]
    refine isolated.registered _ (.arena allocator) (kept.founded _
      (SegregatedAllocator.lends_of_create _ allocator created tracked)) (fun _ => ?_)
      (fun _ => rfl) (fun _ => rfl) (fun _ => rfl) (fun _ => rfl) ?_
    · rw [arenaConfig_eq] at created
      simp only [Exchange.founder?, created]
    · simp only [perform, created]

/-- Every call keeps the table in agreement with the transcript. -/
theorem performed (kept : Kept memory relates) (named : session.Named) (call : Call) :
    Isolated relates (⟨call, (session.perform memory call).2.1⟩ :: transcript)
      (session.perform memory call).1 := by
  cases call with
  | createArena chunkWords result =>
    cases result with
    | missing => exact isolated.idle _ Status.not_broken_invalidArgument rfl rfl nofun
    | given => exact isolated.performed_createArena kept chunkWords
  | createSystem result =>
    cases result with
    | missing => exact isolated.idle _ Status.not_broken_invalidArgument rfl rfl nofun
    | given =>
      exact isolated.registered _ (.system .empty) (kept.founded _ SystemAllocator.sound_empty)
        (fun _ => rfl) (fun _ => rfl) (fun _ => rfl) (fun _ => rfl) (fun _ => rfl) rfl
  | destroy key => exact isolated.performed_destroy key
  | onAllocator key request => exact isolated.performed_onAllocator kept named key request
  | count result =>
    cases result with
    | missing => exact isolated.idle _ Status.not_broken_invalidArgument rfl rfl nofun
    | given =>
      rw [isolated.perform_count]
      exact isolated.idle _ Status.not_broken_ok rfl rfl nofun

end Calls

end Isolated

end Session

end Allotment
