/-
Replays on word allocators. For an arena with released blocks the blocks that are held are
on loan in a run of it, recorded or not: a replay releases only what is on loan, at its
size, so every release meets what it demands. For a system allocator they are the blocks
in its slots. Either refuses a loan only if it lacks memory or numbers for a new place.
-/

import Allotment.Proofs.Churn.Keeping
import Allotment.Proofs.Segregated.Supply
import Allotment.Proofs.System.Lender

namespace Allotment

namespace Churn.Drive

/-! ### Any word allocator -/

section Words

variable {σ : Type} [Allocator σ] {memory : Memory}

theorem words_lend_ok {allocator next : σ} {size : Nat} {handle : Handle} {events : List Event}
    (granted : Allocator.allocate memory allocator size = .done (.ok handle) next events) :
    (words memory).lend size allocator =
      .done (some ⟨handle, size⟩) (stamp next handle size) events := by
  show (Allocator.allocate memory allocator size).andThen _ = _
  rw [granted]
  exact congrArg _ (List.append_nil events)

theorem words_lend_error {allocator next : σ} {size : Nat} {cause : Refusal}
    {events : List Event}
    (refused : Allocator.allocate memory allocator size = .done (.error cause) next events) :
    (words memory).lend size allocator = .done none next events := by
  show (Allocator.allocate memory allocator size).andThen _ = _
  rw [refused]
  exact congrArg _ (List.append_nil events)

/-- A block is lent exactly if its request is granted, and then stamped. -/
theorem words_lend_cases (allocator next : σ) (size : Nat) (answer : Option Block)
    (events : List Event)
    (lent : (words memory).lend size allocator = .done answer next events) :
    (∃ cause, Allocator.allocate memory allocator size = .done (.error cause) next events ∧
      answer = none) ∨
    ∃ handle after, Allocator.allocate memory allocator size = .done (.ok handle) after events ∧
      answer = some ⟨handle, size⟩ ∧ next = stamp after handle size := by
  obtain ⟨reply, after, logged, further, outcome, continued, rfl⟩ := Step.exists_of_andThen lent
  cases reply with
  | error cause =>
    cases continued
    exact Or.inl ⟨cause, by rw [outcome, List.append_nil], rfl⟩
  | ok handle =>
    cases continued
    exact Or.inr ⟨handle, after, by rw [outcome, List.append_nil], rfl, rfl⟩

variable {Permits : Nat → Prop} {Ready : σ → Prop} {Holds : List Block → σ → Prop}

/-- What a word allocator has to keep to: requests and releases account for what is held, and
writes to what is held change nothing of that. -/
theorem keeps_words
    (perm : ∀ held other allocator, Holds held allocator → held.Perm other →
      Holds other allocator)
    (allocated : ∀ held allocator size, Holds held allocator → Permits size → Ready allocator →
      (∃ cause events,
        Allocator.allocate memory allocator size = .done (.error cause) allocator events) ∨
      ∃ handle next events,
        Allocator.allocate memory allocator size = .done (.ok handle) next events ∧
        Holds (⟨handle, size⟩ :: held) next)
    (stored : ∀ block held allocator patch, Holds (block :: held) allocator →
      Holds (block :: held) (Allocator.store allocator block.handle block.size patch))
    (taken : ∀ block left allocator, Holds (block :: left) allocator → ∃ next events,
      Allocator.deallocate allocator block.handle block.size = .done () next events ∧
      Holds left next) :
    (words memory).Keeps Permits Ready Holds where
  perm := perm
  lent held allocator size holds permits ready := by
    rcases allocated held allocator size holds permits ready with ⟨cause, events, refused⟩ |
      ⟨handle, next, events, granted, holdsNext⟩
    · exact ⟨none, allocator, events, words_lend_error refused,
        (List.append_nil held).symm ▸ holds⟩
    · refine ⟨some ⟨handle, size⟩, _, events, words_lend_ok granted, ?_⟩
      exact perm _ _ _ (stored ⟨handle, size⟩ held next _ holdsNext)
        (List.perm_append_singleton _ _).symm
  taken := taken

theorem grants_words
    (granted : ∀ held allocator size, Holds held allocator → Permits size → Ready allocator →
      ∀ cause next events,
        Allocator.allocate memory allocator size ≠ .done (.error cause) next events) :
    (words memory).Grants Permits Ready Holds := by
  intro held allocator size holds permits ready next events lent
  rcases words_lend_cases allocator next size none events lent with ⟨cause, refused, _⟩ |
    ⟨_, _, _, mismatch, _⟩
  · exact granted held allocator size holds permits ready cause next events refused
  · cases mismatch

theorem measured_words {places : σ → Nat}
    (allocated : ∀ allocator size answer next events,
      Allocator.allocate memory allocator size = .done answer next events →
        places next ≤ places allocator + 1)
    (stored : ∀ allocator handle size patch,
      places (Allocator.store allocator handle size patch) = places allocator)
    (taken : ∀ allocator handle size next events,
      Allocator.deallocate allocator handle size = .done () next events →
        places next ≤ places allocator) : (words memory).Measured places where
  lent size allocator answer next events lent := by
    rcases words_lend_cases allocator next size answer events lent with ⟨cause, refused, _⟩ |
      ⟨handle, after, granted, _, rfl⟩
    · exact allocated allocator size _ next events refused
    · rw [stamp, stored]
      exact allocated allocator size _ after events granted
  taken block allocator next events back :=
    taken allocator block.handle block.size next events back

end Words

end Churn.Drive

/-! ### An arena with released blocks -/

namespace SegregatedAllocator

section Change

variable {before after : SegregatedAllocator} {deeds : History}

/-- No change adds more than one chunk. -/
theorem size_chunks_of_change (change : Change before deeds after) :
    after.arena.chunks.size ≤ before.arena.chunks.size + 1 := by
  cases change with
  | nothing => exact Nat.le_succ _
  | written handle size patch stored overwrites =>
    exact Nat.le_trans (Nat.le_of_eq (Arena.size_chunks_store overwrites)) (Nat.le_succ _)
  | reused handle size left positive small taken => exact Nat.le_succ _
  | carved memory handle size grown events positive small absent obtained =>
    have settled := Arena.settled_of_obtain memory _ size handle grown events positive obtained
    rcases settled.most with most | ⟨_, count⟩
    · exact Nat.le_trans most (Nat.le_succ _)
    · exact Nat.le_of_eq count
  | returned handle size positive carved lending recorded => exact Nat.le_succ _
  | cleared => exact Nat.zero_le _

theorem size_chunks_store (allocator : SegregatedAllocator) (handle : Handle) (size : Nat)
    (patch : Patch) : (Allocator.store allocator handle size patch).arena.chunks.size =
      allocator.arena.chunks.size := by
  show ((allocator.store? handle size patch).getD allocator).arena.chunks.size = _
  rw [store?]
  cases overwrites : allocator.arena.store? handle size patch with
  | none => rfl
  | some stored => exact Arena.size_chunks_store overwrites

theorem arena_of_deallocate (allocator next : SegregatedAllocator) (handle : Handle) (size : Nat)
    (events : List Event) (done : allocator.deallocate handle size = .done () next events) :
    next.arena = allocator.arena := by
  cases allocator.change_of_deallocate handle size next events done
  rfl

end Change

/-- There is a number left for one more chunk. -/
def HasNumber (allocator : SegregatedAllocator) : Prop :=
  allocator.arena.chunks.size < 2 ^ 32

section Prolonged

variable {config : Config} {history : History} {allocator : SegregatedAllocator}

/-- A request within the limits is refused and changes nothing, or its block is lent. -/
theorem Run.requested (run : Run config (Proper config) history allocator) (memory : Memory)
    (size : Nat) (permitted : 0 < size ∧ size ≤ config.chunkWords)
    (ready : allocator.HasNumber) :
    (∃ cause events,
      allocator.allocate memory size = .done (.error cause) allocator events) ∨
    ∃ handle next events, allocator.allocate memory size = .done (.ok handle) next events ∧
      Run config (Proper config) (.lent ⟨handle, size⟩ :: history) next ∧
      next.arena.ChunksNamed := by
  have small : size ≤ allocator.config.maxRequestWords := by
    rw [(configured_of_run run).settings]
    exact permitted.2
  have done := allocator.allocate_isDone memory size permitted.1 small
  cases outcome : allocator.allocate memory size with
  | fault reason events =>
    rw [outcome] at done
    exact done.elim
  | done answer next events =>
    cases answer with
    | error cause =>
      obtain ⟨rfl, _⟩ := allocator.allocate_refused memory size cause next events outcome
      exact Or.inl ⟨cause, events, rfl⟩
    | ok handle =>
      have change := allocator.change_of_allocate memory size _ next events outcome
      have most := size_chunks_of_change change
      have longer := run.step history [.lent ⟨handle, size⟩] _ next (.allocate memory size) events
        trivial (perform_allocate outcome)
      exact Or.inr ⟨handle, next, events, rfl, longer, Nat.le_trans most ready⟩

/-- Words that are overwritten, or would be, are no deed. -/
theorem Run.overwritten (run : Run config (Proper config) history allocator)
    (named : allocator.arena.ChunksNamed) (handle : Handle) (size : Nat) (patch : Patch) :
    Run config (Proper config) history (Allocator.store allocator handle size patch) ∧
      (Allocator.store allocator handle size patch).arena.ChunksNamed := by
  refine ⟨run.step history [] _ _ (.write handle size patch) [] trivial rfl, ?_⟩
  rw [Arena.ChunksNamed, size_chunks_store]
  exact named

/-- A block on loan is taken back at its size. -/
theorem Run.released (run : Run config (Proper config) history allocator)
    (named : allocator.arena.ChunksNamed) (block : Block) (onLoan : block ∈ history.loans) :
    ∃ next events, allocator.deallocate block.handle block.size = .done () next events ∧
      Run config (Proper config) (.returned block :: history) next ∧
      next.arena.ChunksNamed := by
  have sound := sound_of_run run named
  obtain ⟨positive, carved, lending⟩ := sound.admits_release block onLoan
  have recorded : ∀ book ∈ allocator.loans, book.size? block.handle = some block.size := by
    intro book found
    obtain rfl := sound.book book found
    exact LoanBook.size?_of_mem _ sound.nodup_loans block onLoan
  have done :=
    allocator.deallocate_eq_done block.handle block.size positive carved lending recorded
  have performed : allocator.perform (.deallocate block.handle block.size) =
      .done [.returned block] _ [] := (Step.mapAnswer_eq_done_iff _ _ _ _ _).mpr ⟨_, done, rfl⟩
  have longer := run.step history [.returned block] _ _ (.deallocate block.handle block.size) []
    (Or.inr onLoan) performed
  exact ⟨_, _, done, longer, named⟩

end Prolonged

/-- A run led to the allocator, its chunks have numbers that fit, and on loan are the held blocks
and the others. -/
def Carries (config : Config) (others held : List Block) (allocator : SegregatedAllocator) :
    Prop :=
  ∃ history, Run config (Proper config) history allocator ∧ allocator.arena.ChunksNamed ∧
    history.loans.Perm (held ++ others)

section Carry

variable {config : Config} {others held : List Block} {allocator : SegregatedAllocator}

theorem carries_of_create (created : create config = .ok allocator) :
    Carries config [] [] allocator := by
  obtain ⟨_, rfl⟩ := configured_of_create config allocator created
  exact ⟨[], .start _ created, Nat.zero_le _, .refl _⟩

theorem Carries.live (carries : Carries config others held allocator) :
    allocator.live = held.length + others.length := by
  obtain ⟨history, run, named, same⟩ := carries
  rw [(sound_of_run run named).live, same.length_eq, List.length_append]

/-- A request within the limits is refused and changes nothing, or its block is on loan. -/
theorem Carries.allocate (carries : Carries config others held allocator) (memory : Memory)
    (size : Nat) (permitted : 0 < size ∧ size ≤ config.chunkWords)
    (ready : allocator.HasNumber) :
    (∃ cause events,
      allocator.allocate memory size = .done (.error cause) allocator events) ∨
    ∃ handle next events, allocator.allocate memory size = .done (.ok handle) next events ∧
      Carries config others (⟨handle, size⟩ :: held) next := by
  obtain ⟨history, run, _, same⟩ := carries
  refine (run.requested memory size permitted ready).imp_right ?_
  rintro ⟨handle, next, events, granted, longer, named⟩
  exact ⟨handle, next, events, granted, _, longer, named, same.cons _⟩

theorem Carries.store (carries : Carries config others held allocator) (handle : Handle)
    (size : Nat) (patch : Patch) :
    Carries config others held (Allocator.store allocator handle size patch) := by
  obtain ⟨history, run, named, same⟩ := carries
  obtain ⟨longer, stillNamed⟩ := run.overwritten named handle size patch
  exact ⟨history, longer, stillNamed, same⟩

/-- A held block is taken back at its size. -/
theorem Carries.deallocate {block : Block} {left : List Block}
    (carries : Carries config others (block :: left) allocator) :
    ∃ next events, allocator.deallocate block.handle block.size = .done () next events ∧
      Carries config others left next := by
  obtain ⟨history, run, named, same⟩ := carries
  have onLoan : block ∈ history.loans := same.mem_iff.mpr List.mem_cons_self
  obtain ⟨next, events, done, longer, stillNamed⟩ := run.released named block onLoan
  refine ⟨next, events, done, _, longer, stillNamed, ?_⟩
  exact ((List.perm_cons_erase onLoan).symm.trans same).cons_inv

/-- Where there is no chunk budget, a request within the limits is refused only for lack of
memory for a chunk. -/
theorem Carries.allocate_granted (carries : Carries config others held allocator)
    (unlimited : config.maxChunks = none) (memory : Memory)
    (granted : memory.grantsWords config.chunkWords = true)
    (entries : ∀ count, memory.grantsEntry count = true) (size : Nat)
    (permitted : 0 < size ∧ size ≤ config.chunkWords) (cause : Refusal)
    (next : SegregatedAllocator) (events : List Event) :
    allocator.allocate memory size ≠ .done (.error cause) next events := by
  obtain ⟨history, run, _, _⟩ := carries
  intro refused
  have configured := configured_of_run run
  rcases configured.allocate_outcomes memory size permitted.1 permitted.2 with
    ⟨_, _, _, equal, _⟩ | ⟨_, spent, _⟩ | ⟨_, _, denied, _⟩ | ⟨_, _, _, _, _, equal, _⟩
  · rw [equal] at refused
    cases refused
  · rw [unlimited] at spent
    cases spent
  · refine denied ⟨?_, entries _⟩
    rw [configured.chunkSizeFor_eq size permitted.2, granted]
  · rw [equal] at refused
    cases refused

end Carry

end SegregatedAllocator

/-! ### A system allocator -/

namespace SystemAllocator

section Size

variable (allocator next : SystemAllocator) (handle : Handle) (size : Nat) (events : List Event)

/-- No request adds more than one slot. -/
theorem size_slots_allocate (memory : Memory) (answer : Except Refusal Handle)
    (done : allocator.allocate memory size = .done answer next events) :
    next.slots.size ≤ allocator.slots.size + 1 := by
  unfold SystemAllocator.allocate at done
  split at done
  · cases done
    exact Nat.le_succ _
  split at done
  · cases done
    exact Nat.le_succ _
  split at done
  · split at done
    · cases done
    · cases done
      exact Nat.le_trans (Nat.le_of_eq Array.size_setIfInBounds) (Nat.le_succ _)
  · split at done
    · cases done
      exact Nat.le_succ _
    · cases done
      exact Nat.le_of_eq (Array.size_push _)

theorem size_slots_deallocate
    (done : allocator.deallocate handle size = .done () next events) :
    next.slots.size = allocator.slots.size := by
  obtain ⟨released, between, _, _, taken, continued, _⟩ := Step.exists_of_andThen done
  have size_between : between.slots.size = allocator.slots.size := by
    unfold release at taken
    split at taken
    · cases taken
      rfl
    · split at taken
      · cases taken
      · cases taken
        exact Array.size_setIfInBounds
  cases released with
  | none => cases continued
  | some actual =>
    simp only at continued
    split at continued
    · cases continued
      exact size_between
    · cases continued

theorem size_slots_store (patch : Patch) :
    (Allocator.store allocator handle size patch).slots.size = allocator.slots.size := by
  show ((allocator.store? handle size patch).getD allocator).slots.size = _
  cases written : allocator.store? handle size patch with
  | none => rfl
  | some stored =>
    obtain ⟨words, _, _, rfl⟩ := store?_eq_some_iff.mp written
    exact Array.size_setIfInBounds

end Size

section Carry

variable {allocator : SystemAllocator}

/-- There is a slot ready for one more block, or a number for a new one. -/
def HasPlace (allocator : SystemAllocator) : Prop :=
  allocator.freeSlots ≠ [] ∨ allocator.slots.size < 2 ^ 32

/-- A request with a place for its block is refused only for lack of memory. -/
theorem allocate_granted (allocator : SystemAllocator) (ready : allocator.HasPlace)
    (memory : Memory) (size : Nat) (positive : 0 < size)
    (granted : memory.grantsWords size = true) (cause : Refusal) (next : SystemAllocator)
    (events : List Event) : allocator.allocate memory size ≠ .done (.error cause) next events := by
  intro refused
  rw [SystemAllocator.allocate, if_neg (Nat.ne_of_gt positive), granted,
    if_neg (Ne.symm Bool.false_ne_true)] at refused
  cases waiting : allocator.freeSlots with
  | cons index rest =>
    simp only [waiting] at refused
    split at refused <;> cases refused
  | nil =>
    have few := ready.resolve_left (not_not_intro waiting)
    have room : ¬ fieldLimit < allocator.slots.size := Nat.not_lt.mpr (Nat.le_pred_of_lt few)
    simp only [waiting, if_neg room] at refused
    cases refused

theorem Sound.perm {loans others : List Block} (sound : Sound allocator loans)
    (same : loans.Perm others) : Sound allocator others where
  distinct := (same.map _).nodup_iff.mp sound.distinct
  held block := same.mem_iff.symm.trans (sound.held block)
  ready := sound.ready
  emptied := sound.emptied
  named := sound.named
  live := sound.live.trans same.length_eq
  liveWords := sound.liveWords.trans (List.Perm.sum_nat (same.map _))

/-- A block on loan is taken back at its size. -/
theorem Sound.deallocate {block : Block} {left : List Block}
    (sound : Sound allocator (block :: left)) :
    ∃ next events, allocator.deallocate block.handle block.size = .done () next events ∧
      Sound next left := by
  obtain ⟨words, found, sized⟩ := (sound.held block).mp List.mem_cons_self
  have without := sound.without block.handle block.size words found sized
  rw [List.erase_cons_head] at without
  exact ⟨_, _, sound.deallocate_eq block.handle block.size words found sized, without⟩

end Carry

end SystemAllocator

namespace Churn.Drive

section Stores

variable (memory : Memory)

open SegregatedAllocator (Carries HasNumber)
open SystemAllocator (HasPlace)

theorem keeps_arena (config : Config) (others : List Block) :
    (words memory).Keeps (fun size => 0 < size ∧ size ≤ config.chunkWords) HasNumber
      (Carries config others) :=
  keeps_words
    (fun _ _ _ ⟨history, run, named, same⟩ moved =>
      ⟨history, run, named, same.trans (moved.append_right others)⟩)
    (fun _ _ size carries permitted ready => carries.allocate memory size permitted ready)
    (fun block _ _ patch carries => carries.store block.handle block.size patch)
    (fun _ _ _ carries => carries.deallocate)

theorem grants_arena (config : Config) (others : List Block) (unlimited : config.maxChunks = none)
    (granted : memory.grantsWords config.chunkWords = true)
    (entries : ∀ count, memory.grantsEntry count = true) :
    (words memory).Grants (fun size => 0 < size ∧ size ≤ config.chunkWords) HasNumber
      (Carries config others) :=
  grants_words fun _ _ size carries permitted _ =>
    Carries.allocate_granted carries unlimited memory granted entries size permitted

theorem measured_arena :
    (words memory).Measured fun allocator : SegregatedAllocator => allocator.arena.chunks.size :=
  measured_words
    (fun allocator size answer next events done => SegregatedAllocator.size_chunks_of_change
      (allocator.change_of_allocate memory size answer next events done))
    SegregatedAllocator.size_chunks_store
    (fun allocator handle size next events done => Nat.le_of_eq (congrArg (·.chunks.size)
      (allocator.arena_of_deallocate next handle size events done)))

theorem keeps_system (Permits : Nat → Prop) (Ready : SystemAllocator → Prop) :
    (words memory).Keeps Permits Ready fun held allocator =>
      SystemAllocator.Sound allocator held :=
  keeps_words
    (fun _ _ _ sound moved => sound.perm moved)
    (fun _ allocator size sound _ _ => by
      rcases sound.allocate memory size with ⟨cause, refused⟩ | ⟨handle, next, granted, _, lends⟩
      · exact Or.inl ⟨cause, [], refused⟩
      · exact Or.inr ⟨handle, next, [], granted, lends⟩)
    (fun block _ _ patch sound =>
      (sound.written block block.size patch List.mem_cons_self (Nat.le_refl _)).1)
    (fun _ _ _ sound => sound.deallocate)

theorem grants_system :
    (words memory).Grants (fun size => 0 < size ∧ memory.grantsWords size = true) HasPlace
      fun held allocator => SystemAllocator.Sound allocator held :=
  grants_words fun _ allocator size _ permitted place =>
    allocator.allocate_granted place memory size permitted.1 permitted.2

theorem measured_system :
    (words memory).Measured fun allocator : SystemAllocator => allocator.slots.size :=
  measured_words
    (fun allocator size answer next events done =>
      allocator.size_slots_allocate next size events memory answer done)
    SystemAllocator.size_slots_store
    (fun allocator handle size next events done => Nat.le_of_eq
      (allocator.size_slots_deallocate next handle size events done))

end Stores

end Churn.Drive

end Allotment
