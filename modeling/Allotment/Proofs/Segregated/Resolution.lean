/-
Handles of a segregated allocator resolve as long as their epoch lasts, however the client
misuses it. Without a record of loans a release at a wrong size, of a part of a block or of a
block that was returned before goes unnoticed, and then the released blocks overlap. But every
released block was checked to be carved memory, carving keeps what is carved, and a reset takes
the released blocks away. So whatever is lent names words, and under the epoch of the arena, as
long as the number of its chunk fits into a handle.

That epoch counts the resets. A handle from before a reset therefore differs from every handle
after it, and no look-up, release or reuse can take the one for the other.
-/

import Allotment.Proofs.Lending.Resets
import Allotment.Proofs.Segregated.ReleaseCheck

namespace Allotment

namespace SegregatedAllocator

/-! ### Released blocks are carved -/

/-- Every released block is carved memory of the current epoch. -/
def Resolves (allocator : SegregatedAllocator) : Prop :=
  ∀ block ∈ allocator.free, allocator.arena.contains block.handle block.size = true

section Change

variable {before after : SegregatedAllocator} {deeds : History}

theorem resolves_of_change (resolves : Resolves before) (change : Change before deeds after) :
    Resolves after := by
  cases change with
  | nothing => exact resolves
  | written handle size patch stored overwrites =>
    exact fun block member => Arena.contains_store overwrites _ _ (resolves block member)
  | reused handle size left positive small taken =>
    obtain ⟨_, rfl⟩ := FreeBlocks.take?_eq_some size _ left handle taken
    exact fun block member => resolves block (List.mem_of_mem_erase member)
  | carved memory handle size grown events positive small absent obtained =>
    obtain ⟨extension, _⟩ :=
      Arena.extends_of_obtain memory _ size handle grown events positive obtained
    exact fun block member => extension.contains _ _ (resolves block member)
  | returned handle size positive carved lending recorded =>
    exact List.forall_mem_cons.mpr ⟨carved, resolves⟩
  | cleared => exact nofun

/-- A block is lent under the current epoch. -/
theorem epoch_of_lent (resolves : Resolves before) (block : Block)
    (change : Change before [.lent block] after) :
    block.handle.epoch = before.arena.epoch ∧ after.arena.epoch = before.arena.epoch := by
  cases change with
  | reused handle size left positive small taken =>
    obtain ⟨waiting, _⟩ := FreeBlocks.take?_eq_some size _ left handle taken
    exact ⟨((Arena.contains_iff _ _ _).mp (resolves _ waiting)).1, rfl⟩
  | carved memory handle size grown events positive small absent obtained =>
    obtain ⟨extension, current⟩ :=
      Arena.extends_of_obtain memory _ size handle grown events positive obtained
    exact ⟨current, extension.epoch⟩

/-- The arena has come to the epoch of the history, and the handles bear the epochs of their
times. -/
theorem dated_of_change {history : History} (resolves : Resolves before)
    (epoch : before.arena.epoch = history.epoch) (dated : history.Dated)
    (change : Change before deeds after) :
    after.arena.epoch = History.epoch (deeds ++ history) ∧ History.Dated (deeds ++ history) := by
  have lent (block : Block) (own : deeds = [.lent block]) : after.arena.epoch =
      History.epoch (deeds ++ history) ∧ History.Dated (deeds ++ history) := by
    subst own
    obtain ⟨current, same⟩ := epoch_of_lent resolves block change
    exact ⟨(same.trans epoch).trans (History.epoch_lent _ _).symm, dated, current.trans epoch⟩
  cases change with
  | nothing => exact ⟨epoch, dated⟩
  | written handle size patch stored overwrites =>
    exact ⟨(Arena.epoch_store overwrites).trans epoch, dated⟩
  | reused handle size left positive small taken => exact lent _ rfl
  | carved memory handle size grown events positive small absent obtained => exact lent _ rfl
  | returned handle size positive carved lending recorded =>
    exact ⟨epoch.trans (History.epoch_returned _ _).symm, dated⟩
  | cleared =>
    exact ⟨(congrArg (· + 1) epoch).trans (History.epoch_cleared _).symm, dated⟩

end Change

section Run

variable {config : Config} {Permits : History → Command → Prop} {history : History}
  {allocator : SegregatedAllocator}

theorem resolves_of_run (run : Run config Permits history allocator) : Resolves allocator := by
  induction run with
  | start allocator created =>
    obtain ⟨_, rfl⟩ := configured_of_create config allocator created
    exact nofun
  | step history deeds before after command events run permitted performed inductionHypothesis =>
    exact resolves_of_change inductionHypothesis
      (before.change_of_perform command deeds after events performed)

theorem dated_of_run (run : Run config Permits history allocator) :
    allocator.arena.epoch = history.epoch ∧ history.Dated := by
  induction run with
  | start allocator created =>
    obtain ⟨_, rfl⟩ := configured_of_create config allocator created
    exact ⟨rfl, trivial⟩
  | step history deeds before after command events run permitted performed inductionHypothesis =>
    exact dated_of_change (resolves_of_run run) inductionHypothesis.1 inductionHypothesis.2
      (before.change_of_perform command deeds after events performed)

/-- What is lent is carved memory, where the chunks have numbers that fit. -/
theorem contains_of_lent (run : Run config Permits history allocator)
    {next : SegregatedAllocator} (handle : Handle) (size : Nat)
    (change : Change allocator [.lent ⟨handle, size⟩] next)
    (named : config.maxChunks = none → next.arena.ChunksNamed) :
    next.arena.contains handle size = true := by
  have configured := configured_of_run run
  have fits := (configured_of_change configured change).chunksNamed named
  cases change with
  | reused handle size left positive small taken =>
    obtain ⟨waiting, _⟩ := FreeBlocks.take?_eq_some size _ left handle taken
    exact resolves_of_run run _ waiting
  | carved memory handle size grown events positive small absent obtained =>
    exact (handsOut_of_carved configured memory handle size grown events positive small absent
      obtained fits).contains

/-- A released block is carved memory, so it is owned for that alone. -/
theorem owns_eq_contains (resolves : Resolves allocator) (handle : Handle) (size : Nat) :
    allocator.owns handle size = allocator.arena.contains handle size := by
  cases carved : allocator.arena.contains handle size with
  | true => rw [owns, carved, Bool.true_or]
  | false =>
    have absent : ⟨handle, size⟩ ∉ allocator.free := by
      intro member
      rw [resolves _ member] at carved
      cases carved
    rw [owns, carved, Bool.false_or, isFree, decide_eq_false absent]

/-- A handle of another epoch names no words, does not wait for reuse, and is refused. -/
theorem refused_of_epoch_ne (resolves : Resolves allocator) (handle : Handle)
    (stale : handle.epoch ≠ allocator.arena.epoch) :
    (∀ size, allocator.words? handle size = none) ∧
    (∀ size patch, allocator.store? handle size patch = none) ∧
    (∀ size, ⟨handle, size⟩ ∉ allocator.free) ∧
    ∀ size, 0 < size → allocator.tryDeallocate handle size =
      .refused (.staleHandle handle.epoch allocator.arena.epoch) allocator := by
  have nowhere : allocator.arena.chunkOf? handle = none := if_neg stale
  refine ⟨fun size => ?_, fun size patch => ?_, fun size member => ?_, fun size positive => ?_⟩
  · rw [words?, Arena.words?, nowhere, Option.bind_none]
  · rw [store?, Arena.store?, nowhere, Option.bind_none, Option.map_none]
  · exact stale ((Arena.contains_iff _ _ _).mp (resolves _ member)).1
  · exact (tryDeallocate_eq_refused_iff _ _ _ _).mpr
      ((checkRelease_staleHandle_iff _ _ _).mpr ⟨Nat.ne_of_gt positive, stale⟩)

end Run

/-! ### Handles that resolve -/

/-- In every state of a run, whatever commands it is of, every released block is carved memory, so
a block is owned exactly if it is; and what the next command lends is of the current epoch and
names as many words as its size says, if without a budget the chunks have numbers that fit into
handles. With fewer resets than epochs, a handle from before a reset names no words, does not wait
for reuse, is refused as stale, and was not lent again. -/
theorem handles_resolve (config : Config) (Permits : History → Command → Prop)
    (history : History) (allocator : SegregatedAllocator)
    (run : Run config Permits history allocator) :
    (∀ handle size, ⟨handle, size⟩ ∈ allocator.free →
      allocator.arena.contains handle size = true) ∧
    (∀ handle size, allocator.owns handle size = allocator.arena.contains handle size) ∧
    (∀ (command : Command) (handle : Handle) (size : Nat) (next : SegregatedAllocator)
        (events : List Event),
      allocator.perform command = .done [.lent ⟨handle, size⟩] next events →
      handle.epoch = allocator.arena.epoch ∧ handle.epoch = next.arena.epoch ∧
        ((config.maxChunks = none → next.arena.ChunksNamed) →
          ∃ words, next.words? handle size = some words ∧ words.length = size)) ∧
    (history.resets < UInt32.size →
      ∀ newer older handle issued, history = newer ++ .cleared :: older →
        .lent ⟨handle, issued⟩ ∈ older →
        (∀ size, allocator.words? handle size = none) ∧
        (∀ size patch, allocator.store? handle size patch = none) ∧
        (∀ size, ⟨handle, size⟩ ∉ allocator.free) ∧
        (∀ size, 0 < size → allocator.tryDeallocate handle size =
          .refused (.staleHandle handle.epoch allocator.arena.epoch) allocator) ∧
        ∀ size, .lent ⟨handle, size⟩ ∉ newer) := by
  have resolves := resolves_of_run run
  obtain ⟨epoch, dated⟩ := dated_of_run run
  refine ⟨fun handle size => resolves ⟨handle, size⟩, owns_eq_contains resolves,
    fun command handle size next events performed => ?_,
    fun few newer older handle issued split lent => ?_⟩
  · have change := allocator.change_of_perform command _ next events performed
    obtain ⟨current, same⟩ := epoch_of_lent resolves ⟨handle, size⟩ change
    exact ⟨current, current.trans same.symm, fun named =>
      next.arena.exists_words handle size (contains_of_lent run handle size change named)⟩
  · subst split
    have stale : handle.epoch ≠ allocator.arena.epoch := by
      rw [epoch]
      exact dated.epoch_ne few ⟨handle, issued⟩ lent
    obtain ⟨noWords, noStore, notFree, refused⟩ := refused_of_epoch_ne resolves handle stale
    exact ⟨noWords, noStore, notFree, refused, fun size =>
      dated.not_lent_again few handle issued size lent⟩

/-- Nothing is recorded. A block of four words came back as one of two, and then its middle two
words, too, so the released blocks overlap; the middle ones are lent and resolve. After a reset
the block of four words is refused as stale. -/
theorem handles_resolve_after_misuse :
    ∃ (misused reset : History) (overlapping allocator : SegregatedAllocator),
      Run { chunkWords := 8 } (fun _ _ => True) misused overlapping ∧
        overlapping.free = [⟨⟨0, 1, 0⟩, 2⟩, ⟨⟨0, 0, 0⟩, 2⟩] ∧
        (∃ next events,
          overlapping.perform (.allocate .addressable 2) =
            .done [.lent ⟨⟨0, 1, 0⟩, 2⟩] next events ∧
          ∃ words, next.words? ⟨0, 1, 0⟩ 2 = some words ∧ words.length = 2) ∧
        Run { chunkWords := 8 } (fun _ _ => True) reset allocator ∧ reset = .cleared :: misused ∧
        allocator.words? ⟨0, 0, 0⟩ 4 = none ∧
        allocator.tryDeallocate ⟨0, 0, 0⟩ 4 = .refused (.staleHandle 0 1) allocator := by
  have created : Run { chunkWords := 8 } (fun _ _ => True) [] (fresh _) := .start _ rfl
  have first := created.step _ _ _ _ (.allocate .addressable 4) _ trivial rfl
  have second := first.step _ _ _ _ (.allocate .addressable 3) _ trivial rfl
  have short := second.step _ _ _ _ (.deallocate ⟨0, 0, 0⟩ 2) _ trivial rfl
  have middle := short.step _ _ _ _ (.tryDeallocate ⟨0, 1, 0⟩ 2) _ trivial rfl
  have reset := middle.step _ _ _ _ .reset _ trivial rfl
  obtain ⟨_, _, lends, _⟩ := handles_resolve _ _ _ _ middle
  obtain ⟨_, _, resolves⟩ := lends (.allocate .addressable 2) ⟨0, 1, 0⟩ 2 _ _ rfl
  obtain ⟨_, _, _, stale⟩ := handles_resolve _ _ _ _ reset
  obtain ⟨noWords, _, _, refused, _⟩ :=
    stale (by decide +kernel) [] _ ⟨0, 0, 0⟩ 4 rfl (by decide +kernel)
  exact ⟨_, _, _, _, middle, rfl, ⟨_, _, rfl, resolves fun _ => by decide +kernel⟩, reset, rfl,
    noWords 4, refused 4 (by decide)⟩

/-- Every chunk number is used up and nothing was ever reset: two words are lent, and the handle
names no words. -/
theorem lent_unresolved_past_chunk_numbers :
    ∃ (allocator next : SegregatedAllocator) (events : List Event),
      Run { chunkWords := 2 } (fun _ _ => True) (History.crowd (2 ^ 32)) allocator ∧
        (History.crowd (2 ^ 32)).resets = 0 ∧
        allocator.perform (.allocate .addressable 2) =
          .done [.lent ⟨⟨0, 0, 0⟩, 2⟩] next events ∧
        next.words? ⟨0, 0, 0⟩ 2 = none := by
  obtain ⟨allocator, crowded, run⟩ :=
    exists_crowded_run (fun _ _ => True) (fun _ _ _ => trivial) false (2 ^ 32) (Nat.le_succ _)
  obtain ⟨next, events, later, granted⟩ := crowded.allocate_past_numbers
  exact ⟨allocator, next, events, run, History.resets_crowd _, perform_allocate granted,
    later.words?_first⟩

end SegregatedAllocator

end Allotment
