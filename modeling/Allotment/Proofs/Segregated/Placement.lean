/-
Where blocks lie. A handle names its chunk and its offset in 32 bits each, and nothing in it
shows whether a larger number was cut. So here a run keeps, next to the handles, the plain
numbers of every place that was carved since the last reset, told by the chunks alone: a block
that was just carved ends the used part of the newest chunk.

The handles then tell the plain numbers. A carved block starts behind padding and ends within
its chunk, whose words are few enough for an offset. A block that is lent again was carved at
some time since the last reset, and its place is still the one that was kept.
-/

import Allotment.Proofs.Segregated.Carvings

namespace Allotment

namespace Arena

/-! ### The place of a carved block -/

/-- Where the block starts that was carved between two states of an arena, if there was one: the
number of the newest chunk, and as many words before the end of its used part as the arena counts
more as carved. -/
def placeBetween? (before after : Arena) : Option (Nat × Nat) :=
  if before.carvedWords < after.carvedWords then
    after.chunks.back?.map fun newest =>
      (after.chunks.size - 1, newest.used - (after.carvedWords - before.carvedWords))
  else none

theorem placeBetween?_of_same {before after : Arena}
    (same : after.carvedWords = before.carvedWords) : before.placeBetween? after = none :=
  if_neg (Nat.not_lt.mpr (Nat.le_of_eq same))

/-- The handle of a block that is obtained tells the place where it was carved, at a multiple of the
unit of the arena. -/
theorem placeBetween?_of_obtain (memory : Memory) (before : Arena) (size : Nat) (handle : Handle)
    (after : Arena) (events : List Event) (positive : 0 < size) (named : after.ChunksNamed)
    (small : ∀ chunk ∈ after.chunks, chunk.capacity ≤ fieldLimit)
    (obtained : before.obtain memory size = .done (.ok handle) after events) :
    before.placeBetween? after = some (handle.chunk.toNat, handle.offset.toNat) ∧
      before.alignment.words ∣ handle.offset.toNat := by
  obtain ⟨base, newest, origin, found, fits, rfl, rfl⟩ :=
    obtain_granted memory before size handle after events positive obtained
  have settings : base.carvedWords = before.carvedWords ∧ base.alignment = before.alignment := by
    rcases origin with rfl | ⟨_, _, rfl⟩
    · exact ⟨rfl, rfl⟩
    · exact ⟨rfl, rfl⟩
  have more : (base.carved newest size).carvedWords = before.carvedWords + size := by
    rw [← settings.1]
    rfl
  have capacity : newest.capacity ≤ fieldLimit :=
    small (newest.extend base.alignment size)
      (Array.mem_of_getElem? (base.getElem?_carved_newest newest size found))
  obtain ⟨chunk, offset⟩ := base.toNat_nextHandle newest size
    (by rwa [ChunksNamed, size_chunks_carved] at named) found positive fits capacity
  constructor
  · rw [placeBetween?, more, if_pos (Nat.lt_add_of_pos_right positive),
      base.back?_carved newest size found, Option.map_some, Chunk.used_extend,
      size_chunks_carved, Nat.add_sub_cancel_left, Nat.add_sub_cancel, chunk, offset]
  · rw [offset, ← settings.2]
    exact base.alignment.words_dvd_roundUp newest.used

end Arena

/-- A block with the number of its chunk and its offset there as plain numbers. -/
structure Placement where
  block : Block
  chunk : Nat
  offset : Nat

/-- The handle of the block tells its place, and the block starts at a multiple of the unit. -/
structure Placement.Exact (alignment : Alignment) (placement : Placement) : Prop where
  chunk : placement.block.handle.chunk.toNat = placement.chunk
  offset : placement.block.handle.offset.toNat = placement.offset
  aligned : alignment.words ∣ placement.offset

theorem Placement.Exact.tells {alignment : Alignment} {placement : Placement} {handle : Handle}
    {size : Nat} (exact : placement.Exact alignment) (same : placement.block = ⟨handle, size⟩) :
    handle.chunk.toNat = placement.chunk ∧ handle.offset.toNat = placement.offset := by
  rw [← exact.chunk, ← exact.offset, same]
  exact ⟨rfl, rfl⟩

namespace SegregatedAllocator

/-! ### Runs that keep places -/

/-- The places of the blocks carved since the last reset, the latest first, after one more
command. -/
def placements (deeds : History) (before after : SegregatedAllocator)
    (places : List Placement) : List Placement :=
  match deeds, before.arena.placeBetween? after.arena with
  | [.cleared], _ => []
  | [.lent block], some (chunk, offset) => ⟨block, chunk, offset⟩ :: places
  | _, _ => places

/-- A run with the places of the blocks that it carved since the last reset, the latest first. -/
inductive PlacingRun (config : Config) (Permits : History → Command → Prop) :
    History → List Placement → SegregatedAllocator → Prop
  | start (allocator : SegregatedAllocator) (created : create config = .ok allocator) :
    PlacingRun config Permits [] [] allocator
  | step (history deeds : History) (places : List Placement) (before after : SegregatedAllocator)
    (command : Command) (events : List Event)
    (run : PlacingRun config Permits history places before)
    (permitted : Permits history command)
    (performed : before.perform command = .done deeds after events) :
    PlacingRun config Permits (deeds ++ history) (placements deeds before after places) after

section Run

variable {config : Config} {Permits : History → Command → Prop} {history : History}
  {places : List Placement} {allocator : SegregatedAllocator}

theorem PlacingRun.run (placing : PlacingRun config Permits history places allocator) :
    Run config Permits history allocator := by
  induction placing with
  | start allocator created => exact .start allocator created
  | step history deeds places before after command events run permitted performed
      inductionHypothesis =>
    exact inductionHypothesis.step history deeds before after command events permitted performed

/-- Every run can keep the places of what it carves. -/
theorem Run.exists_placements (run : Run config Permits history allocator) :
    ∃ places, PlacingRun config Permits history places allocator := by
  induction run with
  | start allocator created => exact ⟨[], .start allocator created⟩
  | step history deeds before after command events run permitted performed inductionHypothesis =>
    obtain ⟨places, placing⟩ := inductionHypothesis
    exact ⟨_, placing.step history deeds places before after command events permitted performed⟩

end Run

/-! ### What the places say -/

/-- Every block on loan and every block that waits has a place, and the places are exact. -/
structure Placed (config : Config) (history : History) (places : List Placement) : Prop where
  covers : ∀ block ∈ history.loans ++ history.shelf, ∃ place ∈ places, place.block = block
  exact : ∀ place ∈ places, place.Exact config.alignment

section Change

variable {config : Config} {history deeds : History} {places : List Placement}
  {before after : SegregatedAllocator}

/-- Nothing is on loan and nothing waits. -/
theorem Placed.nothing (restarted : history = [] ∨ ∃ earlier, history = .cleared :: earlier) :
    Placed config history [] := by
  rcases restarted with rfl | ⟨earlier, rfl⟩
  · exact ⟨nofun, nofun⟩
  · exact ⟨nofun, nofun⟩

/-- A block that is only moved keeps its place. -/
theorem Placed.moved (placed : Placed config history places) (deed : Deed)
    (moved : (History.loans (deed :: history) ++ History.shelf (deed :: history)).Perm
      (history.loans ++ history.shelf)) : Placed config (deed :: history) places :=
  ⟨fun block member => placed.covers block (moved.mem_iff.mp member), placed.exact⟩

/-- A carved block comes with its own place. -/
theorem Placed.carve (placed : Placed config history places) (place : Placement)
    (exact : place.Exact config.alignment) :
    Placed config (.lent place.block :: history) (place :: places) where
  covers block member := by
    have known : block = place.block ∨ block ∈ history.loans ++ history.shelf := by
      rcases List.mem_append.mp member with onLoan | waiting
      · exact (List.mem_cons.mp onLoan).imp_right (List.mem_append_left _)
      · exact Or.inr (List.mem_append_right _ (List.mem_of_mem_erase waiting))
    rcases known with rfl | older
    · exact ⟨place, List.mem_cons_self, rfl⟩
    · obtain ⟨other, member, same⟩ := placed.covers block older
      exact ⟨other, List.mem_cons_of_mem _ member, same⟩
  exact := List.forall_mem_cons.mpr ⟨exact, placed.exact⟩

/-- Every change keeps the places, where only blocks on loan come back and the chunks have numbers
that fit into handles. -/
theorem placed_of_change (configured : Configured config before)
    (shelved : before.free = history.shelf) (placed : Placed config history places)
    (named : after.arena.ChunksNamed) (change : Change before deeds after)
    (returns : ∀ block, deeds = [.returned block] → block ∈ history.loans) :
    Placed config (deeds ++ history) (placements deeds before after places) := by
  have kept := configured_of_change configured change
  cases change with
  | nothing => exact placed
  | written handle size patch stored overwrites => exact placed
  | reused handle size left positive small taken =>
    obtain ⟨waiting, _⟩ := FreeBlocks.take?_eq_some size _ left handle taken
    rw [shelved] at waiting
    have nowhere : before.arena.placeBetween? before.arena = none :=
      Arena.placeBetween?_of_same rfl
    have same : placements [.lent ⟨handle, size⟩] before
        ({ before with free := left }.lend ⟨handle, size⟩) places = places := by
      simp only [placements, lend, nowhere]
    rw [same]
    exact placed.moved _ (history.perm_of_lent _ waiting)
  | carved memory handle size grown events positive small absent obtained =>
    obtain ⟨place, aligned⟩ := Arena.placeBetween?_of_obtain memory _ size handle grown events
      positive named kept.capacity_le obtained
    have more : placements [.lent ⟨handle, size⟩] before
        ({ before with arena := grown }.lend ⟨handle, size⟩) places =
          ⟨⟨handle, size⟩, handle.chunk.toNat, handle.offset.toNat⟩ :: places := by
      simp only [placements, lend, place]
    rw [more]
    rw [configured.alignment] at aligned
    exact placed.carve ⟨⟨handle, size⟩, _, _⟩ ⟨rfl, rfl, aligned⟩
  | returned handle size positive carved lending recorded =>
    exact placed.moved _ (history.perm_of_returned _ (returns ⟨handle, size⟩ rfl))
  | cleared => exact Placed.nothing (Or.inr ⟨history, rfl⟩)

end Change

/-- Every run that ends with chunks whose numbers fit keeps exact places. -/
theorem placed_of_run {config : Config} {history : History} {places : List Placement}
    {allocator : SegregatedAllocator}
    (placing : PlacingRun config (Proper config) history places allocator)
    (named : allocator.arena.ChunksNamed) : Placed config history places := by
  induction placing with
  | start allocator created => exact Placed.nothing (Or.inl rfl)
  | step history deeds places before after command events placing proper performed
      inductionHypothesis =>
    have run := placing.run
    have change := before.change_of_perform command deeds after events performed
    rcases chunksNamed_of_change named change with namedBefore | rfl
    · refine placed_of_change (configured_of_run run) (free_eq_shelf run)
        (inductionHypothesis namedBefore) named change fun block equal => ?_
      subst equal
      exact mem_loans_of_returned run command events block proper performed
    · cases change
      exact Placed.nothing (Or.inr ⟨history, rfl⟩)

/-! ### Where a block is lent -/

/-- A command that lends a block is proper. -/
theorem proper_of_lent {config : Config} {history : History} {allocator next : SegregatedAllocator}
    (command : Command) (block : Block) (events : List Event)
    (performed : allocator.perform command = .done [.lent block] next events) :
    Proper config history command := by
  have accomplishes := allocator.accomplishes_of_perform command _ next events performed
    (.lent block) List.mem_cons_self
  cases command with
  | deallocate handle size => cases accomplishes
  | tryDeallocate handle size => cases accomplishes
  | _ => trivial

/-- A block that is lent, newly carved or again, starts at a multiple of the unit, and lies in the
used part of one chunk, which has the size of the configuration; the number of the chunk is below
the number of chunks, and that is within the budget. The place that the handle tells is the one
where the block was carved, cut by nothing. Without a budget the chunks must have numbers that fit
into handles. -/
theorem lent_in_place (config : Config) (history : History)
    (allocator next : SegregatedAllocator) (command : Command) (handle : Handle) (size : Nat)
    (events : List Event) (run : Run config (Proper config) history allocator)
    (performed : allocator.perform command = .done [.lent ⟨handle, size⟩] next events)
    (named : config.maxChunks = none → next.arena.ChunksNamed) :
    config.alignment.words ∣ handle.offset.toNat ∧
      handle.offset.toNat + size ≤ config.chunkWords ∧
      handle.chunk.toNat < next.arena.chunks.size ∧
      (∀ limit ∈ config.maxChunks, next.arena.chunks.size ≤ limit) ∧
      (∃ chunk, next.arena.chunks[handle.chunk.toNat]? = some chunk ∧
        handle.offset.toNat + size ≤ chunk.used ∧ chunk.used ≤ chunk.capacity ∧
        chunk.capacity = config.chunkWords) ∧
      (∃ places,
        PlacingRun config (Proper config) (.lent ⟨handle, size⟩ :: history) places next) ∧
      ∀ places,
        PlacingRun config (Proper config) (.lent ⟨handle, size⟩ :: history) places next →
        (∃ place ∈ places, place.block = ⟨handle, size⟩) ∧
        ∀ place ∈ places, place.block = ⟨handle, size⟩ →
          handle.chunk.toNat = place.chunk ∧ handle.offset.toNat = place.offset := by
  have proper : Proper config history command :=
    proper_of_lent command ⟨handle, size⟩ events performed
  have later := run.step history _ allocator next command events proper performed
  have configured := configured_of_run later
  have fits := configured.chunksNamed named
  have sound := sound_of_run later fits
  have lent : ⟨handle, size⟩ ∈ History.loans (.lent ⟨handle, size⟩ :: history) ++
      History.shelf (.lent ⟨handle, size⟩ :: history) := List.mem_cons_self
  obtain ⟨_, _, chunk, found, inside⟩ := (Arena.contains_iff _ _ _).mp (sound.carved _ lent)
  have member := Array.mem_of_getElem? found
  have within := (counted_of_run later).arena.used chunk member
  have capacity := configured.capacity chunk member
  obtain ⟨places, placing⟩ := later.exists_placements
  have placed := placed_of_run placing fits
  obtain ⟨place, kept, same⟩ := placed.covers _ lent
  have exact := placed.exact place kept
  have offset := (exact.tells same).2
  refine ⟨offset ▸ exact.aligned, capacity ▸ Nat.le_trans inside within,
    (Array.getElem?_eq_some_iff.mp found).1, configured.budget,
    ⟨chunk, found, inside, within, capacity⟩, ⟨places, placing⟩, fun others placing => ?_⟩
  have placed := placed_of_run placing fits
  exact ⟨placed.covers _ lent, fun other member => (placed.exact other member).tells⟩

/-- Blocks at even words, in chunks of four. The block of two words behind one of a single word
starts behind the padding and ends its chunk, a second chunk follows, and the block is lent again
at the same place. -/
theorem lent_in_place_again :
    ∃ (history : History) (allocator next : SegregatedAllocator),
      Run { chunkWords := 4, alignment := .doubleWord }
        (Proper { chunkWords := 4, alignment := .doubleWord }) history allocator ∧
        allocator.perform (.allocate .addressable 2) =
          .done [.lent ⟨⟨0, 2, 0⟩, 2⟩] next [] ∧
        allocator.arena.chunks.size = 2 ∧ Alignment.doubleWord.words ∣ 2 ∧
        (∃ chunk, next.arena.chunks[0]? = some chunk ∧ 2 + 2 ≤ chunk.used ∧
          chunk.used ≤ chunk.capacity ∧ chunk.capacity = 4) ∧
        ∃ places, PlacingRun { chunkWords := 4, alignment := .doubleWord }
          (Proper { chunkWords := 4, alignment := .doubleWord })
          (.lent ⟨⟨0, 2, 0⟩, 2⟩ :: history) places next ∧
          ∃ place ∈ places, place.block = ⟨⟨0, 2, 0⟩, 2⟩ := by
  have created : Run { chunkWords := 4, alignment := .doubleWord }
    (Proper { chunkWords := 4, alignment := .doubleWord }) [] (fresh _) := .start _ rfl
  have first := created.step _ _ _ _ (.allocate .addressable 1) _ trivial rfl
  have second := first.step _ _ _ _ (.tryAllocate .addressable 2) _ trivial rfl
  have third := second.step _ _ _ _ (.allocate .addressable 3) _ trivial rfl
  have returned := third.step _ _ _ _ (.tryDeallocate ⟨0, 2, 0⟩ 2) _ (Or.inr (by decide)) rfl
  obtain ⟨aligned, _, _, _, inside, ⟨places, placing⟩, told⟩ :=
    lent_in_place _ _ _ _ (.allocate .addressable 2) _ _ _ returned rfl fun _ => by decide
  exact ⟨_, _, _, returned, rfl, rfl, aligned, inside, places, placing, (told places placing).1⟩

end SegregatedAllocator

end Allotment
