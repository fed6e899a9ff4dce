import MetalAngle.Metal.BufferPoolRetention
import MetalAngle.Metal.TriFanArrays

/-!
# Regions that stay what they are until the buffers are released

A pool without a maximum of buffers releases none of them in an allocation.  What it hands out
then overlaps nothing that it has handed out since the last release.
-/

namespace MetalAngle.Metal

open List BufferPool Nat Option

namespace BufferPool

variable {pool pool' : BufferPool} {d : Device}

/-- Every buffer is held once, and there is no maximum that an allocation could reach. -/
structure Unlimited (pool : BufferPool) : Prop where
  maxBuffers : pool.mMaxBuffers = 0
  alignment : pool.mAlignment = kIndexBufferOffsetAlignment
  initialSize : pool.mInitialSize = 0
  nodup : pool.held.Nodup
  made : ∀ buffer ∈ pool.held, buffer < pool.buffersMade
  next_le : pool.mNextAllocationOffset ≤ pool.mSize
  size_lt : pool.mSize < 2 ^ 32

/-- The pool does not hand these bytes out before it releases its buffers. -/
structure HandedOut (pool : BufferPool) (buffer offset size : Nat) : Prop where
  made : buffer < pool.buffersMade
  notFree : buffer ∉ pool.mBufferFreeList
  passed : pool.mBuffer = some buffer → offset + size ≤ pool.mNextAllocationOffset

/-- What has been handed out stays so. -/
def Advances (pool pool' : BufferPool) : Prop :=
  ∀ buffer offset size, pool.HandedOut buffer offset size → pool'.HandedOut buffer offset size

theorem Unlimited.updateBuffer (h : pool.Unlimited) (buffer : Nat) (f : Buffer → Buffer) :
    (pool.updateBuffer buffer f).Unlimited := { h with }

theorem Unlimited.commit (h : pool.Unlimited) :
    pool.commit.Unlimited ∧ Advances pool pool.commit := by
  unfold BufferPool.commit
  split
  case h_1 => exact ⟨h, fun _ _ _ hout => hout⟩
  case h_2 =>
    split
    case isTrue => exact ⟨{ h with }, fun _ _ _ hout => { hout with }⟩
    case isFalse => exact ⟨h, fun _ _ _ hout => hout⟩

theorem Unlimited.of_subperm (h : pool.Unlimited) (hheld : pool'.held.Subperm pool.held)
    (hframe : SameFrame pool pool' ∨ pool'.mAlignment = pool.mAlignment ∧
      pool'.mInitialSize = pool.mInitialSize ∧ pool'.mMaxBuffers = pool.mMaxBuffers)
    (hmade : pool'.buffersMade = pool.buffersMade)
    (hnext : pool'.mNextAllocationOffset ≤ pool'.mSize) (hsize : pool'.mSize < 2 ^ 32) :
    pool'.Unlimited := by
  have hsame : pool'.mAlignment = pool.mAlignment ∧ pool'.mInitialSize = pool.mInitialSize ∧
      pool'.mMaxBuffers = pool.mMaxBuffers :=
    hframe.elim (fun hframe => ⟨hframe.mAlignment, hframe.mInitialSize, hframe.mMaxBuffers⟩) id
  obtain ⟨halignment, hinitial, hmax⟩ := hsame
  exact {
    maxBuffers := hmax.trans h.maxBuffers
    alignment := halignment.trans h.alignment
    initialSize := hinitial.trans h.initialSize
    nodup := by
      obtain ⟨l, hperm, hsublist⟩ := hheld
      exact hperm.nodup_iff.mp (h.nodup.sublist hsublist)
    made := fun buffer hbuffer => (h.made buffer (hheld.subset hbuffer)).trans_eq hmade.symm
    next_le := hnext
    size_lt := hsize }

/-! ## Releasing -/

theorem releaseInFlightBuffers_rest (pool : BufferPool) (d : Device) :
    (pool.releaseInFlightBuffers d).buffersMade = pool.buffersMade ∧
      (pool.releaseInFlightBuffers d).mNextAllocationOffset = pool.mNextAllocationOffset := by
  unfold releaseInFlightBuffers
  refine foldlRecOn pool.mInFlightBuffers (releaseInFlightBuffer d)
    (motive := fun p => p.buffersMade = pool.buffersMade ∧
      p.mNextAllocationOffset = pool.mNextAllocationOffset) ⟨rfl, rfl⟩ fun p hp toRelease _ => ?_
  unfold releaseInFlightBuffer
  dsimp only
  split
  · exact hp
  · exact hp

theorem Unlimited.releaseInFlightBuffers (h : pool.Unlimited) (d : Device) :
    (pool.releaseInFlightBuffers d).Unlimited := by
  have hframe := releaseInFlightBuffers_frame pool d
  obtain ⟨hmade, hnext⟩ := releaseInFlightBuffers_rest pool d
  refine h.of_subperm ?_ (Or.inl hframe) hmade ?_ (hframe.mSize ▸ h.size_lt)
  · have hfree := releaseLoop_free (d := d) pool.mInFlightBuffers pool
    have hheld : (pool.releaseInFlightBuffers d).held = pool.mBuffer.toList ++
        (pool.mBufferFreeList ++ pool.mInFlightBuffers.filter fun buffer =>
          decide (¬ pool.Unfit d buffer)) := by
      unfold held
      rw [hframe.mBuffer, ← hfree]
      exact congrArg (· ++ _) (append_nil _)
    rw [hheld, held, append_assoc]
    apply (subperm_append_left _).mpr
    exact perm_append_comm.subperm.trans
      (filter_sublist.subperm.append (List.Subperm.refl _))
  · rw [hnext, hframe.mSize]
    exact h.next_le

/-! ## Switching buffers -/

theorem finalizePendingBuffer_rest (pool : BufferPool) :
    pool.finalizePendingBuffer.buffersMade = pool.buffersMade ∧
      pool.finalizePendingBuffer.mMaxBuffers = pool.mMaxBuffers := by
  have hframe := commit_frame pool
  unfold finalizePendingBuffer
  dsimp only
  split
  case h_1 => exact ⟨rfl, rfl⟩
  case h_2 =>
    refine ⟨?_, hframe.mMaxBuffers⟩
    change pool.commit.buffersMade = pool.buffersMade
    unfold commit
    split
    · rfl
    · split
      · rfl
      · rfl

theorem Unlimited.finalizePendingBuffer (h : pool.Unlimited) :
    pool.finalizePendingBuffer.Unlimited ∧ Advances pool pool.finalizePendingBuffer := by
  obtain ⟨hinFlight, hfree⟩ := finalizePendingBuffer_held pool
  obtain ⟨hmade, hmax⟩ := finalizePendingBuffer_rest pool
  obtain ⟨hsize, halignment, hinitial⟩ := finalizePendingBuffer_frame pool
  have hvacant := finalizePendingBuffer_mBuffer pool
  constructor
  · refine h.of_subperm ?_ (Or.inr ⟨halignment, hinitial, hmax⟩) hmade (zero_le _)
      (hsize ▸ h.size_lt)
    unfold held
    rw [hvacant, hinFlight, hfree, toList_none, nil_append]
    exact (perm_append_comm.append_right _).subperm
  · intro buffer offset size hout
    refine ⟨hmade ▸ hout.made, hfree ▸ hout.notFree, fun hcurrent => ?_⟩
    rw [hvacant] at hcurrent
    contradiction

theorem Unlimited.putAside (h : pool.Unlimited) :
    pool.putAside.Unlimited ∧ Advances pool pool.putAside ∧ pool.putAside.mBuffer = none := by
  unfold BufferPool.putAside
  cases hbuffer : pool.mBuffer with
  | none => exact ⟨h, fun _ _ _ hout => hout, hbuffer⟩
  | some buffer =>
    obtain ⟨hunlimited, hadvances⟩ := h.finalizePendingBuffer
    exact ⟨hunlimited, hadvances, finalizePendingBuffer_mBuffer pool⟩

variable {sizeToAllocate : Nat}

theorem Unlimited.readyToSwitch (h : pool.Unlimited) (hsmall : sizeToAllocate < 2 ^ 32) :
    (pool.readyToSwitch sizeToAllocate).Unlimited ∧
      Advances pool (pool.readyToSwitch sizeToAllocate) ∧
      (pool.readyToSwitch sizeToAllocate).mBuffer = none ∧
      sizeToAllocate ≤ (pool.readyToSwitch sizeToAllocate).mSize := by
  obtain ⟨haside, hadvances, hvacant⟩ := h.putAside
  unfold BufferPool.readyToSwitch
  split
  case isTrue hlarge =>
    have hnext := haside.next_le
    have hmax : max pool.putAside.mInitialSize sizeToAllocate = sizeToAllocate := by
      rw [haside.initialSize]
      exact max_eq_right (zero_le _)
    rw [hmax]
    refine ⟨?_, fun buffer offset size hout => ?_, hvacant, le_refl _⟩
    · refine haside.of_subperm ?_ (Or.inr ⟨rfl, rfl, rfl⟩) rfl (hnext.trans hlarge.le) hsmall
      exact (List.Sublist.append_left (nil_sublist _) _).subperm
    · have hout' := hadvances buffer offset size hout
      exact ⟨hout'.made, not_mem_nil, hout'.passed⟩
  case isFalse hfits => exact ⟨haside, hadvances, hvacant, not_lt.mp hfits⟩

/-- A function that gets a current buffer, or fails, gets one that nothing was handed out of. -/
structure GetsUnused (pool : BufferPool) (outcome : Except PoolFault Unit × Device × BufferPool) :
    Prop where
  unlimited : outcome.2.2.Unlimited
  mSize : outcome.2.2.mSize = pool.mSize
  unused : ∀ buffer offset size, pool.HandedOut buffer offset size →
    outcome.2.2.HandedOut buffer offset size ∧ outcome.2.2.mBuffer ≠ some buffer
  ok : outcome.1 = .ok () → outcome.2.2.mBuffer.isSome

theorem Unlimited.getsUnused_takeFront (h : pool.Unlimited) (hvacant : pool.mBuffer = none)
    {front : Nat} {rest : List Nat} (hfree : pool.mBufferFreeList = front :: rest)
    (d : Device) : GetsUnused pool (.ok (), d, pool.takeFront d front rest) where
  unlimited := by
    refine h.of_subperm ?_ (Or.inr ⟨rfl, rfl, rfl⟩) rfl h.next_le h.size_lt
    unfold held takeFront
    rw [hvacant, hfree]
    dsimp only
    rw [toList_some, toList_none, nil_append]
    exact (perm_middle.symm).subperm
  mSize := rfl
  unused := fun buffer offset size hout => by
    have hne : buffer ≠ front := by
      rintro rfl
      exact hout.notFree (hfree ▸ mem_cons_self)
    have hother : some front ≠ some buffer := fun heq => hne (some.inj heq).symm
    refine ⟨⟨hout.made, fun hmem => hout.notFree ?_, fun heq => absurd heq hother⟩, hother⟩
    rw [hfree]
    exact mem_cons_of_mem _ hmem
  ok := fun _ => rfl

theorem Unlimited.getsUnused_makeBuffer (h : pool.Unlimited) (hvacant : pool.mBuffer = none)
    (d : Device) (newMemory : Option Memory) :
    GetsUnused pool ((pool.makeBuffer d newMemory).1, d, (pool.makeBuffer d newMemory).2) := by
  have hheld : pool.held = pool.mInFlightBuffers ++ pool.mBufferFreeList := by
    unfold held
    rw [hvacant]
    rfl
  have hnodup := h.nodup
  have hmade := h.made
  rw [hheld] at hnodup hmade
  have hunlimited {made : BufferPool} (hframe : made.mMaxBuffers = pool.mMaxBuffers ∧
      made.mAlignment = pool.mAlignment ∧ made.mInitialSize = pool.mInitialSize ∧
      made.mSize = pool.mSize ∧ made.mNextAllocationOffset = pool.mNextAllocationOffset)
      (hbuffer : made.mBuffer = some pool.buffersMade)
      (hinFlight : made.mInFlightBuffers = pool.mInFlightBuffers)
      (hfree : made.mBufferFreeList = pool.mBufferFreeList)
      (hcount : made.buffersMade = pool.buffersMade + 1) : made.Unlimited := by
    obtain ⟨hmax, halignment, hinitial, hsize, hnext⟩ := hframe
    have hheld' : made.held =
        pool.buffersMade :: (pool.mInFlightBuffers ++ pool.mBufferFreeList) := by
      unfold held
      rw [hbuffer, hinFlight, hfree]
      rfl
    exact {
      maxBuffers := hmax.trans h.maxBuffers
      alignment := halignment.trans h.alignment
      initialSize := hinitial.trans h.initialSize
      nodup := by
        rw [hheld', nodup_cons]
        exact ⟨fun hmem => absurd (hmade _ hmem) (lt_irrefl _), hnodup⟩
      made := fun buffer hbuffer => by
        rw [hheld'] at hbuffer
        rw [hcount]
        rcases mem_cons.mp hbuffer with rfl | hold
        · exact lt_succ_self _
        · exact lt_succ_of_lt (hmade buffer hold)
      next_le := by
        rw [hnext, hsize]
        exact h.next_le
      size_lt := hsize ▸ h.size_lt }
  have hunused (buffer offset size : Nat) (hout : pool.HandedOut buffer offset size) :
      some pool.buffersMade ≠ some buffer := fun heq =>
    absurd hout.made (by rw [some.inj heq]; exact lt_irrefl _)
  unfold makeBuffer
  dsimp only
  split
  case isTrue =>
    exact {
      unlimited := hunlimited ⟨rfl, rfl, rfl, rfl, rfl⟩ rfl rfl rfl rfl
      mSize := rfl
      unused := fun buffer offset size hout =>
        ⟨⟨lt_succ_of_lt hout.made, hout.notFree,
          fun heq => absurd heq (hunused buffer offset size hout)⟩,
          hunused buffer offset size hout⟩
      ok := fun _ => rfl }
  case isFalse =>
    exact {
      unlimited := hunlimited ⟨rfl, rfl, rfl, rfl, rfl⟩ rfl rfl rfl rfl
      mSize := rfl
      unused := fun buffer offset size hout =>
        ⟨⟨lt_succ_of_lt hout.made, hout.notFree,
          fun heq => absurd heq (hunused buffer offset size hout)⟩,
          hunused buffer offset size hout⟩
      ok := fun _ => rfl }

theorem Unlimited.getsUnused_nextBuffer (h : pool.Unlimited) (hvacant : pool.mBuffer = none)
    (d : Device) (newMemory : Option Memory) : GetsUnused pool (pool.nextBuffer d newMemory) := by
  have hreached : pool.reachedMaxBuffers = false := by
    unfold reachedMaxBuffers
    rw [h.maxBuffers]
    exact decide_eq_false fun hpos => absurd hpos.1 (lt_irrefl 0)
  have hnew : GetsUnused pool (pool.allocateNewBuffer d newMemory) := by
    unfold allocateNewBuffer
    dsimp only
    rw [hreached, if_neg Bool.false_ne_true, hreached, if_neg Bool.false_ne_true]
    exact h.getsUnused_makeBuffer hvacant d newMemory
  unfold nextBuffer
  split
  case h_1 => exact hnew
  case h_2 front rest hfree =>
    split
    case isTrue => exact hnew
    case isFalse => exact h.getsUnused_takeFront hvacant hfree d

/-! ## Allocations -/

/-- What `allocate` returns overlaps nothing that had been handed out. -/
structure AllocatesFresh (pool : BufferPool) (sizeInBytes : Nat)
    (outcome : Except PoolFault Allocation × Device × BufferPool) : Prop where
  unlimited : outcome.2.2.Unlimited
  advances : Advances pool outcome.2.2
  region : ∀ allocation, outcome.1 = .ok allocation →
    outcome.2.2.mBuffer = some allocation.buffer ∧
      allocation.offset + sizeInBytes ≤ outcome.2.2.mNextAllocationOffset ∧
      allocation.offset < 2 ^ 32
  fresh : ∀ allocation, outcome.1 = .ok allocation → ∀ buffer offset size,
    pool.HandedOut buffer offset size → buffer ≠ allocation.buffer ∨
      offset + size ≤ allocation.offset

section

variable (h : pool.Unlimited)
include h

theorem Unlimited.handedOut_current {buffer offset size : Nat}
    (hbuffer : pool.mBuffer = some buffer)
    (hpassed : offset + size ≤ pool.mNextAllocationOffset) : pool.HandedOut buffer offset size := by
  have hcurrent : buffer ∈ pool.held := by
    unfold held
    rw [hbuffer]
    exact mem_cons_self
  refine ⟨h.made buffer hcurrent, ?_, fun _ => hpassed⟩
  have hnodup := h.nodup
  unfold held at hnodup
  rw [hbuffer, toList_some, append_assoc, singleton_append] at hnodup
  exact fun hmem => (nodup_cons.mp hnodup).1 (mem_append_right _ hmem)

theorem Unlimited.handOut (buffer sizeInBytes : Nat)
    (hroom : pool.mNextAllocationOffset + sizeToAllocate ≤ pool.mSize) :
    (pool.handOut buffer sizeInBytes sizeToAllocate false).Unlimited ∧
      Advances pool (pool.handOut buffer sizeInBytes sizeToAllocate false) ∧
      (pool.handOut buffer sizeInBytes sizeToAllocate false).mNextAllocationOffset =
        pool.mNextAllocationOffset + sizeToAllocate := by
  have hsize := h.size_lt
  have hnext : (pool.handOut buffer sizeInBytes sizeToAllocate false).mNextAllocationOffset =
      pool.mNextAllocationOffset + sizeToAllocate := by
    change (pool.mNextAllocationOffset + sizeToAllocate % 2 ^ 32) % 2 ^ 32 = _
    rw [mod_eq_of_lt (by omega : sizeToAllocate < 2 ^ 32), mod_eq_of_lt (by omega)]
  refine ⟨{ h with next_le := hnext.trans_le hroom }, fun other offset size hout => ?_, hnext⟩
  refine ⟨hout.made, hout.notFree, fun hother => ?_⟩
  rw [hnext]
  exact (hout.passed hother).trans (le_add_right _ _)

theorem Unlimited.switchBuffer (hsmall : sizeToAllocate < 2 ^ 32) (d : Device) (newMemory : Option Memory) :
    GetsUnused { pool with mSize := (pool.switchBuffer d sizeToAllocate newMemory).2.2.mSize }
        (pool.switchBuffer d sizeToAllocate newMemory) ∧
      ((pool.switchBuffer d sizeToAllocate newMemory).1 = .ok () →
        (pool.switchBuffer d sizeToAllocate newMemory).2.2.mNextAllocationOffset = 0 ∧
          sizeToAllocate ≤ (pool.switchBuffer d sizeToAllocate newMemory).2.2.mSize) := by
  obtain ⟨hready, hadvances, hvacant, hroom⟩ := h.readyToSwitch hsmall
  have hgets := hready.getsUnused_nextBuffer hvacant d newMemory
  rw [switchBuffer_eq]
  split
  case h_1 _ d' next heq =>
    rw [heq] at hgets
    refine ⟨{
      unlimited := { hgets.unlimited with next_le := zero_le _ }
      mSize := rfl
      unused := fun buffer offset size hout => ?_
      ok := hgets.ok }, fun _ => ⟨rfl, hroom.trans_eq hgets.mSize.symm⟩⟩
    obtain ⟨hout', hne⟩ := hgets.unused buffer offset size
      (hadvances buffer offset size { hout with })
    exact ⟨⟨hout'.made, hout'.notFree, fun heq => absurd heq hne⟩, hne⟩
  case h_2 _ fault d' next heq =>
    rw [heq] at hgets
    exact ⟨{
      unlimited := hgets.unlimited
      mSize := rfl
      unused := fun buffer offset size hout =>
        hgets.unused buffer offset size (hadvances buffer offset size { hout with })
      ok := fun hok => by contradiction }, fun hok => by contradiction⟩

theorem Unlimited.allocate {sizeInBytes : Nat}
    (hwhole : kIndexBufferOffsetAlignment ∣ sizeInBytes) (hsmall : sizeInBytes < 2 ^ 32)
    (d : Device) (newMemory : Option Memory) :
    AllocatesFresh pool sizeInBytes (pool.allocate d sizeInBytes false newMemory) := by
  have hround : roundUp 64 sizeInBytes pool.mAlignment = sizeInBytes := by
    unfold kIndexBufferOffsetAlignment at hwhole
    rw [h.alignment, kIndexBufferOffsetAlignment, roundUp]
    omega
  obtain ⟨hswitch, hempty⟩ := h.switchBuffer hsmall d newMemory
  unfold BufferPool.allocate
  rw [hround]
  dsimp only
  by_cases hneeds : pool.needsNewBuffer sizeInBytes
  · rw [if_pos hneeds]
    generalize pool.switchBuffer d sizeInBytes newMemory = switched at hswitch hempty
    obtain ⟨result, d', next⟩ := switched
    have hadvances : Advances pool next := fun buffer offset size hout =>
      (hswitch.unused buffer offset size { hout with }).1
    dsimp only
    split
    case h_1 fault =>
      exact ⟨hswitch.unlimited, hadvances, fun _ hok => by contradiction,
        fun _ hok => by contradiction⟩
    case h_2 =>
      exact ⟨hswitch.unlimited, hadvances, fun _ hok => by contradiction,
        fun _ hok => by contradiction⟩
    case h_3 buffer hbuffer =>
      obtain ⟨hzero, hroom⟩ := hempty rfl
      dsimp only at hzero hroom
      have hfits : next.mNextAllocationOffset + sizeInBytes ≤ next.mSize := by omega
      obtain ⟨hunlimited, hadvances', hpassed⟩ :=
        hswitch.unlimited.handOut buffer sizeInBytes hfits
      refine ⟨hunlimited, fun b o n hb => hadvances' b o n (hadvances b o n hb), ?_, ?_⟩
      · rintro allocation hok
        obtain rfl := Except.ok.inj hok
        refine ⟨hbuffer, hpassed.ge, ?_⟩
        change next.mNextAllocationOffset < 2 ^ 32
        omega
      · rintro allocation hok b o n hb
        obtain rfl := Except.ok.inj hok
        refine Or.inl fun heq => (hswitch.unused b o n { hb with }).2 ?_
        exact hbuffer.trans (congrArg some heq.symm)
  · rw [if_neg hneeds]
    dsimp only
    split
    case h_1 fault hfault => contradiction
    case h_2 => exact ⟨h, fun _ _ _ hout => hout, fun _ hok => by contradiction,
        fun _ hok => by contradiction⟩
    case h_3 buffer _ hbuffer =>
      have hroom : pool.mNextAllocationOffset + sizeInBytes ≤ pool.mSize := by
        unfold needsNewBuffer at hneeds
        rw [hbuffer] at hneeds
        simp only [Bool.or_eq_true, decide_eq_true_eq, not_or] at hneeds
        omega
      obtain ⟨hunlimited, hadvances, hpassed⟩ := h.handOut buffer sizeInBytes hroom
      have hsize := h.size_lt
      have hnext := h.next_le
      refine ⟨hunlimited, hadvances, ?_, ?_⟩
      · rintro allocation hok
        obtain rfl := Except.ok.inj hok
        refine ⟨hbuffer, hpassed.ge, ?_⟩
        change pool.mNextAllocationOffset < 2 ^ 32
        omega
      · rintro allocation hok b o n hb
        obtain rfl := Except.ok.inj hok
        by_cases heq : b = buffer
        · exact Or.inr (hb.passed (hbuffer.trans (congrArg some heq.symm)))
        · exact Or.inl heq

end

end BufferPool

end MetalAngle.Metal
