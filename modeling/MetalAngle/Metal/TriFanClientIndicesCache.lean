import MetalAngle.Metal.TriFanArraysCache
import MetalAngle.Metal.TriFanClientIndices

/-!
# A cached fan of client indices is the fan that is drawn

Each cached entry has the bytes and the type that its indices were generated from, and no later
call of the generator has written into its region.
-/

namespace MetalAngle.Metal

open LabelledRun BufferPool ClientIndexArrayKey ClientIndexArrayKey Option

namespace ClientFanContext

variable {computeGenericHash : List UInt8 → BitVec 64} {s t u : ClientFanContext}

/-! ## The invariant -/

/-- The `n` indices of the entry were generated from the fan and are as they were generated. -/
structure Current (s : ClientFanContext) (key : ClientIndexArrayKey)
    (payload : ClientArrayBufferCachePayload) (fan : ClientFan) (n : Nat) : Prop where
  count : getTriangleFanIndicesCount fan.count = .ok n
  long : 3 < fan.count
  content : key.content = (fan.indices, some fan.type)
  length : fan.indices.length = fan.count * getDrawElementsTypeSize (some fan.type)
  handedOut : s.mTriFanClientIndexBufferPool.HandedOut payload.buffer payload.offset (n * 4)
  generated : s.lastGenerated payload.buffer payload.offset (n * 4) =
    some ⟨payload.buffer, payload.offset, n * 4, some fan⟩
  restart : s.dirtyPrimitiveRestart = false → fan.primitiveRestart = s.mPrimitiveRestart

variable (computeGenericHash) in
structure Inv (s : ClientFanContext) : Prop where
  pool : s.mTriFanClientIndexBufferPool.Unlimited
  cache : s.mTriFanClientIndexBufferCache.WellFormed content (Stored computeGenericHash)
  current : ∀ entry ∈ s.mTriFanClientIndexBufferCache.ordering,
    ∃ fan n, s.Current entry.2.1 entry.2.2 fan n

variable (computeGenericHash) in
/-- From `s` to `t` no entry is added, and those that stay are as they were. -/
structure Carries (s t : ClientFanContext) : Prop where
  pool : t.mTriFanClientIndexBufferPool.Unlimited
  cache : t.mTriFanClientIndexBufferCache.WellFormed content (Stored computeGenericHash)
  current : ∀ entry ∈ t.mTriFanClientIndexBufferCache.ordering,
    entry ∈ s.mTriFanClientIndexBufferCache.ordering ∧
      ∀ fan n, s.Current entry.2.1 entry.2.2 fan n → t.Current entry.2.1 entry.2.2 fan n

/-- The state that a draw reads, which it does not change. -/
structure SameState (s t : ClientFanContext) : Prop where
  memory : t.memory = s.memory
  restart : t.mPrimitiveRestart = s.mPrimitiveRestart
  dirty : t.dirtyPrimitiveRestart = s.dirtyPrimitiveRestart
  mBuffer : t.mTriFanClientIndexBufferPool.mBuffer = s.mTriFanClientIndexBufferPool.mBuffer
  next : t.mTriFanClientIndexBufferPool.mNextAllocationOffset =
    s.mTriFanClientIndexBufferPool.mNextAllocationOffset
  generated : t.generated = s.generated

theorem SameState.refl (s : ClientFanContext) : SameState s s := ⟨rfl, rfl, rfl, rfl, rfl, rfl⟩

theorem SameState.trans (h : SameState s t) (h' : SameState t u) : SameState s u where
  memory := h'.memory.trans h.memory
  restart := h'.restart.trans h.restart
  dirty := h'.dirty.trans h.dirty
  mBuffer := h'.mBuffer.trans h.mBuffer
  next := h'.next.trans h.next
  generated := h'.generated.trans h.generated

theorem SameState.lastGenerated (h : SameState s t) (buffer offset size : Nat) :
    t.lastGenerated buffer offset size = s.lastGenerated buffer offset size := by
  unfold ClientFanContext.lastGenerated
  rw [h.generated]

theorem Carries.refl (h : s.Inv computeGenericHash) : Carries computeGenericHash s s :=
  ⟨h.pool, h.cache, fun _ hentry => ⟨hentry, fun _ _ hcurrent => hcurrent⟩⟩

theorem Carries.trans (h : Carries computeGenericHash s t) (h' : Carries computeGenericHash t u) :
    Carries computeGenericHash s u where
  __ := h'
  current := fun entry hentry => by
    obtain ⟨hkept, hcurrent⟩ := h'.current entry hentry
    obtain ⟨hold, hcurrent'⟩ := h.current entry hkept
    exact ⟨hold, fun fan n hs => hcurrent fan n (hcurrent' fan n hs)⟩

theorem Carries.inv (h : Carries computeGenericHash s t) (hs : s.Inv computeGenericHash) :
    t.Inv computeGenericHash where
  __ := h
  current := fun entry hentry => by
    obtain ⟨hold, hcurrent⟩ := h.current entry hentry
    obtain ⟨fan, n, hfan⟩ := hs.current entry hold
    exact ⟨fan, n, hcurrent fan n hfan⟩

theorem Carries.of_clear (hpool : t.mTriFanClientIndexBufferPool.Unlimited)
    (hcache : t.mTriFanClientIndexBufferCache = s.mTriFanClientIndexBufferCache.clear) :
    Carries computeGenericHash s t where
  pool := hpool
  cache := hcache ▸ MruCache.wellFormed_clear _ _ _
  current := fun entry hentry => by
    rw [hcache] at hentry
    exact absurd hentry List.not_mem_nil

theorem Carries.of_advances (h : s.Inv computeGenericHash)
    (hpool : t.mTriFanClientIndexBufferPool.Unlimited)
    (hadvances : Advances s.mTriFanClientIndexBufferPool t.mTriFanClientIndexBufferPool)
    (hcache : t.mTriFanClientIndexBufferCache = s.mTriFanClientIndexBufferCache)
    (hgenerated : t.generated = s.generated) (hrestart : t.dirtyPrimitiveRestart = false →
      s.dirtyPrimitiveRestart = false ∧ t.mPrimitiveRestart = s.mPrimitiveRestart) :
    Carries computeGenericHash s t where
  pool := hpool
  cache := hcache ▸ h.cache
  current := fun entry hentry => by
    rw [hcache] at hentry
    refine ⟨hentry, fun fan n hcurrent => { hcurrent with
      handedOut := hadvances _ _ _ hcurrent.handedOut
      generated := ?_
      restart := fun hclean => ?_ }⟩
    · have hlast := hcurrent.generated
      unfold lastGenerated at hlast ⊢
      rw [hgenerated]
      exact hlast
    · obtain ⟨hclean', hsame⟩ := hrestart hclean
      exact (hcurrent.restart hclean').trans hsame.symm

/-! ## What the helpers keep -/

variable (computeGenericHash) in
/-- From `s` to `t` the entries are carried over, and what a draw reads stays. -/
structure Keeps (s t : ClientFanContext) : Prop where
  carries : Carries computeGenericHash s t
  same : SameState s t

theorem Keeps.refl (h : s.Inv computeGenericHash) : Keeps computeGenericHash s s :=
  ⟨.refl h, .refl s⟩

theorem Keeps.trans (h : Keeps computeGenericHash s t) (h' : Keeps computeGenericHash t u) :
    Keeps computeGenericHash s u :=
  ⟨h.carries.trans h'.carries, h.same.trans h'.same⟩

section

variable (h : s.Inv computeGenericHash)
include h

theorem Inv.keeps_flushCommandBufer :
    Keeps computeGenericHash s s.flushCommandBufer := by
  unfold flushCommandBufer
  split
  case isTrue =>
    have hframe := releaseInFlightBuffers_frame s.mTriFanClientIndexBufferPool
      s.device.flushCommandBufer
    have hrest := releaseInFlightBuffers_rest s.mTriFanClientIndexBufferPool
      s.device.flushCommandBufer
    exact ⟨.of_clear (h.pool.releaseInFlightBuffers _) rfl,
      ⟨rfl, rfl, rfl, hframe.mBuffer, hrest.2, rfl⟩⟩
  case isFalse => exact .refl h

theorem Inv.keeps_device (device : Device) (valid : Bool) :
    Keeps computeGenericHash s { s with device, mCmdBufferValid := valid } :=
  ⟨.of_advances h h.pool (fun _ _ _ hout => hout) rfl rfl fun hclean => ⟨hclean, rfl⟩,
    ⟨rfl, rfl, rfl, rfl, rfl, rfl⟩⟩

theorem Inv.keeps_updateBuffer (buffer : Nat)
    (f : Buffer → Buffer) : Keeps computeGenericHash s (s.updateBuffer buffer f) :=
  ⟨.of_advances h (h.pool.updateBuffer buffer f) (fun _ _ _ hout => { hout with }) rfl rfl
    fun hclean => ⟨hclean, rfl⟩, ⟨rfl, rfl, rfl, rfl, rfl, rfl⟩⟩

theorem Inv.keeps_map (buffer : Nat) :
    Keeps computeGenericHash s (s.map buffer) := by
  have hflush {u : ClientFanContext} (hu : Keeps computeGenericHash s u) (inUse : Bool) :
      Keeps computeGenericHash s (if inUse then u.flushCommandBufer else u) := by
    split
    case isTrue => exact hu.trans (hu.carries.inv h).keeps_flushCommandBufer
    case isFalse => exact hu
  unfold map
  dsimp only
  generalize Buffer.ensureContentSynced _ s.device = synced
  generalize (s.mCmdBufferValid || _) = valid
  have hsynced := h.keeps_updateBuffer buffer fun _ => synced
  have hvalid := hsynced.trans ((hsynced.carries.inv h).keeps_device s.device valid)
  have hflushed := hflush hvalid (s.device.isBeingUsedByGPU synced)
  exact hflushed.trans ((hflushed.carries.inv h).keeps_device _ _)

end

theorem commit_next (pool : BufferPool) :
    pool.commit.mNextAllocationOffset = pool.mNextAllocationOffset := by
  unfold BufferPool.commit
  split
  · rfl
  · split
    · rfl
    · rfl

theorem Inv.keeps_commit (h : s.Inv computeGenericHash) :
    Keeps computeGenericHash s
      { s with mTriFanClientIndexBufferPool := s.mTriFanClientIndexBufferPool.commit } := by
  obtain ⟨hpool, hadvances⟩ := h.pool.commit
  exact ⟨.of_advances h hpool hadvances rfl rfl fun hclean => ⟨hclean, rfl⟩,
    ⟨rfl, rfl, rfl, (commit_frame _).mBuffer, commit_next _, rfl⟩⟩

/-! ## Generating indices -/

variable {g : GeneratedFan}

theorem Carries.generated (h : Carries computeGenericHash s t)
    (hfresh : ∀ entry ∈ s.mTriFanClientIndexBufferCache.ordering, ∀ fan n,
      s.Current entry.2.1 entry.2.2 fan n →
        g.overlaps entry.2.2.buffer entry.2.2.offset (n * 4) = false) :
    Carries computeGenericHash s { t with generated := g :: t.generated } where
  __ := h
  current := fun entry hentry => by
    obtain ⟨hold, hcurrent⟩ := h.current entry hentry
    refine ⟨hold, fun fan n hs => { hcurrent fan n hs with generated := ?_ }⟩
    have hlast := (hcurrent fan n hs).generated
    unfold lastGenerated at hlast ⊢
    rw [List.find?_cons_of_neg (by rw [hfresh entry hold fan n hs]; exact Bool.false_ne_true)]
    exact hlast

/-- What a call of the generator leaves. -/
structure Generates (s t : ClientFanContext) (g : GeneratedFan) : Prop where
  memory : t.memory = s.memory
  restart : t.mPrimitiveRestart = s.mPrimitiveRestart
  dirty : t.dirtyPrimitiveRestart = s.dirtyPrimitiveRestart
  mBuffer : t.mTriFanClientIndexBufferPool.mBuffer = s.mTriFanClientIndexBufferPool.mBuffer
  next : t.mTriFanClientIndexBufferPool.mNextAllocationOffset =
    s.mTriFanClientIndexBufferPool.mNextAllocationOffset
  generated : t.generated = g :: s.generated

/-- The generator after an allocation that carries the entries of `s` over to `t`. -/
theorem Carries.generate (h : Carries computeGenericHash s t) (hs : s.Inv computeGenericHash)
    (onGPU : Bool) (hfresh : ∀ entry ∈ s.mTriFanClientIndexBufferCache.ordering, ∀ fan n,
      s.Current entry.2.1 entry.2.2 fan n →
        g.overlaps entry.2.2.buffer entry.2.2.offset (n * 4) = false) :
    Carries computeGenericHash s (t.generate onGPU g) ∧ Generates t (t.generate onGPU g) g := by
  have ht := h.inv hs
  have hwritten : Keeps computeGenericHash t (if onGPU then
        { t.updateBuffer g.buffer fun b =>
            b.setUsedByCommandBufferWithQueueSerial t.device.recordingSerial true with
          mCmdBufferValid := true }
      else (t.map g.buffer).updateBuffer g.buffer (·.unmapRange g.offset g.sizeInBytes)) := by
    split
    case isTrue =>
      have hused := ht.keeps_updateBuffer g.buffer fun b =>
        b.setUsedByCommandBufferWithQueueSerial t.device.recordingSerial true
      exact hused.trans ((hused.carries.inv ht).keeps_device t.device true)
    case isFalse =>
      have hmapped := ht.keeps_map g.buffer
      exact hmapped.trans ((hmapped.carries.inv ht).keeps_updateBuffer _ _)
  obtain ⟨hcarries, hsame⟩ := hwritten
  exact ⟨(h.trans hcarries).generated hfresh,
    { hsame with generated := congrArg (g :: ·) hsame.generated }⟩

theorem lastGenerated_self (hsize : 0 < g.sizeInBytes)
    (hgenerated : t.generated = g :: s.generated) :
    t.lastGenerated g.buffer g.offset g.sizeInBytes = some g := by
  unfold lastGenerated
  rw [hgenerated]
  apply List.find?_cons_of_pos
  unfold GeneratedFan.overlaps
  rw [decide_eq_true_eq]
  exact ⟨rfl, by omega, by omega⟩

/-! ## The keys of draws -/

theorem valid_hash (memory : Memory) (key : ClientIndexArrayKey) :
    (key.hash computeGenericHash memory).2.valid = key.valid := by
  unfold ClientIndexArrayKey.hash
  split
  · rfl
  · rfl

structure KeyOf (computeGenericHash : List UInt8 → BitVec 64) (s : ClientFanContext)
    (source : IndexSource) (type : DrawElementsType) (count : Nat) (key : ClientIndexArrayKey) :
    Prop where
  sound : key.Sound computeGenericHash s.memory
  valid : key.valid → ∃ onGPU fan, s.generation source type count = (some fan, onGPU) ∧
    fan.count = count ∧ fan.indices.length = fan.count * getDrawElementsTypeSize (some fan.type) ∧
    fan.primitiveRestart = s.mPrimitiveRestart ∧
    (key.data s.memory, key.mType) = (fan.indices, some fan.type)

theorem keyOf_peek (s : ClientFanContext) (source : IndexSource) (type : DrawElementsType)
    (count : Nat) :
    KeyOf computeGenericHash s source type count
      (s.peek computeGenericHash source (clientIndicesKey source type count)).2 := by
  cases source with
  | elementBuffer onGPU =>
    exact ⟨Made.new.sound, fun hvalid => absurd hvalid Bool.false_ne_true⟩
  | client indices =>
    have hwrap : (({} : ClientIndexArrayKey).wrap indices (some type) count).Sound
        computeGenericHash s.memory := sound_wrap {} indices (some type) count
    obtain ⟨hsound, hdata, htype⟩ := hwrap.hash_snd
    refine ⟨hsound, fun hvalid => ?_⟩
    have hwrapping : indices ≠ 0 := by
      have hvalid' := (valid_hash s.memory _).symm.trans hvalid
      exact bne_iff_ne.mp hvalid'
    refine ⟨false, _, rfl, rfl, by simp [bytesAt], rfl, ?_⟩
    change ((hash computeGenericHash s.memory _).2.data s.memory,
      (hash computeGenericHash s.memory _).2.mType) = _
    rw [clientIndicesKey, hdata, htype, data, isWrapping, if_pos]
    · rfl
    · exact bne_iff_ne.mpr hwrapping

/-! ## Draws -/

/-- What a draw does: the indices that it reads were generated last from its own fan. -/
structure Draws (computeGenericHash : List UInt8 → BitVec 64) (s : ClientFanContext)
    (source : IndexSource) (type : DrawElementsType) (count : Nat)
    (outcome : Except PoolFault (Option FanDraw) × ClientFanContext) : Prop where
  inv : outcome.2.Inv computeGenericHash
  current : ∀ draw, outcome.1 = .ok (some draw) →
    outcome.2.lastGenerated draw.indexBuffer draw.offset (draw.indexCount * 4) =
      some ⟨draw.indexBuffer, draw.offset, draw.indexCount * 4,
        (s.generation source type count).1⟩

variable {source : IndexSource} {type : DrawElementsType} {count : Nat}

theorem Inv.draws_finishDraw (ht : t.Inv computeGenericHash) {draw : FanDraw}
    (hlast : t.lastGenerated draw.indexBuffer draw.offset (draw.indexCount * 4) =
      some ⟨draw.indexBuffer, draw.offset, draw.indexCount * 4,
        (s.generation source type count).1⟩) (setup : SetupDraw) :
    Draws computeGenericHash s source type count (t.finishDraw draw setup) := by
  have hflushed : Keeps computeGenericHash t (if setup.flushes then t.flushCommandBufer else t) := by
    split
    case isTrue => exact ht.keeps_flushCommandBufer
    case isFalse => exact .refl ht
  unfold finishDraw
  generalize (if setup.flushes then _ else _ : ClientFanContext) = flushed at hflushed
  have hinv := hflushed.carries.inv ht
  split
  case h_1 => exact ⟨hinv, fun _ hdraw => by contradiction⟩
  case h_2 =>
    have hused := hinv.keeps_updateBuffer draw.indexBuffer fun b =>
      b.setUsedByCommandBufferWithQueueSerial flushed.device.recordingSerial false
    have hvalid := hused.trans ((hused.carries.inv hinv).keeps_device flushed.device true)
    refine ⟨hvalid.carries.inv hinv, fun draw' hdraw => ?_⟩
    cases Except.ok.inj hdraw
    exact ((hflushed.trans hvalid).same.lastGenerated _ _ _).trans hlast

theorem Inv.draws_cached (h : s.Inv computeGenericHash) (hclean : s.dirtyPrimitiveRestart = false)
    {n : Nat} (hcount : getTriangleFanIndicesCount count = .ok n)
    {payload : ClientArrayBufferCachePayload}
    (hpeek : (s.peek computeGenericHash source (clientIndicesKey source type count)).1 =
      some payload) (hlong : 3 < count) (setup : SetupDraw) :
    Draws computeGenericHash s source type count
      (s.finishDraw ⟨payload.buffer, payload.offset, n⟩ setup) := by
  cases source with
  | elementBuffer onGPU => contradiction
  | client indices =>
    have hwrap : (({} : ClientIndexArrayKey).wrap indices (some type) count).Sound
        computeGenericHash s.memory := sound_wrap {} indices (some type) count
    obtain ⟨node, key, hentry, hcontent⟩ :=
      (h.cache.peek_eq_some_iff fun k hk => hk.tableEquiv_iff hwrap).mp hpeek
    obtain ⟨fan, n', hfan⟩ := h.current _ hentry
    obtain ⟨hindices, htype⟩ := Prod.mk.inj (hfan.content.symm.trans hcontent)
    obtain rfl : fan.type = type := some.inj htype
    have hlong' := hfan.long
    have hlength := hfan.length
    have hsize := getDrawElementsTypeSize_pos (some fan.type)
    have hbytes : fan.indices =
        bytesAt s.memory indices (count * getDrawElementsTypeSize (some fan.type)) := by
      by_cases hpointer : indices = 0
      -- a null pointer has no bytes, but every entry has some
      · have hempty : fan.indices = [] := by
          rw [hindices, hpointer]
          rfl
        rw [hempty, List.length_nil] at hlength
        exact absurd hlength.symm (Nat.mul_pos (by omega) hsize).ne'
      · rw [hindices, data, isWrapping, if_pos]
        · rfl
        · exact bne_iff_ne.mpr hpointer
    obtain rfl : fan.count = count := by
      rw [hbytes] at hlength
      have hcounts : count * getDrawElementsTypeSize (some fan.type) =
          fan.count * getDrawElementsTypeSize (some fan.type) := by simpa [bytesAt] using hlength
      exact (Nat.eq_of_mul_eq_mul_right hsize hcounts).symm
    obtain rfl : n' = n := Except.ok.inj (hfan.count.symm.trans hcount)
    have hsource : s.generation (.client indices) fan.type fan.count = (some fan, false) := by
      unfold generation
      dsimp only
      rw [← hbytes, ← hfan.restart hclean]
    apply h.draws_finishDraw
    rw [hsource]
    exact hfan.generated

theorem overlaps_eq_false {pool : BufferPool} {sizeInBytes : Nat}
    {outcome : Except PoolFault Allocation × Device × BufferPool}
    (h : AllocatesFresh pool sizeInBytes outcome) {allocation : Allocation}
    (hok : outcome.1 = .ok allocation) {fan : Option ClientFan} {buffer offset size : Nat}
    (hout : pool.HandedOut buffer offset size) :
    GeneratedFan.overlaps ⟨allocation.buffer, allocation.offset, sizeInBytes, fan⟩ buffer offset
      size = false := by
  have hfresh := h.fresh allocation hok buffer offset size hout
  unfold GeneratedFan.overlaps
  rw [decide_eq_false_iff_not]
  rintro ⟨hbuffer, hbelow, -⟩
  dsimp only at hbuffer hbelow
  rcases hfresh with hne | hle
  · exact hne hbuffer.symm
  · omega

theorem Carries.generateAndKeep (h : Carries computeGenericHash s t) (hs : s.Inv computeGenericHash)
    {n : Nat} {key : ClientIndexArrayKey} {buffer offset : Nat}
    (hkey : KeyOf computeGenericHash t source type count key)
    (hcount : getTriangleFanIndicesCount count = .ok n) (hlong : 3 < count) (hn : 0 < n)
    (hbuffer : t.mTriFanClientIndexBufferPool.mBuffer = some buffer)
    (hpassed : offset + n * 4 ≤ t.mTriFanClientIndexBufferPool.mNextAllocationOffset)
    (hfresh : ∀ fan, ∀ entry ∈ s.mTriFanClientIndexBufferCache.ordering, ∀ fan' n',
      s.Current entry.2.1 entry.2.2 fan' n' → GeneratedFan.overlaps ⟨buffer, offset, n * 4, fan⟩
        entry.2.2.buffer entry.2.2.offset (n' * 4) = false) :
    (t.generateAndKeep computeGenericHash source type count key buffer offset (n * 4)).Inv
        computeGenericHash ∧
      (t.generateAndKeep computeGenericHash source type count key buffer offset
        (n * 4)).lastGenerated buffer offset (n * 4) =
          some ⟨buffer, offset, n * 4, (t.generation source type count).1⟩ := by
  unfold ClientFanContext.generateAndKeep
  generalize hgeneration : t.generation source type count = generation
  obtain ⟨fan, onGPU⟩ := generation
  obtain ⟨hcarries, hgenerates⟩ := h.generate hs onGPU (hfresh fan)
  dsimp only
  generalize t.generate onGPU ⟨buffer, offset, n * 4, fan⟩ = written at hcarries hgenerates
  have hwritten := hcarries.inv hs
  have hcommit := hwritten.keeps_commit
  have hinv := hcommit.carries.inv hwritten
  have hlast := lastGenerated_self (t := written) (by dsimp only; omega) hgenerates.generated
  have hlast' := (hcommit.same.lastGenerated buffer offset (n * 4)).trans hlast
  have hout := hinv.pool.handedOut_current
    ((hcommit.same.mBuffer.trans hgenerates.mBuffer).trans hbuffer)
    (hpassed.trans_eq (hcommit.same.next.trans hgenerates.next).symm)
  have hmemory := hgenerates.memory
  have hrestart := hgenerates.restart
  split
  case isFalse => exact ⟨hinv, hlast'⟩
  case isTrue hvalid =>
    refine ⟨?_, hlast'⟩
    obtain ⟨onGPU', fan', hfan', hfanCount, hlength, hfanRestart, hdata⟩ := hkey.valid hvalid
    obtain ⟨rfl, rfl⟩ := Prod.mk.inj (hgeneration.symm.trans hfan')
    have hsound : key.Sound computeGenericHash written.memory := hmemory ▸ hkey.sound
    obtain ⟨hstored, hcontent⟩ := hsound.stored_copy
    have hequiv : ∀ k k', Stored computeGenericHash k → Stored computeGenericHash k' →
        (tableEquiv computeGenericHash written.memory k k' ↔ content k = content k') :=
      fun k k' hk hk' => hk.tableEquiv_stored_iff hk'
    obtain ⟨hput, hentries⟩ := hwritten.cache.put hequiv kMaxTriFanClientBuffersCachedPerFrame
      (fun k hk => hk.tableEquiv_iff hsound) hstored hcontent
      (⟨buffer, offset⟩ : ClientArrayBufferCachePayload)
    refine ⟨hinv.pool, hput, fun entry hentry => ?_⟩
    rcases hentries entry hentry with hnew | hold
    · refine ⟨fan', n, ?_⟩
      rw [hnew]
      exact {
        count := hfanCount ▸ hcount
        long := hfanCount ▸ hlong
        content := by
          rw [hcontent, hmemory]
          exact hdata
        length := hlength
        handedOut := hout
        generated := hlast'
        restart := fun _ => hfanRestart.trans hrestart.symm }
    · obtain ⟨fan'', n'', hfan''⟩ := hinv.current entry hold
      exact ⟨fan'', n'', { hfan'' with }⟩

theorem Inv.draws_drawTriFanElements (h : s.Inv computeGenericHash)
    (hclean : s.dirtyPrimitiveRestart = false) (hint : count < 2 ^ 31)
    (source : IndexSource) (type : DrawElementsType) (newMemory : Option Memory)
    (setup : SetupDraw) :
    Draws computeGenericHash s source type count
      (s.drawTriFanElements computeGenericHash source type count newMemory setup) := by
  unfold drawTriFanElements
  split
  case isTrue =>
    exact ⟨h, fun draw hdraw => absurd (Except.ok.inj hdraw).symm (some_ne_none draw)⟩
  case isFalse hshort =>
    have hlong : 3 < count := Nat.not_le.mp hshort
    have hkey : KeyOf computeGenericHash s source type count
        (s.peek computeGenericHash source (clientIndicesKey source type count)).2 :=
      keyOf_peek s source type count
    generalize hpeek : s.peek computeGenericHash source (clientIndicesKey source type count) =
      peeked at hkey
    obtain ⟨cached, key⟩ := peeked
    dsimp only
    split
    case h_1 => exact ⟨h, fun draw hdraw => by contradiction⟩
    case h_2 n hcount =>
      cases cached with
      | some payload =>
        exact h.draws_cached hclean hcount (congrArg Prod.fst hpeek) hlong setup
      | none =>
        obtain ⟨hn, hbytes⟩ := TriFanContext.drawTriFan_indicesCount hcount hlong hint
        have hwhole : kIndexBufferOffsetAlignment ∣ n * 4 := Dvd.intro_left n rfl
        have hallocates := h.pool.allocate hwhole (by omega) s.device newMemory
        generalize s.mTriFanClientIndexBufferPool.allocate s.device (n * 4) false newMemory =
          outcome at hallocates
        obtain ⟨result, device, pool⟩ := outcome
        obtain ⟨allocated, hallocated⟩ : ∃ t, t =
          { s with device, mTriFanClientIndexBufferPool := pool } := ⟨_, rfl⟩
        have hcarries : Carries computeGenericHash s allocated := by
          rw [hallocated]
          exact .of_advances h hallocates.unlimited hallocates.advances rfl rfl
            fun hclean => ⟨hclean, rfl⟩
        cases result with
        | error fault =>
          dsimp only
          rw [← hallocated]
          exact ⟨hcarries.inv h, fun draw hdraw => by contradiction⟩
        | ok allocation =>
          obtain ⟨hbuffer, hpassed, hoffset⟩ := hallocates.region allocation rfl
          have hfresh (fan : Option ClientFan) :
              ∀ entry ∈ s.mTriFanClientIndexBufferCache.ordering, ∀ fan' n',
                s.Current entry.2.1 entry.2.2 fan' n' →
                GeneratedFan.overlaps ⟨allocation.buffer, allocation.offset, n * 4, fan⟩
                  entry.2.2.buffer entry.2.2.offset (n' * 4) = false :=
            fun entry _ fan' n' hcurrent =>
              overlaps_eq_false hallocates rfl hcurrent.handedOut
          have hkey' : KeyOf computeGenericHash allocated source type count key := by
            rw [hallocated]
            exact ⟨hkey.sound, hkey.valid⟩
          obtain ⟨hinv, hlast⟩ := hcarries.generateAndKeep h hkey' hcount hlong (by omega)
            (hallocated ▸ hbuffer) (hallocated ▸ hpassed) hfresh
          have hgeneration : allocated.generation source type count =
              s.generation source type count := by
            rw [hallocated]
            rfl
          rw [hgeneration] at hlast
          dsimp only
          rw [Nat.mod_eq_of_lt hoffset, ← hallocated]
          exact hinv.draws_finishDraw hlast setup

/-! ## Runs -/

theorem Inv.syncState (h : s.Inv computeGenericHash) :
    s.syncState.Inv computeGenericHash ∧ s.syncState.dirtyPrimitiveRestart = false := by
  unfold ClientFanContext.syncState
  split
  case isTrue =>
    have hcarries : Carries computeGenericHash s { s with
        mTriFanClientIndexBufferCache := s.mTriFanClientIndexBufferCache.clear
        dirtyPrimitiveRestart := false } := .of_clear h.pool rfl
    exact ⟨hcarries.inv h, rfl⟩
  case isFalse hclean => exact ⟨h, Bool.eq_false_iff.mpr hclean⟩

theorem inv_step (h : s.Inv computeGenericHash) {a : Action}
    (hstep : step computeGenericHash s a = some t) : t.Inv computeGenericHash := by
  cases a with
  | drawElements source type count newMemory setup =>
    obtain ⟨hint, ⟨⟩⟩ := ite_none_right_eq_some.mp hstep
    obtain ⟨hsynced, hclean⟩ := h.syncState
    exact (hsynced.draws_drawTriFanElements hclean hint source type newMemory setup).inv
  | setPrimitiveRestart enabled =>
    cases hstep
    have hcarries : Carries computeGenericHash s
        { s with mPrimitiveRestart := enabled, dirtyPrimitiveRestart := true } :=
      .of_advances h h.pool (fun _ _ _ hout => hout) rfl rfl fun hclean => by contradiction
    exact hcarries.inv h
  | syncState =>
    cases hstep
    exact h.syncState.1
  | writeMemory memory =>
    cases hstep
    have hcarries : Carries computeGenericHash s { s with memory } :=
      .of_advances h h.pool (fun _ _ _ hout => hout) rfl rfl fun hclean => ⟨hclean, rfl⟩
    exact hcarries.inv h
  | ensureCommandBufferValid =>
    cases hstep
    exact (h.keeps_device s.device true).carries.inv h
  | flushCommandBufer =>
    cases hstep
    exact h.keeps_flushCommandBufer.carries.inv h
  | present =>
    cases hstep
    have hvalid := (h.keeps_device s.device true).carries.inv h
    exact hvalid.keeps_flushCommandBufer.carries.inv hvalid
  | completeCommandBuffer serial =>
    cases hstep
    exact (h.keeps_device _ s.mCmdBufferValid).carries.inv h

theorem inv_initial (d : Device) : (initial d).Inv computeGenericHash where
  pool := {
    maxBuffers := rfl
    alignment := rfl
    initialSize := rfl
    nodup := List.nodup_nil
    made := nofun
    next_le := Nat.le_refl 0
    size_lt := Nat.pow_pos (by decide) }
  cache := MruCache.wellFormed_clear content (Stored computeGenericHash) {}
  current := nofun

theorem inv_run {d : Device} {actions : List Action}
    (hrun : Run (step computeGenericHash) anyStep (initial d) actions s) :
    s.Inv computeGenericHash :=
  hrun.invariant (fun _ _ _ (hs : Inv computeGenericHash _) _ hstep => inv_step hs hstep)
    (inv_initial d)

theorem syncState_generation (s : ClientFanContext) (source : IndexSource)
    (type : DrawElementsType) (count : Nat) :
    s.syncState.generation source type count = s.generation source type count := by
  unfold syncState
  split
  · rfl
  · rfl

/-- Equal keys have equal hashes; in every state that draws and other commands reach, a look-up
finds exactly the stored entries with the bytes and the type of the view; and the indices that a
draw reads were generated last from the client's indices, type, count and state of primitive
restart at that draw. -/
theorem run_clientIndices_sound (computeGenericHash : List UInt8 → BitVec 64) (d : Device)
    {actions : List Action} {s : ClientFanContext}
    (hrun : Run (step computeGenericHash) anyStep (initial d) actions s) :
    (∀ memory k k', Made computeGenericHash memory k → Made computeGenericHash memory k' →
      k.same memory k' = true →
        (k.hash computeGenericHash memory).1 = (k'.hash computeGenericHash memory).1) ∧
    (∀ memory view, Made computeGenericHash memory view → ∀ payload,
      s.mTriFanClientIndexBufferCache.peek (tableEquiv computeGenericHash memory) view =
          some payload ↔
        ∃ node key, (node, key, payload) ∈ s.mTriFanClientIndexBufferCache.ordering ∧
          key.mType = view.mType ∧ key.mBytes = view.data memory) ∧
    ∀ indices type count newMemory setup draw t, count < 2 ^ 31 →
      s.syncState.drawTriFanElements computeGenericHash (.client indices) type count newMemory
          setup = (.ok (some draw), t) →
        t.lastGenerated draw.indexBuffer draw.offset (draw.indexCount * 4) = some {
          buffer := draw.indexBuffer
          offset := draw.offset
          sizeInBytes := draw.indexCount * 4
          fan := some {
            indices := bytesAt s.memory indices (count * getDrawElementsTypeSize (some type))
            type, count, primitiveRestart := s.mPrimitiveRestart } } := by
  have hinv := inv_run hrun
  refine ⟨fun memory k k' hk hk' hsame => hash_eq_of_same hk hk' hsame, ?_, ?_⟩
  · intro memory view hview payload
    rw [hinv.cache.peek_eq_some_iff fun k hk => hk.tableEquiv_iff hview.sound]
    simp [content, and_comm]
  · intro indices type count newMemory setup draw t hint hdraw
    obtain ⟨hsynced, hclean⟩ := hinv.syncState
    have hdraws := hsynced.draws_drawTriFanElements hclean hint (.client indices) type newMemory
      setup
    rw [hdraw] at hdraws
    have hlast := hdraws.current draw rfl
    rw [syncState_generation] at hlast
    exact hlast

def lengthHash (bytes : List UInt8) : BitVec 64 := BitVec.ofNat 64 bytes.length

def twoFans : List Action :=
  [.writeMemory fun i => UInt8.ofNat i,
    .drawElements (.client 16) .UnsignedByte 5 (some fun _ => 0) {},
    .drawElements (.client 16) .UnsignedByte 5 none {}]

theorem run_clientIndices_sound_twoFans : ∃ s, Run (step lengthHash) anyStep
    (initial PoolSystem.desktop) twoFans s ∧
    s.generated.length = 1 ∧
    (s.syncState.drawTriFanElements lengthHash (.client 16) .UnsignedByte 5 none {}).2.lastGenerated
      0 0 36 = some ⟨0, 0, 36, some ⟨[16, 17, 18, 19, 20], .UnsignedByte, 5, false⟩⟩ := by
  have hrun : Run (step lengthHash) anyStep (initial PoolSystem.desktop) twoFans _ :=
    Run.of_exec rfl
  exact ⟨_, hrun, rfl, (run_clientIndices_sound lengthHash PoolSystem.desktop hrun).2.2 16
    .UnsignedByte 5 none {} ⟨0, 0, 9⟩ _ (by decide) rfl⟩

end ClientFanContext

end MetalAngle.Metal
