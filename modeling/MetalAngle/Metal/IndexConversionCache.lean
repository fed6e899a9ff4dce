import MetalAngle.Metal.IndexConversionValues

/-!
# Every draw binds the indices of its GL source

A conversion buffer that is not dirty holds all the indices of the element array buffer from
its offset modulo four on, so a draw at any offset with that modulo finds its indices there.
-/

namespace MetalAngle.Metal

open LabelledRun BufferPool DrawElementsType Except Option TriFanContext List

/-! ## Pools of index data -/

structure IndexPool (d : Device) (pool : BufferPool) : Prop where
  sound : pool.Sound
  small : SmallBuffers d pool
  alignment : pool.mAlignment = kIndexBufferOffsetAlignment

/-- The condition on writing indices into a pool: their rounded size is below 2^32, and the region
is not taken from a nil buffer that an allocation without memory has left. -/
def MayWrite (pool : BufferPool) (amount : Nat) : Prop :=
  (amount + kIndexBufferOffsetAlignment - 1) / kIndexBufferOffsetAlignment *
      kIndexBufferOffsetAlignment < 2 ^ 32 ∧ pool.MayAllocate amount

instance (pool : BufferPool) (amount : Nat) : Decidable (MayWrite pool amount) :=
  inferInstanceAs (Decidable (_ ∧ BufferPool.MayAllocate _ _))

namespace IndexPool

variable {d d' : Device} {pool : BufferPool}

section

variable (h : IndexPool d pool)
include h

theorem of_device (hdevice : d'.maxBufferLength = d.maxBufferLength) :
    IndexPool d' pool where
  __ := h
  small := h.small.of_frame hdevice rfl rfl

theorem release : IndexPool d (pool.releaseInFlightBuffers d) := by
  have hframe := releaseInFlightBuffers_frame pool d
  exact ⟨sound_releaseInFlightBuffers h.sound d,
    h.small.of_frame rfl hframe.mSize hframe.mInitialSize, hframe.mAlignment.trans h.alignment⟩

theorem commit : IndexPool d pool.commit := by
  have hframe := commit_frame pool
  exact ⟨sound_commit h.sound, h.small.of_frame rfl hframe.mSize hframe.mInitialSize,
    hframe.mAlignment.trans h.alignment⟩

theorem updateBuffer {f : Buffer → Buffer} (buffer : Nat)
    (hsame : ∀ b, SameBuffer b (f b) ∧ (f b).mMapReadOnly = b.mMapReadOnly) :
    IndexPool d (pool.updateBuffer buffer f) where
  __ := h
  sound := h.sound.updateBuffer buffer (hsame _).1 (hsame _).2
  small := h.small.of_frame rfl rfl rfl

theorem serves {amount : Nat} (hmay : MayWrite pool amount) (wantPtr : Bool)
    (newMemory : Option Memory) :
    Serves d pool amount wantPtr (pool.allocate d amount wantPtr newMemory) := by
  obtain ⟨hsmall, hallocate⟩ := hmay
  rw [← h.alignment] at hsmall
  exact serves_allocate h.sound h.small hallocate hsmall wantPtr newMemory

theorem of_serves {amount : Nat} {wantPtr : Bool}
    {outcome : Except PoolFault Allocation × Device × BufferPool}
    (hserves : Serves d pool amount wantPtr outcome) : IndexPool outcome.2.1 outcome.2.2 where
  __ := hserves
  alignment := hserves.mAlignment.trans h.alignment

end

theorem initializePool (d : Device) {initialSize : Nat} (hsmall : initialSize ≤ 2 ^ 32) :
    IndexPool d (BufferPool.initializePool {} initialSize kIndexBufferOffsetAlignment 0) where
  sound := by
    have hnew : { ({} : BufferPool) with mInitialSize := initialSize, mMaxBuffers := 0 }.Sound :=
      { sound_new .Auto false with }
    apply sound_updateAlignment hnew kIndexBufferOffsetAlignment (by decide)
    exact .inr ⟨by decide, show 0 + 4 ≤ 2 ^ 32 by decide⟩
  small := .inr ⟨Nat.zero_le _, hsmall⟩
  alignment := rfl

end IndexPool

/-! ## Streaming -/

/-- What `streamIndexData` does. -/
structure Streams (d : Device) (type : DrawElementsType) (primitiveRestartEnabled : Bool)
    (source : Memory) (start count : Nat)
    (outcome : Except PoolFault Allocation × Device × BufferPool) : Prop where
  device : outcome.2.1.maxBufferLength = d.maxBufferLength
  pool : IndexPool outcome.2.1 outcome.2.2
  fault_eq : ∀ fault, outcome.1 = .error fault → fault = outOfMemory
  holds : ∀ allocation, outcome.1 = .ok allocation →
    allocation.offset % kIndexBufferOffsetAlignment = 0 ∧
    HoldsIndices (outcome.2.2.heap allocation.buffer).gpuContents
      (outcome.2.2.heap allocation.buffer).size allocation.offset type primitiveRestartEnabled
      source start count

variable {type : DrawElementsType} {count : Nat}

theorem IndexPool.streams_streamIndexData {d : Device} {pool : BufferPool} (h : IndexPool d pool)
    (hmay : MayWrite pool (getIndexConvertedBufferSize type count))
    (primitiveRestartEnabled : Bool) (source : Memory) (start : Nat) (newMemory : Option Memory) :
    Streams d type primitiveRestartEnabled source start count
      (streamIndexData d pool source start type count primitiveRestartEnabled newMemory) := by
  have hserves := h.serves hmay true newMemory
  have hpool := h.of_serves hserves
  unfold streamIndexData
  dsimp only
  obtain ⟨outcome, houtcome⟩ : ∃ o, o = pool.allocate d (getIndexConvertedBufferSize type count)
    true newMemory := ⟨_, rfl⟩
  rw [← houtcome] at hserves hpool ⊢
  obtain ⟨result, d', pool'⟩ := outcome
  cases result with
  | error fault =>
      exact ⟨hserves.device, hpool, hserves.fault_eq, fun _ hok => by contradiction⟩
  | ok allocation =>
    obtain ⟨hbuffer, -⟩ := hserves.region allocation rfl
    obtain ⟨-, haligned, hinside⟩ := hserves.inside rfl
    obtain ⟨hwritable, hbelow⟩ := hserves.writable rfl
    have hunflushed := hserves.unflushed allocation rfl
    dsimp only at hbuffer hinside hwritable hbelow hunflushed hpool ⊢
    obtain ⟨f, hf⟩ : ∃ f, f = fun b : Buffer => b.setContents (writeIndexData type
      primitiveRestartEnabled source start count allocation.offset b.contents) := ⟨_, rfl⟩
    have hsame : ∀ b, SameBuffer b (f b) ∧ (f b).mMapReadOnly = b.mMapReadOnly := by
      intro b
      rw [hf]
      exact b.setContents_sameBuffer _
    have hcontents := holdsIndices_writeIndexData type primitiveRestartEnabled source start
      (pool'.heap allocation.buffer).contents hinside
    rw [← hf]
    obtain ⟨written, hwritten⟩ : ∃ p, p = pool'.updateBuffer allocation.buffer f := ⟨_, rfl⟩
    have hheap : written.heap allocation.buffer = f (pool'.heap allocation.buffer) := by
      rw [hwritten, updateBuffer_heap_self]
    have hindex : IndexPool d' written := hwritten ▸ hpool.updateBuffer allocation.buffer hsame
    have hcommitted := commit_sameBuffer written allocation.buffer
    rw [← hwritten]
    refine ⟨hserves.device, hindex.commit, fun fault herror => by contradiction,
      fun allocation' hok => ?_⟩
    obtain rfl := ok.inj hok
    refine ⟨Nat.mod_eq_zero_of_dvd (h.alignment ▸ haligned), hcontents.of_bytes ?_ ?_⟩
    · rw [hcommitted.size, hheap, (hsame _).1.size]
    · intro i hfrom hto
      have hflushed : (written.commit.heap allocation.buffer).gpuContents i =
          (written.heap allocation.buffer).contents i := by
        apply gpuContents_commit
        · rw [hwritten]
          exact hbuffer
        · rw [hheap, (hsame _).2, hwritable]
        · rw [hwritten]
          exact hunflushed.trans hfrom
        · rw [hwritten]
          exact hto.trans_le hbelow
        · rw [hheap, (hsame _).1.size]
          exact hto.trans_le hinside
      rw [hflushed, hheap, hf]
      exact congrFun (Buffer.contents_setContents _ _) i

/-! ## Conversion buffers -/

namespace IndexConversionBuffer

variable {d d' : Device} {source : Memory} {bufferSize : Nat} {conversion : IndexConversionBuffer}

def indexCount (bufferSize : Nat) (conversion : IndexConversionBuffer) : Nat :=
  getIndexCount bufferSize conversion.offset conversion.elemType

/-- The conversion buffer holds all the indices of the element array buffer from its offset on. -/
structure Converted (source : Memory) (bufferSize : Nat) (conversion : IndexConversionBuffer)
    (buffer : Nat) : Prop where
  convertedBuffer : conversion.convertedBuffer = some buffer
  aligned : conversion.convertedOffset % kIndexBufferOffsetAlignment = 0
  holds : HoldsIndices (conversion.data.heap buffer).gpuContents (conversion.data.heap buffer).size
    conversion.convertedOffset conversion.elemType conversion.primitiveRestartEnabled source
    conversion.offset (conversion.indexCount bufferSize)

/-- Of a conversion buffer of the element array buffer. -/
structure Coherent (d : Device) (source : Memory) (bufferSize : Nat)
    (conversion : IndexConversionBuffer) : Prop where
  pool : IndexPool d conversion.data
  clean : conversion.dirty = false → ∃ buffer, Converted source bufferSize conversion buffer

theorem Coherent.of_device (h : Coherent d source bufferSize conversion)
    (hdevice : d'.maxBufferLength = d.maxBufferLength) :
    Coherent d' source bufferSize conversion where
  __ := h
  pool := h.pool.of_device hdevice

theorem Coherent.of_dirty (hpool : IndexPool d conversion.data) (hdirty : conversion.dirty) :
    Coherent d source bufferSize conversion where
  pool := hpool
  clean := fun hfalse => absurd (hfalse.symm.trans hdirty) Bool.false_ne_true

theorem Coherent.markDirty (h : Coherent d source bufferSize conversion) (source' : Memory) :
    Coherent d source' bufferSize conversion.markDirty := .of_dirty h.pool rfl

theorem coherent_new (d : Device) (source : Memory) (bufferSize : Nat) (k : IndexConversionKey) :
    Coherent d source bufferSize (.new k) :=
  .of_dirty (IndexPool.initializePool d (by decide)) rfl

/-- What a conversion does. -/
structure Converts (d : Device) (k : IndexConversionKey) (source : Memory) (bufferSize : Nat)
    (outcome : Except PoolFault Unit × Device × IndexConversionBuffer) : Prop where
  device : outcome.2.1.maxBufferLength = d.maxBufferLength
  key : outcome.2.2.key = k
  coherent : Coherent outcome.2.1 source bufferSize outcome.2.2
  fault_eq : ∀ fault, outcome.1 = .error fault → fault = outOfMemory
  ok : outcome.1 = .ok () → ∃ buffer, Converted source bufferSize outcome.2.2 buffer

/-- The condition on a conversion. -/
def MayConvert (d : Device) (bufferSize : Nat) (conversion : IndexConversionBuffer) : Prop :=
  MayWrite (conversion.data.releaseInFlightBuffers d)
    (getIndexConvertedBufferSize conversion.elemType (conversion.indexCount bufferSize))

instance (d : Device) (bufferSize : Nat) (conversion : IndexConversionBuffer) :
    Decidable (MayConvert d bufferSize conversion) :=
  inferInstanceAs (Decidable (MayWrite _ _))

theorem Coherent.converts_convertIndexBufferCPU (h : Coherent d source bufferSize conversion)
    (hdirty : conversion.dirty) (hmay : MayConvert d bufferSize conversion)
    (newMemory : Option Memory) :
    Converts d conversion.key source bufferSize
      (convertIndexBufferCPU d source (conversion.indexCount bufferSize) conversion newMemory) := by
  have hstreams := h.pool.release.streams_streamIndexData hmay conversion.primitiveRestartEnabled
    source conversion.offset newMemory
  unfold convertIndexBufferCPU
  split
  case h_1 fault d' pool' heq =>
    rw [heq] at hstreams
    exact ⟨hstreams.device, rfl, .of_dirty hstreams.pool hdirty, fun fault' herror =>
        hstreams.fault_eq fault' (congrArg error (error.inj herror)),
      fun hok => by contradiction⟩
  case h_2 allocation d' pool' heq =>
    rw [heq] at hstreams
    obtain ⟨haligned, hholds⟩ := hstreams.holds allocation rfl
    exact ⟨hstreams.device, rfl, .of_dirty hstreams.pool hdirty,
      fun fault herror => by contradiction, fun _ => ⟨allocation.buffer, rfl, haligned, hholds⟩⟩

theorem fits_of_mayWrite {pool : BufferPool} {start : Nat}
    (hmay : MayWrite pool (getIndexConvertedBufferSize type count))
    (hstart : start < kIndexBufferOffsetAlignment) :
    start + type.size * count ≤ 2 ^ 32 ∧ count < 2 ^ 32 := by
  have hsmall := hmay.1
  unfold getIndexConvertedBufferSize kIndexBufferOffsetAlignment at hsmall
  unfold kIndexBufferOffsetAlignment at hstart
  cases type with
  | UnsignedByte =>
      dsimp only [converted, size] at hsmall ⊢
      omega
  | UnsignedShort =>
      dsimp only [converted, size] at hsmall ⊢
      omega
  | UnsignedInt =>
      dsimp only [converted, size] at hsmall ⊢
      omega

theorem converted_size_pos (type : DrawElementsType) : 0 < type.converted.size := by
  cases type with
  | UnsignedByte => decide
  | UnsignedShort => decide
  | UnsignedInt => decide

theorem Coherent.converts_convertIndexBufferGPU (h : Coherent d source bufferSize conversion)
    (hdirty : conversion.dirty) (hoffset : conversion.offset < kIndexBufferOffsetAlignment)
    (hmay : MayConvert d bufferSize conversion) (hcount : 0 < conversion.indexCount bufferSize)
    (newMemory : Option Memory) :
    Converts d conversion.key source bufferSize
      (convertIndexBufferGPU d source (conversion.indexCount bufferSize) conversion newMemory) := by
  obtain ⟨hfits, hcount32⟩ := fits_of_mayWrite hmay hoffset
  have hserves := h.pool.release.serves hmay false newMemory
  have hpool := h.pool.release.of_serves hserves
  unfold convertIndexBufferGPU
  dsimp only
  split
  case h_1 fault d' pool' heq =>
    rw [heq] at hserves hpool
    exact ⟨hserves.device, rfl, .of_dirty hpool hdirty, fun fault' herror =>
        hserves.fault_eq fault' (congrArg error (error.inj herror)),
      fun hok => by contradiction⟩
  case h_2 allocation d' pool' heq =>
    rw [heq] at hserves hpool
    obtain ⟨-, haligned, hinside⟩ := hserves.inside rfl
    dsimp only at hinside hpool ⊢
    have hsize : (pool'.heap allocation.buffer).size ≤ 2 ^ 32 := hserves.sound.size_le _
    have hbytes : 0 < getIndexConvertedBufferSize conversion.elemType
        (conversion.indexCount bufferSize) := Nat.mul_pos (converted_size_pos _) hcount
    have hcommitted := commit_sameBuffer pool' allocation.buffer
    have hreal : (pool'.commit.heap allocation.buffer).hasBuffer :=
      hpool.commit.sound.hasBuffer_of_size_pos _ (by rw [hcommitted.size]; omega)
    obtain ⟨f, hf⟩ : ∃ f, f = dispatchIndexConversion d'.recordingSerial conversion.elemType
      conversion.primitiveRestartEnabled source (conversion.indexCount bufferSize % 2 ^ 32)
      conversion.offset (allocation.offset % 2 ^ 32) := ⟨_, rfl⟩
    have hsame : ∀ b, SameBuffer b (f b) ∧ (f b).mMapReadOnly = b.mMapReadOnly := by
      intro b
      rw [hf]
      exact dispatchIndexConversion_sameBuffer _ _ _ _ _ _ _ b
    have hconverted : ∃ buffer, Converted source bufferSize { conversion with
        data := pool'.commit.updateBuffer allocation.buffer f
        convertedBuffer := some allocation.buffer
        convertedOffset := allocation.offset
        dirty := false } buffer := by
      refine ⟨allocation.buffer, rfl,
        Nat.mod_eq_zero_of_dvd (h.pool.release.alignment ▸ haligned), ?_⟩
      rw [updateBuffer_heap_self, (hsame _).1.size, hf, Nat.mod_eq_of_lt hcount32,
        Nat.mod_eq_of_lt (by omega)]
      exact holdsIndices_dispatchIndexConversion _ _ _ _ hreal hfits
        (hinside.trans_eq hcommitted.size.symm)
    rw [← hf]
    exact ⟨hserves.device, rfl, ⟨hpool.commit.updateBuffer allocation.buffer hsame,
      fun _ => hconverted⟩, fun fault herror => by contradiction, fun _ => hconverted⟩

/-! ### Looking a conversion buffer up -/

theorem getIndexConversionBuffer_spec {P : IndexConversionBuffer → Prop} {k : IndexConversionKey}
    {buffers : List IndexConversionBuffer} (hnew : P (.new k)) (hbuffers : ∀ c ∈ buffers, P c) :
    P (getIndexConversionBuffer k buffers) ∧ (getIndexConversionBuffer k buffers).key = k := by
  unfold getIndexConversionBuffer
  cases hfind : buffers.find? fun buffer => buffer.key = k with
  | none => exact ⟨hnew, rfl⟩
  | some c =>
      have hkey := find?_some hfind
      exact ⟨hbuffers c (mem_of_find?_eq_some hfind), of_decide_eq_true hkey⟩

theorem mem_putIndexConversionBuffer {k : IndexConversionKey} {conversion c : IndexConversionBuffer}
    {buffers : List IndexConversionBuffer}
    (hc : c ∈ putIndexConversionBuffer k conversion buffers) : c = conversion ∨ c ∈ buffers := by
  induction buffers with
  | nil => exact .inl (mem_singleton.mp hc)
  | cons buffer rest ih =>
    rw [putIndexConversionBuffer] at hc
    split at hc
    case isTrue => exact (mem_cons.mp hc).imp_right (mem_cons_of_mem buffer)
    case isFalse =>
      rcases mem_cons.mp hc with rfl | hrest
      · exact .inr mem_cons_self
      · exact (ih hrest).imp_right (mem_cons_of_mem buffer)

/-- A draw at an offset with the modulo of the conversion finds its indices in it. -/
theorem Converted.denotes {buffer indices : Nat}
    {primitiveRestartEnabled : Bool} (h : Converted source bufferSize conversion buffer)
    (hkey : conversion.key = ⟨type, primitiveRestartEnabled, indices % kIndexBufferOffsetAlignment⟩)
    (hinside : indices + type.size * count ≤ bufferSize) :
    IndexBinding.Denotes {
      contents := (conversion.data.heap buffer).gpuContents
      size := (conversion.data.heap buffer).size
      offset := conversion.convertedOffset + IndexState.alignedOffset type indices
      indexType := type.converted } type primitiveRestartEnabled source indices count := by
  obtain ⟨q, hindices, haligned, hmodulo⟩ := alignedOffset_spec type indices
  obtain rfl : conversion.elemType = type := congrArg IndexConversionKey.elemType hkey
  obtain rfl : conversion.primitiveRestartEnabled = primitiveRestartEnabled :=
    congrArg IndexConversionKey.primitiveRestartEnabled hkey
  have hoffset : conversion.offset = indices % kIndexBufferOffsetAlignment :=
    congrArg IndexConversionKey.offset hkey
  rw [← hoffset] at hindices
  constructor
  case aligned =>
    exact Nat.mod_eq_zero_of_dvd (Nat.dvd_add (Nat.dvd_of_mod_eq_zero h.aligned)
      (Nat.dvd_of_mod_eq_zero hmodulo))
  case indexType => rfl
  case holds =>
    have htail := h.holds.drop (le_getIndexCount hindices hinside)
    rw [← hindices, ← haligned] at htail
    exact htail

end IndexConversionBuffer

/-! ## The vertex array -/

namespace IndexState

open IndexConversionBuffer

variable {s t : IndexState}

structure Inv (s : IndexState) : Prop where
  conversions : ∀ c ∈ s.mIndexConversionBuffers,
    Coherent s.device s.elementArrayBuffer s.elementArrayBufferSize c
  client : IndexPool s.device s.mClientIndexBufferPool

def conversionFor (s : IndexState) (type : DrawElementsType) (indices : Nat)
    (primitiveRestartEnabled : Bool) : IndexConversionBuffer :=
  getIndexConversionBuffer
    ⟨type, primitiveRestartEnabled, indices % kIndexBufferOffsetAlignment⟩
    s.mIndexConversionBuffers

/-- What a draw binds, or that there is no memory. -/
structure Binds (type : DrawElementsType) (primitiveRestartEnabled : Bool) (source : Memory)
    (start count : Nat) (outcome : Except PoolFault (Option IndexBinding) × IndexState) : Prop where
  inv : outcome.2.Inv
  fault_eq : ∀ fault, outcome.1 = .error fault → fault = outOfMemory
  binds : ∀ result, outcome.1 = .ok result → ∃ binding, result = some binding ∧
    binding.Denotes type primitiveRestartEnabled source start count

theorem Inv.binds_convertIndexBuffer (h : s.Inv) {indices : Nat}
    {primitiveRestartEnabled : Bool} (hcount : 0 < count)
    (hinside : indices + type.size * count ≤ s.elementArrayBufferSize)
    (hmay : (s.conversionFor type indices primitiveRestartEnabled).dirty →
      MayConvert s.device s.elementArrayBufferSize
        (s.conversionFor type indices primitiveRestartEnabled))
    (useCPU : Bool) (newMemory : Option Memory) :
    Binds type primitiveRestartEnabled s.elementArrayBuffer indices count
      (s.convertIndexBuffer type indices primitiveRestartEnabled useCPU newMemory) := by
  obtain ⟨k, hk⟩ : ∃ k : IndexConversionKey,
    k = ⟨type, primitiveRestartEnabled, indices % kIndexBufferOffsetAlignment⟩ := ⟨_, rfl⟩
  obtain ⟨conversion, hconversion⟩ :
      ∃ c, c = s.conversionFor type indices primitiveRestartEnabled := ⟨_, rfl⟩
  obtain ⟨hcoherent, hkey⟩ := getIndexConversionBuffer_spec
    (coherent_new s.device s.elementArrayBuffer s.elementArrayBufferSize k) h.conversions
  have hlookup : getIndexConversionBuffer k s.mIndexConversionBuffers = conversion := by
    rw [hconversion, hk]
    rfl
  rw [hlookup] at hcoherent hkey
  rw [← hconversion] at hmay
  have hoffset : conversion.offset = indices % kIndexBufferOffsetAlignment :=
    congrArg IndexConversionKey.offset (hkey.trans hk)
  have htype : conversion.elemType = type :=
    congrArg IndexConversionKey.elemType (hkey.trans hk)
  have hpositive : 0 < conversion.indexCount s.elementArrayBufferSize := by
    obtain ⟨q, hindices, -⟩ := alignedOffset_spec type indices
    rw [← hoffset] at hindices
    have hle := le_getIndexCount hindices hinside
    unfold indexCount
    rw [htype]
    omega
  obtain ⟨outcome, houtcome⟩ : ∃ o, o =
      if conversion.dirty = false then (.ok (), s.device, conversion)
      else if useCPU then
        convertIndexBufferCPU s.device s.elementArrayBuffer
          (getIndexCount s.elementArrayBufferSize conversion.offset type) conversion newMemory
      else
        convertIndexBufferGPU s.device s.elementArrayBuffer
          (getIndexCount s.elementArrayBufferSize conversion.offset type) conversion newMemory :=
    ⟨_, rfl⟩
  have hconverts : Converts s.device k s.elementArrayBuffer s.elementArrayBufferSize outcome := by
    rw [houtcome, ← hkey, ← htype]
    by_cases hclean : conversion.dirty = false
    · rw [if_pos hclean]
      exact ⟨rfl, rfl, hcoherent, fun fault herror => by contradiction,
        fun _ => hcoherent.clean hclean⟩
    · have hdirty := Bool.not_eq_false _ ▸ hclean
      rw [if_neg hclean]
      split
      · exact hcoherent.converts_convertIndexBufferCPU hdirty (hmay hdirty) newMemory
      · apply hcoherent.converts_convertIndexBufferGPU hdirty _ (hmay hdirty) hpositive
        rw [hoffset]
        exact Nat.mod_lt _ (by decide)
  have hcoherent' : ∀ c ∈ putIndexConversionBuffer k outcome.2.2 s.mIndexConversionBuffers,
      Coherent outcome.2.1 s.elementArrayBuffer s.elementArrayBufferSize c := by
    intro c hc
    rcases mem_putIndexConversionBuffer hc with rfl | hold
    · exact hconverts.coherent
    · exact (h.conversions c hold).of_device hconverts.device
  have hclient := h.client.of_device hconverts.device
  unfold convertIndexBuffer
  dsimp only
  rw [← hk, hlookup]
  rw [← houtcome]
  obtain ⟨result, d', converted⟩ := outcome
  cases result with
  | error fault =>
      exact ⟨⟨hcoherent', hclient⟩, fun fault' herror =>
        hconverts.fault_eq fault' (congrArg error (error.inj herror)),
        fun result hok => by contradiction⟩
  | ok =>
    obtain ⟨buffer, hconverted⟩ := hconverts.ok rfl
    refine ⟨⟨hcoherent', hclient⟩, fun fault herror => by contradiction, fun result hok => ?_⟩
    have hdenotes := hconverted.denotes (hconverts.key.trans hk) hinside
    obtain rfl := ok.inj hok
    rw [hconverted.convertedBuffer]
    exact ⟨_, rfl, hdenotes⟩

/-- Whether `getIndexBuffer` converts. -/
def NeedsConversion (type : DrawElementsType) (indices : Nat) : Prop :=
  type = .UnsignedByte ∨ indices % kIndexBufferOffsetAlignment ≠ 0

instance (type : DrawElementsType) (indices : Nat) : Decidable (NeedsConversion type indices) :=
  inferInstanceAs (Decidable (_ ∨ _))

/-- The conversions and streams that a draw makes fit into 32 bits and get a real buffer. -/
def Allowed (s : IndexState) : Action → Prop
  | .drawElements type indices _ primitiveRestartEnabled _ _ =>
      NeedsConversion type indices →
        (s.conversionFor type indices primitiveRestartEnabled).dirty →
        MayConvert s.device s.elementArrayBufferSize
          (s.conversionFor type indices primitiveRestartEnabled)
  | .drawClientElements type _ count _ _ =>
      MayWrite s.mClientIndexBufferPool (getIndexConvertedBufferSize type count)
  | _ => True

instance (s : IndexState) : (a : Action) → Decidable (s.Allowed a)
  | .drawElements _ _ _ _ _ _ =>
      inferInstanceAs (Decidable (NeedsConversion _ _ → _ → MayConvert _ _ _))
  | .drawClientElements _ _ _ _ _ => inferInstanceAs (Decidable (MayWrite _ _))
  | .setData _ _ => .isTrue trivial
  | .setSubData _ _ _ => .isTrue trivial
  | .flushCommandBufer => .isTrue trivial
  | .completeCommandBuffer _ => .isTrue trivial
  | .releaseInFlightBuffers => .isTrue trivial

theorem Inv.binds_getIndexBuffer (h : s.Inv) {indices : Nat}
    {primitiveRestartEnabled useCPU : Bool} {newMemory : Option Memory} (hcount : 0 < count)
    (hinside : indices + type.size * count ≤ s.elementArrayBufferSize) (hallowed : s.Allowed
      (.drawElements type indices count primitiveRestartEnabled useCPU newMemory)) :
    Binds type primitiveRestartEnabled s.elementArrayBuffer indices count
      (s.getIndexBuffer type indices primitiveRestartEnabled useCPU newMemory) := by
  unfold getIndexBuffer
  by_cases hneeds : type = .UnsignedByte ∨ indices % kIndexBufferOffsetAlignment ≠ 0
  · rw [if_pos hneeds]
    exact h.binds_convertIndexBuffer hcount hinside (hallowed hneeds) useCPU newMemory
  · rw [if_neg hneeds]
    obtain ⟨htype, haligned⟩ := not_or.mp hneeds
    have hconverted : type.converted = type := by
      cases type with
      | UnsignedByte => contradiction
      | UnsignedShort => rfl
      | UnsignedInt => rfl
    refine ⟨h, fun fault herror => by contradiction, fun result hok => ?_⟩
    obtain rfl := ok.inj hok
    refine ⟨_, rfl, Decidable.not_not.mp haligned, hconverted.symm, ?_, fun j _ => ?_⟩
    · rw [hconverted]
      exact hinside
    · rw [hconverted, glIndex_of_ne htype]

theorem Inv.binds_streamIndexBufferFromClient (h : s.Inv)
    (hmay : MayWrite s.mClientIndexBufferPool (getIndexConvertedBufferSize type count))
    (indices : Memory) (primitiveRestartEnabled : Bool) (newMemory : Option Memory) :
    Binds type primitiveRestartEnabled indices 0 count
      (s.streamIndexBufferFromClient type count indices primitiveRestartEnabled newMemory) := by
  have hstreams := h.client.streams_streamIndexData hmay primitiveRestartEnabled indices 0 newMemory
  have hconversions : ∀ device : Device, device.maxBufferLength = s.device.maxBufferLength →
      ∀ c ∈ s.mIndexConversionBuffers,
        Coherent device s.elementArrayBuffer s.elementArrayBufferSize c :=
    fun _ hdevice c hc => (h.conversions c hc).of_device hdevice
  unfold streamIndexBufferFromClient
  split
  case h_1 fault device pool heq =>
    rw [heq] at hstreams
    exact ⟨⟨hconversions _ hstreams.device, hstreams.pool⟩, fun fault' herror =>
        hstreams.fault_eq fault' (congrArg error (error.inj herror)),
      fun result hok => by contradiction⟩
  case h_2 allocation device pool heq =>
    rw [heq] at hstreams
    obtain ⟨haligned, hholds⟩ := hstreams.holds allocation rfl
    refine ⟨⟨hconversions _ hstreams.device, hstreams.pool⟩,
      fun fault herror => by contradiction, fun result hok => ?_⟩
    obtain rfl := ok.inj hok
    exact ⟨_, rfl, haligned, rfl, hholds⟩

theorem inv_step {a : Action} (h : s.Inv) (hallowed : s.Allowed a) (hstep : step s a = some t) :
    t.Inv := by
  cases a with
  | drawElements type indices count primitiveRestartEnabled useCPU newMemory =>
      obtain ⟨⟨hcount, -, hinside⟩, ⟨⟩⟩ := ite_none_right_eq_some.mp hstep
      exact (h.binds_getIndexBuffer hcount hinside hallowed).inv
  | drawClientElements type indices count primitiveRestartEnabled newMemory =>
      obtain ⟨-, ⟨⟩⟩ := ite_none_right_eq_some.mp hstep
      exact (h.binds_streamIndexBufferFromClient hallowed _ _ _).inv
  | setData contents size =>
      cases hstep
      exact ⟨fun c hc => by contradiction, h.client⟩
  | setSubData contents offset size =>
      cases hstep
      refine ⟨fun c hc => ?_, h.client⟩
      obtain ⟨c', hc', rfl⟩ := mem_map.mp hc
      exact (h.conversions c' hc').markDirty _
  | flushCommandBufer =>
      cases hstep
      exact ⟨fun c hc => (h.conversions c hc).of_device rfl, h.client.of_device rfl⟩
  | completeCommandBuffer serial =>
      cases hstep
      exact ⟨fun c hc => (h.conversions c hc).of_device rfl, h.client.of_device rfl⟩
  | releaseInFlightBuffers =>
      cases hstep
      exact ⟨h.conversions, h.client.release⟩

theorem inv_run {d : Device} {acts : List Action} (hrun : Run step Allowed { device := d } acts s) :
    s.Inv :=
  hrun.invariant (fun _ _ _ (hs : IndexState.Inv _) hallowed hstep => inv_step hs hallowed hstep)
    ⟨fun c hc => by contradiction, IndexPool.initializePool d (Nat.zero_le _)⟩

end IndexState

end MetalAngle.Metal
