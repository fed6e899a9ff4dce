/-!
# Sampler state

The parameters of a sampler that decide whether a texture is complete are kept twice: as they are,
and packed in four bytes that are compared in their place.
-/

namespace MetalAngle.Gl.Textures

inductive TextureType
  | _2D | _2DArray | _2DMultisample | _2DMultisampleArray | _3D | External | Rectangle | CubeMap
deriving DecidableEq

inductive FilterMode
  | Nearest | Linear | NearestMipmapNearest | NearestMipmapLinear | LinearMipmapLinear
  | LinearMipmapNearest
deriving DecidableEq

inductive WrapMode
  | ClampToEdge | ClampToBorder | MirroredRepeat | Repeat
deriving DecidableEq

inductive CompareMode
  | None | CompareRefToTexture
deriving DecidableEq

/-- The byte of a filter. That of `LinearMipmapNearest` is the one of `InvalidEnum`. -/
def FilterMode.byte : FilterMode → Nat
  | Nearest => 0
  | Linear => 1
  | NearestMipmapNearest => 2
  | NearestMipmapLinear => 3
  | LinearMipmapLinear => 4
  | LinearMipmapNearest => 5

def WrapMode.byte : WrapMode → Nat
  | ClampToEdge => 0
  | ClampToBorder => 1
  | MirroredRepeat => 2
  | Repeat => 3

/-- The bytes of `mCompleteness`, which are packed in 32 bits. -/
structure PackedSamplerCompleteness where
  minFilter : Nat
  magFilter : Nat
  wrapS : Nat
  wrapTCompareMode : Nat
deriving DecidableEq

structure SamplerState where
  mMinFilter : FilterMode
  mMagFilter : FilterMode
  mWrapS : WrapMode
  mWrapT : WrapMode
  mCompareMode : CompareMode
  mCompleteness : PackedSamplerCompleteness

/-- The parameters that are set.  The last stands for those that no completeness depends on. -/
inductive SamplerParameter
  | minFilter (minFilter : FilterMode)
  | magFilter (magFilter : FilterMode)
  | wrapS (wrapS : WrapMode)
  | wrapT (wrapT : WrapMode)
  | compareMode (compareMode : CompareMode)
  | other

namespace SamplerState

variable (s : SamplerState)

def setMinFilter (minFilter : FilterMode) : SamplerState :=
  { s with
    mMinFilter := minFilter
    mCompleteness := { s.mCompleteness with minFilter := minFilter.byte } }

def setMagFilter (magFilter : FilterMode) : SamplerState :=
  { s with
    mMagFilter := magFilter
    mCompleteness := { s.mCompleteness with magFilter := magFilter.byte } }

def setWrapS (wrapS : WrapMode) : SamplerState :=
  { s with mWrapS := wrapS, mCompleteness := { s.mCompleteness with wrapS := wrapS.byte } }

/-- The byte that holds the wrap mode of `t` and whether there is no comparison. -/
def wrapTCompareMode (wrapT : WrapMode) (compareMode : CompareMode) : Nat :=
  wrapT.byte ||| (if compareMode = .None then 0x10 else 0x00)

def updateWrapTCompareMode : SamplerState :=
  { s with
    mCompleteness :=
      { s.mCompleteness with wrapTCompareMode := wrapTCompareMode s.mWrapT s.mCompareMode } }

def setWrapT (wrapT : WrapMode) : SamplerState := { s with mWrapT := wrapT }.updateWrapTCompareMode

def setCompareMode (compareMode : CompareMode) : SamplerState :=
  { s with mCompareMode := compareMode }.updateWrapTCompareMode

def set : SamplerParameter → SamplerState
  | .minFilter minFilter => s.setMinFilter minFilter
  | .magFilter magFilter => s.setMagFilter magFilter
  | .wrapS wrapS => s.setWrapS wrapS
  | .wrapT wrapT => s.setWrapT wrapT
  | .compareMode compareMode => s.setCompareMode compareMode
  | .other => s

def packed : PackedSamplerCompleteness :=
  { minFilter := s.mMinFilter.byte
    magFilter := s.mMagFilter.byte
    wrapS := s.mWrapS.byte
    wrapTCompareMode := wrapTCompareMode s.mWrapT s.mCompareMode }

def default : SamplerState :=
  ((((({ mMinFilter := .Nearest, mMagFilter := .Nearest, mWrapS := .ClampToEdge
         mWrapT := .ClampToEdge, mCompareMode := .None, mCompleteness := ⟨0, 0, 0, 0⟩ } :
    SamplerState).setMinFilter .NearestMipmapLinear).setMagFilter .Linear).setWrapS .Repeat).setWrapT
      .Repeat).setCompareMode .None

def createDefaultForTarget (type : TextureType) : SamplerState :=
  if type = .External ∨ type = .Rectangle then
    { default with mMinFilter := .Linear, mWrapS := .ClampToEdge, mWrapT := .ClampToEdge }
  else default

def sameCompleteness (samplerState : SamplerState) : Bool :=
  s.mCompleteness = samplerState.mCompleteness

def isPointSampled : Bool :=
  s.mMagFilter = .Nearest ∧ (s.mMinFilter = .Nearest ∨ s.mMinFilter = .NearestMipmapNearest)

def isMipmapFiltered : Bool :=
  match s.mMinFilter with
  | .Nearest => false
  | .Linear => false
  | _ => true

/-- The bytes of a sampler are those of its parameters. -/
def Packed : Prop := s.mCompleteness = s.packed

instance : Decidable s.Packed := inferInstanceAs (Decidable (_ = _))

variable {s}

theorem set_packed (hs : s.Packed) (parameter : SamplerParameter) : (s.set parameter).Packed := by
  unfold Packed at hs ⊢
  cases parameter <;> simp [set, setMinFilter, setMagFilter, setWrapS, setWrapT, setCompareMode,
    updateWrapTCompareMode, packed, hs]

theorem FilterMode.byte_inj {a b : FilterMode} (h : a.byte = b.byte) : a = b := by
  cases a <;> cases b <;> first | rfl | cases h

theorem WrapMode.byte_inj {a b : WrapMode} (h : a.byte = b.byte) : a = b := by
  cases a <;> cases b <;> first | rfl | cases h

theorem wrapTCompareMode_inj {a b : WrapMode} {c d : CompareMode}
    (h : wrapTCompareMode a c = wrapTCompareMode b d) : a = b ∧ c = d := by
  cases a <;> cases b <;> cases c <;> cases d <;> first | exact ⟨rfl, rfl⟩ | cases h

/-- Samplers of the same bytes have the same parameters where the bytes are those of the
parameters. -/
theorem eq_of_sameCompleteness {a b : SamplerState} (ha : a.Packed) (hb : b.Packed)
    (hsame : a.sameCompleteness b) :
    a.mMinFilter = b.mMinFilter ∧ a.mMagFilter = b.mMagFilter ∧ a.mWrapS = b.mWrapS ∧
      a.mWrapT = b.mWrapT ∧ a.mCompareMode = b.mCompareMode := by
  unfold Packed at ha hb
  have hpacked : a.packed = b.packed := by
    rw [← ha, ← hb]
    exact of_decide_eq_true hsame
  obtain ⟨hmin, hmag, hwrapS, hwrapT⟩ := PackedSamplerCompleteness.mk.inj hpacked
  obtain ⟨hwrapT, hcompare⟩ := wrapTCompareMode_inj hwrapT
  exact ⟨FilterMode.byte_inj hmin, FilterMode.byte_inj hmag, WrapMode.byte_inj hwrapS, hwrapT,
    hcompare⟩

end SamplerState

end MetalAngle.Gl.Textures
