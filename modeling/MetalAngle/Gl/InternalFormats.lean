import Mathlib.Data.List.Basic

/-!
# Internal formats

The formats of images: how many bits each component has, the type of the texels and the type of the
components.
-/

namespace MetalAngle.Gl.InternalFormats

inductive GLenum
  | GL_NONE | GL_UNSIGNED_BYTE | GL_BYTE | GL_UNSIGNED_SHORT_5_6_5 | GL_UNSIGNED_SHORT_4_4_4_4
  | GL_UNSIGNED_SHORT_5_5_5_1 | GL_UNSIGNED_INT_2_10_10_10_REV | GL_UNSIGNED_INT_10F_11F_11F_REV
  | GL_UNSIGNED_INT_5_9_9_9_REV | GL_SHORT | GL_UNSIGNED_SHORT | GL_INT | GL_UNSIGNED_INT
  | GL_UNSIGNED_SHORT_4_4_4_4_REV_EXT | GL_UNSIGNED_SHORT_1_5_5_5_REV_EXT | GL_HALF_FLOAT
  | GL_FLOAT | GL_UNSIGNED_INT_24_8 | GL_FLOAT_32_UNSIGNED_INT_24_8_REV | GL_HALF_FLOAT_OES
  | GL_UNSIGNED_NORMALIZED | GL_SIGNED_NORMALIZED
deriving DecidableEq

structure InternalFormat where
  redBits : Nat := 0
  greenBits : Nat := 0
  blueBits : Nat := 0
  luminanceBits : Nat := 0
  alphaBits : Nat := 0
  sharedBits : Nat := 0
  depthBits : Nat := 0
  stencilBits : Nat := 0
  type : GLenum := .GL_NONE
  componentType : GLenum := .GL_NONE
deriving DecidableEq

def AddRGBAFormat (red green blue alpha shared : Nat) (type componentType : GLenum) :
    InternalFormat :=
  { redBits := red
    greenBits := green
    blueBits := blue
    alphaBits := alpha
    sharedBits := shared
    type := type
    componentType := componentType }

def AddLUMAFormat (luminance alpha : Nat) (type componentType : GLenum) : InternalFormat :=
  { luminanceBits := luminance
    alphaBits := alpha
    type := type
    componentType := componentType }

def AddDepthStencilFormat (depthBits stencilBits : Nat) (type componentType : GLenum) :
    InternalFormat :=
  { depthBits := depthBits
    stencilBits := stencilBits
    type := type
    componentType := componentType }

def AddCompressedFormat : InternalFormat :=
  { type := .GL_UNSIGNED_BYTE
    componentType := .GL_UNSIGNED_NORMALIZED }

/-- `BuildInternalFormatInfoMap`.  Entries that differ only in their names are listed once, where the
first of them is added. -/
def BuildInternalFormatInfoMap : List InternalFormat :=
  [ {},
    AddRGBAFormat 8 0 0 0 0 .GL_UNSIGNED_BYTE .GL_UNSIGNED_NORMALIZED,
    AddRGBAFormat 8 0 0 0 0 .GL_BYTE .GL_SIGNED_NORMALIZED,
    AddRGBAFormat 8 8 0 0 0 .GL_UNSIGNED_BYTE .GL_UNSIGNED_NORMALIZED,
    AddRGBAFormat 8 8 0 0 0 .GL_BYTE .GL_SIGNED_NORMALIZED,
    AddRGBAFormat 8 8 8 0 0 .GL_UNSIGNED_BYTE .GL_UNSIGNED_NORMALIZED,
    AddRGBAFormat 8 8 8 0 0 .GL_BYTE .GL_SIGNED_NORMALIZED,
    AddRGBAFormat 5 6 5 0 0 .GL_UNSIGNED_SHORT_5_6_5 .GL_UNSIGNED_NORMALIZED,
    AddRGBAFormat 4 4 4 4 0 .GL_UNSIGNED_SHORT_4_4_4_4 .GL_UNSIGNED_NORMALIZED,
    AddRGBAFormat 5 5 5 1 0 .GL_UNSIGNED_SHORT_5_5_5_1 .GL_UNSIGNED_NORMALIZED,
    AddRGBAFormat 8 8 8 8 0 .GL_UNSIGNED_BYTE .GL_UNSIGNED_NORMALIZED,
    AddRGBAFormat 8 8 8 8 0 .GL_BYTE .GL_SIGNED_NORMALIZED,
    AddRGBAFormat 10 10 10 2 0 .GL_UNSIGNED_INT_2_10_10_10_REV .GL_UNSIGNED_NORMALIZED,
    AddRGBAFormat 10 10 10 2 0 .GL_UNSIGNED_INT_2_10_10_10_REV .GL_UNSIGNED_INT,
    AddRGBAFormat 11 11 10 0 0 .GL_UNSIGNED_INT_10F_11F_11F_REV .GL_FLOAT,
    AddRGBAFormat 9 9 9 0 5 .GL_UNSIGNED_INT_5_9_9_9_REV .GL_FLOAT,
    AddRGBAFormat 8 0 0 0 0 .GL_BYTE .GL_INT,
    AddRGBAFormat 8 0 0 0 0 .GL_UNSIGNED_BYTE .GL_UNSIGNED_INT,
    AddRGBAFormat 16 0 0 0 0 .GL_SHORT .GL_INT,
    AddRGBAFormat 16 0 0 0 0 .GL_UNSIGNED_SHORT .GL_UNSIGNED_INT,
    AddRGBAFormat 32 0 0 0 0 .GL_INT .GL_INT,
    AddRGBAFormat 32 0 0 0 0 .GL_UNSIGNED_INT .GL_UNSIGNED_INT,
    AddRGBAFormat 8 8 0 0 0 .GL_BYTE .GL_INT,
    AddRGBAFormat 8 8 0 0 0 .GL_UNSIGNED_BYTE .GL_UNSIGNED_INT,
    AddRGBAFormat 16 16 0 0 0 .GL_SHORT .GL_INT,
    AddRGBAFormat 16 16 0 0 0 .GL_UNSIGNED_SHORT .GL_UNSIGNED_INT,
    AddRGBAFormat 32 32 0 0 0 .GL_INT .GL_INT,
    AddRGBAFormat 32 32 0 0 0 .GL_UNSIGNED_INT .GL_UNSIGNED_INT,
    AddRGBAFormat 8 8 8 0 0 .GL_BYTE .GL_INT,
    AddRGBAFormat 8 8 8 0 0 .GL_UNSIGNED_BYTE .GL_UNSIGNED_INT,
    AddRGBAFormat 16 16 16 0 0 .GL_SHORT .GL_INT,
    AddRGBAFormat 16 16 16 0 0 .GL_UNSIGNED_SHORT .GL_UNSIGNED_INT,
    AddRGBAFormat 32 32 32 0 0 .GL_INT .GL_INT,
    AddRGBAFormat 32 32 32 0 0 .GL_UNSIGNED_INT .GL_UNSIGNED_INT,
    AddRGBAFormat 8 8 8 8 0 .GL_BYTE .GL_INT,
    AddRGBAFormat 8 8 8 8 0 .GL_UNSIGNED_BYTE .GL_UNSIGNED_INT,
    AddRGBAFormat 16 16 16 16 0 .GL_SHORT .GL_INT,
    AddRGBAFormat 16 16 16 16 0 .GL_UNSIGNED_SHORT .GL_UNSIGNED_INT,
    AddRGBAFormat 32 32 32 32 0 .GL_INT .GL_INT,
    AddRGBAFormat 32 32 32 32 0 .GL_UNSIGNED_INT .GL_UNSIGNED_INT,
    AddRGBAFormat 4 4 4 4 0 .GL_UNSIGNED_SHORT_4_4_4_4_REV_EXT .GL_UNSIGNED_NORMALIZED,
    AddRGBAFormat 5 5 5 1 0 .GL_UNSIGNED_SHORT_1_5_5_5_REV_EXT .GL_UNSIGNED_NORMALIZED,
    AddRGBAFormat 5 6 5 1 0 .GL_UNSIGNED_SHORT_5_6_5 .GL_UNSIGNED_NORMALIZED,
    AddRGBAFormat 16 0 0 0 0 .GL_HALF_FLOAT .GL_FLOAT,
    AddRGBAFormat 16 16 0 0 0 .GL_HALF_FLOAT .GL_FLOAT,
    AddRGBAFormat 16 16 16 0 0 .GL_HALF_FLOAT .GL_FLOAT,
    AddRGBAFormat 16 16 16 16 0 .GL_HALF_FLOAT .GL_FLOAT,
    AddRGBAFormat 32 0 0 0 0 .GL_FLOAT .GL_FLOAT,
    AddRGBAFormat 32 32 0 0 0 .GL_FLOAT .GL_FLOAT,
    AddRGBAFormat 32 32 32 0 0 .GL_FLOAT .GL_FLOAT,
    AddRGBAFormat 32 32 32 32 0 .GL_FLOAT .GL_FLOAT,
    AddDepthStencilFormat 16 0 .GL_UNSIGNED_SHORT .GL_UNSIGNED_NORMALIZED,
    AddDepthStencilFormat 24 0 .GL_UNSIGNED_INT .GL_UNSIGNED_NORMALIZED,
    AddDepthStencilFormat 32 0 .GL_FLOAT .GL_FLOAT,
    AddDepthStencilFormat 32 0 .GL_UNSIGNED_INT .GL_UNSIGNED_NORMALIZED,
    AddDepthStencilFormat 24 8 .GL_UNSIGNED_INT_24_8 .GL_UNSIGNED_NORMALIZED,
    AddDepthStencilFormat 32 8 .GL_FLOAT_32_UNSIGNED_INT_24_8_REV .GL_FLOAT,
    AddLUMAFormat 0 8 .GL_UNSIGNED_BYTE .GL_UNSIGNED_NORMALIZED,
    AddLUMAFormat 8 0 .GL_UNSIGNED_BYTE .GL_UNSIGNED_NORMALIZED,
    AddLUMAFormat 8 8 .GL_UNSIGNED_BYTE .GL_UNSIGNED_NORMALIZED,
    AddLUMAFormat 0 16 .GL_HALF_FLOAT_OES .GL_FLOAT,
    AddLUMAFormat 16 0 .GL_HALF_FLOAT_OES .GL_FLOAT,
    AddLUMAFormat 16 16 .GL_HALF_FLOAT_OES .GL_FLOAT,
    AddLUMAFormat 0 32 .GL_FLOAT .GL_FLOAT,
    AddLUMAFormat 32 0 .GL_FLOAT .GL_FLOAT,
    AddLUMAFormat 32 32 .GL_FLOAT .GL_FLOAT,
    AddCompressedFormat,
    AddDepthStencilFormat 0 8 .GL_UNSIGNED_BYTE .GL_UNSIGNED_NORMALIZED,
    AddRGBAFormat 16 0 0 0 0 .GL_UNSIGNED_SHORT .GL_UNSIGNED_NORMALIZED,
    AddRGBAFormat 16 0 0 0 0 .GL_SHORT .GL_SIGNED_NORMALIZED,
    AddRGBAFormat 16 16 0 0 0 .GL_UNSIGNED_SHORT .GL_UNSIGNED_NORMALIZED,
    AddRGBAFormat 16 16 0 0 0 .GL_SHORT .GL_SIGNED_NORMALIZED,
    AddRGBAFormat 16 16 16 0 0 .GL_UNSIGNED_SHORT .GL_UNSIGNED_NORMALIZED,
    AddRGBAFormat 16 16 16 0 0 .GL_SHORT .GL_SIGNED_NORMALIZED,
    AddRGBAFormat 16 16 16 16 0 .GL_UNSIGNED_SHORT .GL_UNSIGNED_NORMALIZED,
    AddRGBAFormat 16 16 16 16 0 .GL_SHORT .GL_SIGNED_NORMALIZED,
    AddRGBAFormat 10 10 10 0 0 .GL_UNSIGNED_INT_2_10_10_10_REV .GL_UNSIGNED_NORMALIZED,
    AddRGBAFormat 16 0 0 0 0 .GL_HALF_FLOAT_OES .GL_FLOAT,
    AddRGBAFormat 16 16 0 0 0 .GL_HALF_FLOAT_OES .GL_FLOAT,
    AddRGBAFormat 16 16 16 0 0 .GL_HALF_FLOAT_OES .GL_FLOAT,
    AddRGBAFormat 16 16 16 16 0 .GL_HALF_FLOAT_OES .GL_FLOAT ]

structure Format where
  info : InternalFormat
  known : info ∈ BuildInternalFormatInfoMap

namespace InternalFormat

def componentBits (f : InternalFormat) : List Nat :=
  [f.redBits, f.greenBits, f.blueBits, f.luminanceBits, f.alphaBits, f.depthBits, f.stencilBits]

/-- Every component is a float of 32 bits. -/
def HasFloat32Components (f : InternalFormat) : Prop :=
  f.componentType = .GL_FLOAT ∧ ∀ bits ∈ f.componentBits, bits = 0 ∨ bits = 32

instance (f : InternalFormat) : Decidable f.HasFloat32Components :=
  inferInstanceAs (Decidable (_ ∧ _))

end InternalFormat

/-- `GL_FLOAT` is the type of the texels exactly when the components are floats of 32 bits. -/
theorem Format.type_eq_float_iff (f : Format) :
    f.info.type = .GL_FLOAT ↔ f.info.HasFloat32Components := by
  have hentries : ∀ info ∈ BuildInternalFormatInfoMap,
      info.type = .GL_FLOAT ↔ info.HasFloat32Components := by decide
  exact hentries f.info f.known

end MetalAngle.Gl.InternalFormats
