import Mathlib.Tactic

/-!
# Errors and bounds of `mtl_utils`
-/

namespace MetalAngle.Metal

inductive GLErrorCode
  | invalidValue
  | invalidOperation
  | outOfMemory
deriving DecidableEq

/-- `angle::Result::Stop`, with the error that `handleError` was given. -/
structure StopError where
  code : GLErrorCode
  message : String
deriving DecidableEq

/-- `std::numeric_limits<uint32_t>::max()`. -/
def uint32Max : Nat := 2 ^ 32 - 1

def triangleFanTooLarge : StopError where
  code := .outOfMemory
  message := "Failed to create a scratch index buffer for GL_TRIANGLE_FAN, " ++
    "too many indices required."

def triangleFanBoundCheck (numTris : Nat) : Except StopError Unit :=
  if numTris > uint32Max / (4 * 3) then .error triangleFanTooLarge else .ok ()

/-- `GetTriangleFanIndicesCount`.  `vetexCount - 2` is an `int` converted to a 64-bit
`size_t`, so a count below 2 becomes a huge one. -/
def getTriangleFanIndicesCount (vetexCount : Int) : Except StopError Nat := do
  let numTris := ((vetexCount - 2) % 2 ^ 64).toNat
  triangleFanBoundCheck numTris
  let numIndices := numTris * 3
  if numIndices ≤ uint32Max then .ok numIndices else .error triangleFanTooLarge

/-- A count that passes the checks needs three 32-bit indices for each triangle, and their
bytes are counted in 32 bits. -/
theorem getTriangleFanIndicesCount_eq_ok {vetexCount : Int} {n : Nat}
    (hok : getTriangleFanIndicesCount vetexCount = .ok n) (hpos : 2 ≤ vetexCount)
    (hint : vetexCount < 2 ^ 31) :
    n = 3 * (vetexCount - 2).toNat ∧ 4 * n ≤ uint32Max := by
  have hmod : (vetexCount - 2) % 2 ^ 64 = vetexCount - 2 :=
    Int.emod_eq_of_lt (by omega) (by omega)
  rw [getTriangleFanIndicesCount, hmod, triangleFanBoundCheck] at hok
  by_cases hbound : (vetexCount - 2).toNat > uint32Max / (4 * 3)
  · rw [if_pos hbound] at hok
    contradiction
  · rw [if_neg hbound] at hok
    by_cases hmax : (vetexCount - 2).toNat * 3 ≤ uint32Max
    · have hn : (vetexCount - 2).toNat * 3 = n := by simpa [bind, Except.bind, hmax] using hok
      have hle : (vetexCount - 2).toNat ≤ uint32Max / (4 * 3) := by omega
      simp only [uint32Max] at hle ⊢
      omega
    · simp [bind, Except.bind, hmax] at hok

end MetalAngle.Metal
