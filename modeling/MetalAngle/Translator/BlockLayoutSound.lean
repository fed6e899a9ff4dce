import MetalAngle.Translator.BlockLayoutRules

/-!
# The encoders against the layout rules

The encoders follow the rules as long as the base alignment of no struct changes with the row-major
layout that it inherits, up to offsets where the two alignments round to the same, and the offsets
fit their types.
-/

namespace MetalAngle.Translator

open AlignedLayout BlockLayoutEncoder Nat List BlockEncoderVisitor Option
open MetalAngle.Metal (roundUp roundUp_eq)

variable (encoder : BlockLayoutEncoder)

/-! ## Strides and alignments of variables -/

section

variable (type : VariableType)

theorem getStd430BaseAlignment_eq (arraySizes : List Nat)
    (isRowMajor : Bool) :
    getStd430BaseAlignment type isRowMajor =
      (BlockLayoutEncoder.Std430BlockEncoder.variableLayout type arraySizes isRowMajor).alignment
    := by
  cases arraySizes <;> cases isRowMajor <;> cases type with
  | numeric type => cases type <;> rfl
  | _ => rfl

theorem getBlockLayoutInfo_eq (arraySizes : List Nat) (isRowMajor : Bool) :
    encoder.getBlockLayoutInfo type (arraySizes.take 1) isRowMajor =
      ((encoder.variableLayout type arraySizes isRowMajor).alignment,
        (encoder.variableLayout type arraySizes isRowMajor).arrayStride,
        (encoder.variableLayout type arraySizes isRowMajor).matrixStride) := by
  cases encoder <;> cases arraySizes <;> cases isRowMajor <;> cases type with
  | numeric type => cases type <;> rfl
  | _ => rfl

theorem variableRowCount_le : type.variableRowCount ≤ 4 := by
  cases type with
  | numeric type => cases type <;> decide
  | _ => decide

theorem variableColumnCount_le : type.variableColumnCount ≤ 4 := by
  cases type with
  | numeric type => cases type <;> decide
  | _ => decide

theorem strides_le (arraySizes : List Nat) (isRowMajor : Bool) :
    (encoder.variableLayout type arraySizes isRowMajor).arrayStride ≤ 16 ∧
      (encoder.variableLayout type arraySizes isRowMajor).matrixStride ≤ 16 := by
  have hstride : ∀ components, encoder.roundToVec4 (vectorAlignment components) ≤ 4 :=
    fun components => le_of_dvd (by decide)
      (roundToVec4_isBase encoder (vectorAlignment_isBase components)).dvd_four
  have hvectors : (if isRowMajor then type.variableRowCount else type.variableColumnCount) ≤ 4 := by
    split
    · exact variableRowCount_le type
    · exact variableColumnCount_le type
  unfold variableLayout
  cases arraySizes <;> dsimp only <;> split
  · exact ⟨zero_le _, (hstride _).trans (by decide)⟩
  · exact ⟨zero_le _, zero_le _⟩
  · exact ⟨Nat.mul_le_mul hvectors (hstride _), (hstride _).trans (by decide)⟩
  · exact ⟨(hstride _).trans (by decide), zero_le _⟩

theorem size_le_of_nil (isRowMajor : Bool) :
    (encoder.variableLayout type [] isRowMajor).size ≤ 16 := by
  cases encoder <;> cases isRowMajor <;> cases type with
  | numeric type => cases type <;> decide
  | _ => decide

theorem size_of_cons (arraySize : Nat) (arraySizes : List Nat)
    (isRowMajor : Bool) :
    (encoder.variableLayout type (arraySize :: arraySizes) isRowMajor).size =
      arraySize * (encoder.variableLayout type (arraySize :: arraySizes) isRowMajor).arrayStride
    := by
  unfold variableLayout
  split <;> rfl

theorem size_of_nil (isRowMajor : Bool) :
    (encoder.variableLayout type [] isRowMajor).size = if type.isMatrixType then
        (encoder.variableLayout type [] isRowMajor).matrixStride *
          type.matrixRegisterCount isRowMajor
      else type.variableComponentCount := by
  cases encoder <;> cases isRowMajor <;> cases type with
  | numeric type => cases type <;> rfl
  | _ => rfl

theorem advanceOffset_eq (arraySizes : List Nat) (isRowMajor : Bool)
    (mCurrentOffset : Nat) :
    BlockLayoutEncoder.advanceOffset type (arraySizes.take 1) isRowMajor
        (encoder.variableLayout type arraySizes isRowMajor).arrayStride
        (encoder.variableLayout type arraySizes isRowMajor).matrixStride mCurrentOffset =
      toSize (mCurrentOffset +
        (encoder.variableLayout type arraySizes isRowMajor).size % 2 ^ 32) := by
  cases arraySizes with
  | nil =>
      have hle := size_le_of_nil encoder type isRowMajor
      rw [mod_eq_of_lt (by omega), size_of_nil, take_nil]
      unfold advanceOffset
      rw [if_neg (by simp)]
      split <;> rfl
  | cons arraySize arraySizes =>
      rw [size_of_cons, mul_comm arraySize]
      simp [advanceOffset, arraySizeProduct]

end

/-! ## Base alignments of structs -/

variable {alignment : Nat}

theorem traverseArrayElements_baseAlignment {traverse : Nat → Nat}
    (h : ∀ mCurrentAlignment, traverse mCurrentAlignment = max mCurrentAlignment alignment)
    (hasParentArrayIndex : Bool) (currentArraySize innerArraySizeProduct mCurrentAlignment : Nat) :
    traverseArrayElements baseAlignmentVisitor hasParentArrayIndex currentArraySize
        innerArraySizeProduct traverse mCurrentAlignment =
      max mCurrentAlignment alignment := by
  have hrange : ∀ count, (range (count + 1)).foldl (fun s _ => traverse s)
      mCurrentAlignment = max mCurrentAlignment alignment := by
    intro count
    induction count with
    | zero => exact h mCurrentAlignment
    | succ count ih =>
        rw [range_succ, foldl_append, ih, foldl_cons, foldl_nil, h, max_assoc,
          max_self]
  obtain ⟨count, hcount⟩ : ∃ count, max currentArraySize 1 = count + 1 :=
    ⟨max currentArraySize 1 - 1, by omega⟩
  unfold traverseArrayElements
  rw [hcount]
  exact hrange count

theorem traverseArrayOfArraysVariable_baseAlignment (type : VariableType)
    (isRowMajor hasParentArrayIndex : Bool) (arraySizes : List Nat) (mCurrentAlignment : Nat) :
    traverseArrayOfArraysVariable baseAlignmentVisitor type isRowMajor hasParentArrayIndex
        arraySizes mCurrentAlignment =
      max mCurrentAlignment
        (variableShape .Std430BlockEncoder type isRowMajor arraySizes).alignment := by
  induction arraySizes generalizing hasParentArrayIndex mCurrentAlignment with
  | nil => exact congrArg (max mCurrentAlignment) (getStd430BaseAlignment_eq type [] isRowMajor)
  | cons arraySize arraySizes ih =>
    cases arraySizes with
    | nil =>
        exact congrArg (max mCurrentAlignment)
          (getStd430BaseAlignment_eq type [arraySize] isRowMajor)
    | cons nextArraySize arraySizes =>
        exact traverseArrayElements_baseAlignment (ih true) hasParentArrayIndex arraySize _ _

theorem traverseStructArrayVariable_baseAlignment {traverse : Nat → Nat} {shape : Shape VisitorCall}
    (h : ∀ mCurrentAlignment, traverse mCurrentAlignment = max mCurrentAlignment shape.alignment)
    (hasParentArrayIndex : Bool) (arraySizes : List Nat) (mCurrentAlignment : Nat) :
    traverseStructArrayVariable baseAlignmentVisitor traverse hasParentArrayIndex arraySizes
        mCurrentAlignment =
      max mCurrentAlignment (structArrayShape shape arraySizes).alignment := by
  induction arraySizes generalizing hasParentArrayIndex mCurrentAlignment with
  | nil => exact h mCurrentAlignment
  | cons arraySize arraySizes ih =>
      exact traverseArrayElements_baseAlignment (ih true) hasParentArrayIndex arraySize _ _

mutual

theorem traverseShaderVariable_baseAlignment : (var : ShaderVariable) → (isRowMajor : Bool) →
    (mCurrentAlignment : Nat) →
    traverseShaderVariable baseAlignmentVisitor var isRowMajor mCurrentAlignment =
      max mCurrentAlignment (shaderVariableShape .Std430BlockEncoder var isRowMajor).alignment
  | .basic type arraySizes rowMajor, isRowMajor, mCurrentAlignment =>
      traverseArrayOfArraysVariable_baseAlignment type _ false arraySizes mCurrentAlignment
  | .struct field fields arraySizes rowMajor, isRowMajor, mCurrentAlignment => by
      apply traverseStructArrayVariable_baseAlignment
      intro alignment
      calc traverseStructVariable baseAlignmentVisitor field fields (isRowMajor || rowMajor) _
            alignment
          = traverseShaderVariables baseAlignmentVisitor fields (isRowMajor || rowMajor)
              (traverseShaderVariable baseAlignmentVisitor field (isRowMajor || rowMajor)
                alignment) := rfl
        _ = _ := by
          rw [traverseShaderVariables_baseAlignment fields,
            traverseShaderVariable_baseAlignment field, max_assoc]
          rfl

theorem traverseShaderVariables_baseAlignment : (vars : List ShaderVariable) →
    (isRowMajor : Bool) → (mCurrentAlignment : Nat) →
    traverseShaderVariables baseAlignmentVisitor vars isRowMajor mCurrentAlignment =
      max mCurrentAlignment (((shaderVariableShapes .Std430BlockEncoder vars isRowMajor).map
          Shape.alignment).foldr max 0)
  | [], _, mCurrentAlignment => (max_zero mCurrentAlignment).symm
  | var :: vars, isRowMajor, mCurrentAlignment => by
      rw [traverseShaderVariables, traverseShaderVariables_baseAlignment vars,
        traverseShaderVariable_baseAlignment var, max_assoc]
      rfl

end

/-- In std140 structs are aligned to a `vec4`. -/
theorem fieldsAlignment_std140 (field : ShaderVariable) (fields : List ShaderVariable)
    (isRowMajor : Bool) :
    BlockLayoutEncoder.Std140BlockEncoder.fieldsAlignment field fields isRowMajor = 4 := by
  apply IsBaseAlignment.alignUp_four
  exact structAlignment_isBase .Std430BlockEncoder
    (shaderVariableShape_isBase .Std140BlockEncoder field isRowMajor)
    (shaderVariableShapes_isBase .Std140BlockEncoder fields isRowMajor)

theorem getBaseAlignment_eq (field : ShaderVariable) (fields : List ShaderVariable) :
    encoder.getBaseAlignment (field :: fields) = encoder.fieldsAlignment field fields false := by
  cases encoder with
  | Std140BlockEncoder => exact (fieldsAlignment_std140 field fields false).symm
  | Std430BlockEncoder =>
      exact (traverseShaderVariables_baseAlignment (field :: fields) false 0).trans (zero_max _)

/-! ## Calls of the encoder in sequence -/

def Placement.withoutTopLevel (placement : Placement) : Placement :=
  { placement with
    memberInfo := placement.memberInfo.map fun info => { info with topLevelArrayStride := -1 } }

def encodeCall (call : VisitorCall) (mCurrentOffset : Nat) : Placement × Nat :=
  match call with
  | .enterStructAccess field fields _ =>
      let mCurrentOffset := encoder.enterAggregateType (field :: fields) mCurrentOffset
      (⟨call, none, getCurrentOffset mCurrentOffset⟩, mCurrentOffset)
  | .exitStructAccess field fields _ =>
      let mCurrentOffset := encoder.exitAggregateType (field :: fields) mCurrentOffset
      (⟨call, none, getCurrentOffset mCurrentOffset⟩, mCurrentOffset)
  | .visitVariable type arraySizes isRowMajor =>
      let (variableInfo, mCurrentOffset) :=
        encoder.encodeType type (arraySizes.take 1) isRowMajor mCurrentOffset
      (⟨call, some variableInfo, getCurrentOffset mCurrentOffset⟩, mCurrentOffset)

def encodeCalls (calls : List VisitorCall) (mCurrentOffset : Nat) : List Placement × Nat :=
  calls.foldl (fun (placements, mCurrentOffset) call =>
    (placements ++ [(encodeCall encoder call mCurrentOffset).1],
      (encodeCall encoder call mCurrentOffset).2)) ([], mCurrentOffset)

theorem encodeCalls_append_singleton (calls : List VisitorCall) (call : VisitorCall)
    (mCurrentOffset : Nat) :
    encodeCalls encoder (calls ++ [call]) mCurrentOffset =
      ((encodeCalls encoder calls mCurrentOffset).1 ++
          [(encodeCall encoder call (encodeCalls encoder calls mCurrentOffset).2).1],
        (encodeCall encoder call (encodeCalls encoder calls mCurrentOffset).2).2) := by
  unfold encodeCalls
  rw [foldl_append]
  rfl

/-- The visitor has encoded the calls. -/
structure Encoded (v : BlockEncoderVisitor) (calls : List VisitorCall) : Prop where
  placements : v.placements.map Placement.withoutTopLevel = (encodeCalls encoder calls 0).1
  mCurrentOffset : v.mCurrentOffset = (encodeCalls encoder calls 0).2

variable {calls : List VisitorCall} {call : VisitorCall}

theorem Encoded.snoc {v v' : BlockEncoderVisitor}
    (h : Encoded encoder v calls) {placement : Placement}
    (hplacements : v'.placements = v.placements ++ [placement])
    (hplacement : placement.withoutTopLevel = (encodeCall encoder call v.mCurrentOffset).1)
    (hoffset : v'.mCurrentOffset = (encodeCall encoder call v.mCurrentOffset).2) :
    Encoded encoder v' (calls ++ [call]) := by
  constructor
  case placements =>
    rw [encodeCalls_append_singleton, ← h.mCurrentOffset, ← h.placements, hplacements,
      map_append, ← hplacement]
    rfl
  case mCurrentOffset => rw [encodeCalls_append_singleton, ← h.mCurrentOffset, hoffset]

theorem withoutTopLevel_some (call : VisitorCall) (info : BlockMemberInfo)
    (hinfo : info.topLevelArrayStride = -1) (topLevelArrayStride : Int) (currentOffset : Nat) :
    Placement.withoutTopLevel
        ⟨call, some { info with topLevelArrayStride := topLevelArrayStride }, currentOffset⟩ =
      ⟨call, some info, currentOffset⟩ := by
  simp [Placement.withoutTopLevel, ← hinfo]

/-- `getShaderVariableSize` moves neither the encoder nor the placements. -/
theorem readyTopLevelArrayStride_eq (v : BlockEncoderVisitor) (fields : List ShaderVariable)
    (traverseFields : BlockEncoderVisitor → BlockEncoderVisitor) :
    (v.readyTopLevelArrayStride encoder fields traverseFields).mCurrentOffset = v.mCurrentOffset ∧
      (v.readyTopLevelArrayStride encoder fields traverseFields).placements = v.placements := by
  unfold readyTopLevelArrayStride
  split
  · exact ⟨rfl, rfl⟩
  · exact ⟨rfl, rfl⟩

theorem blockEncoderVisitor_related :
    (blockEncoderVisitor encoder).Related callRecorder (Encoded encoder) := by
  constructor
  case enterStructAccess =>
    intro field fields isRowMajor traverseFields _ v calls h
    have hready := readyTopLevelArrayStride_eq encoder
      { v with mStructStackSize := v.mStructStackSize + 1 } (field :: fields) traverseFields
    apply h.snoc
    case hplacements => exact congrArg (· ++ _) hready.2
    case hplacement =>
      simp [Placement.withoutTopLevel, encodeCall, hready.1]
    case hoffset =>
      exact congrArg (encoder.enterAggregateType (field :: fields)) hready.1
  case exitStructAccess =>
    intro field fields isRowMajor v calls h
    exact h.snoc encoder rfl rfl rfl
  case enterArrayElement =>
    intro hasParentArrayIndex innerArraySizeProduct arrayElement v calls h
    simp only [blockEncoderVisitor, enterArrayElement, callRecorder]
    split
    · exact ⟨h.placements, h.mCurrentOffset⟩
    · exact h
  case exitArrayElement =>
    intro hasParentArrayIndex arrayElement v calls h
    simp only [blockEncoderVisitor, exitArrayElement, callRecorder]
    split
    · exact ⟨h.placements, h.mCurrentOffset⟩
    · exact h
  case visitVariable =>
    intro type arraySizes isRowMajor v calls h
    have hinfo := withoutTopLevel_some (.visitVariable type arraySizes isRowMajor)
      (encoder.encodeType type (arraySizes.take 1) isRowMajor v.mCurrentOffset).1 rfl
    exact h.snoc encoder rfl (hinfo _ _) rfl

theorem getInterfaceBlockInfo_encoded (fields : List ShaderVariable) (inRowMajorLayout : Bool) :
    Encoded encoder (getInterfaceBlockInfo encoder fields inRowMajorLayout)
      (visitorCalls fields inRowMajorLayout) :=
  traverseShaderVariables_related (blockEncoderVisitor_related encoder) fields inRowMajorLayout _ []
    ⟨rfl, rfl⟩

/-! ## Where the encoders agree with the rules -/

/-- A call at an offset of the rules.  At a struct, the base alignment that the struct has in
column-major layout and the one that it has in the layout it inherits round the offset to the same;
a variable lies in the first `2 ^ 31` bytes and has fewer than `2 ^ 32` components. -/
def VisitorCall.AgreesAt (call : VisitorCall) (offset : Nat) : Prop :=
  match call with
  | .enterStructAccess field fields isRowMajor | .exitStructAccess field fields isRowMajor =>
      alignUp (encoder.fieldsAlignment field fields false) offset =
        alignUp (encoder.fieldsAlignment field fields isRowMajor) offset
  | .visitVariable type arraySizes isRowMajor =>
      let layout := encoder.variableLayout type arraySizes isRowMajor
      alignUp layout.alignment offset * 4 < 2 ^ 31 ∧ layout.size < 2 ^ 32

instance (call : VisitorCall) (offset : Nat) : Decidable (call.AgreesAt encoder offset) := by
  unfold VisitorCall.AgreesAt
  split <;> infer_instance

/-- Every call agrees with the rules at the offset to which the rules have come. -/
def Agrees : List VisitorCall → Nat → Prop
  | [], _ => True
  | call :: calls, offset =>
      call.AgreesAt encoder offset ∧ Agrees calls ((ruleStep encoder call).place offset).finish

variable {offset : Nat}

theorem alignUp_le_of_isBase (h : IsBaseAlignment alignment)
    (hoffset : offset ≤ 2 ^ 33) : alignUp alignment offset ≤ 2 ^ 33 :=
  alignUp_le h.pos hoffset (h.dvd_four.trans (by decide))

theorem roundUp_eq_alignUp (h : IsBaseAlignment alignment)
    (hoffset : offset ≤ 2 ^ 33) : roundUp 64 offset alignment = alignUp alignment offset := by
  have hle := le_of_dvd (by decide) h.dvd_four
  exact roundUp_eq (by omega)

theorem getCurrentOffset_eq (hoffset : offset ≤ 2 ^ 33 + 2 ^ 32) :
    getCurrentOffset offset = offset * 4 := by
  unfold getCurrentOffset toSize kBytesPerComponent
  omega

theorem toInt_eq_iff {n : Nat} (hn : n ≤ 2 ^ 40) : toInt n = n ↔ n < 2 ^ 31 := by
  unfold toInt
  constructor
  case mp =>
    intro h
    have hlt := @Int.bmod_lt n (2 ^ 32) (by decide)
    omega
  case mpr =>
    intro h
    exact Int.bmod_eq_of_le (by omega) (by omega)

theorem enterAggregateType_eq (field : ShaderVariable) (fields : List ShaderVariable)
    (hoffset : offset ≤ 2 ^ 33) :
    encoder.enterAggregateType (field :: fields) offset =
      alignUp (encoder.fieldsAlignment field fields false) offset := by
  unfold enterAggregateType
  rw [getBaseAlignment_eq]
  exact roundUp_eq_alignUp (fieldsAlignment_isBase encoder field fields false) hoffset

/-- At the offsets of the rules a variable is encoded with its strides and an offset of 32 bits. -/
theorem encodeType_eq (type : VariableType) (arraySizes : List Nat) (isRowMajor : Bool)
    (hoffset : offset ≤ 2 ^ 33) :
    encoder.encodeType type (arraySizes.take 1) isRowMajor offset =
      (let layout := encoder.variableLayout type arraySizes isRowMajor
      ({ offset := toInt ((alignUp layout.alignment offset * 4 : Nat) : Int)
         arrayStride := layout.arrayStride * 4
         matrixStride := layout.matrixStride * 4
         isRowMajorMatrix := isRowMajor },
        alignUp layout.alignment offset + layout.size % 2 ^ 32)) := by
  have hbase := variableLayout_isBase encoder type arraySizes isRowMajor
  have hstart := alignUp_le_of_isBase hbase hoffset
  obtain ⟨harray, hmatrix⟩ := strides_le encoder type arraySizes isRowMajor
  have hint : ∀ stride : Nat, stride ≤ 16 → toInt (stride * (kBytesPerComponent : Nat)) =
      stride * 4 := by
    intro stride hstride
    exact_mod_cast (toInt_eq_iff (by omega)).mpr (by omega : stride * 4 < 2 ^ 31)
  have hsize :
      toSize (alignUp (encoder.variableLayout type arraySizes isRowMajor).alignment offset *
          kBytesPerComponent) =
        alignUp (encoder.variableLayout type arraySizes isRowMajor).alignment offset * 4 :=
    getCurrentOffset_eq (by omega)
  unfold encodeType
  rw [getBlockLayoutInfo_eq]
  dsimp only
  rw [roundUp_eq_alignUp hbase hoffset, advanceOffset_eq, hint _ harray, hint _ hmatrix, hsize]
  congr 1
  unfold toSize
  omega

theorem place_finish_le (hoffset : offset ≤ 2 ^ 33) (h : call.AgreesAt encoder offset) :
    ((ruleStep encoder call).place offset).finish ≤ 2 ^ 33 := by
  have hstart := alignUp_le_of_isBase (ruleStep_isBase encoder call) hoffset
  cases call with
  | enterStructAccess field fields isRowMajor => exact hstart
  | exitStructAccess field fields isRowMajor => exact hstart
  | visitVariable type arraySizes isRowMajor =>
      obtain ⟨hfits, hsize⟩ := h
      simp only [Step.place, ruleStep]
      omega

/-- A call that agrees with the rules places what they say. -/
theorem encodeCall_of_agreesAt (hoffset : offset ≤ 2 ^ 33) (h : call.AgreesAt encoder offset) :
    encodeCall encoder call offset = (rulesPlacement encoder ((ruleStep encoder call).place offset),
        ((ruleStep encoder call).place offset).finish) := by
  have hfinish := place_finish_le encoder hoffset h
  cases call with
  | enterStructAccess field fields isRowMajor =>
      have heq := (enterAggregateType_eq encoder field fields hoffset).trans h
      simp only [encodeCall, heq, rulesPlacement, ruleStep, Step.place, add_zero] at hfinish ⊢
      rw [getCurrentOffset_eq (by omega)]
  | exitStructAccess field fields isRowMajor =>
      have heq : encoder.exitAggregateType (field :: fields) offset = _ :=
        (enterAggregateType_eq encoder field fields hoffset).trans h
      simp only [encodeCall, heq, rulesPlacement, ruleStep, Step.place, add_zero] at hfinish ⊢
      rw [getCurrentOffset_eq (by omega)]
  | visitVariable type arraySizes isRowMajor =>
    obtain ⟨hfits, hsize⟩ := h
    simp only [encodeCall, encodeType_eq encoder type arraySizes isRowMajor hoffset,
      rulesPlacement, ruleStep, Step.place, mod_eq_of_lt hsize] at hfinish ⊢
    rw [getCurrentOffset_eq (by omega), (toInt_eq_iff (by omega)).mpr hfits]
    rfl

/-- A call that places what the rules say agrees with them. -/
theorem agreesAt_of_encodeCall (hoffset : offset ≤ 2 ^ 33) (h : (encodeCall encoder call offset).1 =
      rulesPlacement encoder ((ruleStep encoder call).place offset)) :
    call.AgreesAt encoder offset := by
  have hstart := alignUp_le_of_isBase (ruleStep_isBase encoder call) hoffset
  have hcurrent := congrArg Placement.currentOffset h
  cases call with
  | enterStructAccess field fields isRowMajor =>
    have hcolumns := alignUp_le_of_isBase
      (fieldsAlignment_isBase encoder field fields false) hoffset
    simp only [encodeCall, rulesPlacement, ruleStep, Step.place,
      enterAggregateType_eq encoder field fields hoffset] at hcurrent
    rw [getCurrentOffset_eq (by omega)] at hcurrent
    exact eq_of_mul_eq_mul_right (by decide) hcurrent
  | exitStructAccess field fields isRowMajor =>
    have hcolumns := alignUp_le_of_isBase
      (fieldsAlignment_isBase encoder field fields false) hoffset
    have heq : encoder.exitAggregateType (field :: fields) offset = _ :=
      enterAggregateType_eq encoder field fields hoffset
    simp only [encodeCall, rulesPlacement, ruleStep, Step.place, heq] at hcurrent
    rw [getCurrentOffset_eq (by omega)] at hcurrent
    exact eq_of_mul_eq_mul_right (by decide) hcurrent
  | visitVariable type arraySizes isRowMajor =>
    have hinfo := congrArg (fun p => p.memberInfo.map BlockMemberInfo.offset) h
    simp only [encodeCall, rulesPlacement, ruleStep, Step.place, map_some,
      encodeType_eq encoder type arraySizes isRowMajor hoffset] at hinfo hcurrent hstart
    have hfits := (toInt_eq_iff (by omega)).mp ((some.inj hinfo).trans (by push_cast; rfl))
    rw [getCurrentOffset_eq (by omega)] at hcurrent
    exact ⟨hfits, by omega⟩

def rulesLayout (calls : List VisitorCall) (offset : Nat) : List Placement :=
  (layout (calls.map (ruleStep encoder)) offset).map (rulesPlacement encoder)

theorem encodeCalls_cons (call : VisitorCall) (calls : List VisitorCall) (offset : Nat) :
    (encodeCalls encoder (call :: calls) offset).1 = (encodeCall encoder call offset).1 ::
          (encodeCalls encoder calls (encodeCall encoder call offset).2).1 ∧
      (encodeCalls encoder (call :: calls) offset).2 =
        (encodeCalls encoder calls (encodeCall encoder call offset).2).2 := by
  induction calls using reverseRecOn with
  | nil => exact ⟨rfl, rfl⟩
  | append_singleton calls last ih =>
      rw [← cons_append, encodeCalls_append_singleton, encodeCalls_append_singleton, ih.1,
        ih.2]
      exact ⟨rfl, rfl⟩

theorem encodeCalls_of_agrees (hoffset : offset ≤ 2 ^ 33) (h : Agrees encoder calls offset) :
    (encodeCalls encoder calls offset).1 = rulesLayout encoder calls offset ∧
      (encodeCalls encoder calls offset).2 = finalOffset (calls.map (ruleStep encoder)) offset ∧
      finalOffset (calls.map (ruleStep encoder)) offset ≤ 2 ^ 33 := by
  induction calls generalizing offset with
  | nil => exact ⟨rfl, rfl, hoffset⟩
  | cons call calls ih =>
    have hcall := encodeCall_of_agreesAt encoder hoffset h.1
    obtain ⟨hplacements, hfinal, hle⟩ := ih (place_finish_le encoder hoffset h.1) h.2
    obtain ⟨hfirst, hsecond⟩ := encodeCalls_cons encoder call calls offset
    rw [hcall] at hfirst hsecond
    refine ⟨?_, hsecond.trans hfinal, hle⟩
    rw [hfirst, hplacements]
    rfl

theorem agrees_of_encodeCalls (hoffset : offset ≤ 2 ^ 33)
    (h : (encodeCalls encoder calls offset).1 = rulesLayout encoder calls offset) :
    Agrees encoder calls offset := by
  induction calls generalizing offset with
  | nil => trivial
  | cons call calls ih =>
    rw [(encodeCalls_cons encoder call calls offset).1] at h
    obtain ⟨hcall, hcalls⟩ := cons.inj h
    have hagrees := agreesAt_of_encodeCall encoder hoffset hcall
    refine ⟨hagrees, ih (place_finish_le encoder hoffset hagrees) ?_⟩
    rw [encodeCall_of_agreesAt encoder hoffset hagrees] at hcalls
    exact hcalls

theorem rulesLayout_visitorCalls (fields : List ShaderVariable) (isRowMajorLayout : Bool) :
    rulesLayout encoder (visitorCalls fields isRowMajorLayout) 0 =
      rulesPlacements encoder fields isRowMajorLayout := by
  have hsteps : (visitorCalls fields isRowMajorLayout).map (ruleStep encoder) =
      Shape.membersSteps (shaderVariableShapes encoder fields isRowMajorLayout) :=
    shaderVariableShapes_records fields isRowMajorLayout []
  have hwell := wellFormedMembers_of_forall
    (fun m hm => (shaderVariableShapes_isBase encoder fields isRowMajorLayout m hm).dvd_four)
    (shaderVariableShapes_wellFormed encoder fields isRowMajorLayout)
  unfold rulesLayout rulesPlacements
  rw [hsteps]
  exact congrArg _ (Shape.layout_membersSteps _ (by decide) hwell (dvd_zero 4) 0).1

/-! ## The layout of a block -/

def VisitorCall.bytes (call : VisitorCall) (info : BlockMemberInfo) : Int :=
  match call with
  | .visitVariable _ (arraySize :: _) _ => info.arrayStride * arraySize
  | .visitVariable type [] isRowMajor =>
      if type.isMatrixType then info.matrixStride * type.matrixRegisterCount isRowMajor
      else 4 * type.variableComponentCount
  | _ => 0

/-- Structs and variables start at a multiple of their base alignment; an array starts where its
first element does. -/
def Placement.Aligned (placement : Placement) : Prop :=
  match placement.call with
  | .enterStructAccess field fields isRowMajor =>
      4 * encoder.fieldsAlignment field fields isRowMajor ∣ placement.currentOffset
  | .exitStructAccess _ _ _ => True
  | .visitVariable type arraySizes isRowMajor =>
      ∀ info ∈ placement.memberInfo,
        ((4 * (encoder.variableLayout type arraySizes isRowMajor).alignment : Nat) : Int) ∣
          info.offset

/-- The earlier variable ends before the later one starts. -/
def Placement.Before (placement placement' : Placement) : Prop :=
  ∀ info ∈ placement.memberInfo, ∀ info' ∈ placement'.memberInfo,
    info.offset + placement.call.bytes info ≤ info'.offset

def blockPlacements (fields : List ShaderVariable) (isRowMajorLayout : Bool) : List Placement :=
  (getInterfaceBlockInfo encoder fields isRowMajorLayout).placements.map Placement.withoutTopLevel

def blockSize (fields : List ShaderVariable) (isRowMajorLayout : Bool) : Nat :=
  getCurrentOffset (getInterfaceBlockInfo encoder fields isRowMajorLayout).mCurrentOffset

/-- The traversal lays the block out by the rules. -/
structure MeetsRules (fields : List ShaderVariable) (isRowMajorLayout : Bool) : Prop where
  placements :
    blockPlacements encoder fields isRowMajorLayout =
      rulesPlacements encoder fields isRowMajorLayout
  apart : (blockPlacements encoder fields isRowMajorLayout).Pairwise Placement.Before
  aligned : ∀ placement ∈ blockPlacements encoder fields isRowMajorLayout,
    placement.Aligned encoder
  covered : ∀ placement ∈ blockPlacements encoder fields isRowMajorLayout,
    ∀ info ∈ placement.memberInfo,
      info.offset + placement.call.bytes info ≤ blockSize encoder fields isRowMajorLayout
  restored : ∀ structFields traverseFields mCurrentOffset,
    (BlockEncoderVisitor.getShaderVariableSize encoder structFields traverseFields
      mCurrentOffset).2 = mCurrentOffset

/-- The member info of a placed variable: it starts and ends where the step says. -/
theorem rulesPlacement_memberInfo {placed : PlacedItem VisitorCall}
    (hplaced : placed ∈ layout (calls.map (ruleStep encoder)) 0) {info : BlockMemberInfo}
    (hinfo : info ∈ (rulesPlacement encoder placed).memberInfo) :
    info.offset = placed.start * 4 ∧ info.offset + placed.tag.bytes info = placed.finish * 4 := by
  obtain ⟨step, hstep, hplaces⟩ := exists_step_of_mem_layout hplaced
  obtain ⟨call, -, rfl⟩ := mem_map.mp hstep
  have hfinish := hplaces.finish
  have htag : placed.tag = call := hplaces.tag.trans (by cases call <;> rfl)
  unfold rulesPlacement at hinfo
  rw [htag] at hinfo ⊢
  cases call with
  | enterStructAccess field fields isRowMajor => simp at hinfo
  | exitStructAccess field fields isRowMajor => simp at hinfo
  | visitVariable type arraySizes isRowMajor =>
    cases hinfo
    simp only [ruleStep] at hfinish
    refine ⟨rfl, ?_⟩
    cases arraySizes with
    | nil =>
        rw [hfinish, size_of_nil]
        simp only [VisitorCall.bytes]
        split <;> push_cast <;> ring
    | cons arraySize arraySizes =>
        rw [hfinish, size_of_cons]
        simp only [VisitorCall.bytes]
        push_cast
        ring

theorem rulesPlacement_aligned {placed : PlacedItem VisitorCall}
    (hplaced : placed ∈ layout (calls.map (ruleStep encoder)) 0) :
    (rulesPlacement encoder placed).Aligned encoder := by
  obtain ⟨step, hstep, hplaces⟩ := exists_step_of_mem_layout hplaced
  obtain ⟨call, -, rfl⟩ := mem_map.mp hstep
  have haligned := hplaces.aligned
  have hfinish := hplaces.finish
  have htag : placed.tag = call := hplaces.tag.trans (by cases call <;> rfl)
  simp only [Placement.Aligned, rulesPlacement, htag]
  cases call with
  | enterStructAccess field fields isRowMajor =>
      dsimp only [ruleStep] at hfinish haligned ⊢
      rw [hfinish, add_zero, mul_comm 4]
      exact mul_dvd_mul_right haligned 4
  | exitStructAccess field fields isRowMajor => trivial
  | visitVariable type arraySizes isRowMajor =>
      intro info hinfo
      cases hinfo
      dsimp only [ruleStep] at haligned ⊢
      rw [mul_comm 4]
      exact_mod_cast mul_dvd_mul_right haligned 4

/-- The traversal lays a block out by the rules exactly when its calls agree with them. -/
theorem getInterfaceBlockInfo_meetsRules_iff (fields : List ShaderVariable)
    (isRowMajorLayout : Bool) :
    MeetsRules encoder fields isRowMajorLayout ↔
      Agrees encoder (visitorCalls fields isRowMajorLayout) 0 := by
  obtain ⟨calls, hcalls⟩ : ∃ calls, calls = visitorCalls fields isRowMajorLayout := ⟨_, rfl⟩
  have hencoded := getInterfaceBlockInfo_encoded encoder fields isRowMajorLayout
  have hrules := rulesLayout_visitorCalls encoder fields isRowMajorLayout
  rw [← hcalls] at hencoded hrules ⊢
  constructor
  case mp =>
    intro h
    apply agrees_of_encodeCalls encoder (by decide)
    rw [← hencoded.placements, hrules]
    exact h.placements
  case mpr =>
    intro h
    obtain ⟨hplacements, hfinal, hle⟩ := encodeCalls_of_agrees encoder (by decide) h
    have hblock : blockPlacements encoder fields isRowMajorLayout = rulesLayout encoder calls 0 :=
      hencoded.placements.trans hplacements
    have hpos : ∀ step ∈ calls.map (ruleStep encoder), 0 < step.alignment := by
      intro step hstep
      obtain ⟨call, -, rfl⟩ := mem_map.mp hstep
      exact (ruleStep_isBase encoder call).pos
    have hsize : blockSize encoder fields isRowMajorLayout =
        finalOffset (calls.map (ruleStep encoder)) 0 * 4 := by
      unfold blockSize
      rw [hencoded.mCurrentOffset, hfinal, getCurrentOffset_eq (by omega)]
    have hmem : ∀ placement ∈ blockPlacements encoder fields isRowMajorLayout,
        ∃ placed ∈ layout (calls.map (ruleStep encoder)) 0,
          rulesPlacement encoder placed = placement := by
      rw [hblock]
      exact fun placement hplacement => mem_map.mp hplacement
    constructor
    case placements => exact hblock.trans hrules
    case apart =>
      rw [hblock]
      apply pairwise_map.mpr
      apply (layout_pairwise hpos 0).imp_of_mem
      intro placed placed' hplaced hplaced' hbefore info hinfo info' hinfo'
      have hend := (rulesPlacement_memberInfo encoder hplaced hinfo).2
      have hstart := (rulesPlacement_memberInfo encoder hplaced' hinfo').1
      have hbytes : (rulesPlacement encoder placed).call = placed.tag := rfl
      rw [hbytes, hend, hstart]
      omega
    case aligned =>
      intro placement hplacement
      obtain ⟨placed, hplaced, rfl⟩ := hmem placement hplacement
      exact rulesPlacement_aligned encoder hplaced
    case covered =>
      intro placement hplacement info hinfo
      obtain ⟨placed, hplaced, rfl⟩ := hmem placement hplacement
      have hend := (rulesPlacement_memberInfo encoder hplaced hinfo).2
      have hfinish := finish_le_finalOffset hpos hplaced
      have hbytes : (rulesPlacement encoder placed).call = placed.tag := rfl
      rw [hbytes, hend, hsize]
      omega
    case restored => exact fun _ _ _ => rfl

/-- A row-major struct with a `mat2x4` after a `float`: by the rules its base alignment is eight
bytes and it starts at byte 8, but the encoder aligns it to sixteen. -/
theorem row_major_struct_misplaced :
    ¬ MeetsRules .Std430BlockEncoder [.basic (.numeric .FLOAT) [] false,
        .struct (.basic (.numeric .FLOAT_MAT2x4) [] false) [] [] true] false := by
  intro h
  exact absurd (congrArg (map Placement.currentOffset) h.placements) (by decide)

end MetalAngle.Translator
