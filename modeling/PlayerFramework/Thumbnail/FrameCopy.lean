import PlayerFramework.SinglePrecision
import PlayerFramework.Thumbnail.ByteRows

/-!
How `AVThumbnailGenerator` copies a decoded frame into shared memory without its stride
(`GetYuvDataAlignStride`, `ConvertP010ToNV12`), over the memory that
`CalculateTotalBytesOfAVSharedMemory` allows for.
-/

namespace PlayerFramework.Thumbnail

open SinglePrecision

def int32Max : Int := 2 ^ 31 - 1

/-- A product of type `int32_t`; one that does not fit wraps around. -/
def int32 (product : Nat) : Int := Int.bmod product (2 ^ 32)

def outputFrameSize : Int := 24

def bytesPerPixelYuv : ℚ := 3 / 2

/-- A `float` that is not negative as `int32_t`; what is too large becomes the greatest. -/
def toInt32 (value : ℚ) : Int := min ⌊value⌋ int32Max

def calculateTotalBytesOfAVSharedMemory (baseSize width height : Int) (bytesPerPixel : ℚ) :
    Option Int :=
  if width < 0 ∨ height < 0 ∨ bytesPerPixel < 0 then none
  else
    let pixelCount := width * height
    if int32Max < pixelCount then none
    else if toInt32 (toSingle (toSingle int32Max / bytesPerPixel)) < pixelCount then none
    else
      let bytesOfTotalPixel := toInt32 (toSingle (toSingle pixelCount * bytesPerPixel))
      if int32Max < baseSize + bytesOfTotalPixel then none else some (baseSize + bytesOfTotalPixel)

/-- A surface buffer; one of format P010 holds little-endian samples of two bytes. -/
structure SurfaceBuffer where
  width : Nat
  height : Nat
  stride : Nat
  size : Nat
  p010 : Bool
  bytes : Int → UInt8

/-- The rows between two planes; `sliceHeight` is what the output format holds. -/
def SurfaceBuffer.outputHeight (buffer : SurfaceBuffer) (sliceHeight : Option Int) : Nat :=
  match sliceHeight with
  | some outputHeight =>
    if outputHeight < buffer.height then buffer.height else outputHeight.toNat
  | none => buffer.height

def SurfaceBuffer.sample (buffer : SurfaceBuffer) : Sample := if buffer.p010 then .high else .byte

/-- Where the loops over rows stand that move both pointers on. -/
structure PlaneCopy where
  srcPtr : Int
  dstPtr : Int
  copying : Copying

def copyPlane (blocks : Blocks) (width stride rows : Nat) (start : PlaneCopy) : PlaneCopy :=
  (List.range rows).foldl
    (fun plane _ =>
      { srcPtr := plane.srcPtr + stride
        dstPtr := plane.dstPtr + width
        copying := copyRow blocks .byte width plane.srcPtr plane.dstPtr plane.copying }) start

/-- The inner loop over chroma, which counts pixels while it copies two samples each time. -/
def copyChromaRow (blocks : Blocks) (maxSrcAddr maxDstAddr : Int) :
    Nat → Int → Int → Copying → Copying
  | 0, _, _, copying => copying
  | left + 1, srcUV, dstUV, copying =>
    if srcUV < maxSrcAddr ∧ dstUV < maxDstAddr then
      copyChromaRow blocks maxSrcAddr maxDstAddr left (srcUV + 4) (dstUV + 2)
        ((copying.move blocks .high srcUV dstUV).move blocks .high (srcUV + 2) (dstUV + 1))
    else copying

/-- The end of the source is computed in samples, twice as far away as it is. -/
def convertP010ToNV12 (blocks : Blocks) (width height strideWidth strideHeight : Nat)
    (copying : Copying) : Copying :=
  let luma := copyRows blocks .high (fun _ => width) (fun row => int32 (strideWidth * row))
    (fun row => int32 (width * row)) height copying
  let maxDstAddr := int32 (width * height) + int32 (width * height) / 2
  let maxSrcAddr := 2 * blocks.size
  (List.range (height / 2)).foldl
    (fun copied row =>
      copyChromaRow blocks maxSrcAddr maxDstAddr width
        (int32 (strideWidth * strideHeight) + int32 (strideWidth * row))
        (int32 (width * height) + int32 (width * row)) copied) luma

/-- `init` says whether shared memory of a size can be created; without a copy there is none. -/
def getYuvDataAlignStride (surfaceBuffer : SurfaceBuffer) (sliceHeight : Option Int)
    (init : Int → Bool) : Option Copying :=
  let outputHeight := surfaceBuffer.outputHeight sliceHeight
  match calculateTotalBytesOfAVSharedMemory outputFrameSize surfaceBuffer.width
      surfaceBuffer.height bytesPerPixelYuv with
  | none => none
  | some totalBytes =>
    if !init totalBytes then none
    else
      let blocks : Blocks :=
        { source := surfaceBuffer.bytes
          size := surfaceBuffer.size
          capacity := totalBytes - outputFrameSize }
      if surfaceBuffer.p010 then
        some (convertP010ToNV12 blocks surfaceBuffer.width surfaceBuffer.height
          surfaceBuffer.stride outputHeight {})
      else
        let luma := copyPlane blocks surfaceBuffer.width surfaceBuffer.stride
          surfaceBuffer.height { srcPtr := 0, dstPtr := 0, copying := {} }
        let chroma := copyPlane blocks surfaceBuffer.width surfaceBuffer.stride
          (surfaceBuffer.height / 2)
          { luma with srcPtr := int32 (surfaceBuffer.stride * outputHeight) }
        some chroma.copying

/-- A decoded frame with its slice height: at least a row of pixels to a stride, and both planes
in the buffer. -/
structure Frame extends SurfaceBuffer where
  sliceHeight : Option Int
  width_pos : 1 ≤ width
  height_pos : 1 ≤ height
  row : toSurfaceBuffer.sample.width * width ≤ stride
  planes : stride * toSurfaceBuffer.outputHeight sliceHeight * 3 / 2 ≤ size
  size_range : size < 2 ^ 32

namespace Frame

def slices (frame : Frame) : Nat := frame.outputHeight frame.sliceHeight

/-- The byte of a sample, for P010 its high byte. -/
def byteAt (frame : Frame) (offset : Nat) : UInt8 :=
  frame.bytes (if frame.p010 then offset + 1 else offset)

/-- Every access is inside; a frame of even sizes has become NV12 without stride. -/
structure CopiedRight (frame : Frame) (copied : Copying) : Prop where
  inside : copied.inside = true
  luma : frame.width % 2 = 0 → frame.height % 2 = 0 → ∀ row < frame.height,
    ∀ column < frame.width, copied.bytes ((frame.width * row + column : Nat) : Int) =
      frame.byteAt (frame.stride * row + frame.sample.width * column)
  chroma : frame.width % 2 = 0 → frame.height % 2 = 0 → ∀ row < frame.height / 2,
    ∀ column < frame.width,
      copied.bytes ((frame.width * frame.height + frame.width * row + column : Nat) : Int) =
        frame.byteAt (frame.stride * frame.slices + frame.stride * row +
          frame.sample.width * column)

def CopiesRight (frame : Frame) : Prop :=
  ∀ init copied, getYuvDataAlignStride frame.toSurfaceBuffer frame.sliceHeight init = some copied →
    frame.CopiedRight copied

/-- The sizes are none that the code refuses to allocate. -/
def Accepted (frame : Frame) : Prop :=
  (calculateTotalBytesOfAVSharedMemory outputFrameSize frame.width frame.height
    bytesPerPixelYuv).isSome = true

/-- Three halves of the number of pixels, both rounded to 24 significant bits. -/
def roundedBytes (frame : Frame) : Int :=
  ⌊toSingle (toSingle ((frame.width * frame.height : Nat) : ℚ) * (3 / 2))⌋

/-- The bytes from the last row of chroma to the end of the image. -/
def lastRow (frame : Frame) : Nat :=
  if frame.height % 2 = 0 then frame.width else frame.width + frame.width / 2

/-- The rounded size leaves room for the planes; for P010 the last row of chroma is even, or there
is room for one more sample in both blocks; and the offset of chroma fits into 32 bits. -/
def Fits (frame : Frame) : Prop :=
  frame.height = 1 ∨
    frame.stride * frame.slices < 2 ^ 31 ∧
      if frame.p010 then
        ((frame.width * frame.height + frame.width * frame.height / 2 + frame.lastRow % 2 : Nat) :
            Int) ≤ frame.roundedBytes ∧
          frame.stride * frame.slices + frame.stride * (frame.height / 2 - 1) +
            2 * (frame.lastRow + frame.lastRow % 2) ≤ frame.size
      else
        ((frame.width * frame.height + frame.width * (frame.height / 2) : Nat) : Int) ≤
          frame.roundedBytes

end Frame

section

variable {blocks : Blocks}

theorem copyPlane_eq (width stride rows : Nat) (start : PlaneCopy) :
    copyPlane blocks width stride rows start =
      { srcPtr := start.srcPtr + (stride * rows : Nat)
        dstPtr := start.dstPtr + (width * rows : Nat)
        copying := copyRows blocks .byte (fun _ => width)
          (fun row => start.srcPtr + (stride * row : Nat))
          (fun row => start.dstPtr + (width * row : Nat)) rows start.copying } := by
  induction rows with
  | zero => simp [copyPlane, copyRows]
  | succ rows ih =>
    have step : copyPlane blocks width stride (rows + 1) start =
        let plane := copyPlane blocks width stride rows start
        { srcPtr := plane.srcPtr + stride
          dstPtr := plane.dstPtr + width
          copying := copyRow blocks .byte width plane.srcPtr plane.dstPtr plane.copying } := by
      simp [copyPlane, List.range_succ]
    have source : stride * (rows + 1) = stride * rows + stride := Nat.mul_succ _ _
    have target : width * (rows + 1) = width * rows + width := Nat.mul_succ _ _
    rw [step, ih, copyRows_succ, source, target]
    simp [Int.add_assoc]

/-- How many pairs of samples the inner loop over chroma copies. -/
def pairs (maxSrcAddr maxDstAddr : Int) : Nat → Int → Int → Nat
  | 0, _, _ => 0
  | left + 1, srcUV, dstUV =>
    if srcUV < maxSrcAddr ∧ dstUV < maxDstAddr then
      pairs maxSrcAddr maxDstAddr left (srcUV + 4) (dstUV + 2) + 1
    else 0

theorem copyChromaRow_eq (maxSrcAddr maxDstAddr : Int) (left : Nat) (srcUV dstUV : Int)
    (copying : Copying) :
    copyChromaRow blocks maxSrcAddr maxDstAddr left srcUV dstUV copying =
      copyRow blocks .high (2 * pairs maxSrcAddr maxDstAddr left srcUV dstUV) srcUV dstUV
        copying := by
  induction left generalizing srcUV dstUV copying with
  | zero => rfl
  | succ left ih =>
    rw [copyChromaRow, pairs]
    split
    · rw [ih, Nat.mul_succ]
      have source : srcUV + 2 + 2 = srcUV + 4 := by omega
      have target : dstUV + 1 + 1 = dstUV + 2 := by omega
      simp [copyRow, Sample.width, source, target]
    · rfl

theorem pairs_eq {maxSrcAddr maxDstAddr : Int} {left : Nat} {srcUV dstUV : Int}
    (source : srcUV + 4 * left ≤ maxSrcAddr + 3) :
    pairs maxSrcAddr maxDstAddr left srcUV dstUV =
      min left ((maxDstAddr - dstUV + 1) / 2).toNat := by
  induction left generalizing srcUV dstUV with
  | zero => simp [pairs]
  | succ left ih =>
    rw [pairs]
    split
    · rw [ih (by push_cast at source; omega)]
      omega
    · omega

theorem int32_def (product : Nat) : int32 product = Int.bmod product 4294967296 := rfl

theorem int32_eq {product : Nat} (fits : product < 2 ^ 31) : int32 product = product := by
  rw [int32_def, Int.bmod_def]
  split_ifs <;> omega

theorem int32_wrapped {product : Nat} (large : 2 ^ 31 ≤ product) (short : product < 2 ^ 32) :
    int32 product = product - 2 ^ 32 := by
  rw [int32_def, Int.bmod_def]
  split_ifs <;> omega

/-- What is copied where the sizes are accepted. -/
theorem getYuvDataAlignStride_cases {buffer : SurfaceBuffer} {sliceHeight : Option Int}
    {init : Int → Bool} {copied : Copying}
    (copies : getYuvDataAlignStride buffer sliceHeight init = some copied) :
    ∃ totalBytes, calculateTotalBytesOfAVSharedMemory outputFrameSize buffer.width buffer.height
        bytesPerPixelYuv = some totalBytes ∧ init totalBytes = true := by
  simp only [getYuvDataAlignStride] at copies
  split at copies
  · cases copies
  rename_i totalBytes accepted
  split at copies
  · cases copies
  · rename_i initialized
    exact ⟨totalBytes, accepted, by simpa using initialized⟩

end

namespace Frame

variable {frame : Frame}

theorem capacity_of_accepted {totalBytes : Int}
    (accepted : calculateTotalBytesOfAVSharedMemory outputFrameSize frame.width frame.height
      bytesPerPixelYuv = some totalBytes) :
    totalBytes - outputFrameSize = frame.roundedBytes ∧ frame.width * frame.height < 2 ^ 31 := by
  have product : (frame.width : Int) * frame.height = (frame.width * frame.height : Nat) := by
    rfl
  simp only [calculateTotalBytesOfAVSharedMemory, product] at accepted
  split_ifs at accepted with negative large wide exceeds
  cases accepted
  have bytes : toInt32 (toSingle (toSingle ((frame.width * frame.height : Nat) : Int) *
      bytesPerPixelYuv)) = frame.roundedBytes := by
    have same : ⌊toSingle (toSingle (((frame.width * frame.height : Nat) : Int) : ℚ) *
        bytesPerPixelYuv)⌋ = frame.roundedBytes := by
      rfl
    rw [toInt32] at exceeds ⊢
    simp only [outputFrameSize] at exceeds
    omega
  refine ⟨?_, ?_⟩
  · omega
  · simp only [int32Max] at large
    omega

theorem slices_ge (frame : Frame) : frame.height ≤ frame.slices := by
  simp only [slices, SurfaceBuffer.outputHeight]
  split
  · split <;> omega
  · exact Nat.le_refl _

theorem rows_in_source (frame : Frame) :
    (∀ row < frame.height, frame.stride * row + frame.stride ≤ frame.stride * frame.slices) ∧
      (∀ row < frame.height / 2,
        frame.stride * frame.slices + (frame.stride * row + frame.stride) ≤ frame.size) ∧
      frame.stride * frame.slices ≤ frame.size := by
  have planes : frame.stride * frame.slices * 3 / 2 ≤ frame.size := frame.planes
  refine ⟨fun row within => ?_, fun row within => ?_, by omega⟩
  · exact Nat.mul_le_mul_left _ (Nat.le_trans within frame.slices_ge)
  have slices := frame.slices_ge
  have twice : frame.stride * (2 * (row + 1)) ≤ frame.stride * frame.slices :=
    Nat.mul_le_mul_left _ (by omega)
  rw [Nat.mul_left_comm, Nat.mul_succ] at twice
  omega

/-- The frame's bytes and the block of the rounded size. -/
def blocks (frame : Frame) : Blocks :=
  { source := frame.bytes, size := frame.size, capacity := frame.roundedBytes }

/-- Both planes, row by row. -/
def copiedPlanes (frame : Frame) (lumaSrc : Nat → Int) (count : Nat → Nat) : Copying :=
  copyRows frame.blocks frame.sample count
    (fun row => int32 (frame.stride * frame.slices) + (frame.stride * row : Nat))
    (fun row => ((frame.width * frame.height + frame.width * row : Nat) : Int)) (frame.height / 2)
    (copyRows frame.blocks frame.sample (fun _ => frame.width) lumaSrc
      (fun row => ((frame.width * row : Nat) : Int)) frame.height {})

/-- How many samples a row of chroma copies. -/
def chromaCount (frame : Frame) (row : Nat) : Nat :=
  if frame.p010 then
    2 * pairs (2 * frame.size)
      ((frame.width * frame.height + frame.width * frame.height / 2 : Nat) : Int) frame.width
      (int32 (frame.stride * frame.slices) + (frame.stride * row : Nat))
      ((frame.width * frame.height + frame.width * row : Nat) : Int)
  else frame.width

variable {row : Nat} {lumaSrc : Nat → Int}

theorem chroma_row_fits (frame : Frame) (within : row < frame.height / 2) :
    frame.stride * row < 2 ^ 31 := by
  have slices := frame.slices_ge
  have size := frame.size_range
  have twice : frame.stride * (2 * row) ≤ frame.stride * frame.slices :=
    Nat.mul_le_mul_left _ (by omega)
  rw [Nat.mul_left_comm] at twice
  have inside := (rows_in_source frame).2.1 row within
  omega

theorem width_row_le (frame : Frame) (within : row < frame.height) :
    frame.width * row + frame.width ≤ frame.width * frame.height := by
  exact Nat.mul_le_mul_left _ within

theorem convertP010ToNV12_planes (format : frame.p010 = true)
    (pixels : frame.width * frame.height < 2 ^ 31) :
    convertP010ToNV12 frame.blocks frame.width frame.height frame.stride frame.slices {} =
      frame.copiedPlanes (fun row => int32 (frame.stride * row)) frame.chromaCount := by
  have high : frame.sample = .high := by simp [SurfaceBuffer.sample, format]
  have target : ∀ row < frame.height, int32 (frame.width * row) = (frame.width * row : Nat) := by
    intro row within
    have row_le := frame.width_row_le within
    exact int32_eq (by omega)
  have luma : copyRows frame.blocks .high (fun _ => frame.width)
      (fun row => int32 (frame.stride * row)) (fun row => int32 (frame.width * row))
      frame.height {} =
      copyRows frame.blocks .high (fun _ => frame.width) (fun row => int32 (frame.stride * row))
        (fun row => ((frame.width * row : Nat) : Int)) frame.height {} :=
    copyRows_congr (fun row within => ⟨rfl, rfl, target row within⟩) {}
  simp only [convertP010ToNV12, copiedPlanes, high, luma, copyChromaRow_eq]
  refine copyRows_congr (fun row within => ?_) _
  have source := int32_eq (frame.chroma_row_fits within)
  have written := target row (by omega)
  have plane := int32_eq pixels
  have half : ((frame.width * frame.height : Nat) : Int) +
      ((frame.width * frame.height : Nat) : Int) / 2 =
        ((frame.width * frame.height + frame.width * frame.height / 2 : Nat) : Int) := by
    omega
  have behind : ((frame.width * frame.height : Nat) : Int) + ((frame.width * row : Nat) : Int) =
      ((frame.width * frame.height + frame.width * row : Nat) : Int) := by
    omega
  simp only [chromaCount, format, if_true, source, written, plane, half, behind, blocks, and_self]

theorem copyPlane_planes (format : frame.p010 = false) :
    (copyPlane frame.blocks frame.width frame.stride (frame.height / 2)
      { copyPlane frame.blocks frame.width frame.stride frame.height
          { srcPtr := 0, dstPtr := 0, copying := {} } with
        srcPtr := int32 (frame.stride * frame.slices) }).copying =
      frame.copiedPlanes (fun row => (frame.stride * row : Nat)) frame.chromaCount := by
  have byte : frame.sample = .byte := by
    simp [SurfaceBuffer.sample, format]
  have counts : frame.chromaCount = fun _ => frame.width := by
    funext row
    simp [chromaCount, format]
  simp only [copyPlane_eq, copiedPlanes, byte, counts, Int.zero_add, Nat.cast_add]

theorem getYuvDataAlignStride_planes {totalBytes : Int} {init : Int → Bool}
    (accepted : calculateTotalBytesOfAVSharedMemory outputFrameSize frame.width frame.height
      bytesPerPixelYuv = some totalBytes) (initialized : init totalBytes = true) :
    ∃ lumaSrc, getYuvDataAlignStride frame.toSurfaceBuffer frame.sliceHeight init =
        some (frame.copiedPlanes lumaSrc frame.chromaCount) ∧
      (frame.height = 1 ∨ frame.stride * frame.slices < 2 ^ 31 →
        ∀ row < frame.height, lumaSrc row = (frame.stride * row : Nat)) := by
  obtain ⟨capacity, pixels⟩ := capacity_of_accepted accepted
  have written : ({ source := frame.bytes, size := frame.size, capacity := totalBytes -
      outputFrameSize } : Blocks) = frame.blocks := by rw [capacity, blocks]
  cases format : frame.p010 with
  | true =>
    refine ⟨fun row => int32 (frame.stride * row), ?_, fun fits row within => ?_⟩
    · simp only [getYuvDataAlignStride, accepted, initialized, Bool.not_true, Bool.false_eq_true,
        if_false, format, if_true, written]
      exact congrArg some (convertP010ToNV12_planes format pixels)
    · have inside := (rows_in_source frame).1 row within
      rcases fits with single | small
      · have first : row = 0 := by omega
        subst first
        exact int32_eq (by omega)
      · exact int32_eq (by omega)
  | false =>
    refine ⟨fun row => (frame.stride * row : Nat), ?_, fun _ _ _ => rfl⟩
    simp only [getYuvDataAlignStride, accepted, initialized, Bool.not_true, Bool.false_eq_true,
      if_false, format, written]
    exact congrArg some (copyPlane_planes format)

theorem copiedPlanes_inside (lumaSrc : Nat → Int) (count : Nat → Nat) :
    (frame.copiedPlanes lumaSrc count).inside = true ↔
      (∀ row < frame.height, RowInside frame.blocks frame.sample frame.width (lumaSrc row)
        (frame.width * row : Nat)) ∧
      ∀ row < frame.height / 2, RowInside frame.blocks frame.sample (count row)
        (int32 (frame.stride * frame.slices) + (frame.stride * row : Nat))
        (frame.width * frame.height + frame.width * row : Nat) := by
  rw [copiedPlanes, copyRows_inside, copyRows_inside]
  simp only [true_and]

theorem pixels_le_rounded (frame : Frame) :
    ((frame.width * frame.height : Nat) : Int) ≤ frame.roundedBytes := by
  have some_pixels : 1 ≤ frame.width * frame.height := by
    have product := Nat.mul_le_mul frame.width_pos frame.height_pos
    omega
  have one : (1 : ℚ) ≤ ((frame.width * frame.height : Nat) : ℚ) := by exact_mod_cast some_pixels
  have pixels := toSingle_near one
  have bytes : (1 : ℚ) ≤ toSingle ((frame.width * frame.height : Nat) : ℚ) * (3 / 2) := by linarith
  have rounded := toSingle_near bytes
  rw [roundedBytes, Int.le_floor]
  push_cast at *
  linarith

theorem luma_inside (offsets : ∀ row < frame.height, lumaSrc row = (frame.stride * row : Nat)) :
    ∀ row < frame.height, RowInside frame.blocks frame.sample frame.width (lumaSrc row)
      (frame.width * row : Nat) := by
  intro row within
  have source := (rows_in_source frame).1 row within
  have whole := (rows_in_source frame).2.2
  have target := frame.width_row_le within
  have pixels := frame.pixels_le_rounded
  have stride := frame.row
  have unit : (frame.sample.width : Int) * frame.width =
    (frame.sample.width * frame.width : Nat) := by
    rfl
  rw [offsets row within]
  right
  simp only [blocks, unit]
  omega

theorem chroma_row_le (frame : Frame) (within : row < frame.height / 2) :
    frame.width * row + frame.width ≤ frame.width * frame.height / 2 := by
  have twice : frame.width * (2 * (row + 1)) ≤ frame.width * frame.height :=
    Nat.mul_le_mul_left _ (by omega)
  rw [Nat.mul_left_comm, Nat.mul_succ] at twice
  omega

theorem lastRow_eq (frame : Frame) (rows : 2 ≤ frame.height) :
    frame.width * (frame.height / 2 - 1) + frame.lastRow = frame.width * frame.height / 2 := by
  obtain ⟨last, below⟩ : ∃ last, frame.height / 2 = last + 1 := ⟨frame.height / 2 - 1, by omega⟩
  have product : frame.width * (last + 1) = frame.width * last + frame.width := Nat.mul_succ _ _
  rw [below, Nat.add_sub_cancel, lastRow]
  by_cases even : frame.height % 2 = 0
  · have height : frame.height = 2 * (last + 1) := by omega
    rw [if_pos even, height, Nat.mul_left_comm]
    omega
  · have height : frame.height = 2 * (last + 1) + 1 := by omega
    rw [if_neg even, height, Nat.mul_succ, Nat.mul_left_comm]
    omega

theorem chromaCount_eq (format : frame.p010 = true) (small : frame.stride * frame.slices < 2 ^ 31)
    (within : row < frame.height / 2) :
    frame.chromaCount row = 2 * min frame.width
      ((frame.width * frame.height / 2 - frame.width * row + 1) / 2) := by
  have target := frame.chroma_row_le within
  have stride : 2 * frame.width ≤ frame.stride := by
    have row := frame.row
    rwa [SurfaceBuffer.sample, format, if_pos rfl] at row
  have rows : frame.stride * (row + 2) ≤ frame.stride * frame.slices := by
    have slices := frame.slices_ge
    exact Nat.mul_le_mul_left _ (by omega)
  have expanded : frame.stride * (row + 2) = frame.stride * row + frame.stride * 2 :=
    Nat.mul_add _ _ _
  have planes : frame.stride * frame.slices * 3 / 2 ≤ frame.size := frame.planes
  rw [chromaCount, if_pos format, int32_eq small, pairs_eq (by omega)]
  omega

theorem wrapped_outside (rows : 2 ≤ frame.height)
    (large : 2 ^ 31 ≤ frame.stride * frame.slices) :
    ¬RowInside frame.blocks frame.sample (frame.chromaCount 0)
      (int32 (frame.stride * frame.slices) + (frame.stride * 0 : Nat))
      (frame.width * frame.height + frame.width * 0 : Nat) := by
  have whole := (rows_in_source frame).2.2
  have size := frame.size_range
  have negative := int32_wrapped large (by omega)
  have pixels := frame.width_pos
  have counted : frame.chromaCount 0 ≠ 0 := by
    have product := Nat.mul_le_mul pixels rows
    rw [chromaCount]
    split
    · obtain ⟨left, width⟩ : ∃ left, frame.width = left + 1 := ⟨frame.width - 1, by omega⟩
      conv_lhs => rw [width]
      rw [pairs, if_pos (by rw [← width]; omega)]
      omega
    · omega
  rintro (none | ⟨source, -⟩)
  · exact counted none
  · omega

theorem chroma_inside_iff (rows : 2 ≤ frame.height)
    (small : frame.stride * frame.slices < 2 ^ 31) :
    (∀ row < frame.height / 2, RowInside frame.blocks frame.sample (frame.chromaCount row)
      (int32 (frame.stride * frame.slices) + (frame.stride * row : Nat))
      (frame.width * frame.height + frame.width * row : Nat)) ↔ frame.Fits := by
  have single : frame.height ≠ 1 := by omega
  have last : frame.height / 2 - 1 < frame.height / 2 := by omega
  have pixels := frame.width_pos
  have stride := frame.row
  simp only [Fits, single, small, false_or, true_and, int32_eq small]
  cases format : frame.p010 with
  | false =>
    have counts : ∀ row, frame.chromaCount row = frame.width := by
      intro row
      rw [chromaCount, format, if_neg (by decide)]
    have byte : frame.sample = .byte := by
      simp [SurfaceBuffer.sample, format]
    simp only [counts, byte, Bool.false_eq_true, if_false] at stride ⊢
    have rowLast : frame.width * (frame.height / 2) =
        frame.width * (frame.height / 2 - 1) + frame.width := by
      rw [← Nat.mul_succ]
      congr 1
      omega
    constructor
    · intro inside
      rcases inside _ last with none | ⟨-, -, -, target⟩
      · omega
      · simp only [blocks] at target
        omega
    · intro fits row within
      have source := (rows_in_source frame).2.1 row within
      have before : frame.width * row ≤ frame.width * (frame.height / 2 - 1) :=
        Nat.mul_le_mul_left _ (by omega)
      right
      simp only [blocks, Sample.width] at stride ⊢
      omega
  | true =>
    have high : frame.sample = .high := by simp [SurfaceBuffer.sample, format]
    have whole := frame.lastRow_eq rows
    have short : frame.lastRow ≤ frame.width + frame.width / 2 := by
      rw [lastRow]
      split <;> omega
    have some_last : frame.width ≤ frame.lastRow := by
      rw [lastRow]
      split <;> omega
    have lastCount : frame.chromaCount (frame.height / 2 - 1) =
        frame.lastRow + frame.lastRow % 2 := by
      rw [chromaCount_eq format small last]
      omega
    rw [high, Sample.width] at stride
    simp only [high, if_true]
    constructor
    · intro inside
      rcases inside _ last with none | ⟨-, source, -, target⟩
      · omega
      · rw [lastCount] at source target
        simp only [blocks, Sample.width] at source target
        omega
    · rintro ⟨target, source⟩ row within
      right
      by_cases isLast : row = frame.height / 2 - 1
      · rw [isLast, lastCount]
        simp only [blocks, Sample.width]
        omega
      · have counted : frame.chromaCount row ≤ 2 * frame.width := by
          rw [chromaCount_eq format small within]
          omega
        have next : row + 1 < frame.height / 2 := by omega
        have nextSource := (rows_in_source frame).2.1 (row + 1) next
        have nextTarget := frame.chroma_row_le next
        have stepSource : frame.stride * (row + 1) = frame.stride * row + frame.stride :=
          Nat.mul_succ _ _
        have stepTarget : frame.width * (row + 1) = frame.width * row + frame.width :=
          Nat.mul_succ _ _
        simp only [blocks, Sample.width]
        omega

/-- Every access is inside exactly where the sizes fit. -/
theorem inside_iff_fits (offsets : frame.height = 1 ∨ frame.stride * frame.slices < 2 ^ 31 →
      ∀ row < frame.height, lumaSrc row = (frame.stride * row : Nat)) :
    (frame.copiedPlanes lumaSrc frame.chromaCount).inside = true ↔ frame.Fits := by
  rw [copiedPlanes_inside]
  by_cases single : frame.height = 1
  · have luma := luma_inside (offsets (.inl single))
    exact iff_of_true ⟨luma, fun row within => by omega⟩ (.inl single)
  have rows : 2 ≤ frame.height := by
    have positive := frame.height_pos
    omega
  by_cases small : frame.stride * frame.slices < 2 ^ 31
  · rw [chroma_inside_iff rows small]
    exact and_iff_right (luma_inside (offsets (.inr small)))
  refine iff_of_false ?_ ?_
  · rintro ⟨-, chroma⟩
    exact wrapped_outside rows (by omega) (chroma 0 (by omega))
  · rintro (one | ⟨fits, -⟩)
    · exact single one
    · exact small fits

theorem high_byte (low high : UInt8) :
    UInt8.ofNat ((low.toNat + 256 * high.toNat) >>> 8) = high := by
  have bound := low.toNat_lt
  have shifted : (low.toNat + 256 * high.toNat) >>> 8 = high.toNat := by
    omega
  rw [shifted, UInt8.ofNat_toNat]

theorem read_eq (frame : Frame) (offset : Nat) :
    frame.sample.read frame.bytes offset = frame.byteAt offset := by
  rw [SurfaceBuffer.sample, byteAt]
  split
  · exact high_byte _ _
  · rfl

/-- Both planes of an image of even sizes stand where they belong. -/
theorem copiedRight_of_fits (offsets : frame.height = 1 ∨ frame.stride * frame.slices < 2 ^ 31 →
      ∀ row < frame.height, lumaSrc row = (frame.stride * row : Nat)) (fits : frame.Fits) :
    frame.CopiedRight (frame.copiedPlanes lumaSrc frame.chromaCount) := by
  refine ⟨(inside_iff_fits offsets).mpr fits, ?_, ?_⟩
  · intro _ even row within column inRow
    have small : frame.stride * frame.slices < 2 ^ 31 := by
      rcases fits with single | ⟨small, -⟩
      · omega
      · exact small
    have target := frame.width_row_le within
    -- Chroma is written behind luma.
    rw [copiedPlanes, copyRows_before fun later _ => by omega]
    have copied := @copyRows_bytes frame.blocks frame.sample (fun _ => frame.width) lumaSrc
      (fun row => ((frame.width * row : Nat) : Int)) frame.height row frame.width within
      (Nat.le_refl _)
      (fun later after _ => by
        have step : frame.width * (row + 1) ≤ frame.width * later := Nat.mul_le_mul_left _ after
        rw [Nat.mul_succ] at step
        omega) {} column inRow
    rw [offsets (.inr small) row within] at copied
    exact copied.trans (frame.read_eq _)
  · intro _ even row within column inRow
    have small : frame.stride * frame.slices < 2 ^ 31 := by
      rcases fits with single | ⟨small, -⟩
      · omega
      · exact small
    have target := frame.chroma_row_le within
    have whole : frame.width ≤ frame.chromaCount row := by
      cases format : frame.p010 with
      | false => rw [chromaCount, format, if_neg (by decide)]
      | true =>
        rw [chromaCount_eq format small within]
        omega
    have copied := @copyRows_bytes frame.blocks frame.sample frame.chromaCount
      (fun row => int32 (frame.stride * frame.slices) + (frame.stride * row : Nat))
      (fun row => ((frame.width * frame.height + frame.width * row : Nat) : Int))
      (frame.height / 2) row frame.width within whole
      (fun later after _ => by
        have step : frame.width * (row + 1) ≤ frame.width * later := Nat.mul_le_mul_left _ after
        rw [Nat.mul_succ] at step
        omega)
      (copyRows frame.blocks frame.sample (fun _ => frame.width) lumaSrc
        (fun row => ((frame.width * row : Nat) : Int)) frame.height {}) column inRow
    have offset : int32 (frame.stride * frame.slices) + ((frame.stride * row : Nat) : Int) +
        frame.sample.width * (column : Int) =
        ((frame.stride * frame.slices + frame.stride * row + frame.sample.width * column : Nat) :
          Int) := by
      rw [int32_eq small]
      rfl
    rw [offset] at copied
    exact copied.trans (frame.read_eq _)

/-- The copy is right exactly where the sizes fit or are refused. -/
theorem copiesRight_iff (frame : Frame) : frame.CopiesRight ↔ (frame.Accepted → frame.Fits) := by
  constructor
  · intro right accepted
    obtain ⟨totalBytes, allocated⟩ := Option.isSome_iff_exists.mp accepted
    obtain ⟨lumaSrc, copies, offsets⟩ :=
      @getYuvDataAlignStride_planes _ _ (fun _ => true) allocated rfl
    exact (inside_iff_fits offsets).mp (right _ _ copies).inside
  · intro fits init copied copies
    obtain ⟨totalBytes, allocated, initialized⟩ := getYuvDataAlignStride_cases copies
    obtain ⟨lumaSrc, same, offsets⟩ := getYuvDataAlignStride_planes allocated initialized
    rw [same] at copies
    cases copies
    exact copiedRight_of_fits offsets (fits (by rw [Accepted, allocated]; rfl))

/-- A frame of even sizes fits as long as its image has less than 2 ^ 24 bytes. -/
theorem fits_of_even (frame : Frame) (evenWidth : frame.width % 2 = 0)
    (evenHeight : frame.height % 2 = 0) (pixels : frame.width * frame.height ≤ 11184810)
    (small : frame.stride * frame.slices < 2 ^ 31) : frame.Fits := by
  obtain ⟨half, halved⟩ : ∃ half, frame.width * frame.height = 2 * half :=
    ⟨frame.width / 2 * frame.height, by rw [← Nat.mul_assoc]; congr 1; omega⟩
  have product := Nat.mul_le_mul frame.width_pos frame.height_pos
  have rounded : frame.roundedBytes = (3 * half : Nat) := by
    have whole : ((2 * half : Nat) : ℚ) * (3 / 2) = (3 * half : Nat) := by
      push_cast
      ring
    rw [roundedBytes, halved, toSingle_natCast (by omega) (by omega), whole,
      toSingle_natCast (by omega) (by omega), Int.floor_natCast]
  have chroma : frame.width * (frame.height / 2) = half := by
    have twice : 2 * (frame.width * (frame.height / 2)) = 2 * half := by
      rw [← halved, Nat.mul_left_comm]
      congr 1
      omega
    omega
  refine .inr ⟨small, ?_⟩
  rw [rounded]
  split
  · rename_i format
    have last : frame.lastRow = frame.width := if_pos evenHeight
    have row := frame.row
    have source := (rows_in_source frame).2.1 (frame.height / 2 - 1)
      (by have := frame.height_pos; omega)
    rw [SurfaceBuffer.sample, if_pos format, Sample.width] at row
    rw [last, evenWidth]
    omega
  · omega

/-- Three columns and two rows of P010. -/
def oddWidth : Frame where
  width := 3
  height := 2
  stride := 8
  size := 24
  p010 := true
  bytes := fun _ => 0
  sliceHeight := none
  width_pos := by decide
  height_pos := by decide
  row := by decide
  planes := by decide
  size_range := by decide

/-- The last sample of chroma is written behind the end; and for a frame of 5002 by 4502 pixels
the block that is allocated is two bytes short. -/
theorem odd_width_outside :
    (getYuvDataAlignStride oddWidth.toSurfaceBuffer oddWidth.sliceHeight fun _ => true).map
        (·.inside) = some false ∧
      ¬oddWidth.CopiesRight ∧
      calculateTotalBytesOfAVSharedMemory outputFrameSize 5002 4502 bytesPerPixelYuv =
        some (outputFrameSize + (5002 * 4502 + 5002 * (4502 / 2)) - 2) := by
  have outside : (getYuvDataAlignStride oddWidth.toSurfaceBuffer oddWidth.sliceHeight
      fun _ => true).map (·.inside) = some false := by decide +kernel
  refine ⟨outside, fun right => ?_, by decide +kernel⟩
  obtain ⟨copied, copies, value⟩ := Option.map_eq_some_iff.mp outside
  have inside := (right _ copied copies).inside
  rw [value] at inside
  cases inside

end Frame

end PlayerFramework.Thumbnail
