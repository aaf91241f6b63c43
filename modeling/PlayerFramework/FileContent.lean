import PlayerFramework.Cursor

/-!
The bytes of a file: numbers and pieces read at a place, writing in place, and truncation.
-/

namespace PlayerFramework.FileContent

open Cursor

/-- The little-endian 32-bit number at `place`. -/
def number (content : List UInt8) (place : Nat) : Nat :=
  ofLittleEndian ((content.drop place).take 4)

def piece (content : List UInt8) (place length : Nat) : List UInt8 :=
  (content.drop place).take length

def overwrite (content : List UInt8) (place : Nat) (bytes : List UInt8) : List UInt8 :=
  content.take place ++ (bytes ++ content.drop (place + bytes.length))

/-- `ftruncate`: what is added reads as zeros. -/
def resize (content : List UInt8) (length : Nat) : List UInt8 :=
  content.take length ++ List.replicate (length - content.length) 0

theorem number_append (before : List UInt8) {value : Nat} (fits : value < 2 ^ 32)
    (after : List UInt8) :
    number (before ++ (littleEndian 4 value ++ after)) before.length = value := by
  have here : ((before ++ (littleEndian 4 value ++ after)).drop before.length).take 4 =
      littleEndian 4 value := by
    rw [List.drop_left]
    exact List.take_left' (length_littleEndian 4 value)
  rw [number, here]
  exact ofLittleEndian_littleEndian fits

theorem piece_append (before bytes after : List UInt8) :
    piece (before ++ (bytes ++ after)) before.length bytes.length = bytes := by
  rw [piece, List.drop_left, List.take_left]

theorem overwrite_append (before : List UInt8) {old bytes : List UInt8}
    (same : bytes.length = old.length) (after : List UInt8) :
    overwrite (before ++ (old ++ after)) before.length bytes = before ++ (bytes ++ after) := by
  rw [overwrite, List.take_left, same, ← List.append_assoc before old, ← List.length_append,
    List.drop_left]

theorem resize_longer {content : List UInt8} {length : Nat} (longer : content.length ≤ length) :
    resize content length = content ++ List.replicate (length - content.length) 0 := by
  rw [resize, List.take_of_length_le longer]

theorem resize_prefix (kept rest : List UInt8) : resize (kept ++ rest) kept.length = kept := by
  have none : kept.length - (kept ++ rest).length = 0 := by
    rw [List.length_append]
    omega
  rw [resize, List.take_left, none, List.replicate_zero, List.append_nil]

end PlayerFramework.FileContent
