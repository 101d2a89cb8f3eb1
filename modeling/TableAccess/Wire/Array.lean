import TableAccess.Wire.Instant

/-!
The frame that holds the elements of an array: the number of dimensions, a mark for nulls, the
number of the type of the elements, the length and the lowest index of each dimension, and the
elements one after another, each as its length and its bytes, or as a negative length for null.
-/

set_option autoImplicit false
set_option relaxedAutoImplicit false

namespace TableAccess.Wire

/-- The bytes of values in a row, none for a null. -/
abbrev Images := List (Option (List UInt8))

/-- The number of elements of some dimensions, times `elements`, and the bytes after them. -/
def readDimensions : Nat → Nat → List UInt8 → Except DecodeError (Nat × List UInt8)
  | 0, elements, bytes => .ok (elements, bytes)
  | count + 1, elements, bytes =>
    match takeInt 4 bytes with
    | .error e => .error e
    | .ok (length, bytes) =>
      if length < 0 then .error .dimensionSize
      else
        match takeInt 4 bytes with
        | .error e => .error e
        | .ok (_, bytes) =>
          let elements := elements * length.toNat
          if elements < 2 ^ 31 then readDimensions count elements bytes
          else .error .elementCount

/-- As many elements as there are to be, up to the end of the bytes. -/
def readElements : Nat → List UInt8 → Except DecodeError Images
  | 0, [] => .ok []
  | 0, _ :: _ => .error (.remainder .element)
  | count + 1, bytes =>
    match takeInt 4 bytes with
    | .error e => .error e
    | .ok (length, bytes) =>
      if length < 0 then
        match readElements count bytes with
        | .error e => .error e
        | .ok images => .ok (none :: images)
      else
        match take? length.toNat bytes with
        | none => .error .elementSize
        | some (image, bytes) =>
          match readElements count bytes with
          | .error e => .error e
          | .ok images => .ok (some image :: images)

/-- The elements of a frame of one dimension at most. -/
def readArray (bytes : List UInt8) : Except DecodeError Images :=
  match takeInt 4 bytes with
  | .error e => .error e
  | .ok (dimensions, bytes) =>
    if dimensions < 0 then .error .dimensionCount
    else
      match takeInt 4 bytes with
      | .error e => .error e
      | .ok (_, bytes) =>
        match takeInt 4 bytes with
        | .error e => .error e
        | .ok (_, bytes) =>
          match readDimensions dimensions.toNat 1 bytes with
          | .error e => .error e
          | .ok (elements, bytes) =>
            if 1 < dimensions then .error .manyDimensions
            else readElements (if dimensions = 0 then 0 else elements) bytes

/-- The least number of elements, or of bytes of one, that the words of a frame can not tell. -/
def frameLimit : Nat := 2 ^ 31

def elementImage : Option (List UInt8) → List UInt8
  | none => bytesOfInt 4 (-1)
  | some image => bytesOfNat 4 image.length ++ image

/-- The frame of elements of a type in one dimension. -/
def arrayImage (memberOid lowest : Nat) (images : Images) : List UInt8 :=
  bytesOfNat 4 1 ++ bytesOfNat 4 (if images.any Option.isNone then 1 else 0) ++
    bytesOfNat 4 memberOid ++ bytesOfNat 4 images.length ++ bytesOfNat 4 lowest ++
    images.flatMap elementImage

end TableAccess.Wire
