import NativeBridge.Class.Basic
import NativeBridge.Memory.Block
import NativeBridge.Text.Utf8
import NativeBridge.Word.LittleEndian

/-!
# Instances

An instance is a plain object, an array or a string. Every instance begins with a header that holds
the handle of its class. A plain object is a block of bytes with the header in front, so its fields
and its header share the same memory. An array knows its class, the class of its elements and their
number and size, and keeps the elements in a buffer of its own; a string keeps its bytes likewise.
What an array or a string knows is laid out in words behind its header, and field accesses see and
change these words as they do the bytes of a plain object.
-/

namespace NativeBridge

/-- The number of bytes of an instance header. -/
def headerSize : Nat := 8

/-- The number of bytes of an array or a string, without its buffer. -/
def containerSize : UInt64 := 32

/-- The path and the name of the class of strings. -/
def stringClasspath : String := "java/lang"
def stringClassname : String := "String"

/-- An array: `count` elements of `elementSize` bytes each, one after the other. The count and the
size are words of the instance like any other, which field accesses can overwrite. -/
structure ArrayObject where
  cls : Handle
  elementClass : Handle
  count : Int32
  elementSize : Int32
  /-- The address of the buffer, null if there is none. -/
  buffer : Handle
  elements : Block

/-- A string over bytes that hold no NUL, either copied or borrowed from static data. -/
structure StringObject where
  cls : Handle
  /-- The address of the bytes. -/
  text : Handle
  /-- The address of the copy that the string owns, null if it borrows its bytes. -/
  storage : Handle
  /-- The number of bytes of the copy, with the NUL that ends it. -/
  storageSize : UInt64
  bytes : List UInt8

/-- A live instance. -/
inductive Instance where
  | plain (memory : Block)
  | array (a : ArrayObject)
  | string (s : StringObject)

/-- The word that stands for the address of a buffer outside an instance. -/
def bufferAddress : Handle := ⟨0x1000⟩

/-- The alignment of the buffers of arrays. -/
def elementAlignment : UInt64 := 8

/-- The largest number of bytes of a buffer: its size, rounded up to the alignment, must be less
than half of the address space. -/
def largestBuffer : UInt64 := 0x8000000000000000 - elementAlignment

namespace ArrayObject

/-- The number of bytes of `count` elements, if it is a machine word and a buffer can have as many
bytes. -/
def bufferSize? (count elementSize : Int32) : Option UInt64 :=
  let extent := count.toInt64.toUInt64
  let stride := elementSize.toInt64.toUInt64
  if extent.toNat * stride.toNat < UInt64.size ∧ extent * stride ≤ largestBuffer then
    some (extent * stride)
  else none

/-- Makes a zeroed array. The class must be an array class, the count must not be negative, the
element size must be positive and the buffer must not be too large, checked in this order. -/
def make? (arrayClass elementClass : Class) (count elementSize : Int32) :
    Except ObjectError ArrayObject :=
  if !arrayClass.isArray then .error (.classMismatch "an array class" arrayClass.fullName)
  else if count < 0 then .error (.negativeLength count)
  else if elementSize ≤ 0 then .error (.invalidElementSize elementSize)
  else
    match bufferSize? count elementSize with
    | none => .error (.tooLarge count elementSize)
    | some size =>
      .ok ⟨arrayClass.handle, elementClass.handle, count, elementSize,
        if size = 0 then .null else bufferAddress, .zeros size.toNat⟩

/-- The distance between neighbouring elements, as a machine word. -/
def stride (a : ArrayObject) : UInt64 := a.elementSize.toInt64.toUInt64

def extent (a : ArrayObject) : UInt64 := a.count.toInt64.toUInt64

def dataLength (a : ArrayObject) : UInt64 := a.extent * a.stride

/-- Whether the buffer begins at a multiple of the alignment; so does the null address. -/
def aligned (a : ArrayObject) : Bool := a.buffer.address % elementAlignment == 0

/-- Up to `limit` of the first bytes of the elements; none without a buffer. -/
def firstBytes (a : ArrayObject) (limit : Nat) : List UInt8 :=
  if a.buffer.isNull then [] else a.elements.read 0 (min limit a.dataLength.toNat)

/-- Sets a byte of the elements; nothing for a place outside them. -/
def setByte? (a : ArrayObject) (place : UInt64) (byte : UInt8) : Option ArrayObject :=
  if a.buffer.isNull ∨ a.dataLength ≤ place then none
  else some { a with elements := a.elements.write place.toNat [byte] }

end ArrayObject

namespace StringObject

/-- Whether instances of the class are strings. -/
def accepts (c : Class) : Bool := c.isNamed stringClasspath stringClassname

/-- The refusal of a class whose instances are not strings. -/
def checkClass (c : Class) : Except ObjectError Unit :=
  if accepts c then .ok ()
  else .error (.classMismatch (stringClasspath ++ "/" ++ stringClassname) c.fullName)

/-- Makes a string that owns a copy of the text, which must hold no NUL. -/
def ofText? (c : Class) (text : List Char) : Except ObjectError StringObject :=
  match checkClass c with
  | .error e => .error e
  | .ok () =>
    let bytes := Utf8.encode text
    match bytes.findIdx? (· = 0) with
    | some position => .error (.interiorNul position)
    | none => .ok ⟨c.handle, bufferAddress, bufferAddress, UInt64.ofNat (bytes.length + 1), bytes⟩

/-- Makes a string that borrows static bytes, which hold no NUL. -/
def ofStatic? (c : Class) (bytes : List UInt8) : Except ObjectError StringObject :=
  match checkClass c with
  | .error e => .error e
  | .ok () => .ok ⟨c.handle, bufferAddress, .null, 0, bytes⟩

/-- Whether the string owns a copy of its bytes. -/
def owned (s : StringObject) : Bool := !s.storage.isNull

/-- The UTF-16 code units managed code sees, broken bytes shown as the replacement character. -/
def units (bytes : List UInt8) : List UInt16 := Utf16.units (Utf8.decodeLossy bytes)

/-- The length managed code sees. -/
def utf16Length (s : StringObject) : Nat := (units s.bytes).length

end StringObject

namespace Instance

/-- The bytes of a handle. -/
def handleBytes (h : Handle) : List UInt8 := LittleEndian.encode 8 h.address.toNat

/-- A zeroed plain object of the class: the header and then zeros up to the instance size. -/
def zeroed (c : Class) : Instance :=
  .plain ((Block.zeros (max headerSize c.instanceSize.toNat)).write 0 (handleBytes c.handle))

/-- The bytes of the instance itself, as field accesses see them. -/
def image : Instance → Block
  | plain memory => memory
  | array a => .ofBytes (handleBytes a.cls ++ handleBytes a.elementClass ++
      LittleEndian.encode 4 a.count.toUInt32.toNat ++
      LittleEndian.encode 4 a.elementSize.toUInt32.toNat ++ handleBytes a.buffer)
  | string s => .ofBytes (handleBytes s.cls ++ handleBytes s.text ++ handleBytes s.storage ++
      LittleEndian.encode 8 s.storageSize.toNat)

/-- The number in `width` bytes of an image. -/
def wordOf (image : Block) (offset width : Nat) : Nat :=
  LittleEndian.decode (image.read offset width)

/-- The handle spelled by eight bytes of an image. -/
def handleOf (image : Block) (offset : Nat) : Handle := ⟨UInt64.ofNat (wordOf image offset 8)⟩

/-- The handle of the class that the header names. -/
def classHandle : Instance → Handle
  | plain memory => handleOf memory 0
  | array a => a.cls
  | string s => s.cls

/-- The instance after its own bytes have been overwritten. Buffers outside it keep their
content. -/
def withImage : Instance → Block → Instance
  | plain _, image => plain image
  | array a, image =>
    array { a with
      cls := handleOf image 0
      elementClass := handleOf image 8
      count := (UInt32.ofNat (wordOf image 16 4)).toInt32
      elementSize := (UInt32.ofNat (wordOf image 20 4)).toInt32
      buffer := handleOf image 24 }
  | string s, image =>
    string { s with
      cls := handleOf image 0
      text := handleOf image 8
      storage := handleOf image 16
      storageSize := UInt64.ofNat (wordOf image 24 8) }

end Instance

end NativeBridge
