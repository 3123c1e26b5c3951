import NativeBridge.Memory.Instance
import NativeBridge.Proofs.BlockWindows

/-!
# The image of an instance

The image of an instance is the bytes that field accesses see. What an array or a string knows is
read from words of its image, and the words and their bytes carry the same information: an instance
whose image has been overwritten shows exactly the bytes written. The first word is the class.
-/

namespace NativeBridge

namespace Instance

lemma encode_wordOf (b : Block) (offset width : Nat) :
    LittleEndian.encode width (wordOf b offset width) = b.read offset width := by
  have hbytes := LittleEndian.encode_decode (b.read offset width)
  rw [Block.length_read] at hbytes
  exact hbytes

lemma wordOf_lt (b : Block) (offset width : Nat) : wordOf b offset width < Nat.pow 256 width := by
  have hlt := LittleEndian.decode_lt (b.read offset width)
  rw [Block.length_read] at hlt
  exact hlt

@[simp] lemma length_handleBytes (h : Handle) : (handleBytes h).length = 8 :=
  LittleEndian.length_encode 8 _

lemma handleOf_eq_iff {b : Block} {offset : Nat} {h : Handle} :
    handleOf b offset = h ↔ b.read offset 8 = handleBytes h := by
  constructor
  · rintro rfl
    have hnat : (handleOf b offset).address.toNat = wordOf b offset 8 :=
      UInt64.toNat_ofNat_of_lt' (wordOf_lt b offset 8)
    rw [handleBytes, hnat, encode_wordOf]
  · intro hread
    have hmod : LittleEndian.decode (handleBytes h) = h.address.toNat := by
      rw [handleBytes, LittleEndian.decode_encode]
      exact Nat.mod_eq_of_lt h.address.toNat_lt
    rw [handleOf, wordOf, hread, hmod, UInt64.ofNat_toNat]

lemma handleBytes_handleOf (b : Block) (offset : Nat) :
    handleBytes (handleOf b offset) = b.read offset 8 :=
  (handleOf_eq_iff.mp rfl).symm

lemma encode_signedWordOf (b : Block) (offset : Nat) :
    LittleEndian.encode 4 (UInt32.ofNat (wordOf b offset 4)).toInt32.toUInt32.toNat =
      b.read offset 4 := by
  have hnat : (UInt32.ofNat (wordOf b offset 4)).toNat = wordOf b offset 4 :=
    UInt32.toNat_ofNat_of_lt' (wordOf_lt b offset 4)
  rw [UInt32.toUInt32_toInt32, hnat, encode_wordOf]

lemma handleOf_write_of_le (b : Block) {offset : Nat} (bytes : List UInt8)
    (h : headerSize ≤ offset) : handleOf (b.write offset bytes) 0 = handleOf b 0 := by
  have hread : (b.write offset bytes).read 0 8 = b.read 0 8 :=
    Block.read_write_of_outside (.inl h)
  rw [handleOf, wordOf, hread]
  rfl

lemma handleOf_image (i : Instance) : handleOf i.image 0 = i.classHandle := by
  cases i with
  | plain memory => rfl
  | array a =>
    rw [handleOf_eq_iff, image, Block.read_ofBytes (by simp), List.drop_zero, List.append_assoc,
      List.append_assoc, List.append_assoc]
    exact List.take_left' (length_handleBytes a.cls)
  | string s =>
    rw [handleOf_eq_iff, image, Block.read_ofBytes (by simp), List.drop_zero, List.append_assoc,
      List.append_assoc]
    exact List.take_left' (length_handleBytes s.cls)

lemma classHandle_withImage (i : Instance) (b : Block) :
    (i.withImage b).classHandle = handleOf b 0 := by
  cases i <;> rfl

lemma classHandle_zeroed (c : Class) : (zeroed c).classHandle = c.handle := by
  rw [zeroed, classHandle, handleOf_eq_iff, ← length_handleBytes c.handle]
  apply Block.read_write_self
  rw [length_handleBytes]
  exact Nat.le_max_left _ _

lemma size_image_zeroed (c : Class) :
    (zeroed c).image.size = max headerSize c.instanceSize.toNat := by
  rw [zeroed, image, Block.size_write]
  rfl

lemma image_withImage_of_container {i : Instance} {b : Block} (hi : ∀ memory, i ≠ plain memory) :
    (i.withImage b).image = .ofBytes (b.read 0 32) := by
  have hcut : b.read 0 32 = b.read 0 8 ++ b.read 8 8 ++ (b.read 16 4 ++ b.read 20 4) ++
      b.read 24 8 := by
    rw [← Block.read_add, ← Block.read_add, ← Block.read_add, ← Block.read_add]
  cases i with
  | plain memory => exact absurd rfl (hi memory)
  | array a =>
    simp only [withImage, image, handleBytes_handleOf, encode_signedWordOf, hcut,
      List.append_assoc]
  | string s =>
    have hsize : (UInt64.ofNat (wordOf b 24 8)).toNat = wordOf b 24 8 :=
      UInt64.toNat_ofNat_of_lt' (wordOf_lt b 24 8)
    have hstorage : b.read 16 8 = b.read 16 4 ++ b.read 20 4 := b.read_add 16 4 4
    simp only [withImage, image, handleBytes_handleOf, hsize, encode_wordOf, hstorage, hcut,
      List.append_assoc]

lemma size_image_of_container {i : Instance} (hi : ∀ memory, i ≠ plain memory) :
    i.image.size = 32 := by
  cases i with
  | plain memory => exact absurd rfl (hi memory)
  | array a => simp [image]
  | string s => simp [image]

lemma size_image_withImage {i : Instance} {b : Block} (hsize : b.size = i.image.size) :
    (i.withImage b).image.size = i.image.size := by
  by_cases hi : ∃ memory, i = plain memory
  · obtain ⟨memory, rfl⟩ := hi
    exact hsize
  · have hi : ∀ memory, i ≠ plain memory := not_exists.mp hi
    rw [image_withImage_of_container hi, Block.size_ofBytes, Block.length_read,
      size_image_of_container hi]

lemma read_image_withImage {i : Instance} {b : Block} (hsize : b.size = i.image.size)
    {place width : Nat} (hfit : place + width ≤ b.size) :
    (i.withImage b).image.read place width = b.read place width := by
  by_cases hi : ∃ memory, i = plain memory
  · obtain ⟨memory, rfl⟩ := hi
    rfl
  · have hi : ∀ memory, i ≠ plain memory := not_exists.mp hi
    rw [image_withImage_of_container hi, ← size_image_of_container hi, ← hsize,
      Block.read_ofBytes_read hfit]

end Instance

end NativeBridge
