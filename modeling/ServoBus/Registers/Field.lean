import ServoBus.Bytes

/-!
# Register fields

A field is a number over one, two or four registers, the low byte first. Signed fields are in
two's complement. `Field.decode` reads back what `Field.encode` writes, and the other way round.
-/

namespace ServoBus

inductive Field where
  | u8
  | u16
  | u32
  | i8
  | i16
  | i32
  deriving DecidableEq

namespace Field

def size : Field → Nat
  | u8 | i8 => 1
  | u16 | i16 => 2
  | u32 | i32 => 4

def isSigned : Field → Bool
  | u8 | u16 | u32 => false
  | i8 | i16 | i32 => true

def count (field : Field) : Nat := Nat.pow 256 field.size

def Holds (field : Field) (value : Int) : Prop :=
  if field.isSigned then -(field.count : Int) ≤ 2 * value ∧ 2 * value < field.count
  else 0 ≤ value ∧ value < field.count

instance (field : Field) (value : Int) : Decidable (field.Holds value) := by
  unfold Holds
  infer_instance

/-- The bytes of a number; of a number that the field cannot hold, the low ones. -/
def encode (field : Field) (value : Int) : Bytes :=
  littleEndian field.size (value % field.count).toNat

def decode (field : Field) (bytes : Bytes) : Int :=
  let value := littleEndianValue bytes
  if field.isSigned ∧ field.count ≤ 2 * value then (value : Int) - field.count else value

theorem size_pos (field : Field) : 0 < field.size := by
  cases field <;> decide

@[simp] theorem length_encode (field : Field) (value : Int) :
    (field.encode value).length = field.size := by
  simp [encode]

/-- A field holds its numbers without loss. -/
theorem decode_encode {field : Field} {value : Int} (h : field.Holds value) :
    field.decode (field.encode value) = value := by
  have hcount : (0 : Int) < field.count := by cases field <;> decide
  have hnonneg := Int.emod_nonneg value (Int.ne_of_gt hcount)
  have hvalue : littleEndianValue (field.encode value) = (value % field.count).toNat := by
    rw [encode, littleEndianValue_littleEndian]
    apply Nat.mod_eq_of_lt
    have hlt := Int.emod_lt_of_pos value hcount
    have hpow : Nat.pow 256 field.size = field.count := rfl
    omega
  unfold Holds at h
  simp only [decode, hvalue]
  split at h
  · next hsigned =>
      by_cases hneg : value < 0
      · have hmod : value % field.count = value + field.count := by
          rw [← Int.add_emod_right, Int.emod_eq_of_lt] <;> omega
        rw [if_pos ⟨hsigned, by omega⟩]
        omega
      · have hmod : value % field.count = value := Int.emod_eq_of_lt (by omega) (by omega)
        rw [if_neg (by omega)]
        omega
  · next hunsigned =>
      have hmod : value % field.count = value := Int.emod_eq_of_lt h.1 h.2
      rw [if_neg fun hs => hunsigned hs.1]
      omega

theorem littleEndianValue_lt_count {field : Field} {bytes : Bytes}
    (h : bytes.length = field.size) : littleEndianValue bytes < field.count := by
  have hlt := littleEndianValue_lt bytes
  rw [h] at hlt
  exact hlt

theorem holds_decode {field : Field} {bytes : Bytes} (h : bytes.length = field.size) :
    field.Holds (field.decode bytes) := by
  have hlt := littleEndianValue_lt_count h
  unfold Holds
  simp only [decode]
  by_cases hsigned : field.isSigned
  · rw [if_pos hsigned]
    by_cases hneg : field.count ≤ 2 * littleEndianValue bytes
    · rw [if_pos ⟨hsigned, hneg⟩]
      omega
    · rw [if_neg fun h => hneg h.2]
      omega
  · rw [if_neg hsigned, if_neg fun h => hsigned h.1]
    omega

/-- Bytes as many as the field has are those of the number that they stand for. -/
theorem encode_decode {field : Field} {bytes : Bytes} (h : bytes.length = field.size) :
    field.encode (field.decode bytes) = bytes := by
  have hlt := littleEndianValue_lt_count h
  have hvalue : (littleEndianValue bytes : Int) % field.count = littleEndianValue bytes :=
    Int.emod_eq_of_lt (by omega) (by omega)
  have hmod : field.decode bytes % field.count = littleEndianValue bytes := by
    simp only [decode]
    split
    · rw [Int.sub_emod_right, hvalue]
    · exact hvalue
  rw [encode, hmod, Int.toNat_natCast, ← h]
  exact littleEndian_littleEndianValue bytes

/-- A field keeps the low bytes of a number. -/
theorem getElem?_encode (field : Field) (value : Int) {place : Nat} (h : place < field.size) :
    (field.encode value)[place]? = some (placeByte value place) :=
  getElem?_littleEndian_emod value h

end Field

end ServoBus
