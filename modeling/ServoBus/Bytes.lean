/-!
# Byte sequences

Bytes as they travel on the line or lie in registers: their sum, their little-endian numbers, the
bytes of a number in two's complement, and the replacement of a part in place.
-/

namespace ServoBus

abbrev Bytes := List UInt8

/-- The sum of the bytes modulo 256. -/
def byteSum : Bytes → UInt8
  | [] => 0
  | byte :: rest => byte + byteSum rest

@[simp] theorem byteSum_nil : byteSum [] = 0 := rfl

@[simp] theorem byteSum_cons (byte : UInt8) (rest : Bytes) :
    byteSum (byte :: rest) = byte + byteSum rest := rfl

@[simp] theorem byteSum_append (front back : Bytes) :
    byteSum (front ++ back) = byteSum front + byteSum back := by
  induction front with
  | nil => simp
  | cons byte rest ih => simp [ih, UInt8.add_assoc]

/-- The `size` low bytes of a number, the lowest first. -/
def littleEndian : Nat → Nat → Bytes
  | 0, _ => []
  | size + 1, n => UInt8.ofNat n :: littleEndian size (n / 256)

@[simp] theorem length_littleEndian (size n : Nat) : (littleEndian size n).length = size := by
  induction size generalizing n with
  | zero => rfl
  | succ size ih => simp [littleEndian, ih]

/-- The number whose bytes, the lowest first, these are. -/
def littleEndianValue : Bytes → Nat
  | [] => 0
  | byte :: rest => byte.toNat + 256 * littleEndianValue rest

theorem littleEndianValue_lt (bytes : Bytes) :
    littleEndianValue bytes < Nat.pow 256 bytes.length := by
  induction bytes with
  | nil => simp [littleEndianValue]
  | cons byte rest ih =>
      have h := byte.toNat_lt
      have hpow : Nat.pow 256 (rest.length + 1) = Nat.pow 256 rest.length * 256 := rfl
      simp only [littleEndianValue, List.length_cons, hpow]
      omega

/-- The low bytes of a number are the number, as far as it fits into them. -/
theorem littleEndianValue_littleEndian (size n : Nat) :
    littleEndianValue (littleEndian size n) = n % Nat.pow 256 size := by
  induction size generalizing n with
  | zero => simp [littleEndian, littleEndianValue, Nat.mod_one]
  | succ size ih =>
      have hpow : Nat.pow 256 (size + 1) = 256 * Nat.pow 256 size := Nat.mul_comm ..
      rw [littleEndian, littleEndianValue, ih, hpow, Nat.mod_mul]
      simp

theorem littleEndian_littleEndianValue (bytes : Bytes) :
    littleEndian bytes.length (littleEndianValue bytes) = bytes := by
  induction bytes with
  | nil => rfl
  | cons byte rest ih =>
      have h := byte.toNat_lt
      have hrest : (byte.toNat + 256 * littleEndianValue rest) / 256 = littleEndianValue rest := by
        omega
      simp [littleEndian, littleEndianValue, hrest, ih]

/-- The byte at a place of a number in two's complement, the lowest at place zero. -/
def placeByte (value : Int) (place : Nat) : UInt8 := UInt8.ofInt (value >>> (8 * place))

theorem placeByte_zero (value : Int) : placeByte value 0 = UInt8.ofInt value := by
  rw [placeByte, Nat.mul_zero, Int.shiftRight_zero]

theorem placeByte_succ (value : Int) (place : Nat) :
    placeByte value (place + 1) = placeByte (value / 256) place := by
  have hplaces : 8 * (place + 1) = 8 + 8 * place := by omega
  rw [placeByte, hplaces, Int.shiftRight_add, Int.shiftRight_eq_div_pow value 8]
  rfl

/-- The low byte of a number stands before those of what is left when it is shifted out. -/
theorem littleEndian_emod_succ (size : Nat) (value : Int) :
    littleEndian (size + 1) (value % (Nat.pow 256 (size + 1) : Nat)).toNat =
      UInt8.ofInt value :: littleEndian size (value / 256 % (Nat.pow 256 size : Nat)).toNat := by
  have hpos : 0 < Nat.pow 256 size := Nat.pow_pos (by decide)
  have hpow : ((Nat.pow 256 (size + 1) : Nat) : Int) = 256 * (Nat.pow 256 size : Nat) := by
    have hsucc : Nat.pow 256 (size + 1) = Nat.pow 256 size * 256 := rfl
    omega
  generalize Nat.pow 256 size = count at *
  have hnonneg : 0 ≤ value % (256 * (count : Int)) := Int.emod_nonneg value (by omega)
  have hlow : value % (256 * (count : Int)) % 256 = value % 256 :=
    Int.emod_emod_of_dvd value (Int.dvd_mul_right ..)
  have hrest : value % (256 * (count : Int)) / 256 = value / 256 % count := by
    rw [Int.emod_def, Int.emod_def, Int.mul_assoc, Int.sub_mul_ediv_left _ _ (by decide),
      Int.ediv_ediv_of_nonneg (by decide)]
  have hbyte : (value % (256 * (count : Int))).toNat % 256 = (value % 256).toNat := by omega
  have hshift : (value % (256 * (count : Int))).toNat / 256 = (value / 256 % count).toNat := by
    omega
  rw [hpow, littleEndian, hshift, ← UInt8.ofNat_mod_size]
  exact congrArg (UInt8.ofNat · :: _) hbyte

/-- The low bytes of a number, negative or not, stand at their places. -/
theorem getElem?_littleEndian_emod (value : Int) {size place : Nat} (h : place < size) :
    (littleEndian size (value % (Nat.pow 256 size : Nat)).toNat)[place]? =
      some (placeByte value place) := by
  induction size generalizing value place with
  | zero => exact absurd h (Nat.not_lt_zero place)
  | succ size ih =>
      rw [littleEndian_emod_succ]
      cases place with
      | zero => rw [placeByte_zero, List.getElem?_cons_zero]
      | succ place =>
          rw [placeByte_succ, List.getElem?_cons_succ]
          exact ih (value / 256) (Nat.lt_of_succ_lt_succ h)

/-- The bytes with those from index `start` on replaced by `data`. The number of bytes stays: data
that would reach past the end is cut off. -/
def overwrite (bytes : Bytes) (start : Nat) (data : Bytes) : Bytes :=
  bytes.mapIdx fun index byte => if start ≤ index then (data[index - start]?).getD byte else byte

@[simp] theorem length_overwrite (bytes : Bytes) (start : Nat) (data : Bytes) :
    (overwrite bytes start data).length = bytes.length := by
  simp [overwrite]

theorem getElem?_overwrite (bytes : Bytes) (start : Nat) (data : Bytes) (index : Nat) :
    (overwrite bytes start data)[index]? =
      bytes[index]?.map fun byte =>
        if start ≤ index then (data[index - start]?).getD byte else byte := by
  simp [overwrite]

/-- Data that fits stands in the bytes that it covers. -/
theorem getElem?_overwrite_of_le {bytes data : Bytes} {start : Nat}
    (h : start + data.length ≤ bytes.length) (index : Nat) :
    (overwrite bytes start data)[index]? =
      if start ≤ index ∧ index < start + data.length then data[index - start]?
      else bytes[index]? := by
  rw [getElem?_overwrite]
  by_cases hbefore : start ≤ index
  · by_cases hbehind : index < start + data.length
    · have hindex : index < bytes.length := by omega
      have hplace : index - start < data.length := by omega
      simp [hbefore, hbehind, hindex, hplace]
    · have hplace : data.length ≤ index - start := by omega
      simp [hbefore, hbehind, hplace]
  · simp [hbefore]

@[simp] theorem overwrite_nil (bytes : Bytes) (start : Nat) : overwrite bytes start [] = bytes := by
  apply List.ext_getElem?
  intro index
  simp [getElem?_overwrite]

/-- Data can be written byte by byte, each one place further. -/
theorem overwrite_set_succ (bytes : Bytes) (start : Nat) (byte : UInt8) (data : Bytes) :
    overwrite (bytes.set start byte) (start + 1) data = overwrite bytes start (byte :: data) := by
  apply List.ext_getElem?
  intro index
  rw [getElem?_overwrite, getElem?_overwrite, List.getElem?_set]
  rcases Nat.lt_trichotomy start index with h | h | h
  · obtain ⟨gap, rfl⟩ := Nat.exists_eq_add_of_lt h
    have hgap : start + gap + 1 - start = gap + 1 := by omega
    have hgap' : start + gap + 1 - (start + 1) = gap := by omega
    rw [if_neg (by omega), hgap, hgap']
    simp [Nat.le_of_lt h]
  · subst h
    have hne : ¬start + 1 ≤ start := by omega
    by_cases hlt : start < bytes.length
    · simp [hlt, hne]
    · simp [hlt]
  · have hge : ¬start ≤ index := by omega
    have hne : ¬start + 1 ≤ index := by omega
    simp [hge, hne, Nat.ne_of_gt h]

theorem overwrite_singleton (bytes : Bytes) (start : Nat) (byte : UInt8) :
    overwrite bytes start [byte] = bytes.set start byte := by
  rw [← overwrite_set_succ, overwrite_nil]

/-- Bytes before the first one replaced stay. -/
theorem take_overwrite_of_le (bytes data : Bytes) {start count : Nat} (h : count ≤ start) :
    (overwrite bytes start data).take count = bytes.take count := by
  apply List.ext_getElem?
  intro index
  rw [List.getElem?_take, List.getElem?_take, getElem?_overwrite]
  by_cases hindex : index < count
  · have hbefore : ¬start ≤ index := by omega
    simp [hbefore]
  · simp [hindex]

/-- Data at the front stands there as far as there are bytes. -/
theorem take_overwrite_zero (bytes data : Bytes) :
    (overwrite bytes 0 data).take data.length = data.take bytes.length := by
  apply List.ext_getElem?
  intro index
  rw [List.getElem?_take, List.getElem?_take, getElem?_overwrite]
  by_cases hdata : index < data.length
  · by_cases hbytes : index < bytes.length
    · simp [hdata, hbytes]
    · simp [hdata, hbytes]
  · simp [hdata]

/-- Data as long as the bytes replace them all. -/
theorem overwrite_of_length_eq {bytes data : Bytes} (h : data.length = bytes.length) :
    overwrite bytes 0 data = data := by
  have hlength : (overwrite bytes 0 data).length = data.length := by rw [length_overwrite, h]
  calc
    overwrite bytes 0 data
      = (overwrite bytes 0 data).take data.length :=
          (List.take_of_length_le (Nat.le_of_eq hlength)).symm
    _ = data.take bytes.length := take_overwrite_zero bytes data
    _ = data := List.take_of_length_le (Nat.le_of_eq h)

/-- Data at the front stands before the bytes behind it. -/
theorem overwrite_zero_of_le {bytes data : Bytes} (h : data.length ≤ bytes.length) :
    overwrite bytes 0 data = data ++ bytes.drop data.length := by
  apply List.ext_getElem?
  intro index
  rw [getElem?_overwrite, List.getElem?_append]
  by_cases hdata : index < data.length
  · have hbytes : index < bytes.length := by omega
    simp [hdata, hbytes]
  · have hsum : data.length + (index - data.length) = index := by omega
    simp [hdata, hsum]

/-- The `count` bytes from index `start` on, or as many of them as there are. -/
def slice (bytes : Bytes) (start count : Nat) : Bytes :=
  (bytes.drop start).take count

theorem slice_succ {bytes : Bytes} {start count : Nat} (h : start < bytes.length) :
    slice bytes start (count + 1) = bytes.getD start 0 :: slice bytes (start + 1) count := by
  have hvalue : bytes.getD start 0 = bytes[start] := by simp [h]
  rw [slice, List.drop_eq_getElem_cons h, hvalue]
  rfl

theorem slice_one {bytes : Bytes} {index : Nat} (h : index < bytes.length) :
    slice bytes index 1 = [bytes.getD index 0] := by
  rw [slice_succ h, slice, List.take_zero]

/-- Data that fits stands where it was written. -/
theorem slice_overwrite {bytes data : Bytes} {start : Nat}
    (h : start + data.length ≤ bytes.length) :
    slice (overwrite bytes start data) start data.length = data := by
  apply List.ext_getElem?
  intro index
  rw [slice, List.getElem?_take, List.getElem?_drop, getElem?_overwrite]
  by_cases hindex : index < data.length
  · have hbytes : start + index < bytes.length := by omega
    simp [hindex, hbytes]
  · simp [hindex]

end ServoBus
