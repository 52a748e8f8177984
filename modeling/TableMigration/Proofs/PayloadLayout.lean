import Mathlib
import TableMigration.Store.Payload

/-!
# Proofs.PayloadLayout

A stored payload reads back what was written (`decodePayload_encodePayload`).

The data, padded with zeros to a multiple of eight, comes first, and the sixteen bytes of the
root follow. Each field of the root is a little-endian word that reads back as the number it
writes while the number fits the word (`ofLittleEndian_littleEndian`). The root's offset field
points back from itself to the data's first byte; a signed 32-bit word holds that distance, the
padded data and the utime field, when the data is at most `2 ^ 31 - 16` bytes long. Every row
whose data is so long reads back as itself.
-/

namespace TableMigration.Store

/-! ## Little-endian words -/

theorem length_littleEndian (w n : Nat) : (littleEndian w n).length = w := by
  simp [littleEndian]

theorem littleEndian_succ (w n : Nat) :
    littleEndian (w + 1) n = (n % 256).toUInt8 :: littleEndian w (n / 256) := by
  simp only [littleEndian, List.range_succ_eq_map, List.map_cons, List.map_map, Nat.pow_eq]
  congr 1
  · simp
  · apply List.map_congr_left
    intro i _
    simp [pow_succ', Nat.div_div_eq_div_mul]

@[simp] theorem ofLittleEndian_cons (b : UInt8) (bs : List UInt8) :
    ofLittleEndian (b :: bs) = ofLittleEndian bs * 256 + b.toNat := rfl

/-- Reading back `width` little-endian bytes gives the number modulo `256 ^ width`. -/
theorem ofLittleEndian_littleEndian (w n : Nat) :
    ofLittleEndian (littleEndian w n) = n % 256 ^ w := by
  induction w generalizing n with
  | zero => simp [littleEndian, ofLittleEndian, Nat.mod_one]
  | succ w ih =>
    rw [littleEndian_succ, ofLittleEndian_cons, ih, pow_succ', Nat.mod_mul]
    simp only [Nat.toUInt8_eq, UInt8.toNat_ofNat']
    omega

/-! ## The stored form -/

theorem length_padding (n : Nat) : (padding n).length = (8 - n % 8) % 8 := by simp [padding]

/-- A payload reads back as the utime and data it was written from, when the data leaves the
offset field room: the word points back past the padded data and the utime field. -/
theorem decodePayload_encodePayload (utime : Int64) (data : List UInt8)
    (h : data.length + 16 ≤ 2 ^ 31) :
    decodePayload (encodePayload utime data) = some (utime, data) := by
  replace h : data.length + 16 ≤ 2147483648 := h.trans_eq (by norm_num)
  -- the padded data: a multiple of eight bytes, the data first and at most seven zeros after it
  set body := data ++ padding data.length with hbody
  have hL : body.length = data.length + (8 - data.length % 8) % 8 := by
    simp [body, length_padding]
  have hfits : ¬ (body.length + 16 < 16 ∨ (body.length + 16) % 8 ≠ 0) := by omega
  have hinside : ¬ ((0 : Int) < 0 ∨ 0 + (data.length : Int) > body.length) := by omega
  set o := ((-((body.length : Int) + 8)) % (Nat.pow 2 32 : Nat)).toNat with ho
  have hword : o = 4294967296 - (body.length + 8) := by
    rw [ho, show (Nat.pow 2 32 : Nat) = 4294967296 from rfl]
    omega
  -- the root past it: the utime, the offset back to the data, and the data's length
  have hroot : (encodePayload utime data).drop body.length =
      littleEndian 8 utime.toUInt64.toNat ++ (littleEndian 4 o ++ littleEndian 4 data.length) := by
    simp [encodePayload, body, o, List.append_assoc]
  have hsize : (encodePayload utime data).length = body.length + 16 := by
    simp [encodePayload, body, length_littleEndian]
    omega
  -- each field reads back, the offset as the negative distance from itself to the data
  have hu : ofLittleEndian (littleEndian 8 utime.toUInt64.toNat) = utime.toUInt64.toNat := by
    rw [ofLittleEndian_littleEndian]
    exact Nat.mod_eq_of_lt (by simpa using UInt64.toNat_lt utime.toUInt64)
  have hword4 : (256 : Nat) ^ 4 = 4294967296 := by norm_num
  have hoff : signed32 (ofLittleEndian (littleEndian 4 o)) = -((body.length : Int) + 8) := by
    rw [ofLittleEndian_littleEndian, hword, hword4, Nat.mod_eq_of_lt (by omega)]
    unfold signed32
    rw [if_neg (by simp only [Nat.pow_eq]; omega)]
    push_cast
    omega
  have hlen : ofLittleEndian (littleEndian 4 data.length) = data.length := by
    rw [ofLittleEndian_littleEndian, hword4, Nat.mod_eq_of_lt (by omega)]
  have hthird : (littleEndian 8 utime.toUInt64.toNat ++ (littleEndian 4 o ++
      littleEndian 4 data.length)).drop 12 = littleEndian 4 data.length := by
    rw [List.drop_append, List.drop_eq_nil_of_le (by simp [length_littleEndian]),
      List.nil_append, length_littleEndian]
    exact List.drop_left' (length_littleEndian 4 o)
  have hdata : (encodePayload utime data).take data.length = data := by
    simp [encodePayload, List.append_assoc]
  unfold decodePayload
  dsimp only
  rw [hsize, if_neg hfits, Nat.add_sub_cancel, hroot]
  simp only [List.take_left', List.drop_left', length_littleEndian, hu, hoff, hthird,
    List.take_of_length_le (Nat.le_of_eq (length_littleEndian 4 _)), hlen, add_neg_cancel,
    UInt64.ofNat_toNat, Int64.toInt64_toUInt64, Int.toNat_zero, List.drop_zero, hdata]
  rw [if_neg hinside]

end TableMigration.Store
