import Mathlib
import TableMigration.Store.Key

/-!
# Proofs.KeyLayout

The byte layout of the store's keys, and why a range of keys read in byte order is a table's rows
in id order.

Big-endian bytes of a fixed width compare as the numbers they write (`bigEndian_lt_bigEndian_iff`).
An id's bytes are those of the id moved up by half the range, so the least id is written as zero
and byte order is id order (`encodeId_lt_encodeId_iff`); `decodeId` reads them back. A table's
prefix leads with the name's length, so it begins a key of another table never, whatever bytes the
names hold (`tablePrefix_prefix_iff`). A scan reads the keys after its cursor's key, up to the key of
the greatest id; those are exactly the keys of its table past the cursor (`rowKey_inScanRange_iff`),
and the id read back from each is the row's (`decodeId_drop_tablePrefix`). The main statements are
`rowKey_inScanRange_iff` and `keys_ordered_prefix_free`, the layout's laws together: exactly the
eight-byte strings read as ids, each as the id whose bytes they are (`encodeId_of_decodeId`).
-/

namespace TableMigration.Store

/-! ## Big-endian numbers -/

theorem bigEndian_succ (w n : Nat) :
    bigEndian (w + 1) n = (n / 256 ^ w % 256).toUInt8 :: bigEndian w n := by
  simp [bigEndian, List.range_succ, Nat.pow_eq]

/-- Bytes read after a value shift that value past them. -/
private theorem foldl_ofBigEndian (bs : List UInt8) (acc : Nat) :
    bs.foldl (fun acc b => acc * 256 + b.toNat) acc = acc * 256 ^ bs.length + ofBigEndian bs := by
  induction bs generalizing acc with
  | nil => simp [ofBigEndian]
  | cons b bs ih =>
    simp only [ofBigEndian, List.foldl_cons, List.length_cons] at ih ⊢
    rw [ih, ih (0 * 256 + b.toNat)]
    ring

theorem ofBigEndian_cons (b : UInt8) (bs : List UInt8) :
    ofBigEndian (b :: bs) = b.toNat * 256 ^ bs.length + ofBigEndian bs := by
  show bs.foldl (fun acc b => acc * 256 + b.toNat) (0 * 256 + b.toNat) = _
  rw [foldl_ofBigEndian, Nat.zero_mul, Nat.zero_add]

theorem ofBigEndian_lt (bs : List UInt8) : ofBigEndian bs < 256 ^ bs.length := by
  induction bs with
  | nil => simp [ofBigEndian]
  | cons b bs ih =>
    rw [ofBigEndian_cons, List.length_cons, pow_succ]
    have hb : b.toNat < 256 := b.toNat_lt
    -- the leading byte is at most 255 times the weight, and the rest below one weight
    calc b.toNat * 256 ^ bs.length + ofBigEndian bs
        < b.toNat * 256 ^ bs.length + 256 ^ bs.length := by omega
      _ = (b.toNat + 1) * 256 ^ bs.length := by ring
      _ ≤ 256 ^ bs.length * 256 := by rw [mul_comm]; exact Nat.mul_le_mul_left _ hb

/-- Reading back `width` big-endian bytes gives the number modulo `256 ^ width`. -/
theorem ofBigEndian_bigEndian (w n : Nat) : ofBigEndian (bigEndian w n) = n % 256 ^ w := by
  induction w with
  | zero => simp [bigEndian, ofBigEndian, Nat.mod_one]
  | succ w ih =>
    rw [bigEndian_succ, ofBigEndian_cons, length_bigEndian, ih, Nat.mod_pow_succ, Nat.toUInt8_eq,
      UInt8.toNat_ofNat', Nat.mod_mod_of_dvd _ (by norm_num)]
    ring

/-- A number written in front of a lower part below its weight compares first by that number. -/
private theorem mul_add_lt_mul_add_iff {K b c x y : Nat} (hx : x < K) (hy : y < K) :
    b * K + x < c * K + y ↔ b < c ∨ b = c ∧ x < y := by
  constructor
  · intro h
    rcases Nat.lt_trichotomy b c with hbc | rfl | hcb
    · exact .inl hbc
    · exact .inr ⟨rfl, by omega⟩
    · -- a greater leading number outweighs any lower part
      have : (c + 1) * K ≤ b * K := Nat.mul_le_mul_right K hcb
      rw [Nat.add_mul, one_mul] at this
      omega
  · rintro (hbc | ⟨rfl, hxy⟩)
    · have : (b + 1) * K ≤ c * K := Nat.mul_le_mul_right K hbc
      rw [Nat.add_mul, one_mul] at this
      omega
    · omega

/-- Byte strings of one length compare as the numbers they write. -/
theorem lt_iff_ofBigEndian_lt : ∀ {bs cs : List UInt8}, bs.length = cs.length →
    (bs < cs ↔ ofBigEndian bs < ofBigEndian cs)
  | [], [], _ => by simp [ofBigEndian]
  | b :: bs, c :: cs, hlen => by
    have hlen' : bs.length = cs.length := by simpa using hlen
    rw [List.cons_lt_cons_iff, ofBigEndian_cons, ofBigEndian_cons, lt_iff_ofBigEndian_lt hlen',
      UInt8.lt_iff_toNat_lt, ← UInt8.toNat_inj, hlen',
      mul_add_lt_mul_add_iff (hlen' ▸ ofBigEndian_lt bs) (ofBigEndian_lt cs)]

theorem bigEndian_lt_bigEndian_iff {w m n : Nat} (hm : m < 256 ^ w) (hn : n < 256 ^ w) :
    bigEndian w m < bigEndian w n ↔ m < n := by
  rw [lt_iff_ofBigEndian_lt (by simp [length_bigEndian]), ofBigEndian_bigEndian, ofBigEndian_bigEndian,
    Nat.mod_eq_of_lt hm, Nat.mod_eq_of_lt hn]

/-- Byte strings of one length that write the same number are the same. -/
theorem ofBigEndian_inj : ∀ {bs cs : List UInt8}, bs.length = cs.length →
    ofBigEndian bs = ofBigEndian cs → bs = cs
  | [], [], _, _ => rfl
  | b :: bs, c :: cs, hlen, h => by
    have hlen' : bs.length = cs.length := by simpa using hlen
    rw [ofBigEndian_cons, ofBigEndian_cons, hlen'] at h
    have hx : ofBigEndian bs < 256 ^ cs.length := hlen' ▸ ofBigEndian_lt bs
    have hy := ofBigEndian_lt cs
    -- the leading byte is the quotient by the weight of the rest
    have hb : b.toNat = c.toNat := by
      have hq := congrArg (· / 256 ^ cs.length) h
      rwa [Nat.mul_comm b.toNat, Nat.mul_comm c.toNat, Nat.mul_add_div (by positivity),
        Nat.mul_add_div (by positivity), Nat.div_eq_of_lt hx, Nat.div_eq_of_lt hy, Nat.add_zero,
        Nat.add_zero] at hq
    rw [hb, Nat.add_left_cancel_iff] at h
    rw [UInt8.toNat_inj.mp hb, ofBigEndian_inj hlen' h]

/-- Every byte string is the big-endian writing, at its own width, of the number it writes. -/
theorem bigEndian_ofBigEndian (bs : List UInt8) : bigEndian bs.length (ofBigEndian bs) = bs :=
  ofBigEndian_inj (length_bigEndian _ _)
    (by rw [ofBigEndian_bigEndian, Nat.mod_eq_of_lt (ofBigEndian_lt bs)])

theorem bigEndian_inj {w m n : Nat} (hm : m < 256 ^ w) (hn : n < 256 ^ w) :
    bigEndian w m = bigEndian w n ↔ m = n := by
  constructor
  · intro h
    have := congrArg ofBigEndian h
    rwa [ofBigEndian_bigEndian, ofBigEndian_bigEndian, Nat.mod_eq_of_lt hm, Nat.mod_eq_of_lt hn] at this
  · rintro rfl
    rfl

/-! ## Ids -/

/-- Flipping the top bit of a 64-bit word moves it by half the range, up or down. -/
private theorem xor_top_bit {n : Nat} (hn : n < 2 ^ 64) :
    n ^^^ 2 ^ 63 = if n < 2 ^ 63 then n + 2 ^ 63 else n - 2 ^ 63 := by
  have hmod : (n ^^^ 2 ^ 63) % 2 ^ 63 = n % 2 ^ 63 := by
    rw [Nat.xor_mod_two_pow, Nat.mod_self, Nat.xor_zero]
  have hdiv : (n ^^^ 2 ^ 63) / 2 ^ 63 = n / 2 ^ 63 ^^^ 1 := by
    rw [Nat.xor_div_two_pow, Nat.div_self (Nat.two_pow_pos 63)]
  have hsplit := Nat.div_add_mod (n ^^^ 2 ^ 63) (2 ^ 63)
  rw [hmod, hdiv] at hsplit
  split
  · -- below the top bit: the bit is set
    rw [Nat.div_eq_of_lt ‹_›, Nat.zero_xor] at hsplit
    omega
  · -- at or above it: the bit is cleared
    have hone : n / 2 ^ 63 = 1 := by omega
    rw [hone, Nat.xor_self] at hsplit
    omega

/-- Flipping the sign bit of an id's word adds half the word range to the id: the least id becomes
zero and the greatest the greatest word. -/
theorem toNat_flipSign (id : Int64) :
    ((id.toUInt64 ^^^ 0x8000000000000000).toNat : Int) = id.toInt + 2 ^ 63 := by
  have hlt : id.toUInt64.toNat < 2 ^ 64 := UInt64.toNat_lt _
  have hint : id.toInt = if 2 * id.toUInt64.toNat < 2 ^ 64 then (id.toUInt64.toNat : Int)
      else (id.toUInt64.toNat : Int) - (2 ^ 64 : Nat) := by
    rw [← Int64.toInt_toBitVec, BitVec.toInt_eq_toNat_cond]
    rfl
  rw [UInt64.toNat_xor, show (0x8000000000000000 : UInt64).toNat = 2 ^ 63 from rfl, xor_top_bit hlt, hint]
  split <;> split <;> push_cast <;> omega

/-- Byte order of ids is id order, the extremes and the sign change included. -/
theorem encodeId_lt_encodeId_iff (a b : Int64) : encodeId a < encodeId b ↔ a < b := by
  have hword : ∀ x : Int64, (x.toUInt64 ^^^ 0x8000000000000000).toNat < 256 ^ 8 := fun x =>
    (UInt64.toNat_lt _).trans_eq (by norm_num)
  rw [encodeId, encodeId, bigEndian_lt_bigEndian_iff (hword a) (hword b), Int64.lt_iff_toInt_lt,
    ← Int.ofNat_lt, toNat_flipSign, toNat_flipSign]
  omega

example : encodeId (-1) < encodeId 0 := by decide

theorem decodeId_encodeId (id : Int64) : decodeId (encodeId id) = some id := by
  have hword : (id.toUInt64 ^^^ 0x8000000000000000).toNat < 256 ^ 8 :=
    (UInt64.toNat_lt _).trans_eq (by norm_num)
  rw [decodeId, if_pos (length_encodeId id), encodeId, ofBigEndian_bigEndian, Nat.mod_eq_of_lt hword,
    Nat.toUInt64_eq, UInt64.ofNat_toNat, UInt64.xor_assoc, UInt64.xor_self, UInt64.xor_zero,
    Int64.toInt64_toUInt64]

theorem encodeId_inj {a b : Int64} : encodeId a = encodeId b ↔ a = b := by
  constructor
  · intro h
    have := congrArg decodeId h
    rwa [decodeId_encodeId, decodeId_encodeId, Option.some_inj] at this
  · rintro rfl
    rfl

theorem decodeId_isSome_iff (bs : List UInt8) : (decodeId bs).isSome ↔ bs.length = 8 := by
  unfold decodeId
  split <;> simp_all

/-- Bytes read as an id are that id's bytes: every eight bytes write an id, so reading is
onto and writing never leaves a gap in the eight-byte strings. -/
theorem encodeId_of_decodeId {bs : List UInt8} {id : Int64} (h : decodeId bs = some id) :
    encodeId id = bs := by
  unfold decodeId at h
  split at h
  · next hlen =>
    obtain rfl := Option.some.inj h
    have hword : ofBigEndian bs < 2 ^ 64 := (ofBigEndian_lt bs).trans_eq (by rw [hlen]; norm_num)
    rw [encodeId, UInt64.toUInt64_toInt64, UInt64.xor_assoc, UInt64.xor_self, UInt64.xor_zero,
      Nat.toUInt64_eq, UInt64.toNat_ofNat', Nat.mod_eq_of_lt hword, ← hlen, bigEndian_ofBigEndian]
  · cases h

/-! ## Table prefixes -/

/-- The byte loop of `ByteArray.toList` has pushed, reversed, the bytes before its index. -/
private theorem byteArray_toList_loop (bs : ByteArray) (i : Nat) (r : List UInt8) :
    ByteArray.toList.loop bs i r = r.reverse ++ bs.data.toList.drop i := by
  fun_induction ByteArray.toList.loop bs i r with
  | case1 i r hi ih =>
    rw [ih, List.reverse_cons, List.append_assoc, List.singleton_append]
    have hi' : i < bs.data.toList.length := by rwa [Array.length_toList, ByteArray.size_data]
    rw [List.drop_eq_getElem_cons hi']
    congr 2
    obtain ⟨data⟩ := bs
    exact getElem!_pos data i (by simpa using hi')
  | case2 i r hi =>
    rw [List.drop_eq_nil_of_le (by rw [Array.length_toList, ByteArray.size_data]; omega), List.append_nil]

/-- Names with the same UTF-8 bytes are the same name. -/
theorem utf8_toList_inj {t t' : String} : t.toUTF8.toList = t'.toUTF8.toList ↔ t = t' := by
  constructor
  · intro h
    rw [ByteArray.toList, ByteArray.toList, byteArray_toList_loop, byteArray_toList_loop] at h
    simp only [List.reverse_nil, List.nil_append, List.drop_zero, Array.toList_inj] at h
    rw [← String.toByteArray_inj]
    simpa [ByteArray.ext_iff] using h
  · rintro rfl
    rfl

theorem length_utf8_toList (t : String) : t.toUTF8.toList.length = t.utf8ByteSize := by
  rw [ByteArray.toList, byteArray_toList_loop, List.reverse_nil, List.nil_append, List.drop_zero,
    Array.length_toList, ByteArray.size_data, String.toUTF8_eq_toByteArray, String.size_toByteArray]

/-- A table's prefix begins a key of a table, whatever follows, only when the tables are the same.
The name's length leads and fixes where the name ends, so names that begin other names, the empty
name and names holding NUL bytes are all apart. Names longer than a 64-bit length can write are
out of reach of the layout. -/
theorem tablePrefix_prefix_iff {t t' : String} (ht : t.utf8ByteSize < 2 ^ 64)
    (ht' : t'.utf8ByteSize < 2 ^ 64) (rest : List UInt8) :
    tablePrefix t <+: tablePrefix t' ++ rest ↔ t = t' := by
  constructor
  · rintro ⟨s, hs⟩
    simp only [tablePrefix, List.append_assoc] at hs
    have hfit : ∀ u : String, u.utf8ByteSize < 2 ^ 64 → u.toUTF8.toList.length < 256 ^ 8 :=
      fun u hu => (length_utf8_toList u).trans_lt (hu.trans_eq (by norm_num))
    -- the eight length bytes come first and fix the name's length
    obtain ⟨hlen, hbytes⟩ := List.append_inj hs (by rw [length_bigEndian, length_bigEndian])
    have hsame := (bigEndian_inj (hfit t ht) (hfit t' ht')).mp hlen
    -- then the names, of that one length
    exact utf8_toList_inj.mp (List.append_inj hbytes hsame).1
  · rintro rfl
    exact List.prefix_append _ _

theorem rowKey_inj {t t' : String} (ht : t.utf8ByteSize < 2 ^ 64) (ht' : t'.utf8ByteSize < 2 ^ 64)
    {a b : Int64} : rowKey t a = rowKey t' b ↔ t = t' ∧ a = b := by
  constructor
  · intro h
    obtain rfl : t = t' := (tablePrefix_prefix_iff ht ht' (encodeId b)).mp ⟨encodeId a, h⟩
    exact ⟨rfl, encodeId_inj.mp (List.append_cancel_left h)⟩
  · rintro ⟨rfl, rfl⟩
    rfl

/-! ## Scans -/

/-- Keys behind one prefix compare as what follows it. -/
private theorem append_lt_append_left_iff (p : List UInt8) {x y : List UInt8} :
    p ++ x < p ++ y ↔ x < y := by
  induction p with
  | nil => rfl
  | cons a p ih => rw [List.cons_append, List.cons_append, List.cons_lt_cons_self, ih]

theorem rowKey_lt_rowKey_iff (t : String) (a b : Int64) : rowKey t a < rowKey t b ↔ a < b := by
  rw [rowKey, rowKey, append_lt_append_left_iff, encodeId_lt_encodeId_iff]

theorem rowKey_le_rowKey_iff (t : String) (a b : Int64) : rowKey t a ≤ rowKey t b ↔ a ≤ b := by
  rw [← List.not_lt, rowKey_lt_rowKey_iff, Int64.not_lt]

/-- A key between two keys behind one prefix is behind it too. -/
private theorem prefix_of_le_of_le : ∀ {p x y k : List UInt8}, p ++ x ≤ k → k ≤ p ++ y → p <+: k
  | [], _, _, _, _, _ => List.nil_prefix
  | _ :: _, _, _, [], h1, _ => absurd (List.le_nil.mp h1) (List.cons_ne_nil _ _)
  | a :: p, x, y, c :: k, h1, h2 => by
    rw [List.cons_append, List.cons_le_cons_iff] at h1
    rw [List.cons_append, List.cons_le_cons_iff] at h2
    -- neither first byte lies strictly past the other, so they agree
    have hle : ∀ {u v : UInt8} {l l' : List UInt8}, u < v ∨ u = v ∧ l ≤ l' → u ≤ v :=
      fun h => h.elim UInt8.le_of_lt fun h => h.1 ▸ UInt8.le_refl _
    obtain rfl : a = c := UInt8.le_antisymm (hle h1) (hle h2)
    exact (List.prefix_cons_inj a).mpr (prefix_of_le_of_le (h1.resolve_left (UInt8.lt_irrefl a)).2
      (h2.resolve_left (UInt8.lt_irrefl a)).2)

/-- The keys a scan of table `t` reads: past the key of its cursor, or from the key of the least id
when it has none, up to the key of the greatest id. -/
def InScanRange (t : String) (after : Option Int64) (k : List UInt8) : Prop :=
  (match after with
    | some a => rowKey t a < k
    | none => rowKey t Int64.minValue ≤ k) ∧
  k ≤ rowKey t Int64.maxValue

/-- The keys a scan reads are exactly the keys of its table past its cursor, and only those: a key
of another table never falls in the range, whatever the two names. -/
theorem rowKey_inScanRange_iff {t t' : String} (ht : t.utf8ByteSize < 2 ^ 64)
    (ht' : t'.utf8ByteSize < 2 ^ 64) (after : Option Int64) (id : Int64) :
    InScanRange t after (rowKey t' id) ↔ t' = t ∧ after.all (· < id) := by
  constructor
  · rintro ⟨hlow, hhigh⟩
    have hlow' : rowKey t (after.getD Int64.minValue) ≤ rowKey t' id := by
      cases after with
      | none => exact hlow
      | some a => exact List.le_of_lt hlow
    -- both bounds lie behind the table's prefix, so the key does too
    have hpre : tablePrefix t <+: tablePrefix t' ++ encodeId id := prefix_of_le_of_le hlow' hhigh
    obtain rfl : t' = t := ((tablePrefix_prefix_iff ht ht' (encodeId id)).mp hpre).symm
    refine ⟨rfl, ?_⟩
    cases after with
    | none => rfl
    | some a => simpa [rowKey_lt_rowKey_iff] using hlow
  · rintro ⟨rfl, hafter⟩
    refine ⟨?_, (rowKey_le_rowKey_iff _ _ _).mpr (Int64.le_maxValue id)⟩
    cases after with
    | none => exact (rowKey_le_rowKey_iff _ _ _).mpr (Int64.minValue_le id)
    | some a => exact (rowKey_lt_rowKey_iff _ _ _).mpr (by simpa using hafter)

/-- The id read back from a key past its table's prefix is the row's id, so a key in a scan's range
always reads as an id. -/
theorem decodeId_drop_tablePrefix (t : String) (id : Int64) :
    decodeId ((rowKey t id).drop (tablePrefix t).length) = some id := by
  rw [rowKey, List.drop_left, decodeId_encodeId]

/-! ## The layout as a whole -/

/-- The laws of the key layout together: ids are written in their own order and read back,
exactly the eight-byte strings are ids, two rows share a key only when they are one row, and a
table's prefix begins exactly its own rows' keys. Names are bounded only by what a 64-bit length
can write; a string slice holds fewer bytes than that. -/
theorem keys_ordered_prefix_free :
    (∀ a b : Int64, a < b ↔ encodeId a < encodeId b) ∧
    (∀ a : Int64, decodeId (encodeId a) = some a) ∧
    (∀ bs : List UInt8, (decodeId bs).isSome ↔ bs.length = 8) ∧
    (∀ (bs : List UInt8) (a : Int64), decodeId bs = some a → encodeId a = bs) ∧
    ∀ t₁ t₂ : String, t₁.utf8ByteSize < 2 ^ 64 → t₂.utf8ByteSize < 2 ^ 64 → ∀ i₁ i₂ : Int64,
      (rowKey t₁ i₁ = rowKey t₂ i₂ ↔ t₁ = t₂ ∧ i₁ = i₂) ∧
      (tablePrefix t₁ <+: rowKey t₂ i₂ ↔ t₁ = t₂) :=
  ⟨fun a b => (encodeId_lt_encodeId_iff a b).symm, decodeId_encodeId, decodeId_isSome_iff,
    fun _ _ => encodeId_of_decodeId,
    fun _ _ h₁ h₂ _ i₂ => ⟨rowKey_inj h₁ h₂, tablePrefix_prefix_iff h₁ h₂ (encodeId i₂)⟩⟩

/-- A name holding a NUL byte after another name is a table of its own. -/
theorem tablePrefix_nul_apart :
    ("a".utf8ByteSize < 2 ^ 64 ∧ "a\x00b".utf8ByteSize < 2 ^ 64) ∧
      ¬ tablePrefix "a" <+: rowKey "a\x00b" 1 :=
  ⟨⟨by decide, by decide⟩, fun h =>
    absurd ((keys_ordered_prefix_free.2.2.2.2 "a" "a\x00b" (by decide) (by decide) 1 1).2.mp h)
      (by decide)⟩

end TableMigration.Store
