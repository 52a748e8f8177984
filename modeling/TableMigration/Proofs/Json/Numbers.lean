import TableMigration.Proofs.Json.Text

/-!
# Proofs.Json.Numbers

How the reader takes back the numbers the writer prints.

* The digits of a natural number up to `2^64 - 1` read into the significand without overflow
  and give the number itself (`Cursor.readNumber_whole`), so the text of a signed 64-bit
  integer reads back as it (`readInt64_text`).
* The reader of a number looks one byte past it and no further: when that byte cannot extend
  a number (`EndsNumber`), reading a number's text followed by more is reading the text alone
  (`Cursor.readNumber_extend`). This is what carries a number read on its own into the middle
  of a document.
* A negative integer the reader gives is below zero (`Cursor.readNumber_normal`): `-0` is the
  double `-0.0`.

A double's text is not read back here: doubles are computed by the platform's floating point,
which the logic does not open.
-/

namespace TableMigration.Json

/-! ## Digits -/

/-- A significand after the digit bytes `ds`. -/
def digitsValue (sig : Nat) (ds : List UInt8) : Nat := ds.foldl (fun s b => s * 10 + digitValue b) sig

theorem le_digitsValue (sig : Nat) (ds : List UInt8) : sig ≤ digitsValue sig ds := by
  induction ds generalizing sig with
  | nil => simp [digitsValue]
  | cons b ds ih =>
    have := ih (sig * 10 + digitValue b)
    simp only [digitsValue, List.foldl_cons] at *
    omega

theorem isDigit_iff {b : UInt8} : isDigit b = true ↔ 48 ≤ b.toNat ∧ b.toNat ≤ 57 := by
  simp only [isDigit, Bool.and_eq_true, decide_eq_true_eq, UInt8.le_iff_toNat_le]
  rfl

theorem isBlank_iff {b : UInt8} :
    Cursor.isBlank b = true ↔ b.toNat = 32 ∨ b.toNat = 10 ∨ b.toNat = 9 ∨ b.toNat = 13 := by
  simp only [Cursor.isBlank, Bool.or_eq_true, beq_iff_eq, ← UInt8.toNat_inj, UInt8.reduceToNat]
  omega

/-- A digit is no blank. -/
theorem isBlank_of_isDigit {b : UInt8} (h : isDigit b = true) : Cursor.isBlank b = false := by
  have := isDigit_iff.mp h
  cases hb : Cursor.isBlank b
  · rfl
  · have := isBlank_iff.mp hb
    omega

theorem digitValue_eq {b : UInt8} (h : isDigit b = true) : digitValue b = b.toNat - 48 := by
  have h48 : (48 : UInt8) ≤ b := UInt8.le_iff_toNat_le.mpr (isDigit_iff.mp h).1
  simp only [digitValue, UInt8.toNat_sub_of_le _ _ h48]
  rfl

theorem digitValue_lt {b : UInt8} (h : isDigit b = true) : digitValue b < 10 := by
  have := isDigit_iff.mp h
  rw [digitValue_eq h]
  omega

/-- The overflow test of the significand is `sig * 10 + d > limit`. -/
theorem overflows_eq {sig d limit : Nat} (hd : d < 10) :
    overflows sig d limit = decide (limit < sig * 10 + d) := by
  simp only [overflows]
  by_cases h1 : limit / 10 ≤ sig <;> by_cases h2 : limit / 10 < sig <;> by_cases h3 : limit % 10 < d <;>
    simp [h1, h2, h3] <;> omega

namespace Cursor

/-- Digits are read into the significand while it fits. -/
theorem takeSignificand_digits {ds rest : List UInt8} (hd : ∀ b ∈ ds, isDigit b = true)
    {sig : Nat} (hfit : digitsValue sig ds ≤ u64Max) (count : Nat) {c : Cursor} (h : c.rest = ds ++ rest) :
    ∃ c' : Cursor, c'.rest = rest ∧
      c.takeSignificand sig count = c'.takeSignificand (digitsValue sig ds) (count + ds.length) := by
  induction ds generalizing sig count c with
  | nil => exact ⟨c, by simpa using h, by simp [digitsValue]⟩
  | cons b ds ih =>
    have hb := hd b List.mem_cons_self
    have hle := le_digitsValue (sig * 10 + digitValue b) ds
    have hnext : digitsValue sig (b :: ds) = digitsValue (sig * 10 + digitValue b) ds := rfl
    obtain ⟨c', hc', heq⟩ := ih (fun x hx => hd x (List.mem_cons_of_mem _ hx)) (hnext ▸ hfit)
      (count + 1) (c := c.step b (ds ++ rest)) rfl
    refine ⟨c', hc', ?_⟩
    rw [takeSignificand]
    split
    · next h' => simp [h] at h'
    · next h' =>
      simp only [h, List.cons_append, List.cons.injEq] at h'
      obtain ⟨rfl, rfl⟩ := h'
      have hover : overflows sig (digitValue b) u64Max = false := by
        rw [overflows_eq (digitValue_lt hb)]
        simp
        omega
      simp only [hb, hover, if_true, Bool.false_eq_true, if_false, heq, hnext, List.length_cons]
      congr 1
      omega

/-- The significand stops before a byte that is no digit. -/
theorem takeSignificand_stop {c : Cursor} (h : ∀ b ∈ c.rest.head?, isDigit b = false) (sig count : Nat) :
    c.takeSignificand sig count = (sig, count, false, c) := by
  rw [takeSignificand]
  split
  · rfl
  · next b r h' => simp [h b (by simp [h'])]

end Cursor

/-! ## Whole numbers -/

/-- What may follow a number's text without extending it: the end, or a byte that is no digit,
decimal point or exponent mark. -/
def EndsNumber (rest : List UInt8) : Prop :=
  ∀ b ∈ rest.head?, isDigit b = false ∧ b ≠ 46 ∧ isExponentMark b = false

theorem EndsNumber.noDigit {rest : List UInt8} (h : EndsNumber rest) : ∀ b ∈ rest.head?, isDigit b = false :=
  fun b hb => (h b hb).1

theorem isDigit_char {c : Char} (h : c.isDigit = true) : isDigit c.toNat.toUInt8 = true ∧ c.toNat < 128 := by
  simp only [Char.isDigit, Bool.and_eq_true, decide_eq_true_eq] at h
  have h1 : 48 ≤ c.toNat ∧ c.toNat ≤ 57 := ⟨h.1, h.2⟩
  refine ⟨isDigit_iff.mpr ?_, by omega⟩
  simp only [Nat.toUInt8, UInt8.toNat_ofNat']
  omega

/-- The bytes of a natural number's decimal text, one per digit. -/
theorem toString_bytes (n : Nat) :
    (toString n).toUTF8.toList = (Nat.toDigits 10 n).map fun c => c.toNat.toUInt8 := by
  rw [bytes_eq, Nat.toString_eq_ofList_toDigits, String.toList_ofList]
  have hdig : ∀ c ∈ Nat.toDigits 10 n, c.isDigit = true :=
    fun c hc => Nat.isDigit_of_mem_toDigits (by decide) (by decide) hc
  generalize Nat.toDigits 10 n = l at hdig
  induction l with
  | nil => rfl
  | cons c cs ih =>
    have hc := isDigit_char (hdig c List.mem_cons_self)
    rw [List.flatMap_cons, utf8EncodeChar_ascii hc.2, List.map_cons,
      ih fun x hx => hdig x (List.mem_cons_of_mem _ hx)]
    rfl

theorem digitsValue_toDigits (l : List Char) (hl : ∀ c ∈ l, c.isDigit = true) (acc : Nat) :
    digitsValue acc (l.map fun c => c.toNat.toUInt8) = Nat.ofDigitChars 10 l acc := by
  induction l generalizing acc with
  | nil => rfl
  | cons c cs ih =>
    have hc := isDigit_char (hl c List.mem_cons_self)
    have hv : digitValue c.toNat.toUInt8 = c.toNat - 48 := by
      rw [digitValue_eq hc.1]
      simp only [Nat.toUInt8, UInt8.toNat_ofNat']
      omega
    rw [List.map_cons, Nat.ofDigitChars_cons, ← ih (fun x hx => hl x (List.mem_cons_of_mem _ hx))]
    have h0 : '0'.toNat = 48 := rfl
    simp only [digitsValue, List.foldl_cons, hv, h0]
    congr 1
    omega

/-- A positive number's text does not start with a zero. -/
theorem toDigits_head {n : Nat} (hn : 0 < n) : ∃ d ds, Nat.toDigits 10 n = d :: ds ∧ d ≠ '0' := by
  induction n using Nat.strongRecOn with
  | _ n ih =>
    rw [Nat.toDigits_eq_if (by decide)]
    split
    · next hlt => exact ⟨_, [], rfl, by simp; omega⟩
    · next hge =>
      obtain ⟨d, ds, hds, hd⟩ := ih (n / 10) (by omega) (by omega)
      exact ⟨d, ds ++ _, by rw [hds]; rfl, hd⟩

namespace Cursor

/-- Past the digits of a whole number, the number itself. -/
theorem afterInteger_end {c : Cursor} (h : EndsNumber c.rest) (positive : Bool) (sig : Nat) :
    c.afterInteger positive sig = .ok (Number.ofWhole positive sig, c) := by
  unfold afterInteger
  cases hr : c.rest with
  | nil => simp [peek, hr]
  | cons b r =>
    obtain ⟨-, h46, hmark⟩ := h b (by simp [hr])
    simp [peek, hr, hmark]

/-- The decimal text of a 64-bit natural number reads as that number, with its sign. -/
theorem readNumber_whole (positive : Bool) {n : Nat} (hn : n ≤ u64Max) {c : Cursor} {rest : List UInt8}
    (h : c.rest = (toString n).toUTF8.toList ++ rest) (hend : EndsNumber rest) :
    ∃ c' : Cursor, c.readNumber positive = .ok (Number.ofWhole positive n, c') ∧ c'.rest = rest := by
  rw [toString_bytes] at h
  have hdig : ∀ c ∈ Nat.toDigits 10 n, c.isDigit = true :=
    fun c hc => Nat.isDigit_of_mem_toDigits (by decide) (by decide) hc
  rcases Nat.eq_zero_or_pos n with rfl | hpos
  · -- a lone zero
    refine ⟨c.step 48 rest, ?_, rfl⟩
    have h0 : c.rest = 48 :: rest := by rw [h]; rfl
    have hpeek : ∀ d ∈ (c.step 48 rest).peek, isDigit d = false := hend.noDigit
    unfold readNumber
    rw [h0]
    simp only [beq_self_eq_true, if_true]
    cases hp : (c.step 48 rest).peek with
    | none => exact afterInteger_end (c := c.step 48 rest) hend positive 0
    | some d => simp [hpeek d hp, afterInteger_end (c := c.step 48 rest) hend positive 0]
  · obtain ⟨d, ds, hds, hd0⟩ := toDigits_head hpos
    have hd := isDigit_char (hdig d (by simp [hds]))
    have hdsd : ∀ x ∈ ds.map (fun c => c.toNat.toUInt8), isDigit x = true := by
      intro x hx
      obtain ⟨y, hy, rfl⟩ := List.mem_map.mp hx
      exact (isDigit_char (hdig y (by simp [hds, hy]))).1
    have hval : digitsValue (digitValue d.toNat.toUInt8) (ds.map fun c => c.toNat.toUInt8) = n := by
      have := digitsValue_toDigits (Nat.toDigits 10 n) hdig 0
      rw [Nat.ofDigitChars_ten_toDigits, hds, List.map_cons] at this
      simpa [digitsValue] using this
    have hne : d.toNat.toUInt8 ≠ 48 := by
      intro h48
      have h8 := congrArg UInt8.toNat h48
      simp at h8
      have h' : d.toNat = 48 := by omega
      exact hd0 (char_eq_ofNat h')
    rw [hds, List.map_cons, List.cons_append] at h
    obtain ⟨c', hc', htake⟩ := takeSignificand_digits hdsd (hval ▸ hn) 1
      (c := c.step d.toNat.toUInt8 (ds.map (fun c => c.toNat.toUInt8) ++ rest)) rfl
    rw [hval] at htake
    have hstop := takeSignificand_stop (c := c') (hc' ▸ hend.noDigit) n
      (1 + (ds.map fun c => c.toNat.toUInt8).length)
    refine ⟨c', ?_, hc'⟩
    unfold readNumber
    rw [h]
    simp only [hne, hd.1, htake, hstop, beq_iff_eq, if_false, if_true]
    exact afterInteger_end (hc' ▸ hend) positive n

end Cursor

/-! ## Signed integers -/

theorem ofWhole_true {n : Nat} : Number.ofWhole true n = .nat n.toUInt64 := rfl

theorem ofWhole_false {m : Nat} (h1 : 1 ≤ m) (h2 : m ≤ Nat.pow 2 63) :
    Number.ofWhole false m = .neg (Int64.ofInt (-(m : Int))) := by
  have : ¬ (m = 0 ∨ Nat.pow 2 63 < m) := by omega
  simp [Number.ofWhole, this]

/-- A signed integer's text: its digits, after a minus sign when it is negative. -/
theorem int_toString (a : Int) :
    toString a = if 0 ≤ a then toString a.toNat else "-" ++ toString (-a).toNat := by
  rw [Int.toString_eq_repr, Int.repr_eq_if, Nat.toString_eq_repr, Nat.toString_eq_repr]

theorem int64_of_nonneg {i : Int64} (h : 0 ≤ i.toInt) : (i.toInt.toNat.toUInt64).toInt64 = i := by
  apply Int64.toInt_inj.mp
  have := i.toInt_lt
  simp only [Nat.toUInt64, UInt64.toInt64_ofNat']
  rw [Int64.toInt_ofNat_of_lt (by omega), Int.toNat_of_nonneg h]

theorem int64_of_neg {i : Int64} (h : i.toInt < 0) :
    Int64.ofInt (-((-i.toInt).toNat : Int)) = i := by
  rw [Int.toNat_of_nonneg (by omega), Int.neg_neg, Int64.ofInt_toInt]

theorem neg_ofInt_lt_zero {m : Nat} (h1 : 1 ≤ m) (h2 : m ≤ Nat.pow 2 63) :
    Int64.ofInt (-(m : Int)) < 0 := by
  rw [Int64.lt_iff_toInt_lt, Int64.toInt_ofInt, Int.bmod_def]
  simp only [Int64.size, Int64.toInt_zero]
  have : Nat.pow 2 63 = 9223372036854775808 := rfl
  split <;> omega

/-- The first byte of a natural number's text is a digit. -/
theorem toString_bytes_head (n : Nat) :
    ∃ b bs, (toString n).toUTF8.toList = b :: bs ∧ isDigit b = true := by
  rw [toString_bytes]
  cases hl : Nat.toDigits 10 n with
  | nil => exact absurd hl Nat.toDigits_ne_nil
  | cons d ds =>
    have hd : d.isDigit = true :=
      Nat.isDigit_of_mem_toDigits (b := 10) (by decide) (by decide) (by rw [hl]; exact List.mem_cons_self)
    exact ⟨_, _, rfl, (isDigit_char hd).1⟩

/-- The text of a signed 64-bit integer reads back as it. -/
theorem readInt64_text (i : Int64) {c : Cursor} {rest : List UInt8}
    (h : c.rest = (toString i.toInt).toUTF8.toList ++ rest) (hend : EndsNumber rest) :
    ∃ c' : Cursor, readInt64 c = .ok (i, c') ∧ c'.rest = rest := by
  have hlt := i.toInt_lt
  have hge := i.le_toInt
  have hmax : u64Max = 18446744073709551615 := rfl
  have h63 : Nat.pow 2 63 = 9223372036854775808 := rfl
  rw [int_toString] at h
  split at h
  · next hnn =>
    obtain ⟨b, bs, hbs, hb⟩ := toString_bytes_head i.toInt.toNat
    obtain ⟨c', hread, hc'⟩ := Cursor.readNumber_whole true (n := i.toInt.toNat) (by omega) h hend
    refine ⟨c', ?_, hc'⟩
    rw [hbs, List.cons_append] at h
    have hskip := Cursor.skipBlanks_of_cons h (isBlank_of_isDigit hb)
    have h45 : b ≠ 45 := by rintro rfl; exact absurd hb (by decide)
    have hsmall : i.toInt.toNat.toUInt64.toNat < Nat.pow 2 63 := by
      simp only [Nat.toUInt64, UInt64.toNat_ofNat']
      omega
    simp only [readInt64, readNumberAs, hskip]
    rw [h]
    simp only [h45, hb, beq_iff_eq, if_false, if_true, hread, ofWhole_true, Number.asInt64, hsmall,
      int64_of_nonneg hnn]
  · next hneg =>
    have hneg' : i.toInt < 0 := by omega
    rw [bytes_append, List.append_assoc] at h
    have h45 : ("-" : String).toUTF8.toList = [45] := by rw [bytes_eq]; rfl
    rw [h45, List.cons_append, List.nil_append] at h
    obtain ⟨c', hread, hc'⟩ := Cursor.readNumber_whole false (n := (-i.toInt).toNat)
      (by omega) (c := c.step 45 _) rfl hend
    refine ⟨c', ?_, hc'⟩
    have hskip := Cursor.skipBlanks_of_cons h (by decide)
    rw [ofWhole_false (by omega) (by omega), int64_of_neg hneg'] at hread
    simp only [readInt64, readNumberAs, hskip]
    rw [h]
    simp only [beq_self_eq_true, if_true, hread, Number.asInt64]

/-! ## Reading past the end of a number

A number's reader looks one byte past the number: to see that no digit, point or exponent
follows. When that byte is no such byte, reading the number's text followed by it is reading the
text alone. -/

namespace Cursor

theorem takeSignificand_cons {c : Cursor} {b : UInt8} {r : List UInt8} (h : c.rest = b :: r)
    (sig count : Nat) :
    c.takeSignificand sig count =
      if isDigit b then
        if overflows sig (digitValue b) u64Max then (sig, count, true, c)
        else (c.step b r).takeSignificand (sig * 10 + digitValue b) (count + 1)
      else (sig, count, false, c) := by
  rw [takeSignificand]
  split
  · next h' => simp [h] at h'
  · next h' =>
    simp only [h, List.cons.injEq] at h'
    obtain ⟨rfl, rfl⟩ := h'
    rfl

theorem skipDigits_cons {c : Cursor} {b : UInt8} {r : List UInt8} (h : c.rest = b :: r) (count : Nat) :
    c.skipDigits count = if isDigit b then (c.step b r).skipDigits (count + 1) else (count, c) := by
  rw [skipDigits]
  split
  · next h' => simp [h] at h'
  · next h' =>
    simp only [h, List.cons.injEq] at h'
    obtain ⟨rfl, rfl⟩ := h'
    rfl

theorem skipDigits_stop {c : Cursor} (h : ∀ b ∈ c.rest.head?, isDigit b = false) (count : Nat) :
    c.skipDigits count = (count, c) := by
  rw [skipDigits]
  split
  · rfl
  · next b r h' => simp [h b (by simp [h'])]

variable {t : List UInt8}

theorem takeSignificand_extend (ht : ∀ b ∈ t.head?, isDigit b = false) (c : Cursor) (sig count : Nat)
    {d : Cursor} (h : d.rest = c.rest ++ t) :
    ∃ d' : Cursor, d.takeSignificand sig count = ((c.takeSignificand sig count).1,
        (c.takeSignificand sig count).2.1, (c.takeSignificand sig count).2.2.1, d') ∧
      d'.rest = (c.takeSignificand sig count).2.2.2.rest ++ t := by
  fun_induction c.takeSignificand sig count generalizing d with
  | case1 c sig count hc =>
    rw [hc, List.nil_append] at h
    exact ⟨d, takeSignificand_stop (h ▸ ht) sig count, by simp [h, hc]⟩
  | case2 c sig count b r hc hb hover =>
    rw [hc, List.cons_append] at h
    exact ⟨d, by rw [takeSignificand_cons h, if_pos hb, if_pos hover], by simp [h, hc]⟩
  | case3 c sig count b r hc hb hover ih =>
    rw [hc, List.cons_append] at h
    obtain ⟨d', hd', hrest⟩ := ih (d := d.step b (r ++ t)) rfl
    exact ⟨d', by rw [takeSignificand_cons h, if_pos hb, if_neg hover, hd'], hrest⟩
  | case4 c sig count b r hc hb =>
    rw [hc, List.cons_append] at h
    exact ⟨d, by rw [takeSignificand_cons h, if_neg hb], by simp [h, hc]⟩

theorem skipDigits_extend (ht : ∀ b ∈ t.head?, isDigit b = false) (c : Cursor) (count : Nat)
    {d : Cursor} (h : d.rest = c.rest ++ t) :
    (d.skipDigits count).1 = (c.skipDigits count).1 ∧
      (d.skipDigits count).2.rest = (c.skipDigits count).2.rest ++ t := by
  fun_induction c.skipDigits count generalizing d with
  | case1 c count hc =>
    rw [hc, List.nil_append] at h
    simp [skipDigits_stop (h ▸ ht), h, hc]
  | case2 c count b r hc hb ih =>
    rw [hc, List.cons_append] at h
    rw [skipDigits_cons h, if_pos hb]
    exact ih rfl
  | case3 c count b r hc hb =>
    rw [hc, List.cons_append] at h
    simp [skipDigits_cons h, hb, h, hc]

/-- A double made from its parts does not depend on where the cursor stands. -/
theorem fromParts_ok {c c' : Cursor} {positive : Bool} {sig : Nat} {e : Int} {n : Number}
    (h : c.fromParts positive sig e = .ok (n, c')) :
    c' = c ∧ ∀ d : Cursor, d.fromParts positive sig e = .ok (n, d) := by
  unfold fromParts at h ⊢
  split at h
  · cases h
  · next f hf =>
    simp only [Except.ok.injEq, Prod.mk.injEq] at h
    obtain ⟨rfl, rfl⟩ := h
    exact ⟨rfl, fun d => by simp⟩

theorem exponentDigits_cons {c : Cursor} {b : UInt8} {r : List UInt8} (h : c.rest = b :: r)
    (positive : Bool) (sig : Nat) (start : Int) (positiveExp : Bool) (e : Nat) :
    c.exponentDigits positive sig start positiveExp e =
      if isDigit b then
        if overflows e (digitValue b) 2147483647 then
          if (sig != 0 && positiveExp) = true then
            .error ((c.step b r).failHere (.flaw .numberOutOfRange))
          else .ok (.float (if positive then 0.0 else -0.0), ((c.step b r).skipDigits 0).2)
        else (c.step b r).exponentDigits positive sig start positiveExp (e * 10 + digitValue b)
      else c.fromParts positive sig (clampI32 (if positiveExp then start + e else start - e)) := by
  rw [exponentDigits]
  split
  · next h' =>
    simp only [h, List.cons.injEq] at h'
    obtain ⟨rfl, rfl⟩ := h'
    rfl
  · next h' => simp [h] at h'

theorem exponentDigits_nil {c : Cursor} (h : c.rest = []) (positive : Bool) (sig : Nat) (start : Int)
    (positiveExp : Bool) (e : Nat) :
    c.exponentDigits positive sig start positiveExp e =
      c.fromParts positive sig (clampI32 (if positiveExp then start + e else start - e)) := by
  rw [exponentDigits]
  split
  · next h' => simp [h] at h'
  · rfl

theorem exponentDigits_extend (ht : EndsNumber t) {c d : Cursor} (h : d.rest = c.rest ++ t)
    {positive : Bool} {sig : Nat} {start : Int} {positiveExp : Bool} {e : Nat} {n : Number} {c' : Cursor}
    (hc : c.exponentDigits positive sig start positiveExp e = .ok (n, c')) :
    ∃ d' : Cursor, d.exponentDigits positive sig start positiveExp e = .ok (n, d') ∧
      d'.rest = c'.rest ++ t := by
  fun_induction c.exponentDigits positive sig start positiveExp e generalizing d with
  | case1 => cases hc
  | case2 c e b r hr hb c1 hover herr k c2 =>
    rename_i hskip
    have hskip' : (c.step b r).skipDigits 0 = (k, c2) := hskip
    rw [hr, List.cons_append] at h
    simp only [Except.ok.injEq, Prod.mk.injEq] at hc
    obtain ⟨rfl, rfl⟩ := hc
    have hext := skipDigits_extend (fun b hb => (ht b hb).1) (c.step b r) 0 (d := d.step b (r ++ t)) rfl
    refine ⟨((d.step b (r ++ t)).skipDigits 0).2, ?_, by rw [hext.2, hskip']⟩
    rw [exponentDigits_cons h, if_pos hb, if_pos hover, if_neg herr]
  | case3 c e b r hr hb c1 hover =>
    rename_i ih
    rw [hr, List.cons_append] at h
    obtain ⟨d', hd', hrest⟩ := ih (d := d.step b (r ++ t)) rfl hc
    exact ⟨d', by rw [exponentDigits_cons h, if_pos hb, if_neg hover, hd'], hrest⟩
  | case4 c e b r hr hb =>
    rw [hr, List.cons_append] at h
    obtain ⟨rfl, hd⟩ := fromParts_ok hc
    exact ⟨d, by rw [exponentDigits_cons h, if_neg hb, hd], by rw [h, hr, List.cons_append]⟩
  | case5 c e hr =>
    rw [hr, List.nil_append] at h
    obtain ⟨rfl, hd⟩ := fromParts_ok hc
    refine ⟨d, ?_, by simp [h, hr]⟩
    cases ht' : t with
    | nil => rw [exponentDigits_nil (h.trans ht'), hd]
    | cons b r =>
      have hb := (ht b (by simp [ht'])).1
      rw [exponentDigits_cons (h.trans ht'), if_neg (by simp [hb]), hd]

/-- The sign of an exponent, read after its mark: `+`, `-` or none. -/
def exponentSign (c : Cursor) : Bool × Cursor :=
  match c.rest with
  | 43 :: _ => (true, c.advance)
  | 45 :: _ => (false, c.advance)
  | _ => (true, c)

/-- An exponent's digits after its sign. -/
def exponentValue (c : Cursor) (positive : Bool) (sig : Nat) (start : Int) (positiveExp : Bool) :
    Except Error (Number × Cursor) :=
  match c.rest with
  | [] => .error (c.failHere (.flaw .eofValue))
  | b :: r =>
    if isDigit b then (c.step b r).exponentDigits positive sig start positiveExp (digitValue b)
    else .error ((c.step b r).failHere (.flaw .invalidNumber))

theorem exponentPart_eq (c : Cursor) (positive : Bool) (sig : Nat) (start : Int) :
    c.exponentPart positive sig start =
      (c.advance.exponentSign).2.exponentValue positive sig start (c.advance.exponentSign).1 := rfl

theorem exponentSign_extend {c d : Cursor} (h : d.rest = c.rest ++ t) (hne : c.rest ≠ []) :
    (d.exponentSign).1 = (c.exponentSign).1 ∧ (d.exponentSign).2.rest = (c.exponentSign).2.rest ++ t := by
  obtain ⟨x, r, hr⟩ := List.exists_cons_of_ne_nil hne
  rw [hr, List.cons_append] at h
  unfold exponentSign
  rw [hr, h]
  split <;> split <;> simp_all [advance]

theorem exponentValue_extend (ht : EndsNumber t) {c d : Cursor} (h : d.rest = c.rest ++ t)
    {positive : Bool} {sig : Nat} {start : Int} {positiveExp : Bool} {n : Number} {c' : Cursor}
    (hc : c.exponentValue positive sig start positiveExp = .ok (n, c')) :
    ∃ d' : Cursor, d.exponentValue positive sig start positiveExp = .ok (n, d') ∧ d'.rest = c'.rest ++ t := by
  unfold exponentValue at hc ⊢
  cases hr : c.rest with
  | nil => simp [hr] at hc
  | cons b r =>
    rw [hr, List.cons_append] at h
    rw [hr] at hc
    rw [h]
    by_cases hb : isDigit b = true
    · simp only [hb, if_true] at hc ⊢
      exact exponentDigits_extend ht rfl hc
    · simp [hb] at hc

theorem exponentPart_extend (ht : EndsNumber t) {c d : Cursor} (h : d.rest = c.rest ++ t)
    {positive : Bool} {sig : Nat} {start : Int} {n : Number} {c' : Cursor}
    (hc : c.exponentPart positive sig start = .ok (n, c')) :
    ∃ d' : Cursor, d.exponentPart positive sig start = .ok (n, d') ∧ d'.rest = c'.rest ++ t := by
  rw [exponentPart_eq] at hc ⊢
  -- the mark itself, then the sign, then the digits
  cases hr : c.rest with
  | nil => simp [advance, exponentSign, exponentValue, hr] at hc
  | cons m r0 =>
    rw [hr, List.cons_append] at h
    have hca : c.advance.rest = r0 := advance_rest hr
    have hda : d.advance.rest = r0 ++ t := advance_rest h
    cases r0 with
    | nil =>
      have hsign : c.advance.exponentSign = (true, c.advance) := by simp [exponentSign, hca]
      simp [hsign, exponentValue, hca] at hc
    | cons x r1 =>
      obtain ⟨hs1, hs2⟩ := exponentSign_extend (c := c.advance) (d := d.advance) (by rw [hca, hda])
        (by simp [hca])
      rw [hs1]
      exact exponentValue_extend ht hs2 hc

theorem peek_extend {c d : Cursor} (h : d.rest = c.rest ++ t) (hne : c.rest ≠ []) : d.peek = c.peek := by
  obtain ⟨x, r, hr⟩ := List.exists_cons_of_ne_nil hne
  simp [peek, h, hr]

/-- What may follow a double's digits: an exponent, or nothing more. -/
def doubleTail (c : Cursor) (positive : Bool) (sig : Nat) (exponent : Int) :
    Except Error (Number × Cursor) :=
  match c.peek with
  | some b => if isExponentMark b then c.exponentPart positive sig exponent else c.fromParts positive sig exponent
  | none => c.fromParts positive sig exponent

/-- Where no exponent follows, the digits read are the whole double. -/
theorem doubleTail_end {c : Cursor} (h : EndsNumber c.rest) (positive : Bool) (sig : Nat)
    (exponent : Int) : c.doubleTail positive sig exponent = c.fromParts positive sig exponent := by
  unfold doubleTail
  cases hr : c.rest with
  | nil => simp [peek, hr]
  | cons b r =>
    obtain ⟨-, -, hmark⟩ := h b (by simp [hr])
    simp [peek, hr, hmark]

theorem doubleTail_extend (ht : EndsNumber t) {c d : Cursor} (h : d.rest = c.rest ++ t)
    {positive : Bool} {sig : Nat} {exponent : Int} {n : Number} {c' : Cursor}
    (hc : c.doubleTail positive sig exponent = .ok (n, c')) :
    ∃ d' : Cursor, d.doubleTail positive sig exponent = .ok (n, d') ∧ d'.rest = c'.rest ++ t := by
  by_cases hne : c.rest = []
  · rw [doubleTail_end (by simp [hne, EndsNumber])] at hc
    obtain ⟨rfl, hd⟩ := fromParts_ok hc
    rw [hne, List.nil_append] at h
    exact ⟨d, by rw [doubleTail_end (h ▸ ht)]; exact hd d, by simp [h, hne]⟩
  · unfold doubleTail at hc ⊢
    rw [peek_extend h hne]
    cases hpc : c.peek with
    | none => exact absurd (by simpa [peek] using hpc) hne
    | some b =>
      rw [hpc] at hc
      by_cases hmark : isExponentMark b = true
      · simp only [hmark, if_true] at hc ⊢
        exact exponentPart_extend ht h hc
      · simp only [hmark, Bool.false_eq_true, if_false] at hc ⊢
        obtain ⟨rfl, hd⟩ := fromParts_ok hc
        exact ⟨d, hd d, h⟩

theorem fractionPart_eq (c : Cursor) (positive : Bool) (sig : Nat) (before : Int) :
    c.fractionPart positive sig before =
      match c.advance.takeSignificand sig 0 with
      | (sig, count, full, c) =>
        if full then (c.skipDigits 0).2.doubleTail positive sig (before - count)
        else if count = 0 then
          match c.peek with
          | some _ => .error (c.failPeek (.flaw .invalidNumber))
          | none => .error (c.failPeek (.flaw .eofValue))
        else c.doubleTail positive sig (before - count) := rfl

theorem fractionPart_extend (ht : EndsNumber t) {c d : Cursor} (h : d.rest = c.rest ++ t)
    {positive : Bool} {sig : Nat} {before : Int} {n : Number} {c' : Cursor}
    (hc : c.fractionPart positive sig before = .ok (n, c')) :
    ∃ d' : Cursor, d.fractionPart positive sig before = .ok (n, d') ∧ d'.rest = c'.rest ++ t := by
  rw [fractionPart_eq] at hc ⊢
  cases hr : c.rest with
  | nil =>
    have hadv : c.advance = c := by simp [advance, hr]
    rw [hadv, takeSignificand_stop (by simp [hr])] at hc
    simp [peek, hr] at hc
  | cons m r0 =>
    rw [hr, List.cons_append] at h
    obtain ⟨d2, hd2, hrest⟩ := takeSignificand_extend (fun b hb => (ht b hb).1) c.advance sig 0
      (d := d.advance) (by rw [advance_rest hr, advance_rest h])
    rw [hd2]
    rcases ha : c.advance.takeSignificand sig 0 with ⟨s1, k, full, c2⟩
    rw [ha] at hc hrest
    simp only at hc hrest ⊢
    split at hc
    · next hfull =>
      rw [if_pos hfull]
      exact doubleTail_extend ht (skipDigits_extend (fun b hb => (ht b hb).1) c2 0 hrest).2 hc
    · next hfull =>
      rw [if_neg hfull]
      split at hc
      · next hk => split at hc <;> cases hc
      · next hk =>
        rw [if_neg hk]
        exact doubleTail_extend ht hrest hc

theorem afterInteger_extend (ht : EndsNumber t) {c d : Cursor} (h : d.rest = c.rest ++ t)
    {positive : Bool} {sig : Nat} {n : Number} {c' : Cursor}
    (hc : c.afterInteger positive sig = .ok (n, c')) :
    ∃ d' : Cursor, d.afterInteger positive sig = .ok (n, d') ∧ d'.rest = c'.rest ++ t := by
  by_cases hne : c.rest = []
  · rw [afterInteger_end (by simp [hne, EndsNumber])] at hc
    simp only [Except.ok.injEq, Prod.mk.injEq] at hc
    obtain ⟨rfl, rfl⟩ := hc
    rw [hne, List.nil_append] at h
    exact ⟨d, afterInteger_end (h ▸ ht) positive sig, by simp [h, hne]⟩
  · unfold afterInteger at hc ⊢
    rw [peek_extend h hne]
    cases hpc : c.peek with
    | none => exact absurd (by simpa [peek] using hpc) hne
    | some b =>
      rw [hpc] at hc
      by_cases hb : b = 46
      · subst hb
        exact fractionPart_extend ht h hc
      · simp only at hc ⊢
        by_cases hmark : isExponentMark b = true
        · simp only [hmark, if_true] at hc ⊢
          exact exponentPart_extend ht h hc
        · simp only [hmark, Bool.false_eq_true, if_false, Except.ok.injEq, Prod.mk.injEq] at hc ⊢
          obtain ⟨rfl, rfl⟩ := hc
          exact ⟨d, ⟨rfl, rfl⟩, h⟩

/-- What may follow the digits of a number too long for 64 bits: a fraction, an exponent, or
nothing more. -/
def overflowTail (c : Cursor) (positive : Bool) (sig : Nat) (extra : Int) :
    Except Error (Number × Cursor) :=
  match c.peek with
  | some 46 => c.fractionPart positive sig extra
  | some x => if isExponentMark x then c.exponentPart positive sig extra else c.fromParts positive sig extra
  | none => c.fromParts positive sig extra

/-- Where no fraction or exponent follows, the digits read are the whole double. -/
theorem overflowTail_end {c : Cursor} (h : EndsNumber c.rest) (positive : Bool) (sig : Nat)
    (extra : Int) : c.overflowTail positive sig extra = c.fromParts positive sig extra := by
  unfold overflowTail
  cases hr : c.rest with
  | nil => simp [peek, hr]
  | cons b r =>
    -- the match's `some 46` arm is ruled out by `h46` from the context
    obtain ⟨-, h46, hmark⟩ := h b (by simp [hr])
    simp [peek, hr, hmark]

theorem overflowTail_extend (ht : EndsNumber t) {c d : Cursor} (h : d.rest = c.rest ++ t)
    {positive : Bool} {sig : Nat} {extra : Int} {n : Number} {c' : Cursor}
    (hc : c.overflowTail positive sig extra = .ok (n, c')) :
    ∃ d' : Cursor, d.overflowTail positive sig extra = .ok (n, d') ∧ d'.rest = c'.rest ++ t := by
  by_cases hne : c.rest = []
  · rw [overflowTail_end (by simp [hne, EndsNumber])] at hc
    obtain ⟨rfl, hd⟩ := fromParts_ok hc
    rw [hne, List.nil_append] at h
    exact ⟨d, by rw [overflowTail_end (h ▸ ht)]; exact hd d, by simp [h, hne]⟩
  · unfold overflowTail at hc ⊢
    rw [peek_extend h hne]
    cases hpc : c.peek with
    | none => exact absurd (by simpa [peek] using hpc) hne
    | some b =>
      rw [hpc] at hc
      by_cases hb : b = 46
      · subst hb
        exact fractionPart_extend ht h hc
      · simp only at hc ⊢
        by_cases hmark : isExponentMark b = true
        · simp only [hmark, if_true] at hc ⊢
          exact exponentPart_extend ht h hc
        · simp only [hmark, Bool.false_eq_true, if_false] at hc ⊢
          obtain ⟨rfl, hd⟩ := fromParts_ok hc
          exact ⟨d, hd d, h⟩

theorem readNumber_eq (c : Cursor) (positive : Bool) :
    c.readNumber positive =
      match c.rest with
      | [] => .error (c.failHere (.flaw .eofValue))
      | b :: r =>
        if b == 48 then
          match (c.step b r).peek with
          | some d =>
            if isDigit d then .error ((c.step b r).failPeek (.flaw .invalidNumber))
            else (c.step b r).afterInteger positive 0
          | none => (c.step b r).afterInteger positive 0
        else if isDigit b then
          match (c.step b r).takeSignificand (digitValue b) 1 with
          | (sig, _, full, c2) =>
            if full then (c2.skipDigits 0).2.overflowTail positive sig (c2.skipDigits 0).1
            else c2.afterInteger positive sig
        else .error ((c.step b r).failHere (.flaw .invalidNumber)) := rfl

/-- Reading a number does not look past the byte after it. -/
theorem readNumber_extend (ht : EndsNumber t) {c d : Cursor} (h : d.rest = c.rest ++ t)
    {positive : Bool} {n : Number} {c' : Cursor} (hc : c.readNumber positive = .ok (n, c')) :
    ∃ d' : Cursor, d.readNumber positive = .ok (n, d') ∧ d'.rest = c'.rest ++ t := by
  rw [readNumber_eq] at hc ⊢
  cases hr : c.rest with
  | nil => simp [hr] at hc
  | cons b r =>
    rw [hr] at hc
    rw [h, hr, List.cons_append]
    simp only at hc ⊢
    have h1 : (d.step b (r ++ t)).rest = (c.step b r).rest ++ t := rfl
    by_cases h48 : b = 48
    · -- a leading zero: what follows it may not be a digit
      subst h48
      simp only [beq_self_eq_true, if_true] at hc ⊢
      cases r with
      | nil =>
        have hpc : (c.step 48 []).peek = none := rfl
        rw [hpc] at hc
        obtain ⟨d', hd', hrest⟩ := afterInteger_extend ht h1 hc
        refine ⟨d', ?_, hrest⟩
        cases hpd : (d.step 48 ([] ++ t)).peek with
        | none => exact hd'
        | some x =>
          have hx := (ht x (by simpa [peek] using hpd)).1
          simp only [hx, Bool.false_eq_true, if_false]
          exact hd'
      | cons x r1 =>
        have hp : (d.step 48 (x :: r1 ++ t)).peek = (c.step 48 (x :: r1)).peek := rfl
        rw [hp]
        cases hpc : (c.step 48 (x :: r1)).peek with
        | none => simp [peek] at hpc
        | some y =>
          rw [hpc] at hc
          by_cases hy : isDigit y = true
          · simp [hy] at hc
          · simp only [hy, Bool.false_eq_true, if_false] at hc ⊢
            exact afterInteger_extend ht h1 hc
    · have h48' : (b == 48) = false := by simpa using h48
      simp only [h48', Bool.false_eq_true, if_false] at hc ⊢
      by_cases hb : isDigit b = true
      · simp only [hb, if_true] at hc ⊢
        obtain ⟨d2, hd2, hrest⟩ := takeSignificand_extend (fun b hb => (ht b hb).1) (c.step b r)
          (digitValue b) 1 h1
        rw [hd2]
        rcases ha : (c.step b r).takeSignificand (digitValue b) 1 with ⟨s1, k, full, c2⟩
        rw [ha] at hc hrest
        simp only at hc hrest ⊢
        split at hc
        · next hfull =>
          rw [if_pos hfull]
          have hskip := skipDigits_extend (fun b hb => (ht b hb).1) c2 0 hrest
          rw [hskip.1]
          exact overflowTail_extend ht hskip.2 hc
        · next hfull =>
          rw [if_neg hfull]
          exact afterInteger_extend ht hrest hc
      · simp [hb] at hc

end Cursor

/-! ## The numbers the reader gives -/

/-- A number as the reader gives it: a negative integer is below zero (a negative zero is a
double). -/
def Number.Normal : Number → Prop
  | .neg i => i < 0
  | _ => True

theorem Number.normal_float (f : Float) : (Number.float f).Normal := trivial

theorem Number.normal_ofWhole (positive : Bool) (sig : Nat) : (Number.ofWhole positive sig).Normal := by
  unfold Number.ofWhole
  split
  · trivial
  · split
    · trivial
    · next h => exact neg_ofInt_lt_zero (by omega) (by omega)

namespace Cursor

theorem fromParts_normal {c c' : Cursor} {positive : Bool} {sig : Nat} {e : Int} {n : Number}
    (h : c.fromParts positive sig e = .ok (n, c')) : n.Normal := by
  unfold fromParts at h
  split at h
  · cases h
  · simp only [Except.ok.injEq, Prod.mk.injEq] at h
    rw [← h.1]
    trivial

theorem exponentDigits_normal {c c' : Cursor} {positive : Bool} {sig : Nat} {start : Int}
    {positiveExp : Bool} {e : Nat} {n : Number}
    (h : c.exponentDigits positive sig start positiveExp e = .ok (n, c')) : n.Normal := by
  fun_induction c.exponentDigits positive sig start positiveExp e with
  | case1 => cases h
  | case2 =>
    simp only [Except.ok.injEq, Prod.mk.injEq] at h
    rw [← h.1]
    trivial
  | case3 c e b r hr hb c1 hover =>
    rename_i ih
    exact ih h
  | case4 => exact fromParts_normal h
  | case5 => exact fromParts_normal h

theorem exponentPart_normal {c c' : Cursor} {positive : Bool} {sig : Nat} {start : Int} {n : Number}
    (h : c.exponentPart positive sig start = .ok (n, c')) : n.Normal := by
  rw [exponentPart_eq] at h
  unfold exponentValue at h
  split at h
  · cases h
  · split at h
    · exact exponentDigits_normal h
    · cases h

theorem doubleTail_normal {c c' : Cursor} {positive : Bool} {sig : Nat} {e : Int} {n : Number}
    (h : c.doubleTail positive sig e = .ok (n, c')) : n.Normal := by
  unfold doubleTail at h
  split at h
  · split at h
    · exact exponentPart_normal h
    · exact fromParts_normal h
  · exact fromParts_normal h

theorem fractionPart_normal {c c' : Cursor} {positive : Bool} {sig : Nat} {before : Int} {n : Number}
    (h : c.fractionPart positive sig before = .ok (n, c')) : n.Normal := by
  rw [fractionPart_eq] at h
  split at h
  split at h
  · exact doubleTail_normal h
  · split at h
    · split at h <;> cases h
    · exact doubleTail_normal h

theorem afterInteger_normal {c c' : Cursor} {positive : Bool} {sig : Nat} {n : Number}
    (h : c.afterInteger positive sig = .ok (n, c')) : n.Normal := by
  unfold afterInteger at h
  split at h
  · exact fractionPart_normal h
  · split at h
    · exact exponentPart_normal h
    · simp only [Except.ok.injEq, Prod.mk.injEq] at h
      rw [← h.1]
      exact Number.normal_ofWhole positive sig
  · simp only [Except.ok.injEq, Prod.mk.injEq] at h
    rw [← h.1]
    exact Number.normal_ofWhole positive sig

theorem overflowTail_normal {c c' : Cursor} {positive : Bool} {sig : Nat} {e : Int} {n : Number}
    (h : c.overflowTail positive sig e = .ok (n, c')) : n.Normal := by
  unfold overflowTail at h
  split at h
  · exact fractionPart_normal h
  · split at h
    · exact exponentPart_normal h
    · exact fromParts_normal h
  · exact fromParts_normal h

/-- A negative integer the reader gives is below zero. -/
theorem readNumber_normal {c c' : Cursor} {positive : Bool} {n : Number}
    (h : c.readNumber positive = .ok (n, c')) : n.Normal := by
  rw [readNumber_eq] at h
  split at h
  · cases h
  · split at h
    · split at h
      · split at h
        · cases h
        · exact afterInteger_normal h
      · exact afterInteger_normal h
    · split at h
      · split at h
        split at h
        · exact overflowTail_normal h
        · exact afterInteger_normal h
      · cases h

end Cursor

end TableMigration.Json
