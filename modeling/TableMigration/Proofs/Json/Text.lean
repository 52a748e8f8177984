import TableMigration.Json.Parse

/-!
# Proofs.Json.Text

The bytes a string is written as, and how the reader takes them back.

A string's bytes are the UTF-8 encodings of its characters (`bytes_eq`), and bytes that
came from a string decode back to it (`fromUTF8?_bytes`). Inside quotes every character is
written as `escapeChar` gives it; `scansAs_char` shows that the string scanner turns those
bytes back into the character's own UTF-8 bytes, whatever the character: a short escape, a
`\u00xx` escape for another control character, or the character's bytes as they are. So
reading the quoted text of a string gives the string (`readString_escaped`).

The statements about reading are made on the bytes a cursor has left only: positions matter
only for failures.
-/

namespace TableMigration.Json

/-! ## Bytes of a string -/

private theorem byteArray_toList_loop (bs : ByteArray) (i : Nat) (r : List UInt8) :
    ByteArray.toList.loop bs i r = r.reverse ++ bs.data.toList.drop i := by
  fun_induction ByteArray.toList.loop bs i r with
  | case1 i r h ih =>
    rw [ih, List.reverse_cons, List.append_assoc, List.singleton_append]
    congr 1
    have hi : i < bs.data.toList.length := by simpa using h
    rw [List.drop_eq_getElem_cons hi]
    simp [ByteArray.get!, h]
  | case2 i r h =>
    have hi : bs.data.toList.length ≤ i := by simpa using h
    simp [List.drop_of_length_le hi]

theorem byteArray_toList (bs : ByteArray) : bs.toList = bs.data.toList := by
  simp [ByteArray.toList, byteArray_toList_loop]

/-- A string's bytes are its characters' UTF-8 encodings. -/
theorem bytes_eq (s : String) : s.toUTF8.toList = s.toList.flatMap String.utf8EncodeChar := by
  have h := String.ofList_toList (s := s)
  rw [← h, String.toUTF8_eq_toByteArray, String.toByteArray_ofList, byteArray_toList,
    List.utf8Encode, List.toList_data_toByteArray, String.toList_ofList]

@[simp] theorem bytes_append (s t : String) :
    (s ++ t).toUTF8.toList = s.toUTF8.toList ++ t.toUTF8.toList := by
  simp only [String.toUTF8_eq_toByteArray, String.toByteArray_append, byteArray_toList,
    ByteArray.toList_data_append]

/-- The bytes of a string decode back to it. -/
theorem fromUTF8?_bytes (s : String) : String.fromUTF8? ⟨s.toUTF8.toList.toArray⟩ = some s := by
  have h : (⟨s.toUTF8.toList.toArray⟩ : ByteArray) = s.toByteArray := by
    rw [byteArray_toList]
    simp
  rw [h, String.fromUTF8?, dif_pos s.isValidUTF8]
  rfl

/-- An ASCII character is one byte, its code. -/
theorem utf8EncodeChar_ascii {c : Char} (h : c.toNat < 128) :
    String.utf8EncodeChar c = [c.toNat.toUInt8] := by
  unfold String.utf8EncodeChar
  rw [if_pos (by simp only [Char.toNat] at h; omega)]
  rfl

/-- Every byte of a character beyond ASCII has its high bit set. -/
theorem utf8EncodeChar_high {c : Char} (h : 128 ≤ c.toNat) :
    ∀ b ∈ String.utf8EncodeChar c, 128 ≤ b.toNat := by
  have h' : ¬ c.val.toNat ≤ 127 := by simp only [Char.toNat] at h; omega
  unfold String.utf8EncodeChar
  rw [if_neg h']
  intro b hb
  -- two, three or four bytes: a lead byte from 0xc0 up and continuation bytes from 0x80 up
  split at hb
  · simp only [List.mem_cons, List.not_mem_nil, or_false] at hb
    rcases hb with rfl | rfl <;> (rw [UInt8.toNat_ofNat']; omega)
  · split at hb
    · simp only [List.mem_cons, List.not_mem_nil, or_false] at hb
      rcases hb with rfl | rfl | rfl <;> (rw [UInt8.toNat_ofNat']; omega)
    · simp only [List.mem_cons, List.not_mem_nil, or_false] at hb
      rcases hb with rfl | rfl | rfl | rfl <;> (rw [UInt8.toNat_ofNat']; omega)

theorem char_eq_ofNat {c : Char} {n : Nat} (h : c.toNat = n) : c = Char.ofNat n := by
  rw [← h, Char.ofNat_toNat]

/-! ## Cursors -/

namespace Cursor

@[simp] theorem step_rest (c : Cursor) (b : UInt8) (r : List UInt8) : (c.step b r).rest = r := rfl

@[simp] theorem skip_rest (c : Cursor) (bs r : List UInt8) : (c.skip bs r).rest = r := rfl

theorem advance_rest {c : Cursor} {b : UInt8} {r : List UInt8} (h : c.rest = b :: r) :
    c.advance.rest = r := by
  simp [advance, h]

/-- Skipping blanks drops the blanks in front of what is left. -/
theorem skipBlanks_rest (c : Cursor) : c.skipBlanks.rest = c.rest.dropWhile isBlank := by
  fun_induction skipBlanks c with
  | case1 c h => simp [h]
  | case2 c b r h hb ih => rw [ih, h, List.dropWhile_cons_of_pos hb]; rfl
  | case3 c b r h hb => simp [h, List.dropWhile_cons_of_neg hb]

/-- Before a byte that is not blank nothing is skipped. -/
theorem skipBlanks_of_cons {c : Cursor} {b : UInt8} {r : List UInt8} (h : c.rest = b :: r)
    (hb : isBlank b = false) : c.skipBlanks = c := by
  rw [skipBlanks]
  split
  · next h' => simp [h] at h'
  · next b' r' h' =>
    simp only [h, List.cons.injEq] at h'
    obtain ⟨rfl, rfl⟩ := h'
    simp [hb]

/-- A literal word is read byte by byte. -/
theorem expectWord_self (w : List UInt8) {c : Cursor} {rest : List UInt8} (h : c.rest = w ++ rest) :
    ∃ c', c.expectWord w = .ok c' ∧ c'.rest = rest := by
  induction w generalizing c with
  | nil => exact ⟨c, rfl, by simpa using h⟩
  | cons b w ih =>
    obtain ⟨c', h1, h2⟩ := ih (c := c.step b (w ++ rest)) rfl
    exact ⟨c', by simp [expectWord, h, h1], h2⟩

end Cursor

/-! ## Strings -/

/-- The scanner reads the bytes `bs` as the bytes `out`: it goes on past them with `out`
added to what it has. -/
def ScansAs (bs out : List UInt8) : Prop :=
  ∀ (c : Cursor) (acc : Array UInt8) (rest : List UInt8), c.rest = bs ++ rest →
    ∃ c' : Cursor, c'.rest = rest ∧ c.scanString acc = c'.scanString (acc ++ out.toArray)

theorem ScansAs.nil : ScansAs [] [] := fun c _ _ h => ⟨c, by simpa using h, by simp⟩

theorem ScansAs.append {bs out bs' out' : List UInt8} (h : ScansAs bs out) (h' : ScansAs bs' out') :
    ScansAs (bs ++ bs') (out ++ out') := by
  intro c acc rest hc
  obtain ⟨c1, hc1, heq1⟩ := h c acc (bs' ++ rest) (by simpa using hc)
  obtain ⟨c2, hc2, heq2⟩ := h' c1 (acc ++ out.toArray) rest hc1
  exact ⟨c2, hc2, by rw [heq1, heq2]; simp [Array.append_assoc]⟩

/-- A byte that is no quote, backslash or control character is taken as it is. -/
theorem scansAs_plain {b : UInt8} (h1 : 32 ≤ b.toNat) (h2 : b.toNat ≠ 34) (h3 : b.toNat ≠ 92) :
    ScansAs [b] [b] := by
  intro c acc rest hc
  refine ⟨c.step b rest, rfl, ?_⟩
  rw [Cursor.scanString]
  split
  · next h => simp [hc] at h
  · next h =>
    simp only [hc, List.cons_append, List.nil_append, List.cons.injEq] at h
    obtain ⟨rfl, rfl⟩ := h
    have hq : b ≠ 34 := fun h => h2 (by simp [h])
    have hs : b ≠ 92 := fun h => h3 (by simp [h])
    have hc : ¬ b < 32 := by rw [UInt8.lt_iff_toNat_lt]; simp; omega
    simp [hq, hs, hc]

theorem scansAs_plains {bs : List UInt8} (h : ∀ b ∈ bs, 32 ≤ b.toNat ∧ b.toNat ≠ 34 ∧ b.toNat ≠ 92) :
    ScansAs bs bs := by
  induction bs with
  | nil => exact ScansAs.nil
  | cons b bs ih =>
    have hb := h b List.mem_cons_self
    exact (scansAs_plain hb.1 hb.2.1 hb.2.2).append (ih fun x hx => h x (List.mem_cons_of_mem _ hx))

/-- A short escape `\e` reads as the byte it stands for. -/
theorem scansAs_escape {e x : UInt8} (h : simpleEscape e = some x) : ScansAs [92, e] [x] := by
  intro c acc rest hc
  refine ⟨(c.step 92 (e :: rest)).step e rest, rfl, ?_⟩
  rw [Cursor.scanString]
  split
  · next h => simp [hc] at h
  · next hr =>
    simp only [hc, List.cons_append, List.nil_append, List.cons.injEq] at hr
    obtain ⟨rfl, rfl⟩ := hr
    simp [h]

/-- The two hexadecimal digits written for a control character read back as its code. -/
theorem hex4_control : ∀ n : Fin 32,
    hex4 48 48 (hexDigit (n.val / 16)).toNat.toUInt8 (hexDigit (n.val % 16)).toNat.toUInt8 =
      some n.val := by
  decide

theorem hexDigit_ascii : ∀ n : Fin 16, (hexDigit n.val).toNat < 128 := by decide

/-- A `\u00xx` escape below the surrogates reads as the UTF-8 bytes of its code point. -/
theorem scansAs_unicode {n : Nat} {x1 x2 : UInt8} (hn : n < 32) (hx : hex4 48 48 x1 x2 = some n) :
    ScansAs [92, 117, 48, 48, x1, x2] (utf8Of n) := by
  intro c acc rest hc
  refine ⟨((c.step 92 (117 :: 48 :: 48 :: x1 :: x2 :: rest)).step 117
    (48 :: 48 :: x1 :: x2 :: rest)).skip [48, 48, x1, x2] rest, rfl, ?_⟩
  rw [Cursor.scanString]
  split
  · next h => simp [hc] at h
  · next hr =>
    simp only [hc, List.cons_append, List.nil_append, List.cons.injEq] at hr
    obtain ⟨rfl, rfl⟩ := hr
    have h1 : ¬ (0xDC00 ≤ n ∧ n ≤ 0xDFFF) := by omega
    have h2 : n < 0xD800 ∨ 0xDBFF < n := by omega
    simp [simpleEscape, hx, h1, h2]

/-- However a character is written inside quotes, the scanner reads back its UTF-8 bytes. -/
theorem scansAs_char (c : Char) :
    ScansAs ((escapeChar c).flatMap String.utf8EncodeChar) (String.utf8EncodeChar c) := by
  unfold escapeChar
  split
  · next h => subst h; exact scansAs_escape (e := 34) rfl
  split
  · next h => subst h; exact scansAs_escape (e := 92) rfl
  split
  · next h => subst h; exact scansAs_escape (e := 110) rfl
  split
  · next h => subst h; exact scansAs_escape (e := 114) rfl
  split
  · next h => subst h; exact scansAs_escape (e := 116) rfl
  split
  · next h => rw [char_eq_ofNat h]; exact scansAs_escape (e := 98) rfl
  split
  · next h => rw [char_eq_ofNat h]; exact scansAs_escape (e := 102) rfl
  split
  · next h =>
    have h16 : c.toNat / 16 < 16 := by omega
    have hout : String.utf8EncodeChar c = utf8Of c.toNat := by
      simp only [utf8Of, bytes_eq, Char.ofNat_toNat, String.toList_singleton, List.flatMap_singleton]
    have hbytes : ['\\', 'u', '0', '0', hexDigit (c.toNat / 16), hexDigit (c.toNat % 16)].flatMap
        String.utf8EncodeChar = [92, 117, 48, 48, (hexDigit (c.toNat / 16)).toNat.toUInt8,
          (hexDigit (c.toNat % 16)).toNat.toUInt8] := by
      simp only [List.flatMap_cons, List.flatMap_nil, List.append_nil,
        utf8EncodeChar_ascii (hexDigit_ascii ⟨_, h16⟩),
        utf8EncodeChar_ascii (hexDigit_ascii ⟨c.toNat % 16, by omega⟩)]
      rfl
    rw [hbytes, hout]
    exact scansAs_unicode h (hex4_control ⟨c.toNat, h⟩)
  · next hq hs _ _ _ _ _ hctl =>
    -- written as it is: one plain ASCII byte, or bytes with the high bit set
    rw [List.flatMap_singleton]
    by_cases hc : c.toNat < 128
    · rw [utf8EncodeChar_ascii hc]
      have hb : c.toNat.toUInt8.toNat = c.toNat := by simp; omega
      have hq' : c.toNat ≠ 34 := fun h => hq (char_eq_ofNat h)
      have hs' : c.toNat ≠ 92 := fun h => hs (char_eq_ofNat h)
      exact scansAs_plain (by omega) (by omega) (by omega)
    · exact scansAs_plains fun b hb => by
        have := utf8EncodeChar_high (Nat.le_of_not_lt hc) b hb
        omega

/-- The bytes of a string's characters as written between quotes. -/
def escapedBytes (s : String) : List UInt8 :=
  s.toList.flatMap fun c => (escapeChar c).flatMap String.utf8EncodeChar

theorem quote_bytes (s : String) : (quote s).toUTF8.toList = 34 :: escapedBytes s ++ [34] := by
  have hq : ("\"" : String).toUTF8.toList = [34] := by rw [bytes_eq]; rfl
  have hbody : (String.ofList (s.toList.flatMap escapeChar)).toUTF8.toList = escapedBytes s := by
    rw [bytes_eq, String.toList_ofList, List.flatMap_assoc, escapedBytes]
  rw [quote, bytes_append, bytes_append, hq, hbody]
  rfl

theorem scansAs_escaped (s : String) : ScansAs (escapedBytes s) s.toUTF8.toList := by
  rw [escapedBytes, bytes_eq]
  induction s.toList with
  | nil => exact ScansAs.nil
  | cons c cs ih => exact (scansAs_char c).append ih

/-- The scanner stops after the closing quote. -/
theorem scanString_close {c : Cursor} {rest : List UInt8} (acc : Array UInt8) (h : c.rest = 34 :: rest) :
    c.scanString acc = .ok (acc, c.step 34 rest) := by
  rw [Cursor.scanString]
  split
  · next h' => simp [h] at h'
  · next h' =>
    simp only [h, List.cons.injEq] at h'
    obtain ⟨rfl, rfl⟩ := h'
    simp

/-- After its opening quote, the written form of a string reads back as the string. -/
theorem readString_escaped (s : String) {c : Cursor} {rest : List UInt8}
    (h : c.rest = escapedBytes s ++ 34 :: rest) :
    ∃ c', c.readString = .ok (s, c') ∧ c'.rest = rest := by
  obtain ⟨c1, hc1, hscan⟩ := scansAs_escaped s c #[] (34 :: rest) h
  refine ⟨c1.step 34 rest, ?_, rfl⟩
  rw [Cursor.readString, hscan, scanString_close _ hc1, Array.empty_append]
  simp only [bind, Except.bind, fromUTF8?_bytes]
  rfl

end TableMigration.Json
