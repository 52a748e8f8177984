import TableMigration.Proofs.Json.Values
import TableMigration.Record
import TableMigration.Drift

/-!
# Proofs.Json.Records

Objects read field by field, and the two kinds of object this library writes: records and
drifts.

A walk over an object's members (`readFieldsWithin`) is followed member by member: the key is
read, and the field handler goes on from what follows it (`readFieldsWithin_member`); the
closing brace ends the walk (`readFieldsWithin_close`). A property every member keeps holds of
the fields the walk ends with (`readFieldsWithin_inv`).

* `Record.decode_normal`: every record that decodes is `Record.Normal`: sorted columns, none
  named `id` or `utime`, values within the columns' nesting budget.
* `Record.decode_encode`: the text of a normal record whose doubles read back decodes to a
  record that matches it and has its utime.
* `Drift.decode_encode`: the text of a drift decodes to the drift.
* `Drift.wire_codec_canonical`: the drift codec's laws together: the round trip, the order in
  which the direction and the type are checked, and that a decoded drift's side and kind are the
  ones its fields name.
-/

namespace TableMigration.Json

/-! ## Walking the members of an object -/

section Walk

variable {σ : Type} {field : FieldHandler σ}

/-- The text of one member after the first or before it: a comma before any but the first. -/
def memberLead (first : Bool) (k : String) : List UInt8 :=
  (if first then [] else [44]) ++ (quote k).toUTF8.toList

/-- One member: its key is read, and the handler goes on from a cursor holding what follows
the key; whatever fields it gives, the walk continues with them. -/
theorem readFieldsWithin_member (field : FieldHandler σ) (fuel : Nat) {first : Bool} {k : String} {s : σ}
    {c : Cursor} {tail : List UInt8} (h : c.skipBlanks.rest = memberLead first k ++ tail) :
    ∃ c1 : Cursor, c1.rest = tail ∧ ∀ s1 c2, field k s c1 = .ok (.ok s1, c2) →
      readFieldsWithin field (fuel + 1) first s c = readFieldsWithin field fuel false s1 c2 := by
  have hq := quote_bytes k
  obtain ⟨c1, hstart, hc1⟩ : ∃ c1, memberStart first c = .ok (true, c1) ∧
      c1.rest = (quote k).toUTF8.toList ++ tail := by
    cases first with
    | true =>
      rw [memberLead, if_pos rfl, List.nil_append, hq] at h
      simp only [List.cons_append] at h
      exact ⟨_, memberStart_first h, by rw [h, hq]; simp⟩
    | false =>
      rw [memberLead, if_neg Bool.false_ne_true, hq] at h
      simp only [List.cons_append] at h
      exact ⟨_, memberStart_next h, by rw [Cursor.step_rest, hq]; simp⟩
  rw [hq] at hc1
  simp only [List.cons_append, List.append_assoc] at hc1
  obtain ⟨c1', hkey, hc1'⟩ := readString_escaped k (c := c1.advance) (by rw [Cursor.advance_rest hc1])
  refine ⟨c1', hc1', fun s1 c2 hf => ?_⟩
  rw [readFieldsWithin]
  simp only [hstart, readKey, hkey, hf]

/-- The closing brace ends the walk with the fields as they are. -/
theorem readFieldsWithin_close {fuel : Nat} {first : Bool} {s : σ} {c : Cursor} {rest : List UInt8}
    (h : c.skipBlanks.rest = 125 :: rest) :
    readFieldsWithin field (fuel + 1) first s c = .ok (.ok s, c.skipBlanks) := by
  rw [readFieldsWithin]
  simp only [memberStart_close h]

/-- A member's colon and then its value. -/
theorem memberValue_colon {α : Type} (read : Reader α) {c : Cursor} {r : List UInt8} (h : c.rest = 58 :: r) :
    memberValue read c = read (c.step 58 r) := by
  have hcolon := memberColon_colon (skipBlanks_of_rest h rfl)
  rw [Cursor.skipBlanks_of_cons h rfl] at hcolon
  simp only [memberValue, bind, StateT.bind, hcolon]
  rfl

/-- A field met for the first time is read. -/
theorem onceField_first {α : Type} (name : String) (read : Reader α) {c c' : Cursor} {a : α}
    (h : memberValue read c = .ok (a, c')) : onceField name none read c = .ok (.ok (some a), c') := by
  simp only [onceField, h]

/-- An object read field by field: the walk ends at the closing brace with fields that `finish`
accepts. -/
theorem readObjectWith_ok {α : Type} {finish : σ → Except Problem α} {init s : σ} {a : α} {c c1 : Cursor}
    {rest : List UInt8} (hfields : readFieldsWithin field c.advance.fuel true init c.advance = .ok (.ok s, c1))
    (hfinish : finish s = .ok a) (hclose : c1.skipBlanks.rest = 125 :: rest) :
    readObjectWith field finish init c = .ok (a, c1.skipBlanks.step 125 rest) := by
  simp only [readObjectWith, hfields, hfinish, objectEnd_close hclose]

/-- A document that is one thing read up to the end of the text. -/
theorem readDocument_ok {α : Type} {read : Reader α} {bytes : List UInt8} {a : α} {c : Cursor}
    (h : read (Cursor.start bytes) = .ok (a, c)) (hend : c.rest = []) : readDocument read bytes = .ok a := by
  have hblank : c.skipBlanks.rest = [] := by rw [Cursor.skipBlanks_rest, hend]; rfl
  simp only [readDocument, h, hblank]

/-- A property of the fields that every member keeps holds of the fields a walk ends with. -/
theorem readFieldsWithin_inv (I : σ → Prop)
    (hstep : ∀ k s c s' c', I s → field k s c = .ok (.ok s', c') → I s') :
    ∀ fuel first s c s' c', I s → readFieldsWithin field fuel first s c = .ok (.ok s', c') → I s' := by
  intro fuel
  induction fuel with
  | zero =>
    intro first s c s' c' hs h
    simp only [readFieldsWithin, Except.ok.injEq, Prod.mk.injEq] at h
    obtain ⟨⟨rfl⟩, -⟩ := h
    exact hs
  | succ fuel ih =>
    intro first s c s' c' hs h
    rw [readFieldsWithin] at h
    simp only at h
    split at h
    · cases h
    · simp only [Except.ok.injEq, Prod.mk.injEq] at h
      obtain ⟨⟨rfl⟩, -⟩ := h
      exact hs
    · split at h
      · cases h
      · split at h
        · cases h
        · cases h
        · next s1 c2 hf => exact ih _ _ _ _ _ (hstep _ _ _ _ _ hs hf) h

/-- What an object read field by field gives: fields a walk from the opening brace ended with,
accepted by `finish`. -/
theorem readObjectWith_inv {α : Type} {finish : σ → Except Problem α} {init : σ} {c c' : Cursor} {a : α}
    (h : readObjectWith field finish init c = .ok (a, c')) :
    ∃ fuel s c1, readFieldsWithin field fuel true init c.advance = .ok (.ok s, c1) ∧ finish s = .ok a := by
  simp only [readObjectWith] at h
  split at h
  · cases h
  · cases h
  · next s c1 hfields =>
    split at h
    · cases h
    · next a' hfinish =>
      split at h
      · cases h
      · simp only [Except.ok.injEq, Prod.mk.injEq] at h
        obtain ⟨rfl, -⟩ := h
        exact ⟨_, s, c1, hfields, hfinish⟩

/-- A member's colon and value read through `memberValue` are read by `read` from some cursor. -/
theorem memberValue_ok {α : Type} {read : Reader α} {c c' : Cursor} {a : α}
    (h : memberValue read c = .ok (a, c')) : ∃ c1, read c1 = .ok (a, c') := by
  simp only [memberValue, bind, StateT.bind] at h
  cases hm : memberColon c with
  | error e => simp [hm, Except.bind] at h
  | ok p => exact ⟨p.2, by simpa [hm, Except.bind] using h⟩

/-- Reading a value of another kind than the one expected always fails. -/
theorem invalidTypeAhead_ne_ok {α : Type} (expected : String) (c c' : Cursor) (a : α) :
    invalidTypeAhead expected c ≠ .ok (a, c') := by
  simp only [invalidTypeAhead]
  split
  · simp
  · split <;> simp

theorem skipBlanks_memberLead {c : Cursor} {first : Bool} {k : String} {tail : List UInt8}
    (h : c.rest = memberLead first k ++ tail) : c.skipBlanks.rest = memberLead first k ++ tail := by
  have hq := quote_bytes k
  cases first with
  | true =>
    rw [memberLead, if_pos rfl, List.nil_append, hq] at h ⊢
    simp only [List.cons_append] at h ⊢
    exact skipBlanks_of_rest h rfl
  | false =>
    rw [memberLead, if_neg Bool.false_ne_true] at h ⊢
    simp only [List.cons_append, List.nil_append] at h ⊢
    exact skipBlanks_of_rest h rfl

theorem closes_memberLead (k : String) (tail : List UInt8) : Closes (memberLead false k ++ tail) := by
  rw [memberLead, if_neg Bool.false_ne_true, List.append_assoc, List.singleton_append]
  exact closes_cons _ (.inl rfl)

/-- A string field's quoted text is read as the string. -/
theorem readText_quote (t : String) {c : Cursor} {rest : List UInt8}
    (h : c.rest = (quote t).toUTF8.toList ++ rest) : ∃ c', readText c = .ok (t, c') ∧ c'.rest = rest := by
  rw [quote_bytes] at h
  simp only [List.cons_append, List.append_assoc, List.nil_append] at h
  obtain ⟨c', hread, hc'⟩ := readString_escaped t (c := c.step 34 _) rfl
  refine ⟨c', ?_, hc'⟩
  simp only [readText, Cursor.skipBlanks_of_cons h rfl, h]
  exact hread

/-- A field met for the first time, its colon and value read by `read`. -/
theorem onceField_colon {α : Type} (name : String) (read : Reader α) {c c' : Cursor} {r : List UInt8} {a : α}
    (h : c.rest = 58 :: r) (hread : read (c.step 58 r) = .ok (a, c')) :
    onceField name none read c = .ok (.ok (some a), c') :=
  onceField_first name read (by rw [memberValue_colon read h, hread])

end Walk

end TableMigration.Json

namespace TableMigration

open Json

namespace Record

/-! ## The text of a record -/

theorem columns_bytes (cols : List (String × Value)) :
    (String.join (cols.map fun (k, v) => "," ++ quote k ++ ":" ++ v.render)).toUTF8.toList =
      membersFrom false cols := by
  induction cols with
  | nil => rw [List.map_nil, String.join_nil, bytes_eq ""]; rfl
  | cons m ms ih =>
    obtain ⟨k, v⟩ := m
    rw [List.map_cons, String.join_cons, bytes_append, ih]
    simp only [bytes_append, comma_bytes, colon_bytes, membersFrom, memberBytes, List.append_assoc,
      List.cons_append, List.nil_append]

theorem idKey_bytes : ("\x7b\"id\":" : String).toUTF8.toList = 123 :: memberLead true "id" ++ [58] := by
  rw [bytes_eq, memberLead, if_pos rfl, List.nil_append, quote_bytes]
  rfl

theorem utimeKey_bytes : (",\"utime\":" : String).toUTF8.toList = memberLead false "utime" ++ [58] := by
  rw [bytes_eq, memberLead, if_neg Bool.false_ne_true, quote_bytes]
  rfl

/-- A record's text: the id, the utime, then the columns, as members of one object. -/
theorem encode_bytes (r : Record) :
    r.encode.toUTF8.toList =
      123 :: memberLead true "id" ++ 58 :: (toString r.id.toInt).toUTF8.toList ++
        memberLead false "utime" ++ 58 :: (toString r.utime.toInt).toUTF8.toList ++
        membersFrom false r.columns ++ [125] := by
  have hclose : ("\x7d" : String).toUTF8.toList = [125] := by rw [bytes_eq]; rfl
  simp only [encode, bytes_append, idKey_bytes, utimeKey_bytes, columns_bytes, hclose, List.append_assoc,
    List.cons_append, List.nil_append]

/-! ## Reading the members of a record -/

/-- The id, met for the first time, is read as a signed integer. -/
theorem field_id {s : Fields} (hs : s.id = none) (i : Int64) {c : Cursor} {rest : List UInt8}
    (h : c.rest = 58 :: ((toString i.toInt).toUTF8.toList ++ rest)) (hend : EndsNumber rest) :
    ∃ c', field "id" s c = .ok (.ok { s with id := some i }, c') ∧ c'.rest = rest := by
  obtain ⟨c', hread, hc'⟩ := readInt64_text i (c := c.step 58 _) rfl hend
  refine ⟨c', ?_, hc'⟩
  have hval := memberValue_colon readInt64 h
  rw [hread] at hval
  simp only [field, beq_self_eq_true, if_true, hs, onceField_first "id" readInt64 hval, StateT.map]
  rfl

/-- The utime, met for the first time, is read as a signed integer. -/
theorem field_utime {s : Fields} (hs : s.utime = none) (i : Int64) {c : Cursor} {rest : List UInt8}
    (h : c.rest = 58 :: ((toString i.toInt).toUTF8.toList ++ rest)) (hend : EndsNumber rest) :
    ∃ c', field "utime" s c = .ok (.ok { s with utime := some i }, c') ∧ c'.rest = rest := by
  obtain ⟨c', hread, hc'⟩ := readInt64_text i (c := c.step 58 _) rfl hend
  refine ⟨c', ?_, hc'⟩
  have hval := memberValue_colon readInt64 h
  rw [hread] at hval
  have hne : ("utime" == "id") = false := by decide
  simp only [field, hne, beq_self_eq_true, if_true, Bool.false_eq_true, if_false, hs,
    onceField_first "utime" readInt64 hval, StateT.map]
  rfl

/-- Any other member is a column, read within the columns' nesting budget; it goes in front of
the columns read before it. -/
theorem field_column {s : Fields} {k : String} (hid : k ≠ "id") (hutime : k ≠ "utime") {v : Value}
    (hn : v.Normal columnBudget) (hback : v.DoublesReadBack) {c : Cursor} {rest : List UInt8}
    (h : c.rest = 58 :: (v.render.toUTF8.toList ++ rest)) (hrest : Closes rest) :
    ∃ v' c', field k s c = .ok (.ok { s with columns := (k, v') :: s.columns }, c') ∧ v.beq v' = true ∧
      c'.skipBlanks.rest = rest := by
  obtain ⟨v', c', hread, hbeq, hc'⟩ := readValueWithin_render hn hback (c := c.step 58 _) rfl hrest
  refine ⟨v', c', ?_, hbeq, hc'⟩
  have hval := memberValue_colon (readValueWithin columnBudget) h
  rw [hread] at hval
  have hne1 : (k == "id") = false := by simpa using hid
  have hne2 : (k == "utime") = false := by simpa using hutime
  simp only [field, hne1, hne2, Bool.false_eq_true, if_false, hval]

theorem membersFrom_cons (k : String) (v : Value) (ms : List (String × Value)) (rest : List UInt8) :
    membersFrom false ((k, v) :: ms) ++ rest =
      memberLead false k ++ 58 :: (v.render.toUTF8.toList ++ (membersFrom false ms ++ rest)) := by
  simp [membersFrom, memberBytes, memberLead]

theorem length_le_membersFrom (ms : List (String × Value)) : ms.length ≤ (membersFrom false ms).length := by
  induction ms with
  | nil => simp [membersFrom]
  | cons m ms ih =>
    obtain ⟨k, v⟩ := m
    simp only [membersFrom, List.length_cons, List.length_append]
    omega

/-- The columns of a record's text are read in order, each going in front of those before it.
By induction on the columns. -/
theorem readFields_columns : ∀ (cols : List (String × Value)) (fuel : Nat) (s : Fields) (c : Cursor)
    (rest : List UInt8),
    (∀ m ∈ cols, m.1 ≠ "id" ∧ m.1 ≠ "utime" ∧ m.2.Normal columnBudget ∧ m.2.DoublesReadBack) →
    cols.length < fuel → c.skipBlanks.rest = membersFrom false cols ++ 125 :: rest →
    ∃ cols' c', readFieldsWithin field fuel false s c =
        .ok (.ok { s with columns := cols'.reverse ++ s.columns }, c') ∧
      Value.beq.beqMembers cols cols' = true ∧ c'.skipBlanks.rest = 125 :: rest
  | [], fuel + 1, s, c, rest, _, _, h => by
    refine ⟨[], c.skipBlanks, ?_, rfl, ?_⟩
    · rw [readFieldsWithin_close h]
      rfl
    · rw [Cursor.skipBlanks_rest, h]
      rfl
  | (k, v) :: ms, fuel + 1, s, c, rest, hcols, hlen, h => by
    obtain ⟨hid, hutime, hn, hback⟩ := hcols (k, v) List.mem_cons_self
    rw [membersFrom_cons] at h
    obtain ⟨c1, hc1, hnext⟩ := readFieldsWithin_member field fuel (s := s) h
    obtain ⟨v', c2, hf, hbeq, hc2⟩ := field_column (s := s) hid hutime hn hback hc1 (closes_membersFrom ms rest)
    obtain ⟨cols', c3, hread, hbeqs, hc3⟩ :=
      readFields_columns ms fuel _ c2 rest (fun m hm => hcols m (List.mem_cons_of_mem _ hm))
        (by simp only [List.length_cons] at hlen; omega) hc2
    refine ⟨(k, v') :: cols', c3, ?_, by simp [Value.beq.beqMembers, hbeq, hbeqs], hc3⟩
    rw [hnext _ _ hf, hread]
    simp

/-- A record as reading gives it: columns in strictly increasing name order, none named `id` or
`utime`, and each value within the columns' nesting budget. -/
structure Normal (r : Record) : Prop where
  sorted : Members.Sorted r.columns
  columns : ∀ m ∈ r.columns, m.1 ≠ "id" ∧ m.1 ≠ "utime" ∧ m.2.Normal columnBudget

/-- Every double a record's columns hold reads back from its text. -/
def DoublesReadBack (r : Record) : Prop := ∀ m ∈ r.columns, m.2.DoublesReadBack

/-- A record's text decodes to a record that matches it and has its utime. -/
theorem decode_encode {r : Record} (hr : r.Normal) (hback : r.DoublesReadBack) :
    ∃ r', decode r.encode.toUTF8.toList = .ok r' ∧ r.matches r' = true ∧ r'.utime = r.utime := by
  obtain ⟨hsorted, hcols⟩ := hr
  set idText := (toString r.id.toInt).toUTF8.toList
  set utimeText := (toString r.utime.toInt).toUTF8.toList
  set cols := membersFrom false r.columns ++ [125] with hcolsText
  have hstart : (Cursor.start r.encode.toUTF8.toList).rest =
      123 :: (memberLead true "id" ++ 58 :: (idText ++ (memberLead false "utime" ++ 58 :: (utimeText ++ cols)))) := by
    simp only [Cursor.start, encode_bytes, hcolsText, List.cons_append, List.append_assoc]
    rfl
  set c := (Cursor.start r.encode.toUTF8.toList).advance
  have hc : c.rest = memberLead true "id" ++ 58 :: (idText ++ (memberLead false "utime" ++ 58 :: (utimeText ++ cols))) :=
    Cursor.advance_rest hstart
  have hcloses : Closes cols := closes_membersFrom r.columns []
  have hfuel : r.columns.length + 2 < c.fuel := by
    have := length_le_membersFrom r.columns
    simp only [Cursor.fuel, hc, hcolsText, List.length_append, List.length_cons]
    omega
  obtain ⟨F, hF⟩ : ∃ F, c.fuel = F + 1 + 1 + 1 := ⟨c.fuel - 3, by omega⟩
  -- the id, then the utime, then the columns
  obtain ⟨c1, hc1, hnext1⟩ := readFieldsWithin_member field (F + 1 + 1) (s := {})
    (skipBlanks_memberLead hc)
  obtain ⟨c2, hf1, hc2⟩ := field_id (s := {}) rfl r.id hc1 (closes_memberLead _ _).endsNumber
  obtain ⟨c3, hc3, hnext2⟩ := readFieldsWithin_member field (F + 1)
    (s := { id := some r.id }) (skipBlanks_memberLead hc2)
  obtain ⟨c4, hf2, hc4⟩ := field_utime (s := { id := some r.id }) rfl r.utime hc3 hcloses.endsNumber
  obtain ⟨cols', c5, hread, hbeq, hc5⟩ :=
    readFields_columns r.columns (F + 1) { id := some r.id, utime := some r.utime } c4 []
      (fun m hm => ⟨(hcols m hm).1, (hcols m hm).2.1, (hcols m hm).2.2, hback m hm⟩) (by omega)
      (hcloses.skipBlanks hc4)
  have hsorted' : Members.Sorted cols' := hsorted.of_keys (Value.beqMembers_keys hbeq)
  have hfields : readFieldsWithin field c.fuel true {} c =
      .ok (.ok { id := some r.id, utime := some r.utime, columns := cols'.reverse }, c5) := by
    rw [hF, hnext1 _ _ hf1, hnext2 _ _ hf2, hread, List.append_nil]
  have hfinish : finish { id := some r.id, utime := some r.utime, columns := cols'.reverse } =
      .ok ⟨r.id, r.utime, cols'⟩ := by
    simp only [finish, required, List.reverse_reverse, Members.ofList_of_sorted hsorted', Option.getD_some]
    rfl
  have hobject := readObjectWith_ok hfields hfinish hc5
  refine ⟨⟨r.id, r.utime, cols'⟩, readDocument_ok (c := c5.skipBlanks.step 125 []) ?_ rfl, ?_, rfl⟩
  · rw [read, Cursor.skipBlanks_of_cons hstart rfl]
    simp only [hstart]
    exact hobject
  · simp [«matches», Value.beq, hbeq]

/-! ## What decoding gives -/

/-- The columns read so far: none named `id` or `utime`, each within the columns' budget. -/
def ColumnsNormal (s : Fields) : Prop :=
  ∀ m ∈ s.columns, m.1 ≠ "id" ∧ m.1 ≠ "utime" ∧ m.2.Normal columnBudget

/-- Every member keeps the columns read so far normal: `id` and `utime` are fields of their own,
and a column's value is read within the columns' budget. -/
theorem field_columnsNormal (k : String) (s : Fields) (c : Cursor) (s' : Fields) (c' : Cursor)
    (hs : ColumnsNormal s) (h : field k s c = .ok (.ok s', c')) : ColumnsNormal s' := by
  -- `id` and `utime` leave the columns as they were; a column goes in front of them
  have hint : ∀ (name : String) (cur : Option Int64) (set : Option Int64 → Fields),
      (∀ x, (set x).columns = s.columns) →
      (onceField name cur readInt64).map (·.map set) c = .ok (.ok s', c') → ColumnsNormal s' := by
    intro name cur set hset h
    cases cur with
    | some _ => simp [onceField, StateT.map, bind, Except.bind, pure, Except.pure, Except.map] at h
    | none =>
      cases hv : memberValue readInt64 c with
      | error e => simp [onceField, StateT.map, hv, bind, Except.bind] at h
      | ok p =>
        simp only [onceField, StateT.map, hv, bind, Except.bind, pure, Except.pure, Except.map,
          Except.ok.injEq, Prod.mk.injEq] at h
        obtain ⟨⟨rfl⟩, -⟩ := h
        intro m hm
        exact hs m (by rwa [hset] at hm)
  simp only [field] at h
  split at h
  · exact hint "id" s.id (fun x => { s with id := x }) (fun _ => rfl) h
  · split at h
    · exact hint "utime" s.utime (fun x => { s with utime := x }) (fun _ => rfl) h
    · next hid hutime =>
      simp only at h
      split at h
      · cases h
      · next v c1 hv =>
        simp only [Except.ok.injEq, Prod.mk.injEq] at h
        obtain ⟨⟨rfl⟩, -⟩ := h
        obtain ⟨c2, hread⟩ := memberValue_ok hv
        intro m hm
        rcases List.mem_cons.mp hm with rfl | hm
        · exact ⟨by simpa using hid, by simpa using hutime, (readValue_normal _).1 _ _ _ _ hread⟩
        · exact hs m hm

/-- Every record that decodes is normal. -/
theorem decode_normal {bytes : List UInt8} {r : Record} (h : decode bytes = .ok r) : r.Normal := by
  simp only [decode, readDocument] at h
  split at h
  · cases h
  · next r' c hread =>
    split at h
    · simp only [Except.ok.injEq] at h
      subst h
      simp only [read] at hread
      split at hread
      · cases hread
      · split at hread
        · obtain ⟨fuel, s, c1, hfields, hfinish⟩ := readObjectWith_inv hread
          have hs : ColumnsNormal s :=
            readFieldsWithin_inv ColumnsNormal field_columnsNormal _ _ _ _ _ _ (by simp [ColumnsNormal]) hfields
          simp only [finish, required] at hfinish
          split at hfinish
          · simp only [bind, Except.bind, pure, Except.pure, Except.ok.injEq] at hfinish
            subst hfinish
            obtain ⟨hsorted, hmem⟩ := Members.ofList_spec s.columns.reverse
            exact ⟨hsorted, fun m hm => hs m (List.mem_reverse.mp (hmem m hm))⟩
          · simp [bind, Except.bind] at hfinish
        · exact absurd hread (invalidTypeAhead_ne_ok _ _ _ _)
    · cases h

end Record

end TableMigration

namespace TableMigration

open Json

namespace Drift

/-! ## The text of a drift -/

theorem idKey_bytes : ("\x7b\"ID\":" : String).toUTF8.toList = 123 :: memberLead true "ID" ++ [58] := by
  rw [bytes_eq, memberLead, if_pos rfl, List.nil_append, quote_bytes]
  rfl

theorem directionKey_bytes :
    (",\"Direction\":" : String).toUTF8.toList = memberLead false "Direction" ++ [58] := by
  rw [bytes_eq, memberLead, if_neg Bool.false_ne_true, quote_bytes]
  rfl

theorem typeKey_bytes : (",\"Type\":" : String).toUTF8.toList = memberLead false "Type" ++ [58] := by
  rw [bytes_eq, memberLead, if_neg Bool.false_ne_true, quote_bytes]
  rfl

/-- A drift's text: the id, the direction and the type, as members of one object. -/
theorem encode_bytes (d : Drift) :
    d.encode.toUTF8.toList =
      123 :: memberLead true "ID" ++ 58 :: (toString d.id.toInt).toUTF8.toList ++
        memberLead false "Direction" ++ 58 :: (quote d.side.name).toUTF8.toList ++
        memberLead false "Type" ++ 58 :: (quote d.kind.name).toUTF8.toList ++ [125] := by
  have hclose : ("\x7d" : String).toUTF8.toList = [125] := by rw [bytes_eq]; rfl
  simp only [encode, bytes_append, idKey_bytes, directionKey_bytes, typeKey_bytes, hclose,
    List.append_assoc, List.cons_append, List.nil_append]

/-! ## Reading a drift back -/

theorem wireField_id {s : WireFields} (hs : s.id = none) (i : Int64) {c : Cursor} {rest : List UInt8}
    (h : c.rest = 58 :: ((toString i.toInt).toUTF8.toList ++ rest)) (hend : EndsNumber rest) :
    ∃ c', wireField "ID" s c = .ok (.ok { s with id := some i }, c') ∧ c'.rest = rest := by
  obtain ⟨c', hread, hc'⟩ := readInt64_text i (c := c.step 58 _) rfl hend
  refine ⟨c', ?_, hc'⟩
  simp only [wireField, beq_self_eq_true, if_true, hs, onceField_colon "ID" readInt64 h hread, StateT.map]
  rfl

theorem wireField_direction {s : WireFields} (hs : s.direction = none) (t : String) {c : Cursor}
    {rest : List UInt8} (h : c.rest = 58 :: ((quote t).toUTF8.toList ++ rest)) :
    ∃ c', wireField "Direction" s c = .ok (.ok { s with direction := some t }, c') ∧ c'.rest = rest := by
  obtain ⟨c', hread, hc'⟩ := readText_quote t (c := c.step 58 _) rfl
  refine ⟨c', ?_, hc'⟩
  have hne : ("Direction" == "ID") = false := by decide
  simp only [wireField, hne, beq_self_eq_true, Bool.false_eq_true, if_false, if_true, hs,
    onceField_colon "Direction" readText h hread, StateT.map]
  rfl

theorem wireField_type {s : WireFields} (hs : s.kind = none) (t : String) {c : Cursor}
    {rest : List UInt8} (h : c.rest = 58 :: ((quote t).toUTF8.toList ++ rest)) :
    ∃ c', wireField "Type" s c = .ok (.ok { s with kind := some t }, c') ∧ c'.rest = rest := by
  obtain ⟨c', hread, hc'⟩ := readText_quote t (c := c.step 58 _) rfl
  refine ⟨c', ?_, hc'⟩
  have hne1 : ("Type" == "ID") = false := by decide
  have hne2 : ("Type" == "Direction") = false := by decide
  simp only [wireField, hne1, hne2, beq_self_eq_true, Bool.false_eq_true, if_false, if_true, hs,
    onceField_colon "Type" readText h hread, StateT.map]
  rfl

theorem Side.ofName?_name (side : Side) : Side.ofName? side.name = some side := by
  cases side <;> rfl

/-- A drift's text decodes to the drift. -/
theorem decode_encode (d : Drift) : decode d.encode.toUTF8.toList = .ok d := by
  set idText := (toString d.id.toInt).toUTF8.toList
  set sideText := (quote d.side.name).toUTF8.toList
  set kindText := (quote d.kind.name).toUTF8.toList
  have hstart : (Cursor.start d.encode.toUTF8.toList).rest =
      123 :: (memberLead true "ID" ++ 58 :: (idText ++ (memberLead false "Direction" ++
        58 :: (sideText ++ (memberLead false "Type" ++ 58 :: (kindText ++ [125])))))) := by
    simp only [Cursor.start, encode_bytes, List.cons_append, List.append_assoc]
    rfl
  set c := (Cursor.start d.encode.toUTF8.toList).advance
  have hc : c.rest = memberLead true "ID" ++ 58 :: (idText ++ (memberLead false "Direction" ++
      58 :: (sideText ++ (memberLead false "Type" ++ 58 :: (kindText ++ [125]))))) :=
    Cursor.advance_rest hstart
  obtain ⟨F, hF⟩ : ∃ F, c.fuel = F + 1 + 1 + 1 + 1 := ⟨c.fuel - 4, by simp only [Cursor.fuel]; omega⟩
  -- the id, the direction, the type, then the closing brace
  obtain ⟨c1, hc1, hnext1⟩ := readFieldsWithin_member wireField (F + 1 + 1 + 1)
    (s := {}) (skipBlanks_memberLead hc)
  obtain ⟨c2, hf1, hc2⟩ := wireField_id (s := {}) rfl d.id hc1 (closes_memberLead _ _).endsNumber
  obtain ⟨c3, hc3, hnext2⟩ := readFieldsWithin_member wireField (F + 1 + 1)
    (s := { id := some d.id }) (skipBlanks_memberLead hc2)
  obtain ⟨c4, hf2, hc4⟩ := wireField_direction (s := { id := some d.id }) rfl d.side.name hc3
  obtain ⟨c5, hc5, hnext3⟩ := readFieldsWithin_member wireField (F + 1)
    (s := { id := some d.id, direction := some d.side.name }) (skipBlanks_memberLead hc4)
  obtain ⟨c6, hf3, hc6⟩ :=
    wireField_type (s := { id := some d.id, direction := some d.side.name }) rfl d.kind.name hc5
  have hclose : c6.skipBlanks.rest = 125 :: [] := skipBlanks_of_rest hc6 rfl
  have hfields : readFieldsWithin wireField c.fuel true {} c =
      .ok (.ok { id := some d.id, direction := some d.side.name, kind := some d.kind.name }, c6.skipBlanks) := by
    rw [hF, hnext1 _ _ hf1, hnext2 _ _ hf2, hnext3 _ _ hf3, readFieldsWithin_close hclose]
  have hfinish : finishWire { id := some d.id, direction := some d.side.name, kind := some d.kind.name } =
      .ok ⟨d.id, d.side.name, d.kind.name⟩ := rfl
  have hclose' : c6.skipBlanks.skipBlanks.rest = 125 :: [] := by rw [Cursor.skipBlanks_rest, hclose]; rfl
  have hobject := readObjectWith_ok hfields hfinish hclose'
  have hwire : readDocument readWire d.encode.toUTF8.toList = .ok ⟨d.id, d.side.name, d.kind.name⟩ := by
    refine readDocument_ok (c := c6.skipBlanks.skipBlanks.step 125 []) ?_ rfl
    rw [readWire, Cursor.skipBlanks_of_cons hstart rfl]
    simp only [hstart]
    exact hobject
  simp only [decode, hwire, Side.ofName?_name, DriftKind.parse, DriftKind.ofName?_name]

/-! ## The name tables -/

theorem Side.ofName?_eq_some_iff {text : String} {side : Side} :
    Side.ofName? text = some side ↔ side.name = text := by
  unfold Side.ofName?
  by_cases h₁ : text = "SRC"
  · subst h₁
    cases side <;> simp [Side.name]
  · by_cases h₂ : text = "DST"
    · subst h₂
      cases side <;> simp [Side.name]
    · cases side <;> simp [Side.name, h₁, h₂, Ne.symm h₁, Ne.symm h₂]

theorem Side.ofName?_eq_none_iff {text : String} :
    Side.ofName? text = none ↔ text ∉ ["SRC", "DST"] := by
  unfold Side.ofName?
  by_cases h₁ : text = "SRC"
  · simp [h₁]
  · by_cases h₂ : text = "DST"
    · simp [h₂]
    · simp [h₁, h₂]

theorem DriftKind.ofName?_eq_some_iff {text : String} {k : DriftKind} :
    DriftKind.ofName? text = some k ↔ k.name = text := by
  constructor
  · intro h
    simpa using List.find?_some h
  · rintro rfl
    exact DriftKind.ofName?_name k

theorem DriftKind.ofName?_eq_none_iff {text : String} :
    DriftKind.ofName? text = none ↔ text ∉ ["target_missing", "base_missing", "neq"] := by
  unfold DriftKind.ofName?
  rw [List.find?_eq_none]
  simp only [List.mem_cons, List.mem_nil_iff, or_false, forall_eq_or_imp, forall_eq, DriftKind.name,
    beq_iff_eq, not_or]
  exact ⟨fun ⟨a, b, c⟩ => ⟨Ne.symm a, Ne.symm b, Ne.symm c⟩,
    fun ⟨a, b, c⟩ => ⟨Ne.symm a, Ne.symm b, Ne.symm c⟩⟩

/-! ## What decoding checks -/

/-- A payload decodes to a drift exactly when its wire fields read as the drift's id and the
names of its side and kind: every side and kind decoded is named by its field. -/
theorem decode_eq_ok_iff {bytes : List UInt8} {d : Drift} :
    decode bytes = .ok d ↔ readDocument readWire bytes = .ok ⟨d.id, d.side.name, d.kind.name⟩ := by
  constructor
  · intro h
    unfold decode at h
    split at h
    · cases h
    · rename_i w hw
      split at h
      · cases h
      · rename_i side hside
        cases hkind : DriftKind.ofName? w.kind with
        | none => simp [DriftKind.parse, hkind] at h
        | some k =>
          simp only [DriftKind.parse, hkind, Except.ok.injEq] at h
          subst h
          rw [hw, Side.ofName?_eq_some_iff.mp hside, DriftKind.ofName?_eq_some_iff.mp hkind]
  · intro h
    simp [decode, h, Side.ofName?_name, DriftKind.parse, DriftKind.ofName?_name]

/-- Wire fields whose direction names no side fail on the direction, whatever the type. -/
theorem decode_unknownDirection {bytes : List UInt8} {w : Wire}
    (hw : readDocument readWire bytes = .ok w) (hdir : w.direction ∉ ["SRC", "DST"]) :
    decode bytes = .error (.unknownDirection w.direction) := by
  simp [decode, hw, Side.ofName?_eq_none_iff.mpr hdir]

/-- Wire fields whose direction names a side and whose type names no kind fail on the type. -/
theorem decode_unknownType {bytes : List UInt8} {w : Wire}
    (hw : readDocument readWire bytes = .ok w) (hdir : w.direction ∈ ["SRC", "DST"])
    (hkind : w.kind ∉ ["target_missing", "base_missing", "neq"]) :
    decode bytes = .error (.unknownType w.kind) := by
  obtain ⟨side, hside⟩ : ∃ side, Side.ofName? w.direction = some side :=
    Option.ne_none_iff_exists'.mp fun h => Side.ofName?_eq_none_iff.mp h hdir
  simp [decode, hw, hside, DriftKind.parse, DriftKind.ofName?_eq_none_iff.mpr hkind]

/-- The drift codec: every drift, whatever its id, reads back from its text, so a decoded drift's
text is its canonical form; wire fields fail on an unknown direction before an unknown type; and
what decodes is exactly what the wire fields name. -/
theorem wire_codec_canonical :
    (∀ d : Drift, decode d.encode.toUTF8.toList = .ok d) ∧
    (∀ (bytes : List UInt8) (d : Drift), decode bytes = .ok d →
      decode d.encode.toUTF8.toList = .ok d) ∧
    (∀ (bytes : List UInt8) (w : Wire), readDocument readWire bytes = .ok w →
      (w.direction ∉ ["SRC", "DST"] → decode bytes = .error (.unknownDirection w.direction)) ∧
      (w.direction ∈ ["SRC", "DST"] → w.kind ∉ ["target_missing", "base_missing", "neq"] →
        decode bytes = .error (.unknownType w.kind))) ∧
    (∀ (bytes : List UInt8) (d : Drift), decode bytes = .ok d ↔
      readDocument readWire bytes = .ok ⟨d.id, d.side.name, d.kind.name⟩) :=
  ⟨decode_encode, fun _ d _ => decode_encode d,
    fun _ _ hw => ⟨decode_unknownDirection hw, decode_unknownType hw⟩, fun _ _ => decode_eq_ok_iff⟩

/-- The least id, from the target side, reads back from its text. -/
theorem wire_codec_least_id :
    decode (Drift.mk Int64.minValue .dst .baseMissing).encode.toUTF8.toList =
      .ok ⟨Int64.minValue, .dst, .baseMissing⟩ :=
  wire_codec_canonical.1 _

end Drift

end TableMigration
