import TableMigration.Proofs.Json.Records
import TableMigration.Access.Cluster

/-!
# Proofs.Json.Canonical

A record's text is its canonical form: the stored row of a record reads back as the record itself,
and the text depends on the record's columns as a map from names to values only.

* Reading back gives a record that *matches* (`Record.decode_encode`, up to `Value.beq`). A value
  holding no double is the only value equal to it under `Value.beq` (`Value.FloatFree.eq_of_beq`),
  so a record without doubles reads back as itself (`Record.recordOf_rowOf_of_floatFree`).
* Member lists are sorted association lists. An insertion changes the lookup of one name
  (`Members.lookup_insert`), so a run of insertions keeps the last value given for each name
  (`Members.lookup_ofList`), and two sorted lists with the same lookups are one list
  (`Members.ext`). Setting columns one by one therefore gives the same record, and the same text,
  for any two runs that agree on the last value of each name (`Record.withColumns_congr`).
* The reader spends one level of a budget of 128 on every array or object, the record's own
  object included. A column nested 127 levels deep is refused (`Value.Normal.nested_lt`), so
  its record does not read back (`Record.deep_column_unreadable`).

The main statement is `Record.codec_canonical`.
-/

namespace TableMigration.Json

/-! ## Values without doubles -/

/-- A value holding no double anywhere. -/
inductive Value.FloatFree : Value → Prop
  | null : FloatFree .null
  | bool {b : Bool} : FloatFree (.bool b)
  | nat {n : UInt64} : FloatFree (.number (.nat n))
  | neg {n : Int64} : FloatFree (.number (.neg n))
  | string {s : String} : FloatFree (.string s)
  | array {items : List Value} : (∀ v ∈ items, FloatFree v) → FloatFree (.array items)
  | object {ms : List (String × Value)} : (∀ m ∈ ms, FloatFree m.2) → FloatFree (.object ms)

theorem Value.FloatFree.doublesReadBack {v : Value} (h : v.FloatFree) : v.DoublesReadBack := by
  induction h with
  | null => exact .null
  | bool => exact .bool
  | nat => exact .nat
  | neg => exact .neg
  | string => exact .string
  | array _ ih => exact .array ih
  | object _ ih => exact .object ih

/-- Elements that are the only values equal to themselves make a list that is the only list
equal to itself. -/
theorem Value.beqList_eq {items : List Value}
    (h : ∀ v ∈ items, ∀ w : Value, v.beq w = true → w = v) :
    ∀ {ws : List Value}, Value.beq.beqList items ws = true → ws = items := by
  induction items with
  | nil =>
    intro ws hws
    cases ws with
    | nil => rfl
    | cons w ws => simp [Value.beq.beqList] at hws
  | cons v vs ih =>
    intro ws hws
    cases ws with
    | nil => simp [Value.beq.beqList] at hws
    | cons w ws =>
      simp only [Value.beq.beqList, Bool.and_eq_true] at hws
      rw [h v List.mem_cons_self w hws.1,
        ih (fun u hu => h u (List.mem_cons_of_mem _ hu)) hws.2]

/-- The same for the members of an object, keys compared as strings. -/
theorem Value.beqMembers_eq {ms : List (String × Value)}
    (h : ∀ m ∈ ms, ∀ w : Value, m.2.beq w = true → w = m.2) :
    ∀ {ns : List (String × Value)}, Value.beq.beqMembers ms ns = true → ns = ms := by
  induction ms with
  | nil =>
    intro ns hns
    cases ns with
    | nil => rfl
    | cons n ns => simp [Value.beq.beqMembers] at hns
  | cons m ms ih =>
    intro ns hns
    obtain ⟨k, v⟩ := m
    cases ns with
    | nil => simp [Value.beq.beqMembers] at hns
    | cons n ns =>
      obtain ⟨l, w⟩ := n
      simp only [Value.beq.beqMembers, Bool.and_eq_true, beq_iff_eq] at hns
      obtain ⟨⟨rfl, hv⟩, hrest⟩ := hns
      rw [h (k, v) List.mem_cons_self w hv,
        ih (fun u hu => h u (List.mem_cons_of_mem _ hu)) hrest]

/-- A value without doubles is the only value that compares equal to it: only doubles make
`Value.beq` coarser than equality. -/
theorem Value.FloatFree.eq_of_beq {v : Value} (h : v.FloatFree) :
    ∀ {w : Value}, v.beq w = true → w = v := by
  induction h with
  | null => intro w hw; cases w <;> simp_all [Value.beq]
  | bool => intro w hw; cases w <;> simp_all [Value.beq]
  | string => intro w hw; cases w <;> simp_all [Value.beq]
  | nat =>
    intro w hw
    cases w with
    | number n => cases n <;> simp_all [Value.beq, Number.beq]
    | _ => simp [Value.beq] at hw
  | neg =>
    intro w hw
    cases w with
    | number n => cases n <;> simp_all [Value.beq, Number.beq]
    | _ => simp [Value.beq] at hw
  | array _ ih =>
    intro w hw
    cases w with
    | array ws => rw [Value.beqList_eq (fun v hv _ => ih v hv) hw]
    | _ => simp [Value.beq] at hw
  | object _ ih =>
    intro w hw
    cases w with
    | object ns => rw [Value.beqMembers_eq (fun m hm _ => ih m hm) hw]
    | _ => simp [Value.beq] at hw

/-! ## Member lists as maps -/

namespace Members

theorem lookup_cons (n k : String) (w : Value) (ps : List (String × Value)) :
    ((k, w) :: ps).lookup n = if n = k then some w else ps.lookup n := by
  rw [List.lookup_cons]
  by_cases h : n = k
  · subst h
    simp
  · rw [beq_false_of_ne h]
    simp [h]

/-- An insertion sets the lookup of its key and leaves every other key's as it was, whether
or not the list is sorted. -/
theorem lookup_insert (key n : String) (v : Value) (ms : List (String × Value)) :
    (insert key v ms).lookup n = if n = key then some v else ms.lookup n := by
  induction ms with
  | nil => simp [insert, lookup_cons]
  | cons p ps ih =>
    obtain ⟨k, w⟩ := p
    simp only [insert]
    split
    · rw [lookup_cons]
    · split
      · next heq =>
        subst heq
        by_cases hn : n = key <;> simp [lookup_cons, hn]
      · next hne =>
        -- the new key goes further down; the first key is another one
        by_cases hnk : n = k
        · subst hnk
          have hkey : n ≠ key := by
            rintro rfl
            exact hne rfl
          simp [hkey]
        · rw [lookup_cons, lookup_cons, ih, if_neg hnk, if_neg hnk]

/-- A run of insertions keeps, for each name, the last value the run gives it, and the lookup of
the list it started from for the names it never gives. -/
theorem lookup_foldl_insert (ps : List (String × Value)) (n : String) :
    ∀ acc : List (String × Value),
      (ps.foldl (fun acc (m : String × Value) => insert m.1 m.2 acc) acc).lookup n =
        (ps.reverse.lookup n).or (acc.lookup n) := by
  induction ps with
  | nil => intro acc; simp
  | cons p ps ih =>
    intro acc
    obtain ⟨k, w⟩ := p
    rw [List.foldl_cons, ih, lookup_insert, List.reverse_cons, List.lookup_append, Option.or_assoc,
      lookup_cons]
    by_cases hn : n = k <;> simp [hn]

/-- The member list of a sequence of pairs holds, for each name, the last value given to it. -/
theorem lookup_ofList (ps : List (String × Value)) (n : String) :
    (ofList ps).lookup n = ps.reverse.lookup n := by
  have := lookup_foldl_insert ps n []
  simpa [ofList] using this

/-- In a sorted member list no key after the first is the first. -/
theorem lookup_eq_none_of_lt {n : String} {ms : List (String × Value)} (h : ∀ m ∈ ms, n < m.1) :
    ms.lookup n = none :=
  List.lookup_eq_none_iff.mpr fun m hm => by simpa using ne_of_lt (h m hm)

/-- Sorted member lists with the same lookups are equal: a sorted list is determined by the map
it represents. By induction on both lists; their first keys agree because each is the least key
the other list shows. -/
theorem ext : ∀ {ms ns : List (String × Value)}, Sorted ms → Sorted ns →
    (∀ n, ms.lookup n = ns.lookup n) → ms = ns
  | [], [], _, _, _ => rfl
  | [], (l, w) :: _, _, _, h => by simpa using h l
  | (k, v) :: _, [], _, _, h => by simpa using h k
  | (k, v) :: ms, (l, w) :: ns, hms, hns, h => by
    have hk : ∀ m ∈ ms, k < m.1 := (List.pairwise_cons.mp hms).1
    have hl : ∀ m ∈ ns, l < m.1 := (List.pairwise_cons.mp hns).1
    -- the first keys are the same: a key below the other list's first key is not in it
    obtain rfl : k = l := by
      rcases lt_trichotomy k l with hlt | heq | hgt
      · have hfind := h k
        rw [lookup_cons, lookup_cons, if_pos rfl, if_neg (ne_of_lt hlt),
          lookup_eq_none_of_lt fun m hm => lt_trans hlt (hl m hm)] at hfind
        cases hfind
      · exact heq
      · have hfind := h l
        rw [lookup_cons, lookup_cons, if_neg (ne_of_lt hgt), if_pos rfl,
          lookup_eq_none_of_lt fun m hm => lt_trans hgt (hk m hm)] at hfind
        cases hfind
    have hvw : v = w := by simpa [lookup_cons] using h k
    -- the rests represent the same map: the first key is in neither
    have hrest : ∀ n, ms.lookup n = ns.lookup n := by
      intro n
      by_cases hn : n = k
      · subst hn
        rw [lookup_eq_none_of_lt hk, lookup_eq_none_of_lt hl]
      · simpa [lookup_cons, hn] using h n
    rw [hvw, ext (List.pairwise_cons.mp hms).2 (List.pairwise_cons.mp hns).2 hrest]

end Members

/-! ## Nesting -/

/-- An empty array inside `n` more arrays: `n + 1` levels of nesting. -/
def Value.nested : Nat → Value
  | 0 => .array []
  | n + 1 => .array [nested n]

theorem Value.nested_floatFree (n : Nat) : (Value.nested n).FloatFree := by
  induction n with
  | zero => exact .array (by simp)
  | succ n ih => exact .array (by simpa using ih)

/-- `n + 1` levels of arrays fit a budget only with a level to spare. -/
theorem Value.Normal.nested_lt : ∀ {n d : Nat}, (Value.nested n).Normal d → n + 1 < d
  | 0, _, h => by
    rw [Value.nested] at h
    cases h with
    | array hd _ => exact hd
  | n + 1, _, h => by
    rw [Value.nested] at h
    cases h with
    | array hd hitems =>
      have := Value.Normal.nested_lt (hitems _ List.mem_cons_self)
      omega

end TableMigration.Json

namespace TableMigration

open Json Access

/-- The record in a row is one a decode can give. -/
theorem recordOf_normal {row : Store.Row} {r : Record} (h : recordOf row = .ok r) : r.Normal := by
  unfold recordOf at h
  split at h
  · next r' hdec => cases h; exact Record.decode_normal hdec
  · cases h

namespace Record

/-! ## Records read back as themselves -/

/-- A record whose columns hold no double. -/
def FloatFree (r : Record) : Prop := ∀ m ∈ r.columns, m.2.FloatFree

/-- A record without doubles is the only record with its utime that matches it. -/
theorem eq_of_matches {r r' : Record} (hf : r.FloatFree) (hm : r.matches r' = true)
    (hu : r'.utime = r.utime) : r' = r := by
  simp only [«matches», Bool.and_eq_true, beq_iff_eq, Value.beq] at hm
  obtain ⟨hid, hcols⟩ := hm
  have hcols' := Value.beqMembers_eq (fun m hm _ => (hf m hm).eq_of_beq) hcols
  cases r
  cases r'
  simp_all

/-- The stored row of a normal record without doubles reads back as the record. -/
theorem recordOf_rowOf_of_floatFree {r : Record} (hr : r.Normal) (hf : r.FloatFree) :
    recordOf (rowOf r) = .ok r := by
  obtain ⟨r', hdec, hm, hu⟩ := decode_encode hr fun m hm => (hf m hm).doublesReadBack
  rw [eq_of_matches hf hm hu] at hdec
  simp only [recordOf, rowOf, hdec]

/-- The stored row of a record without columns reads back as the record. -/
theorem recordOf_rowOf_new (id utime : Int64) :
    recordOf (rowOf (.new id utime)) = .ok (.new id utime) :=
  recordOf_rowOf_of_floatFree ⟨.nil, fun _ h => nomatch h⟩ (fun _ h => nomatch h)

/-! ## Columns set one by one -/

/-- Setting columns one after the other inserts them, in order, into the record's columns. -/
theorem foldl_withColumn (ps : List (String × Value)) :
    ∀ r : Record, ps.foldl (fun r m => r.withColumn m.1 m.2) r =
      { r with columns :=
          (ps.foldl (fun acc (m : String × Value) => Members.insert m.1 m.2 acc) r.columns) } := by
  induction ps with
  | nil => intro r; rfl
  | cons p ps ih => intro r; rw [List.foldl_cons, ih]; rfl

/-- Two runs of column settings that give each name the same last value build the same record,
whatever the order of the names and whatever values come before the last. -/
theorem withColumns_congr (id utime : Int64) {ps qs : List (String × Value)}
    (h : ∀ n, ps.reverse.lookup n = qs.reverse.lookup n) :
    ps.foldl (fun r m => r.withColumn m.1 m.2) (Record.new id utime) =
      qs.foldl (fun r m => r.withColumn m.1 m.2) (Record.new id utime) := by
  rw [foldl_withColumn, foldl_withColumn]
  have hofList : ∀ xs : List (String × Value),
      xs.foldl (fun acc (m : String × Value) => Members.insert m.1 m.2 acc) [] = Members.ofList xs :=
    fun _ => rfl
  simp only [Record.new, hofList]
  -- both column lists are sorted and look every name up as its last value
  rw [Members.ext (Members.ofList_spec ps).1 (Members.ofList_spec qs).1 fun n => by
    rw [Members.lookup_ofList, Members.lookup_ofList, h]]

/-! ## A column too deep to read back -/

/-- A record without doubles and without `id` or `utime` columns whose stored row does not read
back as itself: its one column is nested 127 levels deep, and with the record's own object that
is one level past the reader's budget of 128. -/
theorem deep_column_unreadable :
    let r : Record := ⟨1, 0, [("a", Value.nested 126)]⟩
    (∀ m ∈ r.columns, m.1 ≠ "id" ∧ m.1 ≠ "utime" ∧ m.2.FloatFree) ∧ recordOf (rowOf r) ≠ .ok r := by
  intro r
  refine ⟨fun m hm => ?_, fun h => ?_⟩
  · obtain rfl := List.mem_singleton.mp hm
    exact ⟨by decide, by decide, Value.nested_floatFree 126⟩
  · have hn := ((recordOf_normal h).columns _ List.mem_cons_self).2.2
    have hlt : 126 + 1 < columnBudget := hn.nested_lt
    exact absurd hlt (by decide)

/-! ## The codec -/

/-- The record codec: a normal record without doubles is stored under its own id and utime and
reads back as itself; a record read from any row, if it holds no double, is such a record, so
its text is a fixed point of reading and writing; and the text of a record built column by
column depends only on the last value given to each name. -/
theorem codec_canonical :
    (∀ r : Record, r.Normal → r.FloatFree →
      (rowOf r).id = r.id ∧ (rowOf r).utime = r.utime ∧ recordOf (rowOf r) = .ok r) ∧
    (∀ (row : Store.Row) (r : Record), recordOf row = .ok r → r.FloatFree →
      recordOf (rowOf r) = .ok r ∧
        (recordOf (rowOf r)).map (fun r' => (rowOf r').data) = .ok (rowOf r).data) ∧
    (∀ (id utime : Int64) (ps qs : List (String × Value)),
      (∀ n, ps.reverse.lookup n = qs.reverse.lookup n) →
      (ps.foldl (fun r m => r.withColumn m.1 m.2) (Record.new id utime)).encode =
        (qs.foldl (fun r m => r.withColumn m.1 m.2) (Record.new id utime)).encode) := by
  refine ⟨fun r hr hf => ⟨rfl, rfl, recordOf_rowOf_of_floatFree hr hf⟩, fun row r hrow hf => ?_,
    fun id utime _ _ h => by rw [withColumns_congr id utime h]⟩
  have hback := recordOf_rowOf_of_floatFree (recordOf_normal hrow) hf
  exact ⟨hback, by rw [hback]; rfl⟩

/-- The record of the stored-row round trip test: one text column. -/
theorem codec_canonical_title :
    let r := (Record.new 5 10).withColumn "title" (.string "hello")
    (r.Normal ∧ r.FloatFree) ∧
      (rowOf r).id = 5 ∧ (rowOf r).utime = 10 ∧ recordOf (rowOf r) = .ok r := by
  intro r
  have hcols : r.columns = [("title", .string "hello")] := rfl
  have hn : r.Normal := ⟨by rw [hcols]; exact List.pairwise_singleton _ _, fun m hm => by
    rw [hcols, List.mem_singleton] at hm
    subst hm
    exact ⟨by decide, by decide, .string⟩⟩
  have hf : r.FloatFree := fun m hm => by
    rw [hcols, List.mem_singleton] at hm
    subst hm
    exact .string
  exact ⟨⟨hn, hf⟩, codec_canonical.1 r hn hf⟩

end Record

end TableMigration
