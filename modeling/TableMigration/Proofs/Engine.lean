import TableMigration.Proofs.ByteTree
import TableMigration.Proofs.PayloadLayout
import TableMigration.Proofs.KeyLayout
import TableMigration.Proofs.RowMap
import TableMigration.Store.Pool

/-!
# Proofs.Engine

The storage engine refines the contents of a store. An engine whose byte map holds, at the key of
every row of some ordered contents, that row's stored payload, and nothing else
(`Tree.Represents`), answers every call as the contents do and never fails while its storage
works. Names are those a key can hold, under `2 ^ 64` bytes, and rows those a payload can hold,
with under `2 ^ 31 - 16` bytes of data.

A row's key and payload read back as the row (`Pool.decodeRow_stored`), so a lookup by id
answers the contents' row (`Pool.get_of_represents`). The range a scan reads holds exactly the
keys of its table's rows past the cursor, in id order, since byte order on one table's keys is id
order (`Pool.range_of_represents`); so a scan reads the table's rows past the cursor
(`Pool.scanAfter_of_represents`), the cursor's key never reads as another table's row and no key
fails to read as an id. A scan query keeps the rows at or above its watermark until `limit` are
kept, which is the contents' page (`Pool.takeRows_ok`). A write sets or clears the key of its
row, which moves the map as the statement moves the contents (`Tree.Represents.write`), and a
batch does so statement by statement (`Tree.Represents.writeAll`). Read back at every row's key,
the byte map is the contents' map (`Pool.view_of_represents`), and a write or a batch moves it
as the reference's writes do (`Pool.view_write`, `Pool.view_applyBatch`).

When the storage has failed every call fails with its detail and nothing is written
(`Pool.apply_of_fault`, `Pool.applyAll_of_fault`), and a commit of a transaction with
statements fails with the batch's wording (`Pool.commit_eq_error_iff`).
-/

namespace TableMigration.Store

/-- A row whose data a stored payload can hold. -/
def Row.Fits (r : Row) : Prop := r.data.length + 16 ≤ 2 ^ 31

/-- A statement whose table name a key can hold, and whose row, if it writes one, a payload can
hold. -/
def Statement.Fits : Statement → Prop
  | .upsert table row => table.utf8ByteSize < 2 ^ 64 ∧ row.Fits
  | .delete table _ => table.utf8ByteSize < 2 ^ 64

instance (r : Row) : Decidable r.Fits := inferInstanceAs (Decidable (_ ≤ _))

instance : (stmt : Statement) → Decidable stmt.Fits
  | .upsert _ _ => inferInstanceAs (Decidable (_ ∧ _))
  | .delete _ _ => inferInstanceAs (Decidable (_ < _))

theorem Statement.Fits.name {stmt : Statement} (h : stmt.Fits) : stmt.key.1.utf8ByteSize < 2 ^ 64 := by
  cases stmt with
  | upsert table row => exact h.1
  | delete table id => exact h

/-- A statement writes the key of its own table and id. -/
theorem Statement.entry_fst (stmt : Statement) : stmt.entry.1 = rowKey stmt.key.1 stmt.key.2 := by
  cases stmt <;> rfl

/-- A statement writes its row's stored payload, or clears its key. -/
theorem Statement.entry_snd (stmt : Statement) : stmt.entry.2 = stmt.written.map Row.stored := by
  cases stmt <;> rfl

/-! ## Rows read back -/

namespace Pool

/-- A row rejoined with its id from its stored payload is the row. -/
theorem decodeRow_stored {r : Row} (h : r.Fits) : decodeRow r.id r.stored = .ok r := by
  simp [decodeRow, Row.stored, decodePayload_encodePayload r.utime r.data h]

end Pool

/-! ## The byte map of some contents -/

/-- The byte map holds the contents: every key is the key of a row of a table whose name a key
can hold; at the key of each such row it holds that row's stored payload, and nothing at a key
where the contents have no row; the contents are ordered, and a payload holds each of their
rows. -/
structure Tree.Represents (tree : Tree) (s : Contents) : Prop where
  keys : ∀ e ∈ tree.entries, ∃ t id, t.utf8ByteSize < 2 ^ 64 ∧ e.1 = rowKey t id
  rows : ∀ t id, t.utf8ByteSize < 2 ^ 64 → tree.get? (rowKey t id) = (s.get? t id).map Row.stored
  ordered : s.Ordered
  fits : ∀ t, ∀ r ∈ s.table t, t.utf8ByteSize < 2 ^ 64 ∧ r.Fits

/-- The empty byte map holds the empty store. -/
theorem Tree.represents_empty : ({} : Tree).Represents Contents.empty where
  keys _ h := by cases h
  rows _ _ _ := rfl
  ordered := Contents.ordered_empty
  fits _ _ h := by simp [Contents.empty, Contents.table] at h

/-- A statement's rows after it are the rows before it and the row it writes. -/
theorem Contents.mem_table_apply {s : Contents} {stmt : Statement} {t : String} {r : Row}
    (h : r ∈ (s.apply stmt).2.table t) : r ∈ s.table t ∨ stmt.key.1 = t ∧ stmt.written = some r := by
  cases stmt with
  | upsert t' row =>
    rw [Contents.table_apply_upsert] at h
    split at h
    · rename_i ht
      subst ht
      rcases Table.mem_upsert h with rfl | h
      · exact .inr ⟨rfl, rfl⟩
      · exact .inl h
    · exact .inl h
  | delete t' id =>
    rw [Contents.table_apply_delete] at h
    split at h
    · rename_i ht
      subst ht
      exact .inl (List.mem_filter.mp h).1
    · exact .inl h

/-- A write of a statement that fits moves the byte map as the statement moves the contents. -/
theorem Tree.Represents.write {tree : Tree} {s : Contents} (h : tree.Represents s)
    {stmt : Statement} (hfit : stmt.Fits) :
    (tree.write stmt.entry.1 stmt.entry.2).Represents (s.apply stmt).2 where
  keys e he := by
    rcases tree.mem_write he with ⟨hk, -⟩ | he
    · exact ⟨stmt.key.1, stmt.key.2, hfit.name, by rw [hk, Statement.entry_fst]⟩
    · exact h.keys e he
  rows t id ht := by
    -- the written key is the row's own key, and no other row's
    have hkey : rowKey t id = stmt.entry.1 ↔ stmt.key = (t, id) := by
      rw [Statement.entry_fst, rowKey_inj ht hfit.name]
      constructor
      · rintro ⟨rfl, rfl⟩
        rfl
      · intro hk
        rw [hk]
        exact ⟨rfl, rfl⟩
    rw [Tree.get?_write, Contents.get?_apply, Statement.entry_snd]
    by_cases hk : stmt.key = (t, id)
    · rw [if_pos (hkey.mpr hk), if_pos hk]
    · rw [if_neg (fun h' => hk (hkey.mp h')), if_neg hk, h.rows t id ht]
  ordered := Contents.ordered_apply h.ordered stmt
  fits t r hr := by
    rcases Contents.mem_table_apply hr with hr | ⟨rfl, hw⟩
    · exact h.fits t r hr
    · cases stmt with
      | upsert t' row =>
        obtain rfl : row = r := Option.some.inj hw
        exact hfit
      | delete t' id => cases hw

/-- Statements that fit, written one after the other, move the byte map as they move the
contents: by induction on the statements, from `Tree.Represents.write`. -/
theorem Tree.Represents.writeAll {tree : Tree} {s : Contents} (h : tree.Represents s)
    {stmts : List Statement} (hfit : ∀ stmt ∈ stmts, stmt.Fits) :
    (tree.applyBatch (stmts.map Statement.entry)).Represents (s.applyAll stmts) := by
  induction stmts generalizing tree s with
  | nil => exact h
  | cons stmt rest ih =>
    exact ih (h.write (hfit stmt List.mem_cons_self) )
      (fun stmt' hs => hfit stmt' (List.mem_cons_of_mem _ hs))

/-! ## Reads -/

namespace Pool

variable {p : Pool} {s : Contents}

theorem access_of_healthy (hp : p.fault = none) : p.access = .ok p.tree := by simp [access, hp]

/-- A lookup by id answers the contents' row. -/
theorem get_of_represents (hp : p.fault = none) (h : p.tree.Represents s) {t : String}
    (ht : t.utf8ByteSize < 2 ^ 64) (id : Int64) : p.get t id = .ok (s.get? t id) := by
  rw [get, access_of_healthy hp]
  simp only [bind, Except.bind, h.rows t id ht]
  cases hrow : s.get? t id with
  | none => rfl
  | some r =>
    obtain ⟨hmem, hid⟩ := Table.find?_some hrow
    subst hid
    simp [decodeRow_stored (h.fits t r hmem).2]

/-- Where a scan starts and where it stops bound exactly the keys of its range. -/
theorem scanStart_admits_iff (t : String) (after : Option Int64) (k : List UInt8) :
    ((scanStart t after).admits k = true ∧ k ≤ rowKey t Int64.maxValue) ↔ InScanRange t after k := by
  cases after <;> simp [scanStart, Bound.admits, InScanRange]

/-- The entries a scan of a table past a cursor reads are the keys and payloads of the table's
rows past the cursor, in id order. -/
theorem range_of_represents (h : p.tree.Represents s) {t : String} (ht : t.utf8ByteSize < 2 ^ 64)
    (after : Option Int64) :
    p.tree.range (scanStart t after) (rowKey t Int64.maxValue) =
      (Table.after after (s.table t)).map fun r => (rowKey t r.id, r.stored) := by
  have : Std.Irrefl fun a b : List UInt8 × List UInt8 => a.1 < b.1 := ⟨fun a => List.lt_irrefl a.1⟩
  -- the rows past the cursor, keyed, are in key order since their ids are in order
  have hsorted : ((Table.after after (s.table t)).map fun r => (rowKey t r.id, r.stored)).Pairwise
      (·.1 < ·.1) :=
    List.pairwise_map.mpr (((h.ordered t).after after).imp fun hlt => (rowKey_lt_rowKey_iff t _ _).mpr hlt)
  refine List.Pairwise.eq_of_mem_iff (p.tree.ordered_range _ _) hsorted fun e => ?_
  rw [Tree.mem_range, scanStart_admits_iff, List.mem_map]
  constructor
  · -- an entry in range is the key of a row of the table past the cursor
    rintro ⟨hmem, hrange⟩
    obtain ⟨t', id, ht', hk⟩ := h.keys e hmem
    rw [hk] at hrange
    obtain ⟨rfl, hafter⟩ := (rowKey_inScanRange_iff ht ht' after id).mp hrange
    have hval : p.tree.get? (rowKey t' id) = some e.2 := by
      rw [← hk]
      exact (p.tree.get?_eq_some_iff).mpr hmem
    rw [h.rows t' id ht'] at hval
    obtain ⟨r, hr, hstored⟩ := Option.map_eq_some_iff.mp hval
    obtain ⟨hrmem, hid⟩ := Table.find?_some hr
    refine ⟨r, List.mem_filter.mpr ⟨hrmem, hid ▸ hafter⟩, ?_⟩
    rw [hid, hstored, ← hk]
  · -- the key of a row past the cursor is in range and holds the row's payload
    rintro ⟨r, hr, rfl⟩
    obtain ⟨hrmem, hafter⟩ := List.mem_filter.mp hr
    refine ⟨(p.tree.get?_eq_some_iff).mp ?_, (rowKey_inScanRange_iff ht ht after r.id).mpr ⟨rfl, hafter⟩⟩
    rw [h.rows t r.id ht, Contents.get?, Table.find?_of_mem (h.ordered t) hrmem]
    rfl

/-- A scan of a table past a cursor reads the table's rows past the cursor, in id order: every
key in its range reads as an id, and every payload as its row. -/
theorem scanAfter_of_represents (hp : p.fault = none) (h : p.tree.Represents s) {t : String}
    (ht : t.utf8ByteSize < 2 ^ 64) (after : Option Int64) :
    p.scanAfter t after = (Table.after after (s.table t)).map .ok := by
  simp only [scanAfter, access_of_healthy hp, range_of_represents h ht after, List.map_map]
  apply List.map_congr_left
  intro r hr
  have hfit := (h.fits t r (List.mem_filter.mp hr).1).2
  simp [decodeId_drop_tablePrefix, decodeRow_stored hfit]

/-- Rows read without failure are collected as they are. -/
theorem mapM_ok (rows : List Row) : rows.mapM (Except.ok (ε := Failure)) = .ok rows := by
  induction rows with
  | nil => rfl
  | cons r rs ih =>
    rw [List.mapM_cons, ih]
    rfl

theorem rowsAfter_of_represents (hp : p.fault = none) (h : p.tree.Represents s) {t : String}
    (ht : t.utf8ByteSize < 2 ^ 64) (after : Option Int64) :
    p.rowsAfter t after = .ok (Table.after after (s.table t)) := by
  rw [rowsAfter, scanAfter_of_represents hp h ht, List.mapM_map]
  exact mapM_ok _

/-- The engine reads a table as the contents hold it. -/
theorem reader_agrees (hp : p.fault = none) (h : p.tree.Represents s) {t : String}
    (ht : t.utf8ByteSize < 2 ^ 64) : p.reader.Agrees s t :=
  ⟨get_of_represents hp h ht, rowsAfter_of_represents hp h ht⟩

/-- A scan that reads no failure keeps the rows at or above its watermark until `limit` are
kept. -/
theorem takeRows_ok (since : Option Int64) : ∀ (limit : Nat) (rows : List Row),
    takeRows since limit (rows.map .ok) =
      .ok ((rows.filter fun r => since.all (· ≤ r.utime)).take limit)
  | 0, rows => by simp [takeRows]
  | n + 1, [] => rfl
  | n + 1, r :: rows => by
    simp only [List.map_cons, takeRows]
    by_cases hr : since.all (· ≤ r.utime) = true
    · rw [if_pos hr, takeRows_ok since n rows]
      simp [hr]
    · rw [if_neg hr, takeRows_ok since (n + 1) rows]
      simp [hr]

/-- Every query on a table whose name a key can hold answers what the contents answer, and does
not fail. -/
theorem select_of_represents (hp : p.fault = none) (h : p.tree.Represents s) (q : Query)
    (ht : q.table.utf8ByteSize < 2 ^ 64) : p.select q = .ok (s.select q) := by
  cases q with
  | scan t since after limit =>
    have ht' : t.utf8ByteSize < 2 ^ 64 := ht
    rw [select, scanAfter_of_represents hp h ht', takeRows_ok]
    rfl
  | byId t id =>
    have ht' : t.utf8ByteSize < 2 ^ 64 := ht
    rw [select, get_of_represents hp h ht']
    rfl
  | byIds t ids =>
    have ht' : t.utf8ByteSize < 2 ^ 64 := ht
    have hget : p.get t = fun id => (pure (s.get? t id) : Except Failure _) :=
      funext (get_of_represents hp h ht')
    rw [select, hget, List.mapM_pure, map_pure, List.reduceOption, List.filterMap_map]
    rfl

/-- A write that fits reports what the contents report, and sets or clears its key. -/
theorem apply_of_represents (hp : p.fault = none) (h : p.tree.Represents s) {stmt : Statement}
    (hfit : stmt.Fits) :
    p.apply stmt = .ok ((s.apply stmt).1, { p with tree := p.tree.write stmt.entry.1 stmt.entry.2 }) := by
  rw [apply, access_of_healthy hp]
  cases stmt with
  | upsert t row => rfl
  | delete t id =>
    -- the key held a value exactly when the contents have the row
    have hheld : (p.tree.get? (rowKey t id)).isSome = (s.get? t id).isSome := by
      rw [h.rows t id hfit, Option.isSome_map]
    show Except.ok ((if (p.tree.remove (rowKey t id)).1.isSome then 1 else 0),
      { p with tree := (p.tree.remove (rowKey t id)).2 }) = _
    rw [Tree.remove_fst, hheld, Contents.apply_fst]
    rfl

/-- A batch written while the storage works is written key by key, in order. -/
theorem applyAll_of_healthy (hp : p.fault = none) (stmts : List Statement) :
    p.applyAll stmts = .ok { p with tree := p.tree.applyBatch (stmts.map Statement.entry) } := by
  rw [applyAll, access_of_healthy hp]
  rfl

/-- A commit while the storage works writes the transaction's statements as one batch. -/
theorem commit_of_healthy (hp : p.fault = none) (tx : Transaction) :
    p.commit tx = .ok { p with tree := p.tree.applyBatch (tx.ops.map Statement.entry) } := by
  unfold commit
  split
  · rename_i hnil
    rw [List.isEmpty_iff.mp hnil]
    rfl
  · rw [applyAll_of_healthy hp]

/-! ## Failed storage -/

section Fault

variable {d : String} (hd : p.fault = some d)
include hd

theorem access_of_fault : p.access = .error (.storage d) := by simp [access, hd]

theorem get_of_fault (t : String) (id : Int64) : p.get t id = .error (.storage d) := by
  rw [get, access_of_fault hd]
  rfl

/-- A write fails with the storage's detail, and so writes nothing. -/
theorem apply_of_fault (stmt : Statement) : p.apply stmt = .error (.storage d) := by
  rw [apply, access_of_fault hd]
  rfl

theorem applyAll_of_fault (stmts : List Statement) : p.applyAll stmts = .error (.storage d) := by
  rw [applyAll, access_of_fault hd]
  rfl

/-- A scan fails with the storage's detail once it reads a row. -/
theorem scanAfter_of_fault (t : String) (after : Option Int64) :
    p.scanAfter t after = [.error (.storage d)] := by
  rw [scanAfter, access_of_fault hd]

end Fault

/-- A commit fails exactly when the transaction has statements and the storage has failed, and
then with the batch's wording. -/
theorem commit_eq_error_iff (tx : Transaction) (f : Failure) :
    p.commit tx = .error f ↔
      tx.ops ≠ [] ∧ ∃ d, p.fault = some d ∧ f = .transaction (Failure.storage d).message := by
  cases hp : p.fault with
  | none => simp [commit_of_healthy hp]
  | some d =>
    unfold commit
    by_cases hnil : tx.ops = []
    · simp [hnil]
    · have hne : tx.ops.isEmpty = false := by simpa using hnil
      rw [if_neg (by simp [hne]), applyAll_of_fault hp]
      simp [hnil, eq_comm]

/-- The map an engine holds: at a table whose name a key can hold and an id, the utime and data
that the payload at the row's key reads back as. -/
def view (p : Pool) : RowMap := fun k =>
  if k.1.utf8ByteSize < 2 ^ 64 then (p.tree.get? (rowKey k.1 k.2)).bind decodePayload else none

/-- An engine holding some contents holds their map. -/
theorem view_of_represents (h : p.tree.Represents s) : p.view = s.view := by
  funext ⟨t, id⟩
  simp only [view, Contents.view]
  cases hrow : s.get? t id with
  | none =>
    by_cases ht : t.utf8ByteSize < 2 ^ 64
    · rw [if_pos ht, h.rows t id ht, hrow]
      rfl
    · rw [if_neg ht]
      rfl
  | some r =>
    -- a row lies in a table whose name a key can hold, and reads back from its payload
    obtain ⟨ht, hfit⟩ := h.fits t r (Table.find?_some hrow).1
    rw [if_pos ht, h.rows t id ht, hrow]
    simp [Row.stored, decodePayload_encodePayload _ _ hfit]

/-- A write moves the engine's map as it moves the reference. -/
theorem view_write (h : p.tree.Represents s) {stmt : Statement} (hfit : stmt.Fits) :
    ({ p with tree := p.tree.write stmt.entry.1 stmt.entry.2 } : Pool).view = (p.view.exec stmt).2 := by
  rw [view_of_represents (p := { p with tree := p.tree.write stmt.entry.1 stmt.entry.2 })
    (h.write hfit), view_of_represents h,
    Contents.view_apply]

/-- A batch moves the engine's map as its statements, in order, move the reference. -/
theorem view_applyBatch (h : p.tree.Represents s) {stmts : List Statement}
    (hfit : ∀ stmt ∈ stmts, stmt.Fits) :
    ({ p with tree := p.tree.applyBatch (stmts.map Statement.entry) } : Pool).view =
      p.view.execAll stmts := by
  rw [view_of_represents (p := { p with tree := p.tree.applyBatch (stmts.map Statement.entry) })
    (h.writeAll hfit), view_of_represents h,
    Contents.view_applyAll]

end Pool

end TableMigration.Store
