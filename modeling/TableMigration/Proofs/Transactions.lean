import Mathlib.Data.List.ReduceOption
import TableMigration.Proofs.Writes
import TableMigration.Store.Transaction
import TableMigration.Proofs.ByteTree

/-!
# Proofs.Transactions

A transaction reads its own writes.

A transaction keeps the statements it was given, in order, and a cache with the latest write
of every key it touched; its reads consult the cache first and the store after it. All rests
on one invariant, `Transaction.Tracks`: at every key the cache holds what the last buffered
statement writing that key left there. Under it a read inside the transaction answers what
the same read answers from the store's contents with the buffered statements applied
(`Transaction.Tracks.query_eq`), whatever the contents hold at the time of the read. The
transaction gets there by another route: a scan overlays the cache on the rows read past the
cursor, keyed by id, and a batch lookup gathers rows id by id, and both equal the store's own
answer because sorted tables that agree at every id are equal. A write reports the rows the
store would report on that state.

A reader that may fail but reads one table as given contents do (`Reader.Agrees`) makes every
call on that table answer as over those contents (`Transaction.query_agrees`,
`Transaction.exec_agrees`). A write fails exactly when it is a delete of a row the transaction
has not written and the store's read of that row fails (`Transaction.exec_eq_error_iff`).
-/

namespace TableMigration.Store

/-! ## Batch lookups -/

/-- The rows a batch lookup finds, in the order of the ids asked for, hold at each id the
store's row when the id was asked for. -/
theorem find?_filterMap_get? (s : Contents) (table : String) (ids : List Int64) (j : Int64) :
    (ids.filterMap (s.get? table)).find? (·.id == j) = if j ∈ ids then s.get? table j else none := by
  induction ids with
  | nil => simp
  | cons id rest ih =>
    cases hget : s.get? table id with
    | none =>
      by_cases hj : j = id
      · subst hj
        simp [hget, ih]
      · simp [hget, ih, hj]
    | some r =>
      have hr : r.id = id := (Table.find?_some hget).2
      by_cases hj : id = j
      · subst hj
        simp [hget, hr]
      · have hne : (r.id == j) = false := by simpa [hr] using hj
        simp [hget, hne, ih, Ne.symm hj]

/-- Sorted ids with their repeats erased strictly increase. -/
theorem pairwise_lt_eraseDups : ∀ (ids : List Int64), ids.Pairwise (· ≤ ·) →
    ids.eraseDups.Pairwise (· < ·)
  | [], _ => by simp
  | id :: rest, h => by
    have hhead := List.pairwise_cons.mp h
    have hrest : (rest.filter fun b => !b == id).Pairwise (· ≤ ·) := hhead.2.sublist List.filter_sublist
    rw [List.eraseDups_cons]
    refine List.Pairwise.cons (fun b hb => ?_) (pairwise_lt_eraseDups _ hrest)
    -- every later id is at least `id` and differs from it
    obtain ⟨hmem, hne⟩ := List.mem_filter.mp (List.mem_eraseDups.mp hb)
    have hle := hhead.1 b hmem
    have hne' : b ≠ id := by simpa using hne
    exact Int64.lt_of_le_of_ne hle (Ne.symm hne')
termination_by ids => ids.length
decreasing_by
  have := List.length_filter_le (fun b => !b == id) rest
  simp only [List.length_cons]
  omega

/-- A batch lookup answers rows in strictly increasing id order. -/
theorem sorted_select_byIds (s : Contents) (table : String) (ids : List Int64) :
    (s.select (.byIds table ids)).Pairwise (·.id < ·.id) := by
  have hsorted : (ids.mergeSort fun a b => decide (a ≤ b)).Pairwise (· ≤ ·) := by
    have := List.pairwise_mergeSort
      (fun (a b c : Int64) (hab : decide (a ≤ b) = true) (hbc : decide (b ≤ c) = true) => by
        simp only [decide_eq_true_eq] at *; exact Int64.le_trans hab hbc)
      (fun a b => by simpa using Int64.le_total a b) ids
    simpa using this
  refine (pairwise_lt_eraseDups _ hsorted).filterMap _ fun a b hab r ha r' hb => ?_
  rw [(Table.find?_some ha).2, (Table.find?_some hb).2]
  exact hab

/-- A batch lookup finds at each id the store's row when the id was asked for. -/
theorem find?_select_byIds (s : Contents) (table : String) (ids : List Int64) (j : Int64) :
    Table.find? j (s.select (.byIds table ids)) = if j ∈ ids then s.get? table j else none := by
  simp only [Contents.select, Table.find?]
  rw [find?_filterMap_get?]
  simp

/-! ## Rows keyed by id -/

namespace Table

/-- A row found in rows inserted in turn is the last of them with that id. -/
theorem find?_ofRows (rows : List Row) (j : Int64) :
    find? j (ofRows rows) = rows.reverse.find? (·.id == j) := by
  -- inserting in turn: what is found is the last row inserted with the id, else what was there
  have hfind : ∀ (rows : List Row) (acc : Table),
      find? j (rows.foldl (fun acc r => upsert r acc) acc) =
        (rows.reverse.find? (·.id == j)).or (find? j acc) := by
    intro rows
    induction rows with
    | nil => simp
    | cons r rs ih =>
      intro acc
      simp only [List.foldl_cons, ih, find?_upsert, List.reverse_cons, List.find?_append,
        Option.or_assoc, List.find?_singleton]
      by_cases hr : r.id = j <;> simp [hr]
  unfold ofRows
  simpa [find?] using hfind rows []

theorem sorted_ofRows (rows : List Row) : (ofRows rows).Sorted := by
  have h : ∀ (rows : List Row) (acc : Table), acc.Sorted →
      (rows.foldl (fun acc r => upsert r acc) acc).Sorted := by
    intro rows
    induction rows with
    | nil => exact fun _ h => h
    | cons r rs ih => exact fun acc h => ih _ (sorted_upsert r h)
  exact h rows [] sorted_nil

/-- In a sorted table the last row with an id is the only one. -/
theorem find?_reverse {t : Table} (h : t.Sorted) (j : Int64) :
    t.reverse.find? (·.id == j) = find? j t := by
  cases hf : find? j t with
  | none =>
    rw [List.find?_eq_none]
    intro r hr
    simpa using find?_eq_none.mp hf r (List.mem_reverse.mp hr)
  | some r =>
    obtain ⟨hr, hid⟩ := find?_some hf
    -- the reversed table finds some row with id `j`, which the table finds at `j` as well
    cases hf' : t.reverse.find? (·.id == j) with
    | none =>
      have hnot := List.find?_eq_none.mp hf' r (List.mem_reverse.mpr hr)
      simp [hid] at hnot
    | some r' =>
      have hmem : r' ∈ t := List.mem_reverse.mp (List.mem_of_find?_eq_some hf')
      have hid' : r'.id = j := by simpa using List.find?_some hf'
      rw [← hf, ← hid', find?_of_mem h hmem]

/-- Rows already sorted are their own table. -/
theorem ofRows_of_sorted {t : Table} (h : t.Sorted) : ofRows t = t :=
  ext_find? (sorted_ofRows t) h fun j => by rw [find?_ofRows, find?_reverse h]

end Table

/-- Rows gathered id by id and keyed by id make the store's batch lookup. -/
theorem gather_eq_select_byIds (s : Contents) (table : String) (ids : List Int64) :
    Table.ofRows (ids.filterMap (s.get? table)) = s.select (.byIds table ids) := by
  apply Table.ext_find? (Table.sorted_ofRows _) (sorted_select_byIds s table ids)
  intro j
  rw [Table.find?_ofRows, find?_select_byIds, ← List.filterMap_reverse, find?_filterMap_get?]
  simp

/-! ## The transaction's cache -/

namespace Transaction

/-- The cache tracks the buffered statements: it holds the latest buffered write of every
key, and a cached row carries the id of its key. -/
structure Tracks (tx : Transaction) : Prop where
  latest : ∀ k, tx.cache.lookup k = lastWrite k tx.ops
  keyed : ∀ k r, (k, some r) ∈ tx.cache → r.id = k.2

/-- A new transaction tracks its (no) statements. -/
theorem tracks_empty : Tracks {} := ⟨fun _ => rfl, fun _ _ h => by cases h⟩

section Contents

variable (tx : Transaction) (s : Contents)

/-- Buffering a statement appends it and remembers what it leaves at its key. -/
theorem exec_snd (stmt : Statement) :
    (Id.run (tx.exec (.ofContents s) stmt)).2 =
      { tx with ops := tx.ops ++ [stmt] }.remember stmt.key.1 stmt.key.2 stmt.written := by
  cases stmt <;> rfl

@[simp] theorem ops_exec (stmt : Statement) :
    (Id.run (tx.exec (.ofContents s) stmt)).2.ops = tx.ops ++ [stmt] := by
  rw [exec_snd]
  rfl

variable {tx}

/-- Buffering a statement keeps the cache tracking the statements. -/
theorem Tracks.exec (h : tx.Tracks) (stmt : Statement) :
    (Id.run (tx.exec (.ofContents s) stmt)).2.Tracks := by
  rw [exec_snd]
  constructor
  · intro k
    simp only [remember, List.lookup_cons, lookup_filter_key, lastWrite_concat, h.latest]
    by_cases hk : k = stmt.key
    · simp [hk]
    · have hk' : stmt.key ≠ k := Ne.symm hk
      have hbeq : (k == (stmt.key.1, stmt.key.2)) = false := by simpa using hk
      simp [hbeq, hk, hk']
  · intro k r hr
    simp only [remember, List.mem_cons, List.mem_filter] at hr
    rcases hr with heq | ⟨hmem, _⟩
    · obtain ⟨rfl, hw⟩ := Prod.mk.inj heq
      exact Statement.id_of_written hw.symm
    · exact h.keyed k r hmem

/-- A row as the transaction sees it is the store's row with the buffered statements
applied. -/
theorem Tracks.readOne (h : tx.Tracks) (table : String) (id : Int64) :
    Id.run (tx.readOne (.ofContents s) table id) = (s.applyAll tx.ops).get? table id := by
  rw [Contents.get?_applyAll, ← h.latest]
  unfold Transaction.readOne cached?
  cases tx.cache.lookup (table, id) <;> rfl

/-- A buffered write reports the rows the store would report with the buffered statements
applied. -/
theorem Tracks.exec_fst (h : tx.Tracks) (stmt : Statement) :
    (Id.run (tx.exec (.ofContents s) stmt)).1 = ((s.applyAll tx.ops).apply stmt).1 := by
  rw [Contents.apply_fst]
  cases stmt with
  | upsert table row => rfl
  | delete table id =>
    show (if (Id.run (tx.readOne (.ofContents s) table id)).isSome then 1 else 0) =
      (if ((s.applyAll tx.ops).get? table id).isSome then 1 else 0)
    rw [h.readOne s table id]

end Contents

/-- The overlay finds at each id the cached write of its key, else the row read. Later entries
of the cache are applied first, so the first entry of a key wins. -/
theorem find?_overlay {tx : Transaction} (hk : ∀ k r, (k, some r) ∈ tx.cache → r.id = k.2)
    (table : String) (rows : Table) (id : Int64) :
    Table.find? id (tx.overlay table rows) =
      match tx.cached? table id with
      | some v => v
      | none => Table.find? id rows := by
  obtain ⟨ops, cache⟩ := tx
  simp only [cached?, overlay] at hk ⊢
  induction cache with
  | nil => rfl
  | cons e rest ih =>
    obtain ⟨⟨t, i⟩, v⟩ := e
    have ih := ih fun k r hr => hk k r (List.mem_cons_of_mem _ hr)
    simp only [List.foldr_cons, List.lookup_cons]
    by_cases ht : t = table
    · subst ht
      cases v with
      | none =>
        rw [if_pos (beq_self_eq_true t), Table.find?_erase, ih]
        by_cases hi : i = id
        · subst hi; simp
        · have : ((t, id) == (t, i)) = false := by simpa using Ne.symm hi
          simp [hi, this]
      | some r =>
        have hr : r.id = i := hk (t, i) r List.mem_cons_self
        rw [if_pos (beq_self_eq_true t), Table.find?_upsert, ih, hr]
        by_cases hi : i = id
        · subst hi; simp
        · have : ((t, id) == (t, i)) = false := by simpa using Ne.symm hi
          simp [hi, this]
    · have htb : (t == table) = false := by simpa using ht
      have : ((table, id) == (t, i)) = false := by simp [Ne.symm ht]
      simp only [htb, Bool.false_eq_true, if_false, this, ih]

/-- The overlay of sorted rows is sorted. -/
theorem sorted_overlay (tx : Transaction) (table : String) {rows : Table} (hrows : rows.Sorted) :
    (tx.overlay table rows).Sorted := by
  obtain ⟨ops, cache⟩ := tx
  simp only [overlay]
  induction cache with
  | nil => exact hrows
  | cons e rest ih =>
    obtain ⟨⟨t, i⟩, v⟩ := e
    simp only [List.foldr_cons]
    split
    · cases v with
      | none => exact Table.sorted_erase i ih
      | some r => exact Table.sorted_upsert r ih
    · exact ih

/-- The transaction's scan: the overlay of the store's table past the cursor, past the cursor,
is the store's table past the cursor with the buffered statements applied. -/
theorem Tracks.after_overlay {tx : Transaction} (h : tx.Tracks) {s : Contents} (hs : s.Ordered)
    (table : String) (after : Option Int64) :
    Table.after after (tx.overlay table (Table.after after (s.table table))) =
      Table.after after ((s.applyAll tx.ops).table table) := by
  apply Table.ext_find? ((sorted_overlay tx table ((hs table).after after)).after after)
    ((Contents.ordered_applyAll hs tx.ops table).after after)
  intro id
  rw [Table.find?_after, Table.find?_after, find?_overlay h.keyed, cached?, h.latest]
  by_cases hc : after.all (· < id)
  · have hstore := Contents.get?_applyAll s tx.ops table id
    simp only [Contents.get?] at hstore
    rw [if_pos hc, if_pos hc, hstore]
    cases lastWrite (table, id) tx.ops <;> simp [Table.find?_after, hc]
  · simp [hc]

/-- Every read inside the transaction answers what the store answers with the buffered
statements applied. -/
theorem Tracks.query_eq {tx : Transaction} (h : tx.Tracks) {s : Contents} (hs : s.Ordered)
    (q : Query) : Id.run (tx.query (.ofContents s) q) = (s.applyAll tx.ops).select q := by
  cases q with
  | scan table since after limit =>
    show page (tx.overlay table (Table.ofRows (Table.after after (s.table table)))) since after limit = _
    rw [Table.ofRows_of_sorted ((hs table).after after), ← page_after, h.after_overlay hs,
      page_after]
    rfl
  | byId table id =>
    show Option.toList (Id.run (tx.readOne (.ofContents s) table id)) = _
    rw [h.readOne s]
    rfl
  | byIds table ids =>
    show Table.ofRows (Id.run (ids.mapM (tx.readOne (.ofContents s) table))).reduceOption = _
    have hread : tx.readOne (.ofContents s) table =
        fun id => (pure ((s.applyAll tx.ops).get? table id) : Id (Option Row)) :=
      funext fun id => h.readOne s table id
    rw [hread, List.mapM_pure, Id.run_pure, List.reduceOption, List.filterMap_map]
    exact gather_eq_select_byIds _ table ids

end Transaction

/-! ## Readers that may fail -/

/-- A reader agrees with store contents at a table: it reads the table's rows as the contents
hold them, and never fails there. -/
structure Reader.Agrees {ε : Type} (r : Reader (Except ε)) (s : Contents) (table : String) :
    Prop where
  get : ∀ id, r.get table id = .ok (s.get? table id)
  rowsAfter : ∀ after, r.rowsAfter table after = .ok (Table.after after (s.table table))

namespace Transaction

variable {ε : Type} {r : Reader (Except ε)} {s : Contents} (tx : Transaction)

theorem readOne_agrees {table : String} (h : r.Agrees s table) (id : Int64) :
    tx.readOne r table id = .ok (Id.run (tx.readOne (.ofContents s) table id)) := by
  unfold Transaction.readOne
  cases tx.cached? table id with
  | some v => rfl
  | none => exact h.get id

/-- A write through an agreeing reader buffers as over the contents, and does not fail. -/
theorem exec_agrees (stmt : Statement) (h : r.Agrees s stmt.table) :
    tx.exec r stmt = .ok (Id.run (tx.exec (.ofContents s) stmt)) := by
  cases stmt with
  | upsert table row => rfl
  | delete table id =>
    have h' : r.Agrees s table := h
    simp only [Transaction.exec, tx.readOne_agrees h' id]
    rfl

/-- A read through an agreeing reader answers as over the contents, and does not fail. -/
theorem query_agrees (q : Query) (h : r.Agrees s q.table) :
    tx.query r q = .ok (Id.run (tx.query (.ofContents s) q)) := by
  cases q with
  | scan table since after limit =>
    have h' : r.Agrees s table := h
    simp only [Transaction.query, h'.rowsAfter after]
    rfl
  | byId table id =>
    have h' : r.Agrees s table := h
    simp only [Transaction.query, tx.readOne_agrees h' id]
    rfl
  | byIds table ids =>
    have h' : r.Agrees s table := h
    have hread : tx.readOne r table =
        fun id => (pure (Id.run (tx.readOne (.ofContents s) table id)) : Except ε _) :=
      funext (tx.readOne_agrees h')
    have hid : tx.readOne (.ofContents s) table =
        fun id => (pure (Id.run (tx.readOne (.ofContents s) table id)) : Id _) := rfl
    simp only [Transaction.query, hread, List.mapM_pure]
    rw [hid, List.mapM_pure]
    rfl

/-- A write that goes through appends its statement and remembers what it leaves at its key,
whatever the reader answered. -/
theorem exec_ok_snd {stmt : Statement} {k : Nat} {tx' : Transaction}
    (h : tx.exec r stmt = .ok (k, tx')) :
    tx' = { tx with ops := tx.ops ++ [stmt] }.remember stmt.key.1 stmt.key.2 stmt.written := by
  cases stmt with
  | upsert table row =>
    cases h
    rfl
  | delete table id =>
    cases hread : tx.readOne r table id with
    | error e => simp [Transaction.exec, hread, bind, Except.bind] at h
    | ok v =>
      simp only [Transaction.exec, hread, bind, Except.bind, pure, Except.pure, Except.ok.injEq,
        Prod.mk.injEq] at h
      rw [← h.2]
      rfl

/-- A write fails exactly when it is a delete of a row the transaction has not written and the
store's read of that row fails, and then with that failure. -/
theorem exec_eq_error_iff (stmt : Statement) (f : ε) :
    tx.exec r stmt = .error f ↔
      ∃ table id, stmt = .delete table id ∧ tx.cached? table id = none ∧
        r.get table id = .error f := by
  cases stmt with
  | upsert table row => simp [Transaction.exec, pure, Except.pure]
  | delete table id =>
    cases hc : tx.cached? table id with
    | some v => simp [Transaction.exec, Transaction.readOne, hc, pure, Except.pure, bind, Except.bind]
    | none =>
      cases hg : r.get table id with
      | error e => simp [Transaction.exec, Transaction.readOne, hc, hg, bind, Except.bind]
      | ok v => simp [Transaction.exec, Transaction.readOne, hc, hg, pure, Except.pure, bind, Except.bind]

end Transaction

/-! ## Open transactions -/

/-- Setting one slot of an array of open things leaves every other slot as it was. -/
theorem slot_of_set {α : Type} {xs : Array (Option α)} {n m : Nat} {x : Option α}
    {a : α} (h : (xs.set! n x)[m]? = some (some a)) :
    x = some a ∨ xs[m]? = some (some a) := by
  rw [Array.set!_eq_setIfInBounds, Array.getElem?_setIfInBounds] at h
  split at h
  · split at h
    · exact .inl (Option.some.inj h)
    · cases h
  · exact .inr h

end TableMigration.Store
