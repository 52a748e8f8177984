import Mathlib.Logic.Relation
import TableMigration.Proofs.Engine
import TableMigration.Proofs.Transactions
import TableMigration.Store.Session

/-!
# Proofs.StoreMap

A session over the storage engine refines a finite map from a table name and an id to the row's
utime and data (`RowMap`, the reference). The engine is seen through `Pool.view`: the payload at
each row's key, read back.

The sessions considered are those store calls reach from an empty engine (`Session.Reachable`):
writes of statements a key and a payload can hold, transactions begun, written in, committed
and rolled back, statements prepared and run, the engine reopened, and the storage under it
failing at any point. In each of them the byte map holds some contents (`Tree.Represents`),
every open transaction tracks its statements, and every buffered or prepared statement fits
(`Session.Reachable.wf`). So while the storage works every call answers what the map prescribes
(`Session.store_refines_rowMap`), and a transaction reads its own writes over the map committed
at the time of the read and commits them in one step (`Session.transaction_reads_own_writes`).
A write or a commit that fails changes nothing but what the same statement says it changes: a
failed write leaves the session as it was, and a failed commit leaves the engine as it was and
finishes its transaction.
-/

namespace TableMigration.Store

/-- A statement's table is the table of its key. -/
theorem Statement.table_eq_key (stmt : Statement) : stmt.table = stmt.key.1 := by
  cases stmt <;> rfl

namespace Pool

variable {p p' : Pool} {s : Contents}

/-- A write that goes through keeps the byte map holding the contents, with the write
applied. -/
theorem apply_represents (h : p.tree.Represents s) {stmt : Statement} (hfit : stmt.Fits)
    {k : Nat} (hok : p.apply stmt = .ok (k, p')) : p'.tree.Represents (s.apply stmt).2 := by
  cases hp : p.fault with
  | none =>
    rw [apply_of_represents hp h hfit, Except.ok.injEq, Prod.mk.injEq] at hok
    rw [← hok.2]
    exact h.write hfit
  | some d => simp [apply_of_fault hp] at hok

/-- A commit that goes through keeps the byte map holding the contents, with the transaction's
statements applied. -/
theorem commit_represents (h : p.tree.Represents s) {tx : Transaction}
    (hfit : ∀ stmt ∈ tx.ops, stmt.Fits) (hok : p.commit tx = .ok p') :
    p'.tree.Represents (s.applyAll tx.ops) := by
  cases hp : p.fault with
  | none =>
    rw [commit_of_healthy hp, Except.ok.injEq] at hok
    rw [← hok]
    exact h.writeAll hfit
  | some d =>
    -- on a failed storage only a transaction with no statements commits
    by_cases hops : tx.ops = []
    · rw [show p.commit tx = .ok p by simp [commit, hops], Except.ok.injEq] at hok
      rw [← hok, hops]
      exact h
    · have herr := (commit_eq_error_iff tx _).mpr ⟨hops, d, hp, rfl⟩
      rw [hok] at herr
      cases herr

end Pool

namespace Session

variable {s s' : Session} {n : Nat} {tx : Transaction}

/-! ## Calls -/

/-- The open transaction under a number is the one the session holds there. -/
theorem transaction_eq_ok : s.transaction n = .ok tx ↔ s.transactions[n]? = some (some tx) := by
  unfold transaction
  split <;> simp_all

/-- A finished transaction's number names no open transaction. -/
theorem transaction_set_none (s : Session) (n : Nat) :
    ({ s with transactions := s.transactions.set! n none } : Session).transaction n =
      .error (.noTransaction n) := by
  simp [transaction, Array.getElem?_setIfInBounds]

/-- The slot of an open transaction holds what was set there last. -/
theorem transaction_set_some (h : s.transaction n = .ok tx) (tx' : Transaction) :
    ({ s with transactions := s.transactions.set! n (some tx') } : Session).transaction n =
      .ok tx' := by
  have hlt : n < s.transactions.size :=
    (Array.getElem?_eq_some_iff.mp (transaction_eq_ok.mp h)).1
  simp [transaction, hlt]

@[simp] theorem prepared_exec (s : Session) (stmt : Statement) :
    (s.exec stmt).2.prepared = s.prepared := by
  unfold exec
  split <;> rfl

/-- A write on a working engine holding some contents reports what the contents report and
writes its key. -/
theorem exec_of_represents {c : Contents} (hp : s.pool.fault = none)
    (h : s.pool.tree.Represents c) {stmt : Statement} (hfit : stmt.Fits) :
    s.exec stmt =
      (.ok (c.apply stmt).1, { s with pool.tree := s.pool.tree.write stmt.entry.1 stmt.entry.2 }) := by
  simp only [exec, Pool.apply_of_represents hp h hfit]

/-- A write in an open transaction buffers its statement when the transaction's read goes
through, and changes nothing when it fails. -/
theorem txExec_of_open (h : s.transaction n = .ok tx) (stmt : Statement) :
    s.txExec n stmt = .ok (match tx.exec s.pool.reader stmt with
      | .ok (count, tx') => (.ok count, { s with transactions := s.transactions.set! n (some tx') })
      | .error f => (.error f, s)) := by
  simp only [txExec, h, bind, Except.bind]
  cases tx.exec s.pool.reader stmt <;> rfl

theorem txQuery_of_open (h : s.transaction n = .ok tx) (q : Query) :
    s.txQuery n q = .ok (tx.query s.pool.reader q) := by
  simp [txQuery, h, bind, Except.bind, pure, Except.pure]

/-- Commit of an open transaction finishes it, and moves the engine only if the engine's commit
goes through. -/
theorem commit_of_open (h : s.transaction n = .ok tx) :
    s.commit n = .ok (match s.pool.commit tx with
      | .ok p => (.ok (), { s with pool := p, transactions := s.transactions.set! n none })
      | .error f => (.error f, { s with transactions := s.transactions.set! n none })) := by
  simp only [commit, h, bind, Except.bind]
  cases s.pool.commit tx <;> rfl

theorem rollback_of_open (h : s.transaction n = .ok tx) :
    s.rollback n = .ok { s with transactions := s.transactions.set! n none } := by
  simp [rollback, h, bind, Except.bind, pure, Except.pure]

/-! ## Reachable sessions -/

/-- The store calls that change a session, and the storage failing under it. Only statements
a key and a payload can hold are written or prepared; reads change nothing, and neither does a
call naming no open transaction or prepared statement. -/
inductive Step : Session → Session → Prop
  | exec (s : Session) {stmt : Statement} : stmt.Fits → Step s (s.exec stmt).2
  | begin (s : Session) : Step s s.begin.2
  | txExec {s s' : Session} {n : Nat} {stmt : Statement} {r : Except Failure Nat} :
      stmt.Fits → s.txExec n stmt = .ok (r, s') → Step s s'
  | commit {s s' : Session} {n : Nat} {r : Except Failure Unit} :
      s.commit n = .ok (r, s') → Step s s'
  | rollback {s s' : Session} {n : Nat} : s.rollback n = .ok s' → Step s s'
  | prepare (s : Session) {stmt : Statement} : stmt.Fits → Step s (s.prepare stmt).2
  | preparedExec {s s' : Session} {n : Nat} {r : Except Failure Nat} :
      s.preparedExec n = .ok (r, s') → Step s s'
  | fail (s : Session) (detail : String) : Step s { s with pool.fault := some detail }

/-- The sessions store calls reach from an empty engine, the engine reopened by a new session
at any point. -/
inductive Reachable : Session → Prop
  | start : Reachable (ofPool {})
  | step {s s' : Session} : Reachable s → Step s s' → Reachable s'
  | reopen {s : Session} : Reachable s → Reachable (ofPool s.pool)

/-- The session a call leaves: the one it gives, or the same one when it names nothing
usable. -/
def after {α : Type} (s : Session) : Except Misuse (α × Session) → Session
  | .ok (_, s') => s'
  | .error _ => s

/-- A write in a transaction, whatever it answers, leaves a reachable session reachable. -/
theorem Reachable.txExec (hs : s.Reachable) {stmt : Statement} (hfit : stmt.Fits) (n : Nat) :
    (s.after (s.txExec n stmt)).Reachable := by
  cases h : s.txExec n stmt with
  | ok v =>
    obtain ⟨r, s'⟩ := v
    exact hs.step (.txExec hfit h)
  | error e => exact hs

/-- The byte map holds some contents, every open transaction tracks its statements, and every
buffered or prepared statement fits. -/
structure Wf (s : Session) : Prop where
  represents : ∃ c, s.pool.tree.Represents c
  open_tx : ∀ (n : Nat) (tx : Transaction), s.transactions[n]? = some (some tx) →
    tx.Tracks ∧ ∀ stmt ∈ tx.ops, stmt.Fits
  prepared : ∀ (n : Nat) (stmt : Statement), s.prepared[n]? = some stmt → stmt.Fits

/-- A session over an engine holding some contents, with nothing open or prepared. -/
private theorem wf_ofPool {p : Pool} (h : ∃ c, p.tree.Represents c) : (ofPool p).Wf :=
  ⟨h, fun _ _ hm => by simp [ofPool] at hm, fun _ _ hm => by simp [ofPool] at hm⟩

/-- Finishing a transaction keeps a well-formed session well formed, whatever engine holding
some contents it leaves. -/
private theorem Wf.finish (h : s.Wf) (n : Nat) {p : Pool} (hp : ∃ c, p.tree.Represents c) :
    ({ s with pool := p, transactions := s.transactions.set! n none } : Session).Wf :=
  ⟨hp, fun _ _ hm => (slot_of_set hm).elim (fun h => by cases h) (h.open_tx _ _), h.prepared⟩

/-- A write keeps a well-formed session well formed, whether it goes through or fails. -/
theorem Wf.exec (h : s.Wf) {stmt : Statement} (hfit : stmt.Fits) : (s.exec stmt).2.Wf := by
  obtain ⟨c, hc⟩ := h.represents
  unfold Session.exec
  split
  · rename_i k p hok
    exact ⟨⟨_, Pool.apply_represents hc hfit hok⟩, h.open_tx, h.prepared⟩
  · exact h

/-- Buffering a statement that fits keeps a transaction tracking its statements, all fitting. -/
private theorem buffered {tx : Transaction} (htx : tx.Tracks ∧ ∀ stmt ∈ tx.ops, stmt.Fits)
    {stmt : Statement} (hfit : stmt.Fits) :
    let tx' := { tx with ops := tx.ops ++ [stmt] }.remember stmt.key.1 stmt.key.2 stmt.written
    tx'.Tracks ∧ ∀ stmt ∈ tx'.ops, stmt.Fits := by
  refine ⟨?_, fun st hst => ?_⟩
  · have htr := htx.1.exec Contents.empty stmt
    rwa [Transaction.exec_snd] at htr
  · rcases List.mem_append.mp hst with hst | hst
    · exact htx.2 st hst
    · rw [List.mem_singleton.mp hst]
      exact hfit

/-- Every store call keeps a session well formed. -/
theorem Step.wf (hstep : Step s s') (h : s.Wf) : s'.Wf := by
  cases hstep with
  | exec hfit => exact h.exec hfit
  | begin =>
    refine ⟨h.represents, fun m tx hm => ?_, h.prepared⟩
    simp only [Session.begin, Array.getElem?_push] at hm
    split at hm
    · cases hm
      exact ⟨Transaction.tracks_empty, fun _ h => by cases h⟩
    · exact h.open_tx m tx hm
  | @txExec s' n stmt r hfit hok =>
    cases ht : s.transaction n with
    | error e => simp [Session.txExec, ht, bind, Except.bind] at hok
    | ok tx =>
      rw [txExec_of_open ht, Except.ok.injEq] at hok
      split at hok
      · rename_i count tx' hexec
        cases hok
        refine ⟨h.represents, fun m tx'' hm => ?_, h.prepared⟩
        rcases slot_of_set hm with hx | hm
        · cases hx
          rw [Transaction.exec_ok_snd tx hexec]
          exact buffered (h.open_tx n tx (transaction_eq_ok.mp ht)) hfit
        · exact h.open_tx m tx'' hm
      · cases hok
        exact h
  | @commit s' n r hok =>
    cases ht : s.transaction n with
    | error e => simp [Session.commit, ht, bind, Except.bind] at hok
    | ok tx =>
      rw [commit_of_open ht, Except.ok.injEq] at hok
      obtain ⟨c, hc⟩ := h.represents
      split at hok
      · rename_i p hcommit
        cases hok
        exact h.finish n
          ⟨_, Pool.commit_represents hc (h.open_tx n tx (transaction_eq_ok.mp ht)).2 hcommit⟩
      · cases hok
        exact h.finish n ⟨c, hc⟩
  | @rollback s' n hok =>
    cases ht : s.transaction n with
    | error e => simp [Session.rollback, ht, bind, Except.bind] at hok
    | ok tx =>
      rw [rollback_of_open ht] at hok
      cases hok
      exact h.finish n h.represents
  | prepare hfit =>
    refine ⟨h.represents, h.open_tx, fun m st hm => ?_⟩
    simp only [Session.prepare, Array.getElem?_push] at hm
    split at hm
    · cases hm
      exact hfit
    · exact h.prepared m st hm
  | @preparedExec s' n r hok =>
    unfold Session.preparedExec at hok
    split at hok
    · rename_i stmt hget
      obtain rfl : (s.exec stmt).2 = s' := congrArg Prod.snd (Except.ok.inj hok)
      exact h.exec (h.prepared n stmt hget)
    · cases hok
  | fail detail => exact ⟨h.represents, h.open_tx, h.prepared⟩

/-- Every session store calls reach is well formed: by induction on the calls, from
`Step.wf`. -/
theorem Reachable.wf (h : s.Reachable) : s.Wf := by
  induction h with
  | start => exact wf_ofPool ⟨_, Tree.represents_empty⟩
  | step _ hstep ih => exact hstep.wf ih
  | reopen _ ih => exact wf_ofPool ih.represents

/-! ## Prepared statements -/

/-- A prepared statement keeps its number through every store call. -/
theorem Step.prepared_get? (hstep : Step s s') {stmt : Statement}
    (h : s.prepared[n]? = some stmt) : s'.prepared[n]? = some stmt := by
  cases hstep with
  | exec => rwa [prepared_exec]
  | begin => exact h
  | @txExec s' m stmt' r hfit hok =>
    cases ht : s.transaction m with
    | error e => simp [Session.txExec, ht, bind, Except.bind] at hok
    | ok tx =>
      rw [txExec_of_open ht, Except.ok.injEq] at hok
      split at hok <;> (cases hok; exact h)
  | @commit s' m r hok =>
    cases ht : s.transaction m with
    | error e => simp [Session.commit, ht, bind, Except.bind] at hok
    | ok tx =>
      rw [commit_of_open ht, Except.ok.injEq] at hok
      split at hok <;> (cases hok; exact h)
  | @rollback s' m hok =>
    cases ht : s.transaction m with
    | error e => simp [Session.rollback, ht, bind, Except.bind] at hok
    | ok tx =>
      rw [rollback_of_open ht] at hok
      cases hok
      exact h
  | prepare =>
    have hlt : n < s.prepared.size := (Array.getElem?_eq_some_iff.mp h).1
    simp only [Session.prepare, Array.getElem?_push, Nat.ne_of_lt hlt, if_false]
    exact h
  | @preparedExec s' m r hok =>
    unfold Session.preparedExec at hok
    split at hok
    · rename_i stmt' _
      obtain rfl : (s.exec stmt').2 = s' := congrArg Prod.snd (Except.ok.inj hok)
      rwa [prepared_exec]
    · cases hok
  | fail => exact h

/-- A statement prepared once runs as that statement at every later call, whatever store calls
came in between: by induction on those calls, from `Step.prepared_get?`. -/
theorem preparedExec_of_prepare (s : Session) (stmt : Statement) {s' : Session}
    (h : Relation.ReflTransGen Step (s.prepare stmt).2 s') :
    s'.preparedExec (s.prepare stmt).1 = .ok (s'.exec stmt) := by
  have hkept : s'.prepared[(s.prepare stmt).1]? = some stmt := by
    induction h with
    | refl => simp [Session.prepare]
    | tail _ hstep ih => exact hstep.prepared_get? ih
  simp [preparedExec, hkept]

/-! ## The refinement -/

/-- A session refines the map from a table and an id to the row's utime and data. In every
session reached by store calls from an empty engine, while its storage works:
* a write reports what the map's write reports (one for an upsert; for a delete, one exactly
  when the key held a row) and moves the engine's map as it moves the map, and so does a batch
  of writes;
* every query answers, without failing, what the map prescribes, and nothing else: a scan the
  first `limit` rows of its table past the cursor and at or above the watermark, in increasing
  id order; a lookup by id the map's row or nothing; a batch lookup the rows the map holds at
  the ids asked for, in increasing id order, each once;
* asking for one row by id fails with `noRows` exactly when the map has none there;
* a prepared statement runs as a write of its statement at every later call. -/
theorem store_refines_rowMap (hs : s.Reachable) (hok : s.pool.fault = none) :
    (∀ stmt, stmt.Fits → ∃ s', s.exec stmt = (.ok (s.pool.view.exec stmt).1, s') ∧
      s'.pool.view = (s.pool.view.exec stmt).2) ∧
    (∀ stmts, (∀ stmt ∈ stmts, stmt.Fits) → ∃ p, s.pool.applyAll stmts = .ok p ∧
      p.view = s.pool.view.execAll stmts) ∧
    (∀ q, q.table.utf8ByteSize < 2 ^ 64 → ∃ rows, s.query q = .ok rows ∧
      s.pool.view.Answers q rows) ∧
    (∀ t id, t.utf8ByteSize < 2 ^ 64 →
      ((s.query (.byId t id)).bind queryRow = .error .noRows ↔ s.pool.view (t, id) = none)) ∧
    (∀ stmt s', Relation.ReflTransGen Step (s.prepare stmt).2 s' →
      s'.preparedExec (s.prepare stmt).1 = .ok (s'.exec stmt)) := by
  obtain ⟨c, hc⟩ := hs.wf.represents
  have hview : s.pool.view = c.view := Pool.view_of_represents hc
  refine ⟨fun stmt hfit => ?_, fun stmts hfit => ?_, fun q hq => ?_, fun t id ht => ?_,
    fun stmt s' h => preparedExec_of_prepare s stmt h⟩
  · rw [exec_of_represents hok hc hfit, Contents.apply_fst_view, ← hview]
    exact ⟨_, rfl, Pool.view_write hc hfit⟩
  · rw [Pool.applyAll_of_healthy hok stmts]
    exact ⟨_, rfl, Pool.view_applyBatch hc hfit⟩
  · -- the engine answers as the contents it holds, which answer as their map
    rw [query, Pool.select_of_represents hok hc q hq, hview]
    exact ⟨_, rfl, Contents.answers_select hc.ordered q⟩
  · rw [query, Pool.select_of_represents hok hc (.byId t id) ht, Contents.select_byId, hview]
    cases hv : c.view (t, id) <;> simp [RowMap.row?, hv, queryRow, Except.bind]

/-- Rows of a table, of a table whose name begins with its name and a NUL, and of the table with
the empty name, at the least and greatest ids, written from an empty engine and one deleted: a
scan of the first table answers the map, and deleting its row at the least id reports one and
clears the map there. -/
theorem store_refines_rowMap_prefix_tables :
    let s := (((((ofPool {}).exec (.upsert "a" ⟨Int64.minValue, 5, [1, 2]⟩)).2.exec
      (.upsert "a\x00b" ⟨3, 2, []⟩)).2.exec (.upsert "" ⟨Int64.maxValue, 1, [9]⟩)).2.exec
      (.delete "a" 3)).2
    s.Reachable ∧ s.pool.fault = none ∧
      (∃ rows, s.query (.scan "a" none none 10) = .ok rows ∧
        s.pool.view.Answers (.scan "a" none none 10) rows) ∧
      ∃ s', s.exec (.delete "a" Int64.minValue) = (.ok 1, s') ∧
        s'.pool.view ("a", Int64.minValue) = none := by
  intro s
  have hs : s.Reachable :=
    .step (.step (.step (.step .start (.exec _ (by decide +kernel))) (.exec _ (by decide +kernel)))
      (.exec _ (by decide +kernel))) (.exec _ (by decide +kernel))
  have hok : s.pool.fault = none := by decide +kernel
  have hrefines := store_refines_rowMap hs hok
  obtain ⟨s', hexec, hview⟩ := hrefines.1 (.delete "a" Int64.minValue) (by decide +kernel)
  have hcount : (s.pool.view.exec (.delete "a" Int64.minValue)).1 = 1 := by decide +kernel
  refine ⟨hs, hok, hrefines.2.2.1 _ (by decide +kernel), s', hcount ▸ hexec, ?_⟩
  rw [hview]
  decide +kernel

/-! ## Transactions -/

/-- Read-your-writes and atomic commit. In every session reached by store calls from an empty
engine, for an open transaction:
* while the storage works, every read answers, without failing, what the map committed at the
  time of the read prescribes with the transaction's statements applied in order; a write
  reports what the map's write reports on that state, buffers the statement and leaves the
  engine alone; and commit goes through, moving the engine's map by the buffered statements
  in order in one step, and finishes the transaction;
* a write that fails leaves the session as it was, and fails exactly when it deletes a row the
  transaction has not written and the engine's read of that row fails;
* a commit fails exactly when the transaction has statements and the storage has failed, and
  then leaves the engine as it was; it finishes the transaction either way;
* rollback leaves the engine as it was and finishes the transaction. -/
theorem transaction_reads_own_writes (hs : s.Reachable) (htx : s.transaction n = .ok tx) :
    (s.pool.fault = none →
      (∀ q, q.table.utf8ByteSize < 2 ^ 64 → ∃ rows, s.txQuery n q = .ok (.ok rows) ∧
        (s.pool.view.execAll tx.ops).Answers q rows) ∧
      (∀ stmt, stmt.Fits → ∃ s', s.txExec n stmt =
          .ok (.ok ((s.pool.view.execAll tx.ops).exec stmt).1, s') ∧
        s'.pool = s.pool ∧ ∃ tx', s'.transaction n = .ok tx' ∧ tx'.ops = tx.ops ++ [stmt]) ∧
      (∃ s', s.commit n = .ok (.ok (), s') ∧ s'.pool.view = s.pool.view.execAll tx.ops ∧
        s'.transaction n = .error (.noTransaction n))) ∧
    (∀ stmt f s', s.txExec n stmt = .ok (.error f, s') → s' = s) ∧
    (∀ stmt f, (∃ s', s.txExec n stmt = .ok (.error f, s')) ↔
      ∃ t id, stmt = .delete t id ∧ tx.cached? t id = none ∧ s.pool.get t id = .error f) ∧
    (∀ f s', s.commit n = .ok (.error f, s') →
      s'.pool = s.pool ∧ s'.transaction n = .error (.noTransaction n)) ∧
    (∀ f, (∃ s', s.commit n = .ok (.error f, s')) ↔
      tx.ops ≠ [] ∧ ∃ d, s.pool.fault = some d ∧ f = .transaction (Failure.storage d).message) ∧
    (∃ s', s.rollback n = .ok s' ∧ s'.pool = s.pool ∧
      s'.transaction n = .error (.noTransaction n)) := by
  have hw := hs.wf
  obtain ⟨c, hc⟩ := hw.represents
  obtain ⟨htr, hfits⟩ := hw.open_tx n tx (transaction_eq_ok.mp htx)
  have hview : s.pool.view = c.view := Pool.view_of_represents hc
  refine ⟨fun hok => ⟨fun q hq => ?_, fun stmt hfit => ?_, ?_⟩, fun stmt f s' h => ?_,
    fun stmt f => ?_, fun f s' h => ?_, fun f => ?_,
    ⟨_, rollback_of_open htx, rfl, transaction_set_none s n⟩⟩
  · -- a read through the working engine answers as over the contents it holds
    rw [txQuery_of_open htx, tx.query_agrees q (Pool.reader_agrees hok hc hq)]
    refine ⟨_, rfl, ?_⟩
    rw [htr.query_eq hc.ordered, hview, ← Contents.view_applyAll]
    exact Contents.answers_select (Contents.ordered_applyAll hc.ordered tx.ops) q
  · have ht : stmt.table.utf8ByteSize < 2 ^ 64 := by
      rw [Statement.table_eq_key]
      exact hfit.name
    have hcount : (Id.run (tx.exec (.ofContents c) stmt)).1 =
        ((s.pool.view.execAll tx.ops).exec stmt).1 := by
      rw [htr.exec_fst, Contents.apply_fst_view, Contents.view_applyAll, hview]
    rw [txExec_of_open htx, tx.exec_agrees stmt (Pool.reader_agrees hok hc ht), ← hcount]
    exact ⟨_, rfl, rfl, _, transaction_set_some htx _, Transaction.ops_exec tx c stmt⟩
  · rw [commit_of_open htx, Pool.commit_of_healthy hok]
    exact ⟨_, rfl, Pool.view_applyBatch hc hfits, transaction_set_none s n⟩
  · rw [txExec_of_open htx, Except.ok.injEq] at h
    split at h
    · cases h
    · exact (Prod.mk.inj h).2.symm
  · rw [txExec_of_open htx]
    show _ ↔ ∃ t id, stmt = .delete t id ∧ tx.cached? t id = none ∧
      s.pool.reader.get t id = .error f
    rw [← tx.exec_eq_error_iff]
    cases tx.exec s.pool.reader stmt with
    | ok v => simp
    | error e => simp
  · rw [commit_of_open htx, Except.ok.injEq] at h
    split at h
    · cases h
    · cases h
      exact ⟨rfl, transaction_set_none s n⟩
  · rw [commit_of_open htx, ← Pool.commit_eq_error_iff tx f]
    cases s.pool.commit tx with
    | ok p => simp
    | error e => simp

/-- A transaction on an engine holding rows of a table and of a table whose name begins with its
name, after writing a row and deleting it again: a scan inside it answers the map with its
writes applied, and deleting the stored row at the least id reports one. Once the storage has
failed, that delete fails with the storage's detail, and the commit fails and leaves the engine
as it was. -/
theorem transaction_reads_own_writes_buffered :
    let s₀ := (((ofPool {}).exec (.upsert "a" ⟨Int64.minValue, 5, [1, 2]⟩)).2.exec
      (.upsert "a\x00b" ⟨3, 2, []⟩)).2.begin.2
    let s₁ := s₀.after (s₀.txExec 0 (.upsert "a" ⟨-3, 7, [4]⟩))
    let s := s₁.after (s₁.txExec 0 (.delete "a" (-3)))
    let tx : Transaction := ⟨[.upsert "a" ⟨-3, 7, [4]⟩, .delete "a" (-3)], [(("a", -3), none)]⟩
    let broken : Session := { s with pool.fault := some "io error" }
    s.Reachable ∧ broken.Reachable ∧ s.transaction 0 = .ok tx ∧
      (∃ rows, s.txQuery 0 (.scan "a" none none 10) = .ok (.ok rows) ∧
        (s.pool.view.execAll tx.ops).Answers (.scan "a" none none 10) rows) ∧
      (∃ s', s.txExec 0 (.delete "a" Int64.minValue) = .ok (.ok 1, s')) ∧
      (∃ s', broken.txExec 0 (.delete "a" Int64.minValue) =
        .ok (.error (.storage "io error"), s')) ∧
      ∃ f s', broken.commit 0 = .ok (.error f, s') ∧ s'.pool = broken.pool := by
  intro s₀ s₁ s tx broken
  have hs : s.Reachable :=
    ((((Reachable.start.step (.exec _ (by decide +kernel))).step (.exec _ (by decide +kernel))).step
      (.begin _)).txExec (by decide +kernel) 0).txExec (by decide +kernel) 0
  have hbroken : broken.Reachable := hs.step (.fail _ _)
  have htx : s.transaction 0 = .ok tx := rfl
  have hok : s.pool.fault = none := by decide +kernel
  have htx' : broken.transaction 0 = .ok tx := htx
  obtain ⟨hread, hwrite, -⟩ := (transaction_reads_own_writes hs htx).1 hok
  obtain ⟨-, -, hfail, hcommit, hcommit_iff, -⟩ := transaction_reads_own_writes hbroken htx'
  obtain ⟨s', hdel, -⟩ := hwrite (.delete "a" Int64.minValue) (by decide +kernel)
  have hcount : ((s.pool.view.execAll tx.ops).exec (.delete "a" Int64.minValue)).1 = 1 := by
    decide +kernel
  obtain ⟨f, s'', hc⟩ : ∃ f s'', broken.commit 0 = .ok (.error f, s'') := by
    obtain ⟨s'', h⟩ := (hcommit_iff _).mpr ⟨by decide, "io error", rfl, rfl⟩
    exact ⟨_, s'', h⟩
  refine ⟨hs, hbroken, htx, hread _ (by decide +kernel), ⟨s', hcount ▸ hdel⟩,
    (hfail _ _).mpr ⟨"a", Int64.minValue, rfl, by decide +kernel, by decide +kernel⟩,
    f, s'', hc, (hcommit f s'' hc).1⟩

end Session

end TableMigration.Store
