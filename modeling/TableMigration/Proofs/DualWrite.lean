import Mathlib.Data.List.Count
import TableMigration.Proofs.Transactions
import TableMigration.Proofs.QuietCluster
import TableMigration.World.Step

/-!
# Proofs.DualWrite

Where a double-write pool lets the two stores drift apart.

The pool writes the authoritative side first and the shadow side after it, swallowing the
shadow's failures; a transaction opened through it carries a shadow leg that holds the
primary leg's statements but those whose shadow write failed. A key is drifted when the two
stores hold different rows there. A step through the pool leaves drifted only keys that were
drifted before it or that it wrote on the authoritative side alone (`World.soloKeys`): a
write with no shadow side or whose shadow write failed, and at commit the statements the
shadow leg lacks, all of them when there is no shadow leg or its commit failed. A step that
fails adds no drifted key.

The argument goes key by key. A guarded write changes at most the row its statement writes,
on its own side, and a refused one changes no row (`Cluster.rowAt_write`); a commit leaves at
each key the last write of its leg's statements, and a shadow leg that lacks only statements
of other keys leaves the same row as the primary (`lastWrite_sublist`). Nothing else may act
on the stores meanwhile: no task runs on the timeline (a held-back read lets the tasks run
while it waits) and every open transaction was opened through a pool (`World.PoolOnly`).
Steps through the pool keep it so, and the main statement is `World.pool_drift_confined`.
-/

namespace TableMigration

open TableMigration.Access TableMigration.Store

/-! ## Statements a shadow leg dropped -/

/-- Statements with some of them dropped leave the same last write at every key that no
dropped statement writes. -/
theorem lastWrite_sublist {kept stmts : List Statement} (hsub : kept.Sublist stmts)
    {k : String × Int64} (hk : k ∉ (stmts.diff kept).map Statement.key) :
    lastWrite k kept = lastWrite k stmts := by
  have hnone : (stmts.diff kept).countP (·.key == k) = 0 := by
    rw [List.countP_eq_zero]
    intro stmt hmem hkey
    exact hk (List.mem_map.mpr ⟨stmt, hmem, by simpa using hkey⟩)
  rw [List.countP_diff hsub.subperm] at hnone
  have hle : kept.countP (·.key == k) ≤ stmts.countP (·.key == k) := hsub.countP_le
  -- the statements of key `k` were all kept, so both lists have the same ones in order
  have hfilter : kept.filter (·.key == k) = stmts.filter (·.key == k) := by
    apply (hsub.filter _).eq_of_length
    rw [← List.countP_eq_length_filter, ← List.countP_eq_length_filter]
    omega
  rw [lastWrite_filter, lastWrite_filter, hfilter]

/-- No side is its own opposite. -/
theorem Side.opposite_ne (s : Side) : s.opposite ≠ s := by
  cases s <;> decide

/-- The shadow side of a pattern is the other side than its authoritative one. -/
theorem Pattern.shadow_eq_opposite {p : Pattern} {s : Side} (h : p.shadow = some s) :
    s = p.authoritative.opposite := by
  cases p <;> simp [Pattern.shadow] at h <;> subst h <;> rfl

namespace Access

/-! ## Rows on each side, and drift -/

namespace Cluster

/-- The row one side's store holds at a key. -/
def rowAt (c : Cluster) (s : Side) (k : String × Int64) : Option Row :=
  (c.node s).contents.get? k.1 k.2

/-- The two stores hold different rows at a key. -/
def Drifted (c : Cluster) (k : String × Int64) : Prop := c.rowAt .src k ≠ c.rowAt .dst k

/-- Going from `c` to `c'`, the stores came to disagree only at keys of `ks`. -/
def DriftWithin (c c' : Cluster) (ks : List (String × Int64)) : Prop :=
  ∀ k, c'.Drifted k → c.Drifted k ∨ k ∈ ks

/-- Drift seen from either side. -/
theorem drifted_iff (c : Cluster) (a : Side) (k : String × Int64) :
    c.Drifted k ↔ c.rowAt a k ≠ c.rowAt a.opposite k := by
  cases a
  · rfl
  · exact ne_comm

/-- A change leaves drifted only keys of `ks` when at every other key it keeps both rows or
leaves the two sides equal. -/
theorem driftWithin_of_rows {c c' : Cluster} {ks : List (String × Int64)} (a : Side)
    (h : ∀ k, k ∉ ks →
      (c'.rowAt a k = c.rowAt a k ∧ c'.rowAt a.opposite k = c.rowAt a.opposite k) ∨
        c'.rowAt a k = c'.rowAt a.opposite k) :
    DriftWithin c c' ks := by
  intro k hk
  by_cases hmem : k ∈ ks
  · exact .inr hmem
  · rw [drifted_iff c' a] at hk
    rcases h k hmem with ⟨ha, hb⟩ | hsame
    · left
      rw [drifted_iff c a, ← ha, ← hb]
      exact hk
    · exact absurd hsame hk

/-- A change that keeps every row leaves drifted only the keys that were. -/
theorem driftWithin_of_keeps {c c' : Cluster} (h : ∀ s k, c'.rowAt s k = c.rowAt s k)
    (ks : List (String × Int64)) : DriftWithin c c' ks :=
  driftWithin_of_rows .src fun k _ => .inl ⟨h _ k, h _ k⟩

theorem rowAt_setNode (c : Cluster) (s : Side) (n : Node) (s' : Side) (k : String × Int64) :
    (c.setNode s n).rowAt s' k = if s' = s then n.contents.get? k.1 k.2 else c.rowAt s' k := by
  cases s <;> cases s' <;> simp [rowAt, setNode, node]

/-- Replacing a node by one with the same store keeps every row. -/
theorem rowAt_setNode_of_contents (c : Cluster) {s : Side} {n : Node}
    (h : n.contents = (c.node s).contents) (s' : Side) (k : String × Int64) :
    (c.setNode s n).rowAt s' k = c.rowAt s' k := by
  rw [rowAt_setNode]
  split
  · subst s'
    rw [h]
    rfl
  · rfl

end Cluster

/-! ## What one call through a path does to the rows -/

namespace Cluster

/-- A guarded write changes at most the row its statement writes, on its own side, and only
when it goes through. -/
theorem rowAt_write (c : Cluster) (s : Side) (stmt : Statement) (s' : Side)
    (k : String × Int64) :
    (c.write s stmt).2.rowAt s' k =
      if (c.write s stmt).1.isOk ∧ s' = s ∧ stmt.key = k then stmt.written
      else c.rowAt s' k := by
  rw [write_snd, rowAt_setNode, Node.contents_guardedWrite, write_fst]
  by_cases hs : s' = s
  · subst hs
    by_cases hok : ((c.node s').guardedWrite stmt).1.isOk = true
    · simp [hok, Contents.get?_apply, rowAt]
    · simp [hok, rowAt]
  · simp [hs]

theorem rowAt_write_of_ne {c : Cluster} {s : Side} {stmt : Statement} {k : String × Int64}
    (h : stmt.key ≠ k) (s' : Side) : (c.write s stmt).2.rowAt s' k = c.rowAt s' k := by
  simp [rowAt_write, h]

/-- Writing one statement on two sides in turn keeps every row at another key. -/
theorem rowAt_write_write_of_ne {c : Cluster} {s₁ s₂ : Side} {stmt : Statement}
    {k : String × Int64} (h : stmt.key ≠ k) (s' : Side) :
    ((c.write s₁ stmt).2.write s₂ stmt).2.rowAt s' k = c.rowAt s' k :=
  (rowAt_write_of_ne h s').trans (rowAt_write_of_ne h s')

theorem rowAt_write_refused {c : Cluster} {s : Side} {stmt : Statement}
    (h : (c.write s stmt).1.isOk = false) (s' : Side) (k : String × Int64) :
    (c.write s stmt).2.rowAt s' k = c.rowAt s' k := by
  simp [rowAt_write, h]

/-- A guarded read keeps every row. -/
theorem rowAt_lookup (c : Cluster) (s : Side) (q : Query) (s' : Side) (k : String × Int64) :
    (c.lookup s q).2.rowAt s' k = c.rowAt s' k := by
  rw [lookup_snd, rowAt_setNode_of_contents _ (Node.contents_admitRead _ q)]

end Cluster

/-! ## Legs and transactions -/

/-- A buffered write changes the leg's statements only, appending its own. -/
theorem Leg.write_ok {l l' : Leg} {c : Cluster} {stmt : Statement} {k : Nat}
    (h : l.write c stmt = .ok (k, l')) : l'.side = l.side ∧ l'.tx.ops = l.tx.ops ++ [stmt] := by
  rcases hchk : (if l.guarded then (c.node l.side).txWriteCheck else Except.ok ()) with f | u
  · simp [Leg.write, hchk] at h
  · simp only [Leg.write, hchk, Except.ok.injEq, Prod.mk.injEq] at h
    obtain ⟨-, rfl⟩ := h
    exact ⟨rfl, Transaction.ops_exec _ _ stmt⟩

/-- A leg's commit, when it goes through, leaves at each key of its side the last write of
its statements, and the rows of the other side as they were. -/
theorem Leg.rowAt_commit {l : Leg} {c c' : Cluster} (h : l.commit c = .ok c') (s : Side)
    (k : String × Int64) :
    c'.rowAt s k = if s = l.side then (lastWrite k l.tx.ops).getD (c.rowAt s k) else c.rowAt s k := by
  rcases hchk : (if l.guarded then (c.node l.side).txCommitCheck else Except.ok ()) with f | u
  · simp [Leg.commit, hchk] at h
  · simp only [Leg.commit, hchk, Except.ok.injEq] at h
    subst h
    rw [Cluster.rowAt_setNode]
    split
    · subst s
      simp [Transaction.commit, Contents.get?_applyAll, Cluster.rowAt]
    · rfl

/-- A leg's commit leaves the other side's path as it was. -/
theorem Leg.commit_node_opposite {l : Leg} {c c' : Cluster} (h : l.commit c = .ok c') :
    c'.node l.side.opposite = c.node l.side.opposite := by
  rcases hchk : (if l.guarded then (c.node l.side).txCommitCheck else Except.ok ()) with f | u
  · simp [Leg.commit, hchk] at h
  · simp only [Leg.commit, hchk, Except.ok.injEq] at h
    subst h
    exact Cluster.node_setNode_opposite _ _ _

/-- Whether a leg's commit goes through depends on its own side's path only. -/
theorem Leg.commit_isOk_congr (l : Leg) {c c' : Cluster} (h : c'.node l.side = c.node l.side) :
    (l.commit c').isOk = (l.commit c).isOk := by
  simp only [Leg.commit, h]
  split <;> rfl

/-- A leg's commit, when it goes through, changes rows only at keys its statements write. -/
theorem Leg.driftWithin_commit {l : Leg} {c c' : Cluster} (h : l.commit c = .ok c') :
    Cluster.DriftWithin c c' (l.tx.ops.map (·.key)) := by
  refine Cluster.driftWithin_of_rows l.side fun k hk => .inl ⟨?_, ?_⟩
  · rw [Leg.rowAt_commit h, if_pos rfl, lastWrite_eq_none hk]
    rfl
  · rw [Leg.rowAt_commit h, if_neg (Side.opposite_ne l.side)]

namespace Handle

/-- A transaction as a pool opens it: its shadow leg, if any, is on the other side and holds
the primary leg's statements in order, less some of them. -/
def Routed (h : Handle) : Prop :=
  ∀ l ∈ h.secondary, l.side = h.primary.side.opposite ∧ l.tx.ops.Sublist h.primary.tx.ops

/-- The keys a commit writes on the authoritative side alone: none when the primary leg's
commit fails; else those of the statements the shadow leg lacks when it commits, and of every
statement when there is no shadow leg or its commit fails. -/
def soloCommit (h : Handle) (c : Cluster) : List (String × Int64) :=
  if (h.primary.commit c).isOk then
    match h.secondary with
    | some l =>
      if (l.commit c).isOk then (h.primary.tx.ops.diff l.tx.ops).map (·.key)
      else h.primary.tx.ops.map (·.key)
    | none => h.primary.tx.ops.map (·.key)
  else []

/-- A write through a pool's transaction keeps it as a pool opens it: the shadow leg takes the
statement only after the primary leg did. -/
theorem Routed.exec {h h' : Handle} (hr : h.Routed) {c : Cluster} {stmt : Statement} {k : Nat}
    (hex : h.exec c stmt = .ok (k, h')) : h'.Routed := by
  unfold Handle.exec at hex
  split at hex
  · cases hex
  · rename_i p hp
    simp only [Except.ok.injEq, Prod.mk.injEq] at hex
    obtain ⟨-, rfl⟩ := hex
    obtain ⟨hside, hops⟩ := Leg.write_ok hp
    intro l' hl'
    obtain ⟨l, hl, rfl⟩ := Option.map_eq_some_iff.mp hl'
    obtain ⟨hlside, hlsub⟩ := hr l hl
    split
    · rename_i l'' hw
      obtain ⟨hside', hops'⟩ := Leg.write_ok hw
      exact ⟨by rw [hside', hside, hlside], by rw [hops', hops]; exact hlsub.append_right [stmt]⟩
    · exact ⟨by rw [hside, hlside], by rw [hops]; exact hlsub.trans (List.sublist_append_left _ _)⟩

/-- A commit whose primary leg fails writes no key. -/
theorem soloCommit_of_error {h : Handle} {c : Cluster} {f : Failure} (hc : h.commit c = .error f) :
    h.soloCommit c = [] := by
  cases hp : h.primary.commit c with
  | error e => simp [soloCommit, hp, Except.isOk, Except.toBool]
  | ok c₁ =>
    -- once the primary leg commits, the commit succeeds whatever the shadow leg does
    exfalso
    cases hs : h.secondary with
    | none => simp [Handle.commit, hp, hs] at hc
    | some l => cases hl : l.commit c₁ <;> simp [Handle.commit, hp, hs, hl] at hc

/-- A commit of a transaction a pool opened makes the stores disagree only at the keys it
writes on the authoritative side alone. -/
theorem Routed.driftWithin_commit {h : Handle} (hr : h.Routed) {c c' : Cluster}
    (hc : h.commit c = .ok c') : Cluster.DriftWithin c c' (h.soloCommit c) := by
  cases hp : h.primary.commit c with
  | error e => simp [Handle.commit, hp] at hc
  | ok c₁ =>
    have hpok : (h.primary.commit c).isOk = true := by rw [hp]; rfl
    cases hs : h.secondary with
    | none =>
      simp only [Handle.commit, hp, hs, Except.ok.injEq] at hc
      subst hc
      simpa [soloCommit, hpok, hs] using Leg.driftWithin_commit hp
    | some l =>
      obtain ⟨hlside, hsub⟩ := hr l (by simp [hs])
      -- the shadow leg's commit sees its side as the primary's commit left it: untouched
      have hnode : c₁.node l.side = c.node l.side := by
        rw [hlside]
        exact Leg.commit_node_opposite hp
      have hcongr := Leg.commit_isOk_congr l hnode
      cases hl : l.commit c₁ with
      | error e =>
        simp only [Handle.commit, hp, hs, hl, Except.ok.injEq] at hc
        subst hc
        have hlok : (l.commit c).isOk = false := by rw [← hcongr, hl]; rfl
        simpa [soloCommit, hpok, hs, hlok] using Leg.driftWithin_commit hp
      | ok c₂ =>
        simp only [Handle.commit, hp, hs, hl, Except.ok.injEq] at hc
        subst hc
        have hlok : (l.commit c).isOk = true := by rw [← hcongr, hl]; rfl
        simp only [soloCommit, hpok, hs, hlok, if_true]
        refine Cluster.driftWithin_of_rows h.primary.side fun k hk => ?_
        have hsame := lastWrite_sublist hsub hk
        have hne : h.primary.side ≠ l.side := by rw [hlside]; exact (Side.opposite_ne _).symm
        rw [Leg.rowAt_commit hl, if_neg hne, Leg.rowAt_commit hp, if_pos rfl,
          Leg.rowAt_commit hl, ← hlside, if_pos rfl, hsame, hlside,
          Leg.rowAt_commit hp, if_neg (Side.opposite_ne _)]
        -- both legs leave the primary's last write at `k`, or neither writes it
        cases lastWrite k h.primary.tx.ops with
        | none => exact .inl ⟨rfl, rfl⟩
        | some v => exact .inr rfl

end Handle

end Access

/-! ## Steps through a pool -/

/-- Whether a link is a double-write pool. -/
def Link.routed : Link → Bool
  | .pool | .own => true
  | .direct _ | .guarded _ => false

/-- The steps a caller takes through a double-write pool: writes, reads and begins through
the pool, the writes, reads, commits and rollbacks of open transactions, and reads and
switches of the pool's pattern; with them the fault changes of either path. -/
def Step.throughPool : Step → Bool
  | .exec link _ | .query link _ | .queryRow link _ | .begin link => link.routed
  | .txExec .. | .txQuery .. | .txQueryRow .. | .commit _ | .rollback _ => true
  | .pattern | .setPattern _ | .ownPattern | .ownSetPattern _ | .fault .. => true
  | _ => false

namespace Access.Cluster

/-- The key a write through pattern `p` writes on the authoritative side alone: when the
authoritative write goes through and there is no shadow side or the shadow write fails. -/
def soloWrite (c : Cluster) (p : Pattern) (stmt : Statement) : List (String × Int64) :=
  if (c.write p.authoritative stmt).1.isOk && !(p.shadow.any fun s => (c.write s stmt).1.isOk)
  then [stmt.key] else []

end Access.Cluster

namespace World

/-- The keys a step writes on the authoritative side alone. -/
def soloKeys (w : World) : Step → List (String × Int64)
  | .exec link stmt =>
    match w.routeOf link with
    | some p => w.cluster.soloWrite p stmt
    | none => []
  | .commit tx =>
    match w.handle (w.txNumber tx) with
    | .ok h => h.soloCommit w.cluster
    | .error _ => []
  | _ => []

/-- Nothing but a pool acts on the stores: no task runs on the timeline, and every open
transaction was opened through a pool. -/
structure PoolOnly (w : World) : Prop where
  idle : w.tl.tasks = []
  routed : ∀ (n : Nat) (h : Handle), w.handles[n]? = some (some h) → h.Routed

/-- `w'` has the rows, the tasks and the open transactions of `w`; it may differ in the paths'
faults and counters, the clock and the pattern cells. -/
structure KeepsRows (w w' : World) : Prop where
  rows : ∀ s k, w'.cluster.rowAt s k = w.cluster.rowAt s k
  tasks : w'.tl.tasks = w.tl.tasks
  handles : w'.handles = w.handles

/-- A step from `w`, answering `r`, to `w'` as a pool takes it: `w'` is still pool-only, the
stores came to disagree only at keys of `ks`, and a failed step wrote no key alone. -/
structure PoolMove {ε α : Type} (w : World) (r : Except ε α) (w' : World)
    (ks : List (String × Int64)) : Prop where
  poolOnly : w'.PoolOnly
  drift : w.cluster.DriftWithin w'.cluster ks
  failed : ∀ e, r = .error e → ks = []

theorem KeepsRows.refl (w : World) : KeepsRows w w := ⟨fun _ _ => rfl, rfl, rfl⟩

theorem KeepsRows.trans {w₁ w₂ w₃ : World} (h₁ : KeepsRows w₁ w₂) (h₂ : KeepsRows w₂ w₃) :
    KeepsRows w₁ w₃ :=
  ⟨fun s k => (h₂.rows s k).trans (h₁.rows s k), h₂.tasks.trans h₁.tasks,
    h₂.handles.trans h₁.handles⟩

/-- A change that keeps the rows, tasks and transactions is a pool step writing nothing. -/
theorem KeepsRows.poolMove {w w' : World} (hw : w.PoolOnly) (h : KeepsRows w w')
    {ε α : Type} (r : Except ε α) : PoolMove w r w' [] where
  poolOnly := ⟨h.tasks.trans hw.idle, by rw [h.handles]; exact hw.routed⟩
  drift := Cluster.driftWithin_of_keeps h.rows []
  failed _ _ := rfl

theorem keepsRows_setCluster {w : World} {c : Cluster}
    (h : ∀ s k, c.rowAt s k = w.cluster.rowAt s k) : KeepsRows w (w.setCluster c) :=
  ⟨h, rfl, rfl⟩

/-- A switch of a pattern cell keeps every row. -/
theorem keepsRows_withCell (w : World) (cell : Cell) : KeepsRows w { w with cell := cell } :=
  ⟨fun _ _ => rfl, rfl, rfl⟩

theorem keepsRows_withOwn (w : World) (cell : Cell) : KeepsRows w { w with own := cell } :=
  ⟨fun _ _ => rfl, rfl, rfl⟩

theorem PoolOnly.setCluster {w : World} (hw : w.PoolOnly) (c : Cluster) :
    (w.setCluster c).PoolOnly :=
  ⟨hw.idle, hw.routed⟩

/-- With no task on the timeline, waiting only moves the clock. -/
theorem sleepUntil_idle {tl : Timeline} (h : tl.tasks = []) (t : Nat) :
    ∀ fuel, Timeline.sleepUntil t fuel tl = tl ∨ Timeline.sleepUntil t fuel tl = tl.setNow t
  | 0 => .inl rfl
  | fuel + 1 => by
    have hpick : tl.pick = none := by simp [Timeline.pick, h]
    have hwake : tl.nextWake = none := by simp [Timeline.nextWake, h]
    simp only [Timeline.sleepUntil, hpick, hwake]
    split
    · exact .inl rfl
    · exact .inr rfl

/-- With no task on the timeline, waiting keeps every row. -/
theorem keepsRows_sleepUntil {w : World} (h : w.tl.tasks = []) (t : Nat) :
    KeepsRows w (w.sleepUntil t) := by
  rcases sleepUntil_idle h t waitBudget with hs | hs
  · exact ⟨fun s k => by simp [World.sleepUntil, Timeline.sleep, hs], by
      simp [World.sleepUntil, Timeline.sleep, hs], rfl⟩
  · refine ⟨fun s k => ?_, by simp [World.sleepUntil, Timeline.sleep, hs, Timeline.setNow], rfl⟩
    simp only [World.sleepUntil, Timeline.sleep, hs, World.cluster, Timeline.setNow]
    cases s <;> rfl

/-- A read through a path, held back or not, keeps every row of a world with no task
running. -/
theorem keepsRows_guardedRead {w : World} (h : w.tl.tasks = []) (s : Side) (q : Query) :
    KeepsRows w (w.guardedRead s q).2 := by
  have hrows := Cluster.rowAt_lookup w.cluster s q
  unfold guardedRead
  split
  · rename_i f c hl
    exact keepsRows_setCluster fun s' k => by rw [← hrows s' k, hl]
  · rename_i rs c hl
    exact keepsRows_setCluster fun s' k => by rw [← hrows s' k, hl]
  · rename_i t c hl
    exact (keepsRows_setCluster fun s' k => by rw [← hrows s' k, hl]).trans
      (keepsRows_sleepUntil (show (w.setCluster c).tl.tasks = [] from h) t)

/-! ### One step through a pool -/

@[simp] theorem cluster_withHandles (w : World) (hs : Array (Option Handle)) :
    ({ w with handles := hs } : World).cluster = w.cluster := rfl

@[simp] theorem cluster_setCluster (w : World) (c : Cluster) : (w.setCluster c).cluster = c := rfl

theorem routeOf_of_routed (w : World) {link : Link} (h : link.routed = true) :
    ∃ p, w.routeOf link = some p := by
  cases link <;> simp [Link.routed, routeOf] at h ⊢

theorem handle_eq_ok {w : World} {n : Nat} {h : Handle} :
    w.handle n = .ok h ↔ w.handles[n]? = some (some h) := by
  unfold handle
  split <;> simp_all

/-- A change of the answer that fails only when the first one failed keeps a pool step. -/
theorem PoolMove.map {ε α ε' α' : Type} {w w' : World} {ks : List (String × Int64)}
    {r : Except ε α} (hm : PoolMove w r w' ks) {r' : Except ε' α'}
    (h : ∀ e, r' = .error e → ∃ e₀, r = .error e₀) : PoolMove w r' w' ks :=
  ⟨hm.poolOnly, hm.drift, fun e he => let ⟨e₀, h₀⟩ := h e he; hm.failed e₀ h₀⟩

theorem storeResult_error {α : Type} {r : Except Failure α} {f : α → Reply} {e : StepError}
    (h : storeResult r f = .error e) : ∃ e₀, r = .error e₀ := by
  cases r with
  | error e₀ => exact ⟨e₀, rfl⟩
  | ok a => cases h

/-- A change that keeps every row, into a pool-only world, is a pool step writing nothing. -/
theorem PoolOnly.poolMove {w w' : World} (hw' : w'.PoolOnly)
    (hrows : ∀ s k, w'.cluster.rowAt s k = w.cluster.rowAt s k) {ε α : Type} (r : Except ε α) :
    PoolMove w r w' [] :=
  ⟨hw', Cluster.driftWithin_of_keeps hrows [], fun _ _ => rfl⟩

theorem PoolOnly.finish {w : World} (hw : w.PoolOnly) (n : Nat) :
    ({ w with handles := w.handles.set! n none } : World).PoolOnly :=
  ⟨hw.idle, fun m h hm => (slot_of_set hm).elim (fun h => by cases h) (hw.routed m h)⟩

theorem PoolOnly.keep {w : World} (hw : w.PoolOnly) {h : Handle} (hh : h.Routed) :
    (w.keep h).2.PoolOnly := by
  refine ⟨hw.idle, fun n h' hn => ?_⟩
  simp only [World.keep, Array.getElem?_push] at hn
  split at hn
  · cases hn
    exact hh
  · exact hw.routed n h' hn

theorem exec_of_route {w : World} {link : Link} {p : Pattern} (hp : w.routeOf link = some p)
    (stmt : Statement) :
    w.exec link stmt =
      match w.cluster.write p.authoritative stmt with
      | (.error f, c) => (.error f, w.setCluster c)
      | (.ok k, c) =>
        match p.shadow with
        | none => (.ok k, w.setCluster c)
        | some s => (.ok k, w.setCluster (c.write s stmt).2) := by
  cases link <;> simp only [routeOf, Option.some.injEq, reduceCtorEq] at hp <;> subst hp <;> rfl

theorem query_of_route {w : World} {link : Link} {p : Pattern} (hp : w.routeOf link = some p)
    (q : Query) : w.query link q = w.guardedRead p.authoritative q := by
  cases link <;> simp only [routeOf, Option.some.injEq, reduceCtorEq] at hp <;> subst hp <;> rfl

theorem begin_of_route {w : World} {link : Link} {p : Pattern} (hp : w.routeOf link = some p) :
    w.begin link =
      match beginGuarded w.cluster p.authoritative with
      | (.error f, c) => (.error f, w.setCluster c)
      | (.ok l, c) =>
        let (second, c) :=
          match p.shadow with
          | none => (none, c)
          | some s =>
            match beginGuarded c s with
            | (.ok l2, c) => (some l2, c)
            | (.error _, c) => (none, c)
        let (n, w) := (w.setCluster c).keep { primary := l, secondary := second }
        (.ok n, w) := by
  cases link <;> simp only [routeOf, Option.some.injEq, reduceCtorEq] at hp <;> subst hp <;> rfl

/-- A begin through a path changes no row, and opens a leg on that side with no statements. -/
theorem rowAt_beginGuarded (c : Cluster) (s : Side) (s' : Side) (k : String × Int64) :
    (beginGuarded c s).2.rowAt s' k = c.rowAt s' k := by
  have hrows := c.rowAt_setNode_of_contents (Node.contents_admitBegin (c.node s)) s' k
  unfold beginGuarded Cluster.onNode
  split <;> rename_i hb <;> rw [← hrows] <;> simp only [Prod.mk.injEq] at hb <;> rw [hb.2]

theorem beginGuarded_leg {c c' : Cluster} {s : Side} {l : Leg}
    (h : beginGuarded c s = (.ok l, c')) : l = { side := s, guarded := true } := by
  unfold beginGuarded at h
  split at h <;> simp_all

/-- A write through a pool makes the stores disagree only at the key it writes on the
authoritative side alone, and nowhere new when the authoritative write is refused. -/
theorem PoolOnly.exec {w : World} (hw : w.PoolOnly) {link : Link} {p : Pattern}
    (hp : w.routeOf link = some p) (stmt : Statement) :
    PoolMove w (w.exec link stmt).1 (w.exec link stmt).2 (w.cluster.soloWrite p stmt) := by
  rw [exec_of_route hp]
  rcases hw₁ : w.cluster.write p.authoritative stmt with ⟨r₁, c₁⟩
  have hc₁ : c₁ = (w.cluster.write p.authoritative stmt).2 := by rw [hw₁]
  subst hc₁
  cases r₁ with
  | error f =>
    have hok₁ : (w.cluster.write p.authoritative stmt).1.isOk = false := by rw [hw₁]; rfl
    have hsolo : w.cluster.soloWrite p stmt = [] := by simp [Cluster.soloWrite, hok₁]
    rw [hsolo]
    exact (keepsRows_setCluster (Cluster.rowAt_write_refused hok₁)).poolMove hw _
  | ok k =>
    have hok₁ : (w.cluster.write p.authoritative stmt).1.isOk = true := by rw [hw₁]; rfl
    -- at any other key than the statement's, neither write changed a row
    have hother : ∀ k', k' ∉ [stmt.key] → stmt.key ≠ k' := fun k' hk' h =>
      hk' (h ▸ List.mem_singleton_self _)
    cases hs : p.shadow with
    | none =>
      have hsolo : w.cluster.soloWrite p stmt = [stmt.key] := by
        simp [Cluster.soloWrite, hok₁, hs]
      rw [hsolo]
      refine ⟨hw.setCluster _, ?_, fun _ h => by cases h⟩
      exact Cluster.driftWithin_of_rows p.authoritative fun k' hk' =>
        .inl ⟨Cluster.rowAt_write_of_ne (hother k' hk') _, Cluster.rowAt_write_of_ne (hother k' hk') _⟩
    | some b =>
      obtain rfl : b = p.authoritative.opposite := Pattern.shadow_eq_opposite hs
      -- the shadow write sees its side as the authoritative write left it: untouched
      have hok₂ : ((w.cluster.write p.authoritative stmt).2.write p.authoritative.opposite stmt).1 =
          (w.cluster.write p.authoritative.opposite stmt).1 := by
        rw [Cluster.write_fst, Cluster.write_fst, Cluster.write_node_opposite]
      refine ⟨hw.setCluster _, ?_, fun _ h => by cases h⟩
      by_cases hshadow : (w.cluster.write p.authoritative.opposite stmt).1.isOk = true
      · have hsolo : w.cluster.soloWrite p stmt = [] := by
          simp [Cluster.soloWrite, hok₁, hs, hshadow]
        rw [hsolo]
        refine Cluster.driftWithin_of_rows p.authoritative fun k' _ => ?_
        by_cases hk : stmt.key = k'
        · -- both sides took the statement: they agree at its key
          right
          simp only [World.cluster_setCluster, Cluster.rowAt_write, hok₂, hshadow, hok₁, hk,
            Side.opposite_ne, (Side.opposite_ne _).symm]
          simp
        · exact .inl ⟨Cluster.rowAt_write_write_of_ne hk _, Cluster.rowAt_write_write_of_ne hk _⟩
      · have hsolo : w.cluster.soloWrite p stmt = [stmt.key] := by
          simp [Cluster.soloWrite, hok₁, hs, hshadow]
        rw [hsolo]
        exact Cluster.driftWithin_of_rows p.authoritative fun k' hk' =>
          .inl ⟨Cluster.rowAt_write_write_of_ne (hother k' hk') _,
            Cluster.rowAt_write_write_of_ne (hother k' hk') _⟩

/-- A begin through a pool changes no row and opens a transaction as pools open them. -/
theorem PoolOnly.begin {w : World} (hw : w.PoolOnly) {link : Link} {p : Pattern}
    (hp : w.routeOf link = some p) : PoolMove w (w.begin link).1 (w.begin link).2 [] := by
  rw [begin_of_route hp]
  rcases hb : beginGuarded w.cluster p.authoritative with ⟨_ | l, c₁⟩
  · exact (keepsRows_setCluster fun s k => by
      rw [← rowAt_beginGuarded w.cluster p.authoritative, hb]).poolMove hw _
  · have hrows₁ : ∀ s k, c₁.rowAt s k = w.cluster.rowAt s k := fun s k => by
      rw [← rowAt_beginGuarded w.cluster p.authoritative, hb]
    obtain rfl := beginGuarded_leg hb
    dsimp only
    cases hs : p.shadow with
    | none =>
      refine (hw.setCluster c₁).keep ?_ |>.poolMove hrows₁ _
      intro l hl
      cases hl
    | some b =>
      obtain rfl : b = p.authoritative.opposite := Pattern.shadow_eq_opposite hs
      have hrows₂ := rowAt_beginGuarded c₁ p.authoritative.opposite
      dsimp only
      rcases hb₂ : beginGuarded c₁ p.authoritative.opposite with ⟨_ | l₂, c₂⟩
      · -- the shadow begin is refused: the transaction runs without a shadow leg
        rw [hb₂] at hrows₂
        refine (hw.setCluster c₂).keep ?_ |>.poolMove (fun s k => (hrows₂ s k).trans (hrows₁ s k)) _
        intro l hl
        cases hl
      · rw [hb₂] at hrows₂
        obtain rfl := beginGuarded_leg hb₂
        refine (hw.setCluster c₂).keep ?_ |>.poolMove (fun s k => (hrows₂ s k).trans (hrows₁ s k)) _
        intro l hl
        cases hl
        exact ⟨rfl, List.Sublist.slnil⟩

/-- A write in a transaction a pool opened changes no row and keeps the transaction as pools
open them. -/
theorem PoolOnly.txExec {w w' : World} (hw : w.PoolOnly) {n : Nat} {stmt : Statement}
    {r : Except Failure Nat} (h : w.txExec n stmt = .ok (r, w')) :
    w'.PoolOnly ∧ w'.cluster = w.cluster := by
  cases hh : w.handle n with
  | error m => simp [World.txExec, hh, bind, Except.bind] at h
  | ok hd =>
    cases hx : hd.exec w.cluster stmt with
    | error f =>
      simp [World.txExec, hh, hx, bind, Except.bind, pure, Except.pure] at h
      obtain ⟨-, rfl⟩ := h
      exact ⟨hw, rfl⟩
    | ok kh =>
      obtain ⟨k, h'⟩ := kh
      simp only [World.txExec, hh, hx, bind, Except.bind, pure, Except.pure, Except.ok.injEq,
        Prod.mk.injEq] at h
      obtain ⟨-, rfl⟩ := h
      have hr := (hw.routed n hd (handle_eq_ok.mp hh)).exec hx
      refine ⟨⟨hw.idle, fun m h'' hm => ?_⟩, rfl⟩
      rcases slot_of_set hm with he | hm
      · cases he
        exact hr
      · exact hw.routed m h'' hm

/-- A commit of a transaction a pool opened makes the stores disagree only at the keys it
writes on the authoritative side alone, and nowhere new when the primary leg's commit fails. -/
theorem PoolOnly.commit {w w' : World} (hw : w.PoolOnly) {n : Nat} {h : Handle}
    (hh : w.handle n = .ok h) {r : Except Failure Unit} (hc : w.commit n = .ok (r, w')) :
    PoolMove w r w' (h.soloCommit w.cluster) := by
  have hr := hw.routed n h (handle_eq_ok.mp hh)
  cases hx : h.commit w.cluster with
  | error f =>
    simp only [World.commit, hh, cluster_withHandles, hx, bind, Except.bind, pure, Except.pure,
      Except.ok.injEq, Prod.mk.injEq] at hc
    obtain ⟨rfl, rfl⟩ := hc
    rw [Handle.soloCommit_of_error hx]
    refine (hw.finish n).poolMove (fun s k => ?_) _
    rfl
  | ok c' =>
    simp only [World.commit, hh, cluster_withHandles, hx, bind, Except.bind, pure, Except.pure,
      Except.ok.injEq, Prod.mk.injEq] at hc
    obtain ⟨rfl, rfl⟩ := hc
    exact ⟨(hw.finish n).setCluster c', hr.driftWithin_commit hx, fun _ he => by cases he⟩

/-- A rollback changes no row. -/
theorem PoolOnly.rollback {w w' : World} (hw : w.PoolOnly) {n : Nat}
    (h : w.rollback n = .ok w') : w'.PoolOnly ∧ w'.cluster = w.cluster := by
  cases hh : w.handle n with
  | error m => simp [World.rollback, hh, bind, Except.bind] at h
  | ok hd =>
    simp only [World.rollback, hh, bind, Except.bind, pure, Except.pure, Except.ok.injEq] at h
    subst h
    exact ⟨hw.finish n, rfl⟩

/-- One step through a pool from a pool-only world: the world stays pool-only, the stores come
to disagree only at keys they disagreed on or that the step wrote on the authoritative side
alone, and a failed step wrote no key alone. -/
theorem PoolOnly.step {w : World} (hw : w.PoolOnly) {st : Step} (hst : st.throughPool = true) :
    PoolMove w (w.step st).1 (w.step st).2 (w.soloKeys st) := by
  have hkeep : ∀ {ε α : Type} (r : Except ε α), PoolMove w r w [] :=
    fun r => (KeepsRows.refl w).poolMove hw r
  cases st <;> simp only [Step.throughPool, Bool.false_eq_true] at hst
  case exec link stmt =>
    obtain ⟨p, hp⟩ := w.routeOf_of_routed hst
    simp only [World.step, soloKeys, hp]
    exact (hw.exec hp stmt).map fun _ he => storeResult_error he
  case query link q =>
    obtain ⟨p, hp⟩ := w.routeOf_of_routed hst
    simp only [World.step, soloKeys, query_of_route hp]
    exact (keepsRows_guardedRead hw.idle _ q).poolMove hw _
  case queryRow link q =>
    obtain ⟨p, hp⟩ := w.routeOf_of_routed hst
    simp only [World.step, soloKeys, query_of_route hp]
    exact (keepsRows_guardedRead hw.idle _ q).poolMove hw _
  case begin link =>
    obtain ⟨p, hp⟩ := w.routeOf_of_routed hst
    simp only [World.step, soloKeys]
    exact (hw.begin hp).map fun _ he => storeResult_error he
  case txExec tx stmt =>
    simp only [World.step, soloKeys]
    cases hx : w.txExec (w.txNumber tx) stmt with
    | error m => exact hkeep _
    | ok rw' =>
      obtain ⟨hw', hc⟩ := hw.txExec hx
      exact hw'.poolMove (fun s k => by rw [hc]) _
  case txQuery tx q =>
    simp only [World.step, soloKeys]
    split <;> exact hkeep _
  case txQueryRow tx q =>
    simp only [World.step, soloKeys]
    split <;> exact hkeep _
  case commit tx =>
    simp only [World.step, soloKeys]
    cases hh : w.handle (w.txNumber tx) with
    | error m =>
      have hc : w.commit (w.txNumber tx) = .error m := by simp [World.commit, hh, bind, Except.bind]
      simp only [hc]
      exact hkeep _
    | ok h =>
      cases hc : w.commit (w.txNumber tx) with
      | error m =>
        cases hx : h.commit w.cluster <;>
          simp [World.commit, hh, hx, bind, Except.bind, pure, Except.pure] at hc
      | ok rw' => exact (hw.commit hh hc).map fun _ he => storeResult_error he
  case rollback tx =>
    simp only [World.step, soloKeys]
    cases hx : w.rollback (w.txNumber tx) with
    | error m => exact hkeep _
    | ok w' =>
      obtain ⟨hw', hc⟩ := hw.rollback hx
      exact hw'.poolMove (fun s k => by rw [hc]) _
  case pattern => exact hkeep _
  case ownPattern => exact hkeep _
  case setPattern name =>
    simp only [World.step, soloKeys]
    split
    · exact hkeep _
    · split
      · exact hkeep _
      · exact (keepsRows_withCell w _).poolMove hw _
  case ownSetPattern name =>
    simp only [World.step, soloKeys]
    split
    · exact hkeep _
    · split
      · exact hkeep _
      · exact (keepsRows_withOwn w _).poolMove hw _
  case fault s ch =>
    simp only [World.step, soloKeys, World.fault]
    refine (keepsRows_setCluster fun s' k => ?_).poolMove hw _
    apply Cluster.rowAt_setNode_of_contents
    rfl

/-- Steps through a pool, one at a time, keep a world pool-only. -/
theorem PoolOnly.steps {w : World} (hw : w.PoolOnly) {steps : List Step}
    (hsteps : ∀ st ∈ steps, st.throughPool = true) : (w.steps steps).2.PoolOnly := by
  induction steps generalizing w with
  | nil => exact hw
  | cons st rest ih =>
    exact ih (hw.step (hsteps st List.mem_cons_self)).poolOnly
      fun st' h => hsteps st' (List.mem_cons_of_mem _ h)

/-- Drift confinement of a double-write pool. From a world where nothing but a pool acts on
the stores, take any steps through a pool, one at a time: each further step leaves the stores
disagreeing only at keys where they disagreed before it or that it wrote on the authoritative
side alone, and a step that fails leaves no key newly drifted. -/
theorem pool_drift_confined {w₀ : World} (h₀ : w₀.PoolOnly) {steps : List Step}
    (hsteps : ∀ st ∈ steps, st.throughPool = true) {st : Step} (hst : st.throughPool = true) :
    let w := (w₀.steps steps).2
    (∀ k, (w.step st).2.cluster.Drifted k → w.cluster.Drifted k ∨ k ∈ w.soloKeys st) ∧
      ∀ e, (w.step st).1 = .error e →
        ∀ k, (w.step st).2.cluster.Drifted k → w.cluster.Drifted k := by
  intro w
  have hmove := (h₀.steps hsteps).step hst
  refine ⟨hmove.drift, fun e he k hk => ?_⟩
  rcases hmove.drift k hk with hd | hmem
  · exact hd
  · rw [hmove.failed e he] at hmem
    cases hmem

/-- A new system switched to source first, then written through the pool. -/
theorem pool_drift_confined_srcFirst :
    let w := ((World.create {} 0).steps [.setPattern "SRC_FIRST"]).2
    let st := Step.exec .pool (.upsert "t" ⟨1, 0, [97]⟩)
    (∀ k, (w.step st).2.cluster.Drifted k → w.cluster.Drifted k ∨ k ∈ w.soloKeys st) ∧
      ∀ e, (w.step st).1 = .error e →
        ∀ k, (w.step st).2.cluster.Drifted k → w.cluster.Drifted k :=
  pool_drift_confined ⟨rfl, fun _ _ h => by simp [World.create] at h⟩
    (by simp [Step.throughPool]) (by simp [Step.throughPool, Link.routed])

end World

end TableMigration
