import TableMigration.Proofs.Keyset.Backward

/-!
# Proofs.Keyset.Cursor

The cursor reads of a validation run's legs. At the top of its loop, unless cancelled, a leg
reads at its cursor: one base row past it for the base-to-target leg, a batch of target rows
past it for the target-to-base leg. Such a read is refused or times out, finds nothing, or finds
rows (`CursorRead`); it is never held back, since only reads by id are.

What the leg does after each outcome is said once per leg (`Forward.Reads`, `Backward.Reads`).
The two legs differ on a read that finds nothing: the target-to-base leg clears its run of failed
cursor reads, the base-to-target leg keeps it. Every other action keeps the cursor, the run of
failed cursor reads and the abort flag (`Progress.SameCursor`). A replay's cursor reads, in
order, are its log (`Trace.log`, `Forward.reads`, `Backward.reads`).
-/

namespace TableMigration

open TableMigration.Access TableMigration.Store TableMigration.Validation

/-- A cursor read is never held back: the path refuses it, or the store answers it at once. -/
theorem Access.Cluster.lookupWithin_scan_ne_held (c : Cluster) (s : Side) (tbl : String)
    (since after : Option Int64) (limit limitMs t : Nat) :
    (c.lookupWithin s (.scan tbl since after limit) limitMs).1 ≠ .heldUntil t := by
  have hadmit : ∀ n : Node, (n.admitRead (.scan tbl since after limit)).1 = .ok 0 ∨
      ∃ f, (n.admitRead (.scan tbl since after limit)).1 = .error f := by
    intro n
    unfold Node.admitRead
    by_cases hoff : n.faults.offline = true
    · simp [hoff]
    · by_cases hscan : 0 < n.faults.failNextScans <;> simp [hoff, hscan]
  have ha := hadmit (c.node s)
  unfold Cluster.lookupWithin Cluster.lookup Cluster.onNode
  dsimp only
  rcases hq : (c.node s).admitRead (.scan tbl since after limit) with ⟨a, n⟩
  rw [hq] at ha
  rcases ha with h | ⟨f, h⟩ <;> dsimp only at h <;> subst h
  · split_ifs <;> simp
  · simp

/-- A guarded read takes no time. -/
@[simp] theorem Access.Cluster.now_lookupWithin (c : Cluster) (s : Side) (q : Query) (limitMs : Nat) :
    (c.lookupWithin s q limitMs).2.now = c.now := by
  rw [Cluster.lookupWithin_snd, Cluster.lookup_snd, Cluster.setNode_now]

/-! ## A log of a replay -/

namespace Trace

variable {σ α : Type} (move : Bool → Cluster → σ → σ × Cluster)
  (obs : Bool → Cluster → σ → Option α)

/-- What an observation of each action records along a replay, in order. -/
def log : List (Bool × Cluster) → σ → List α
  | [], _ => []
  | e :: env, s => (obs e.1 e.2 s).toList ++ log env (move e.1 e.2 s).1

/-- One more action adds what it shows, observed in the state the replay so far left. -/
theorem log_append_singleton (scan : Bool → Cluster → σ → List Row) (env : List (Bool × Cluster))
    (e : Bool × Cluster) (t : Trace σ) :
    log move obs (env ++ [e]) t.state =
      log move obs env t.state ++ (obs e.1 e.2 (replay move scan env t).state).toList := by
  induction env generalizing t with
  | nil => simp [log]
  | cons e' env ih =>
    rw [List.cons_append, log, log, List.append_assoc]
    exact congrArg _ (ih (step move scan t e'))

end Trace

namespace Validation

/-! ## How a cursor read ends -/

/-- How a cursor read ended. -/
inductive CursorRead where
  /-- Refused, or timed out. -/
  | failed
  /-- Nothing past the cursor. -/
  | empty
  /-- Rows past the cursor. -/
  | found
  deriving DecidableEq, Repr

/-- How a guarded cursor read ended, by its answer. -/
def CursorRead.ofLookup : Lookup → CursorRead
  | .rows [] => .empty
  | .rows (_ :: _) => .found
  | _ => .failed

/-- The cursor read an action of the base-to-target leg makes: at the top of the loop, when not
cancelled. -/
def Forward.cursor (P : Plan) (b : Bool) (c : Cluster) : Forward × Progress → Option CursorRead
  | (.head, p) =>
    if b then none
    else some (.ofLookup (c.lookupWithin P.base (.scan P.table P.config.sinceUtime p.after 1)
      P.config.lookupTimeoutMs).1)
  | _ => none

/-- The cursor read an action of the target-to-base leg makes: at the top of the loop, when not
cancelled. -/
def Backward.cursor (P : Plan) (b : Bool) (c : Cluster) : Backward × Progress → Option CursorRead
  | (.head, p) =>
    if b then none
    else some (.ofLookup (c.lookupWithin P.target
      (.scan P.table P.config.sinceUtime p.after P.config.batchSize) P.config.lookupTimeoutMs).1)
  | _ => none

/-- The cursor reads of the base-to-target leg replayed from its start. -/
def Forward.reads (P : Plan) (env : List (Bool × Cluster)) : List CursorRead :=
  Trace.log (Forward.move P) (Forward.cursor P) env (.head, {})

/-- The cursor reads of the target-to-base leg replayed from its start. -/
def Backward.reads (P : Plan) (env : List (Bool × Cluster)) : List CursorRead :=
  Trace.log (Backward.move P) (Backward.cursor P) env (.head, {})

theorem Forward.reads_append_singleton (P : Plan) (env : List (Bool × Cluster))
    (e : Bool × Cluster) :
    Forward.reads P (env ++ [e]) =
      Forward.reads P env ++ (Forward.cursor P e.1 e.2 (Forward.trace P env).state).toList :=
  Trace.log_append_singleton _ _ (Forward.scanned P) env e ⟨(.head, {}), [], []⟩

theorem Backward.reads_append_singleton (P : Plan) (env : List (Bool × Cluster))
    (e : Bool × Cluster) :
    Backward.reads P (env ++ [e]) =
      Backward.reads P env ++ (Backward.cursor P e.1 e.2 (Backward.trace P env).state).toList :=
  Trace.log_append_singleton _ _ (Backward.scanned P) env e ⟨(.head, {}), [], []⟩

/-! ## What an action keeps -/

/-- Two progress records agree on the cursor, the run of failed cursor reads and the abort
flag. -/
structure Progress.SameCursor (p p' : Progress) : Prop where
  after : p'.after = p.after
  failures : p'.failures = p.failures
  aborted : p'.report.aborted = p.report.aborted

namespace Progress.SameCursor

theorem refl (p : Progress) : p.SameCursor p := ⟨rfl, rfl, rfl⟩

theorem trans {p₁ p₂ p₃ : Progress} (h₁ : p₁.SameCursor p₂) (h₂ : p₂.SameCursor p₃) :
    p₁.SameCursor p₃ :=
  ⟨h₂.after.trans h₁.after, h₂.failures.trans h₁.failures, h₂.aborted.trans h₁.aborted⟩

theorem lookupFailed (p : Progress) : p.SameCursor p.lookupFailed := ⟨rfl, rfl, rfl⟩

theorem notifyFailed (p : Progress) : p.SameCursor p.notifyFailed := ⟨rfl, rfl, rfl⟩

theorem recorded (p : Progress) (k : DriftKind) : p.SameCursor (p.recorded k) := by
  cases k <;> exact ⟨rfl, rfl, rfl⟩

end Progress.SameCursor

variable {P : Plan}

theorem Notifies.sameCursor {p p' : Progress} {id : Int64} {k : DriftKind} {s : Sent}
    {sent : List Message} (h : Notifies P p id k s p' sent) : p.SameCursor p' := by
  cases h with
  | lost => exact (Progress.SameCursor.recorded p k).trans (.notifyFailed _)
  | _ => exact .recorded p k

theorem Judged.sameCursor {p : Progress} {id : Int64} {s' : Forward × Progress}
    {sent : List Message} (h : Judged P p id s' sent) : p.SameCursor s'.2 := by
  cases h with
  | agree => exact .refl p
  | drift _ hn => exact hn.sameCursor

theorem Forward.Took.sameCursor {p : Progress} {row : Row} {s' : Forward × Progress}
    {sent : List Message} (h : Forward.Took P p row s' sent) : p.SameCursor s'.2 := by
  cases h with
  | failed => exact .lookupFailed p
  | judged hj => exact hj.sameCursor
  | deferred => exact .refl p

/-- An action of the base-to-target leg that makes no cursor read keeps the cursor, the run of
failed cursor reads and the abort flag. -/
theorem Forward.sameCursor_of_cursor {b : Bool} {c : Cluster} {s : Forward × Progress}
    (h : Forward.cursor P b c s = none) : s.2.SameCursor (Forward.move P b c s).1.2 := by
  obtain ⟨sent, -, hm⟩ := Forward.step_moves P b c s
  generalize Forward.scanned P b c s = rows at hm
  generalize (Forward.move P b c s).1 = s' at hm ⊢
  cases hm with
  | cancelled => exact .refl _
  | refused hb => simp [Forward.cursor, hb] at h
  | held hb => simp [Forward.cursor, hb] at h
  | exhausted hb => simp [Forward.cursor, hb] at h
  | read hb => simp [Forward.cursor, hb] at h
  | settled hj => exact hj.sameCursor
  | timedOut => exact .lookupFailed _
  | delivered => exact .refl _
  | lost => exact .notifyFailed _
  | paused => exact .refl _
  | resumed => exact .refl _
  | idle => exact .refl _

/-- An action of the target-to-base leg that makes no cursor read keeps the cursor, the run of
failed cursor reads and the abort flag. -/
theorem Backward.sameCursor_of_cursor {b : Bool} {c : Cluster} {s : Backward × Progress}
    (h : Backward.cursor P b c s = none) : s.2.SameCursor (Backward.move P b c s).1.2 := by
  obtain ⟨sent, -, hm⟩ := Backward.step_moves P b c s
  generalize Backward.scanned P b c s = rows at hm
  generalize (Backward.move P b c s).1 = s' at hm ⊢
  cases hm with
  | cancelled => exact .refl _
  | refused hb => simp [Backward.cursor, hb] at h
  | held hb => simp [Backward.cursor, hb] at h
  | exhausted hb => simp [Backward.cursor, hb] at h
  | batch hb => simp [Backward.cursor, hb] at h
  | notified hn => exact hn.sameCursor
  | delivered => exact .refl _
  | lost => exact .notifyFailed _
  | _ => exact .refl _

/-! ## What a cursor read does -/

/-- What the base-to-target leg does after its cursor read, by how the read ended. -/
inductive Forward.Reads (P : Plan) (c : Cluster) (p : Progress) :
    CursorRead → Forward × Progress → Prop
  /-- A failed read is counted and absorbed at the read's instant: retried, given up or
  paused. -/
  | failed {r : Resume} {p' : Progress}
      (habsorb : P.config.absorb c.now p.lookupFailed = (r, p')) :
      Reads P c p .failed (Forward.resume r, p')
  /-- Nothing past the cursor: the pass is over, and the run of failed reads is kept. -/
  | empty : Reads P c p .empty (Forward.resume (P.config.idle c.now), p)
  /-- The next row past the cursor: the cursor moves onto it and the run of failed reads is
  cleared, whatever comes of the row. -/
  | found {row : Row} {s' : Forward × Progress} {sent : List Message}
      (hpage : page ((c.node P.base).contents.table P.table) P.config.sinceUtime p.after 1 =
        [row])
      (htook : Forward.Took P (p.took row.id) row s' sent) : Reads P c p .found s'

/-- What the target-to-base leg does after its cursor read, by how the read ended. -/
inductive Backward.Reads (P : Plan) (c : Cluster) (p : Progress) :
    CursorRead → Backward × Progress → Prop
  /-- A failed read is counted and absorbed at the read's instant: retried, given up or
  paused. -/
  | failed {r : Resume} {p' : Progress}
      (habsorb : P.config.absorb c.now p.lookupFailed = (r, p')) :
      Reads P c p .failed (Backward.resume r, p')
  /-- Nothing past the cursor: the pass is over, and the run of failed reads is cleared. -/
  | empty : Reads P c p .empty (Backward.resume (P.config.idle c.now), { p with failures := 0 })
  /-- A batch past the cursor: the cursor moves onto its last row and the run of failed reads is
  cleared; the leg owes reports to some of its ids. -/
  | found {rows : List Row} {missing : List Int64} {p' : Progress}
      (hpage : page ((c.node P.target).contents.table P.table) P.config.sinceUtime p.after
        P.config.batchSize = rows)
      (hne : rows ≠ []) (hmissing : missing.Sublist (rows.map (·.id)))
      (hp : p' = p.tookBatch rows ∨ p' = (p.tookBatch rows).lookupFailed) :
      Reads P c p .found (.publish missing rows.length, p')

/-- The cursor read of the base-to-target leg, and what the leg does after it. -/
theorem Forward.head_reads (P : Plan) (c : Cluster) (p : Progress) :
    ∃ r, Forward.cursor P false c (.head, p) = some r ∧
      Forward.Reads P c p r (Forward.move P false c (.head, p)).1 := by
  simp only [Forward.cursor, Forward.move, Forward.step, Bool.false_eq_true, if_false]
  have hheld := Cluster.lookupWithin_scan_ne_held c P.base P.table P.config.sinceUtime p.after 1
    P.config.lookupTimeoutMs
  rcases hread : c.lookupWithin P.base (.scan P.table P.config.sinceUtime p.after 1)
    P.config.lookupTimeoutMs with ⟨l, c₁⟩
  rw [hread] at hheld
  -- the read takes no time
  have hnow : c₁.now = c.now := by
    rw [← Cluster.now_lookupWithin c P.base _ P.config.lookupTimeoutMs, hread]
  cases l with
  | refused e =>
    refine ⟨.failed, rfl, ?_⟩
    dsimp only
    rw [hnow]
    exact .failed Prod.mk.eta.symm
  | heldUntil t => exact absurd rfl (hheld t)
  | rows rs =>
    have hpage : page ((c.node P.base).contents.table P.table) P.config.sinceUtime p.after 1 =
        rs := (Cluster.rows_of_lookupWithin hread).symm
    cases rs with
    | nil =>
      refine ⟨_, rfl, ?_⟩
      dsimp only
      rw [hnow]
      exact .empty
    | cons row rest =>
      -- a read of one row returns at most one
      obtain rfl : rest = [] := by
        have hlen := length_page_le ((c.node P.base).contents.table P.table)
          P.config.sinceUtime p.after 1
        rw [hpage, List.length_cons] at hlen
        exact List.eq_nil_of_length_eq_zero (by omega)
      refine ⟨_, rfl, ?_⟩
      dsimp only
      -- whatever comes of the row, the leg took it
      cases hrec : recordOf row with
      | error e => exact .found hpage .failed
      | ok base =>
        dsimp only
        rcases c₁.lookupWithin P.target (.byId P.table row.id) P.config.lookupTimeoutMs with
          ⟨l₂, c₂⟩
        cases l₂ with
        | refused e => exact .found hpage .failed
        | rows ts =>
          obtain ⟨sent, hj, -⟩ := judge_judged (P := P) c₂ (p.took row.id) row.id base ts
          exact .found hpage (.judged hj)
        | heldUntil t => exact .found hpage .deferred

/-- The cursor read of the target-to-base leg, and what the leg does after it. -/
theorem Backward.head_reads (P : Plan) (c : Cluster) (p : Progress) :
    ∃ r, Backward.cursor P false c (.head, p) = some r ∧
      Backward.Reads P c p r (Backward.move P false c (.head, p)).1 := by
  simp only [Backward.cursor, Backward.move, Backward.step, Bool.false_eq_true, if_false]
  have hheld := Cluster.lookupWithin_scan_ne_held c P.target P.table P.config.sinceUtime p.after
    P.config.batchSize P.config.lookupTimeoutMs
  rcases hread : c.lookupWithin P.target
    (.scan P.table P.config.sinceUtime p.after P.config.batchSize) P.config.lookupTimeoutMs with
    ⟨l, c₁⟩
  rw [hread] at hheld
  have hnow : c₁.now = c.now := by
    rw [← Cluster.now_lookupWithin c P.target _ P.config.lookupTimeoutMs, hread]
  cases l with
  | refused e =>
    refine ⟨.failed, rfl, ?_⟩
    dsimp only
    rw [hnow]
    exact .failed Prod.mk.eta.symm
  | heldUntil t => exact absurd rfl (hheld t)
  | rows rs =>
    have hpage : page ((c.node P.target).contents.table P.table) P.config.sinceUtime p.after
        P.config.batchSize = rs := (Cluster.rows_of_lookupWithin hread).symm
    cases rs with
    | nil =>
      refine ⟨_, rfl, ?_⟩
      dsimp only
      rw [hnow]
      exact .empty
    | cons row rest =>
      refine ⟨_, rfl, ?_⟩
      dsimp only
      -- the base's batch lookup decides which ids are owed a report, none when it failed
      split
      · exact .found hpage (List.cons_ne_nil _ _) List.filter_sublist (.inl rfl)
      · exact .found hpage (List.cons_ne_nil _ _) (List.nil_sublist _) (.inr rfl)

/-- After a row is read the cursor is on it, the run of failed reads is cleared and the abort
flag is as it was, whatever comes of the row. -/
theorem Forward.Took.took {p : Progress} {row : Row} {s' : Forward × Progress}
    {sent : List Message} (h : Forward.Took P (p.took row.id) row s' sent) :
    s'.2.after = some row.id ∧ s'.2.failures = 0 ∧ s'.2.report.aborted = p.report.aborted := by
  have hs := h.sameCursor
  exact ⟨hs.after, hs.failures, hs.aborted⟩

/-- After a batch is read the cursor is on its last row, the run of failed reads is cleared
and the abort flag is as it was. -/
theorem Progress.tookBatch_or {p p' : Progress} {rows : List Row}
    (hp : p' = p.tookBatch rows ∨ p' = (p.tookBatch rows).lookupFailed) :
    p'.after = rows.getLast?.map (·.id) ∧ p'.failures = 0 ∧ p'.report.aborted = p.report.aborted := by
  rcases hp with rfl | rfl <;> exact ⟨Progress.after_tookBatch p rows, rfl, rfl⟩

end Validation

end TableMigration
