import TableMigration.Proofs.FullPass.Spec

/-!
# Proofs.FullPass.Forward

The base-to-target leg of a full pass over tables that do not change, one action at a time.

`ForwardAt` says where the leg stands after judging the first `i` base rows: its cursor is the
id of the last of them and its report counts their drifts and unreadable rows. Each action the
leg can take from there is one lemma of the `ForwardAt.step_*` family, and `ForwardAt.step`
puts them together: every action keeps the leg standing somewhere, offers the drift of the row
it judged, and brings the leg closer to its end.
-/

namespace TableMigration.Validation

open TableMigration.Access TableMigration.Store

variable {plan : Plan} {B T : Table} {c : Cluster} {p : Progress}

/-! ## Base to target -/

/-- The leg's progress once it has read the row with this id: the cursor moves to it, the
run of failed reads ends and the row is counted scanned. -/
def Progress.took (p : Progress) (id : Int64) : Progress :=
  { p with
    failures := 0
    after := some id
    report := { p.report with baseScanned := p.report.baseScanned + 1 } }

/-- Judging a readable base row against the target's row with its id reports the row's drift. -/
theorem judge_find (c : Cluster) (p : Progress) {row : Row} {b : Record}
    (hb : recordOf row = .ok b) :
    judge plan c p row.id b (Table.find? row.id T).toList =
      afterJudged plan c p row.id (baseRowDrift T row) := by
  unfold judge baseRowDrift
  rw [hb]
  congr 1
  cases hfind : Table.find? row.id T with
  | none => rfl
  | some t =>
    cases ht : recordOf t with
    | error e => simp only [Option.toList_some, ht]
    | ok u => by_cases hm : b.matches u <;> simp only [Option.toList_some, ht, classify, hm]

/-- At the end of the base the leg's scan finds nothing and a full pass ends the leg. -/
theorem Forward.step_head_end (h : Reads plan B T c) (hB : B.Sorted)
    (hfull : plan.config.mode = .full) (hlimit : 0 < plan.config.lookupTimeoutMs)
    (hafter : p.after = B.cursor B.length) :
    Forward.step plan false c (.head, p) =
      (.done, p, c.counted plan.base) := by
  have hsince : plan.config.sinceUtime = none := by simp [Config.sinceUtime, hfull]
  have hidle : plan.config.idle = fun _ => Resume.stop := by
    funext now; simp [Config.idle, Config.intervalMs, hfull]
  have hrows : (c.node plan.base).read (.scan plan.table none (B.cursor B.length) 1) = [] := by
    rw [scan_rows h hB, List.drop_length, List.take_nil]
  simp only [Forward.step, Bool.false_eq_true, if_false, hsince, hafter,
    Cluster.lookupWithin_clear c _ _ h.base hlimit, hrows, hidle, Forward.resume]

/-- With a base row left, the leg reads it, counts it, and judges it unless it cannot be
read. -/
theorem Forward.step_head_row (h : Reads plan B T c) (hB : B.Sorted)
    (hfull : plan.config.mode = .full) (hlimit : 0 < plan.config.lookupTimeoutMs)
    {i : Nat} (hi : i < B.length) (hafter : p.after = B.cursor i) :
    Forward.step plan false c (.head, p) =
      let row := B[i]
      match recordOf row with
      | .error _ => (.head, (p.took row.id).lookupFailed, c.counted plan.base)
      | .ok b =>
        judge plan ((c.counted plan.base).counted plan.target) (p.took row.id) row.id b
          (Table.find? row.id T).toList := by
  have hsince : plan.config.sinceUtime = none := by simp [Config.sinceUtime, hfull]
  have hrows : (c.node plan.base).read (.scan plan.table none (B.cursor i) 1) = [B[i]] := by
    rw [scan_rows h hB, List.drop_eq_getElem_cons hi]
    rfl
  have h1 : Reads plan B T (c.counted plan.base) := h.counted _
  simp only [Forward.step, Bool.false_eq_true, if_false, hsince, hafter,
    Cluster.lookupWithin_clear c _ _ h.base hlimit, hrows]
  cases hb : recordOf B[i] with
  | error e => rfl
  | ok b =>
    simp only [Cluster.lookupWithin_clear _ _ _ h1.target hlimit, byId_rows h1]
    rfl

/-! ### Where the leg stands -/

/-- The states the base-to-target leg of a full pass over fixed tables goes through, after
judging `i` base rows: at the top of its loop, waiting to send a report with a ticket the
bus never gave room to, or out of its loop once every base row is judged. -/
def Forward.Settled (B : Table) (b0 : Bus) (i : Nat) : Forward → Prop
  | .head => True
  | .sending w => w.ticket ∉ b0.granted
  | .done => i = B.length
  | _ => False

/-- The reports the leg is waiting to send. -/
def Forward.sends : Forward → Nat
  | .sending _ => 1
  | _ => 0

/-- Actions left to the leg after judging `i` base rows: at most two for each base row still to
judge and one to end, and one more while a report waits. -/
def Forward.left (B : Table) (i : Nat) : Forward → Nat
  | .head => 2 * (B.length - i) + 1
  | .sending _ => 2 * (B.length - i) + 2
  | _ => 0

/-- The base-to-target leg has judged the first `i` base rows: its cursor is the last of them,
no read failed since, and its report counts their drifts and unreadable rows. -/
structure ForwardAt (plan : Plan) (B T : Table) (b0 : Bus) (i : Nat) (s : Forward × Progress) :
    Prop where
  le : i ≤ B.length
  after : s.2.after = B.cursor i
  failures : s.2.failures = 0
  counts : s.2.report.counts = forwardCounts plan.base (B.take i) T
  state : s.1.Settled B b0 i

/-- One action of the base-to-target leg: from `i` judged rows, on cluster `c` whose bus shows
the offers `sent`, to `i'` judged rows on cluster `c'`, offering `new` more. Reports that did
not go out are counted once the leg knows it; the actions left decrease. -/
structure ForwardStep (plan : Plan) (B T : Table) (b0 : Bus) (sent new : List Message)
    (i i' : Nat) (s s' : Forward × Progress) (c c' : Cluster) : Prop where
  at' : ForwardAt plan B T b0 i' s'
  reads : Reads plan B T c'
  bus : Bus.Posted b0 (sent ++ new) c'.bus
  now : c'.now = c.now
  posts : (forwardDrifts plan.base (B.take i') T).map plan.post =
    (forwardDrifts plan.base (B.take i) T).map plan.post ++ new
  lost : s'.2.report.notifyFailures + s'.1.sends + (sent.length - b0.room) =
    s.2.report.notifyFailures + s.1.sends + ((sent ++ new).length - b0.room)
  left : s'.1.left B i' < s.1.left B i
variable {b0 : Bus} {sent : List Message}

/-! ### One action -/

/-- Once every base row is judged, the leg's next scan finds nothing and the leg ends. -/
theorem ForwardAt.step_end (hf : ForwardAt plan B T b0 B.length (.head, p))
    (h : Reads plan B T c) (hbus : Bus.Posted b0 sent c.bus) :
    ForwardStep plan B T b0 sent [] B.length B.length (.head, p) (.done, p) c
      (c.counted plan.base) :=
  ⟨⟨hf.le, hf.after, hf.failures, hf.counts, rfl⟩, h.counted _, by simpa using hbus, by simp,
    by simp, by simp [Forward.sends], by simp [Forward.left]⟩

theorem forwardDrifts_singleton (side : Side) (row : Row) (T : Table) :
    forwardDrifts side [row] T = ((baseRowDrift T row).map (Drift.mk row.id side)).toList := by
  cases h : baseRowDrift T row <;> simp [forwardDrifts, h]

theorem counts_took (p : Progress) (id : Int64) :
    (p.took id).report.counts = { p.report.counts with baseScanned := p.report.counts.baseScanned + 1 } :=
  rfl

theorem took_cursor (p : Progress) {i : Nat} (hi : i < B.length) :
    (p.took B[i].id).after = B.cursor (i + 1) ∧ (p.took B[i].id).failures = 0 := by
  simp [Progress.took, Table.cursor_succ hi]

/-- An unreadable base row is counted scanned and failed, and nothing is reported. -/
theorem ForwardAt.step_unreadable {i : Nat} (hf : ForwardAt plan B T b0 i (.head, p))
    (h : Reads plan B T c) (hbus : Bus.Posted b0 sent c.bus) (hi : i < B.length)
    (hrow : unreadable B[i] = true) :
    ForwardStep plan B T b0 sent [] i (i + 1) (.head, p) (.head, (p.took B[i].id).lookupFailed) c
      (c.counted plan.base) := by
  have hd : baseRowDrift T B[i] = none := by
    simp only [unreadable, Bool.not_eq_true'] at hrow
    unfold baseRowDrift
    split
    · rfl
    · next b hb => simp [hb, Except.isOk, Except.toBool] at hrow
  have hcounts : ((p.took B[i].id).lookupFailed).report.counts =
      forwardCounts plan.base (B.take (i + 1)) T := by
    calc ((p.took B[i].id).lookupFailed).report.counts
        = { p.report.counts with
            baseScanned := p.report.counts.baseScanned + 1
            lookupFailures := p.report.counts.lookupFailures + 1 } := rfl
      _ = forwardCounts plan.base (B.take (i + 1)) T := by
        rw [hf.counts, take_succ_eq hi, forwardCounts_unreadable _ _ _ hrow]
        rfl
  refine ⟨⟨by omega, (took_cursor p hi).1, (took_cursor p hi).2, hcounts, trivial⟩, h.counted _,
    by simpa using hbus, by simp, ?_,
    by simp [Forward.sends, Progress.took, Progress.lookupFailed], by simp [Forward.left]; omega⟩
  rw [take_succ_eq hi, forwardDrifts_append, forwardDrifts_singleton, hd]
  simp

/-- A readable base row with no drift is counted scanned and nothing is reported. -/
theorem ForwardAt.step_judged {i : Nat} (hf : ForwardAt plan B T b0 i (.head, p))
    (h : Reads plan B T c) (hbus : Bus.Posted b0 sent c.bus) (hi : i < B.length)
    (hrow : unreadable B[i] = false) (hd : baseRowDrift T B[i] = none) :
    ForwardStep plan B T b0 sent [] i (i + 1) (.head, p) (.head, p.took B[i].id) c
      ((c.counted plan.base).counted plan.target) := by
  have hcounts : (p.took B[i].id).report.counts = forwardCounts plan.base (B.take (i + 1)) T := by
    rw [counts_took, hf.counts, take_succ_eq hi, forwardCounts_readable _ _ _ hrow, hd]
    rfl
  refine ⟨⟨by omega, (took_cursor p hi).1, (took_cursor p hi).2, hcounts, trivial⟩,
    (h.counted _).counted _, by simpa using hbus, by simp, ?_,
    by simp [Forward.sends, Progress.took], by simp [Forward.left]; omega⟩
  rw [take_succ_eq hi, forwardDrifts_append, forwardDrifts_singleton, hd]
  simp

/-- A readable base row with a drift is counted scanned and its drift is reported: the leg
goes on at once, or waits for room when the bus has none. -/
theorem ForwardAt.step_reported {i : Nat} {k : DriftKind} (hf : ForwardAt plan B T b0 i (.head, p))
    (h : Reads plan B T c) (hbus : Bus.Posted b0 sent c.bus) (hissued : b0.TicketsIssued)
    (hi : i < B.length) (hrow : unreadable B[i] = false) (hd : baseRowDrift T B[i] = some k)
    {out : Forward × Progress × Cluster}
    (hout : (match notify plan ((c.counted plan.base).counted plan.target) (p.took B[i].id) B[i].id k with
      | (.waiting w, p, c) => (Forward.sending w, p, c)
      | (_, p, c) => (.head, p, c)) = out) :
    ForwardStep plan B T b0 sent [plan.message B[i].id k] i (i + 1) (.head, p) (out.1, out.2.1) c
      out.2.2 := by
  obtain ⟨f', p', c'⟩ := out
  have h1 : Reads plan B T ((c.counted plan.base).counted plan.target) := (h.counted _).counted _
  have hbus1 : Bus.Posted b0 sent ((c.counted plan.base).counted plan.target).bus := by simpa using hbus
  rcases hn : notify plan ((c.counted plan.base).counted plan.target) (p.took B[i].id) B[i].id k with
    ⟨snt, p2, c2⟩
  obtain ⟨hbus2, hnow2, hnodes2, hafter2, hfail2, hcounts2, hcases⟩ :=
    notify_posted hbus1 hissued _ _ _ hn
  rw [hn] at hout
  have hcounts : p2.report.counts = forwardCounts plan.base (B.take (i + 1)) T := by
    rw [hcounts2, Report.counts_record, counts_took, hf.counts, take_succ_eq hi,
      forwardCounts_readable _ _ _ hrow, hd]
    rfl
  have hposts : (forwardDrifts plan.base (B.take (i + 1)) T).map plan.post =
      (forwardDrifts plan.base (B.take i) T).map plan.post ++ [plan.message B[i].id k] := by
    rw [take_succ_eq hi, forwardDrifts_append, forwardDrifts_singleton, hd]
    simp [Plan.message_eq_post]
  have hreads : Reads plan B T c2 := h1.of_nodes fun s => ⟨by rw [hnodes2], fun hc => by rw [hnodes2]; exact hc⟩
  have hat : ∀ f', f'.Settled B b0 (i + 1) → ForwardAt plan B T b0 (i + 1) (f', p2) := fun f' hs =>
    ⟨by omega, hafter2.trans (took_cursor p hi).1, hfail2.trans (took_cursor p hi).2, hcounts, hs⟩
  have hnow : c2.now = c.now := by simp [hnow2]
  have hnf : p.report.notifyFailures = (p.took B[i].id).report.notifyFailures := rfl
  rcases hcases with ⟨rfl, hnf2, hlt⟩ | ⟨rfl, hnf2, hroom⟩ | ⟨w, rfl, hnf2, hge, ht⟩
  · simp only [Prod.mk.injEq] at hout
    obtain ⟨rfl, rfl, rfl⟩ := hout
    exact ⟨hat _ trivial, hreads, hbus2, hnow, hposts, by simp [Forward.sends, hnf2, hnf]; omega,
      by simp [Forward.left]; omega⟩
  · simp only [Prod.mk.injEq] at hout
    obtain ⟨rfl, rfl, rfl⟩ := hout
    exact ⟨hat _ trivial, hreads, hbus2, hnow, hposts, by simp [Forward.sends, hnf2, hnf, hroom]; omega,
      by simp [Forward.left]; omega⟩
  · simp only [Prod.mk.injEq] at hout
    obtain ⟨rfl, rfl, rfl⟩ := hout
    exact ⟨hat _ ht, hreads, hbus2, hnow, hposts, by simp [Forward.sends, hnf2, hnf]; omega,
      by simp [Forward.left]; omega⟩

/-- A report that waited for room ends lost at its deadline, is counted, and the leg goes
back to the top of its loop. -/
theorem ForwardAt.step_sent {i : Nat} {w : Waiting} (hf : ForwardAt plan B T b0 i (.sending w, p))
    (h : Reads plan B T c) (hbus : Bus.Posted b0 sent c.bus) :
    ForwardStep plan B T b0 sent [] i i (.sending w, p) (.head, p.notifyFailed) c (w.finish c).2 := by
  have ht : w.ticket ∉ b0.granted := hf.state
  obtain ⟨-, hbus', hnow, hnodes⟩ := finish_posted hbus ht
  refine ⟨⟨hf.le, hf.after, hf.failures, hf.counts, trivial⟩,
    h.of_nodes fun s => ⟨by rw [hnodes], fun hc => by rw [hnodes]; exact hc⟩,
    by simpa using hbus', hnow, by simp, ?_, by simp [Forward.left]⟩
  simp [Forward.sends, Progress.notifyFailed]

/-- The leg's action on a waiting report: it finishes, lost, and the leg goes on. -/
theorem Forward.step_sending {w : Waiting} {b0 : Bus} {sent : List Message}
    (hbus : Bus.Posted b0 sent c.bus) (ht : w.ticket ∉ b0.granted) :
    Forward.step plan false c (.sending w, p) = (.head, p.notifyFailed, (w.finish c).2) := by
  obtain ⟨hlost, -⟩ := finish_posted hbus ht
  simp only [Forward.step, settleReport]
  generalize w.finish c = out at hlost
  obtain ⟨snt, c'⟩ := out
  simp only at hlost
  subst hlost
  rfl

/-- Every action the base-to-target leg can take from where it stands in a full pass keeps
it standing somewhere, one row further at most, and brings it closer to its end. -/
theorem ForwardAt.step {i : Nat} {s : Forward × Progress} (hf : ForwardAt plan B T b0 i s)
    (h : Reads plan B T c) (hbus : Bus.Posted b0 sent c.bus) (hissued : b0.TicketsIssued)
    (hB : B.Sorted) (hfull : plan.config.mode = .full) (hlimit : 0 < plan.config.lookupTimeoutMs)
    (hready : s.1.ready false c = true) :
    ∃ i' new, ForwardStep plan B T b0 sent new i i' s
      ((Forward.step plan false c s).1, (Forward.step plan false c s).2.1) c
      (Forward.step plan false c s).2.2 := by
  obtain ⟨f, p⟩ := s
  cases f with
  | head =>
    rcases Nat.lt_or_ge i B.length with hi | hi
    · rw [Forward.step_head_row h hB hfull hlimit hi hf.after]
      dsimp only
      cases hb : recordOf B[i] with
      | error e =>
        have hrow : unreadable B[i] = true := by simp [unreadable, hb, Except.isOk, Except.toBool]
        exact ⟨_, _, hf.step_unreadable h hbus hi hrow⟩
      | ok b =>
        have hrow : unreadable B[i] = false := by simp [unreadable, hb, Except.isOk, Except.toBool]
        simp only
        rw [judge_find _ _ hb]
        cases hd : baseRowDrift T B[i] with
        | none => exact ⟨_, _, hf.step_judged h hbus hi hrow hd⟩
        | some k => exact ⟨_, _, hf.step_reported h hbus hissued hi hrow hd rfl⟩
    · -- every base row is judged: the scan finds nothing more
      have hend : i = B.length := le_antisymm hf.le hi
      subst hend
      rw [Forward.step_head_end h hB hfull hlimit hf.after]
      exact ⟨_, _, hf.step_end h hbus⟩
  | sending w =>
    rw [Forward.step_sending hbus hf.state]
    exact ⟨_, _, hf.step_sent h hbus⟩
  | done => simp [Forward.ready] at hready
  | lookup id base readyAt deadline => exact hf.state.elim
  | pausing t => exact hf.state.elim

end TableMigration.Validation
