import TableMigration.Proofs.Keyset.Backward

/-!
# Proofs.Keyset.Run

A validation run polled any number of times, each poll in any cluster and cancelled or not
(`ScanRun.replay`): between two polls anything may happen to the stores, to the paths to them
and to the bus. Within a poll each leg acts in the clusters its own actions leave, which hold
the stores' rows of the poll's cluster. So each leg's actions are a replay of the leg in
clusters drawn from the polls (`ScanRun.replay_legs`), and everything `Proofs.Keyset.Forward`
and `Proofs.Keyset.Backward` show of such replays holds of the run.

Every store call a leg awaits is also a point where the rest of the system may run, so the run
is stated more finely as `ScanRun.Amid`: each action of either leg in a cluster of its own,
interleaved in any order, and a poll's end that sums the legs once both are done. Polling is one
such run (`ScanRun.Amid.replay`).

The main statement is `ScanRun.keyset_robust`.
-/

namespace TableMigration.Validation

open TableMigration.Access TableMigration.Store

/-- A run polled once in each cluster of a sequence, with that poll's cancellation flag. -/
def ScanRun.replay (env : List (Bool × Cluster)) (r : ScanRun) : ScanRun :=
  env.foldl (fun r e => (r.poll e.1 e.2).1) r

/-- The actions of a leg drawn from the polls of its run: each action was taken with the
cancellation flag of some poll, in a cluster whose stores held that poll's rows. -/
def DrawnFrom (steps env : List (Bool × Cluster)) : Prop :=
  ∀ e ∈ steps, ∃ e' ∈ env, e.1 = e'.1 ∧ ∀ s, (e.2.node s).contents = (e'.2.node s).contents

theorem DrawnFrom.append {steps₁ steps₂ env₁ env₂ : List (Bool × Cluster)}
    (h₁ : DrawnFrom steps₁ env₁) (h₂ : DrawnFrom steps₂ env₂) :
    DrawnFrom (steps₁ ++ steps₂) (env₁ ++ env₂) := by
  intro e he
  rcases List.mem_append.mp he with he | he
  · obtain ⟨e', he', hb, hc⟩ := h₁ e he
    exact ⟨e', List.mem_append_left _ he', hb, hc⟩
  · obtain ⟨e', he', hb, hc⟩ := h₂ e he
    exact ⟨e', List.mem_append_right _ he', hb, hc⟩

/-- A row every poll's store showed, every action's store showed. -/
theorem DrawnFrom.shows {P : Plan} {side : Side} {steps env : List (Bool × Cluster)}
    (h : DrawnFrom steps env) {x : Int64} (hx : ∀ e ∈ env, P.Shows side e.2 x) :
    ∀ e ∈ steps, P.Shows side e.2 x := by
  intro e he
  obtain ⟨e', he', -, hc⟩ := h e he
  unfold Plan.Shows
  rw [hc]
  exact hx e' he'

theorem DrawnFrom.uncancelled {steps env : List (Bool × Cluster)} (h : DrawnFrom steps env)
    (hb : ∀ e ∈ env, e.1 = false) : ∀ e ∈ steps, e.1 = false := by
  intro e he
  obtain ⟨e', he', heq, -⟩ := h e he
  rw [heq]
  exact hb e' he'

theorem DrawnFrom.ordered {steps env : List (Bool × Cluster)} (h : DrawnFrom steps env)
    (hord : ∀ e ∈ env, ∀ s, (e.2.node s).contents.Ordered) :
    ∀ e ∈ steps, ∀ s, (e.2.node s).contents.Ordered := by
  intro e he s
  obtain ⟨e', he', -, hc⟩ := h e he
  rw [hc]
  exact hord e' he' s

/-! ## A poll -/

theorem Trace.replay_cons {σ : Type} (move : Bool → Cluster → σ → σ × Cluster)
    (scan : Bool → Cluster → σ → List Row) (e : Bool × Cluster) (env : List (Bool × Cluster))
    (t : Trace σ) :
    Trace.replay move scan (e :: env) t = Trace.replay move scan env (Trace.step move scan t e) :=
  rfl

/-- A leg's turn is a replay of its actions, each in the cluster the one before it left, all
with the turn's flag and the rows of the turn's first cluster. -/
theorem runForward_replay (P : Plan) (b : Bool) :
    ∀ (fuel : Nat) (s : Forward × Progress) (c : Cluster), ∃ steps : List (Bool × Cluster),
      (∀ e ∈ steps, e.1 = b ∧ ∀ side, (e.2.node side).contents = (c.node side).contents) ∧
      (∀ side, ((ScanRun.runForward P b fuel s c).2.node side).contents =
        (c.node side).contents) ∧
      ∀ t : Trace (Forward × Progress), t.state = s →
        (Trace.replay (Forward.move P) (Forward.scanned P) steps t).state =
          (ScanRun.runForward P b fuel s c).1
  | 0, s, c => ⟨[], by simp, fun _ => rfl, fun _ ht => ht⟩
  | fuel + 1, s, c => by
    unfold ScanRun.runForward
    split
    · obtain ⟨sent, hg, -⟩ := Forward.step_moves P b c s
      rcases hstep : Forward.step P b c s with ⟨f, p, c'⟩
      have hmove : Forward.move P b c s = ((f, p), c') := by simp [Forward.move, hstep]
      rw [hmove] at hg
      obtain ⟨steps, hsteps, hrows, hstate⟩ := runForward_replay P b fuel (f, p) c'
      refine ⟨(b, c) :: steps, ?_, fun side => (hrows side).trans (hg.rows side), fun t ht => ?_⟩
      · intro e he
        rcases List.mem_cons.mp he with rfl | he
        · exact ⟨rfl, fun _ => rfl⟩
        · exact ⟨(hsteps e he).1, fun side => ((hsteps e he).2 side).trans (hg.rows side)⟩
      · rw [Trace.replay_cons]
        exact hstate _ (by simp [Trace.step, ht, hmove])
    · exact ⟨[], by simp, fun _ => rfl, fun _ ht => ht⟩

theorem runBackward_replay (P : Plan) (b : Bool) :
    ∀ (fuel : Nat) (s : Backward × Progress) (c : Cluster), ∃ steps : List (Bool × Cluster),
      (∀ e ∈ steps, e.1 = b ∧ ∀ side, (e.2.node side).contents = (c.node side).contents) ∧
      (∀ side, ((ScanRun.runBackward P b fuel s c).2.node side).contents =
        (c.node side).contents) ∧
      ∀ t : Trace (Backward × Progress), t.state = s →
        (Trace.replay (Backward.move P) (Backward.scanned P) steps t).state =
          (ScanRun.runBackward P b fuel s c).1
  | 0, s, c => ⟨[], by simp, fun _ => rfl, fun _ ht => ht⟩
  | fuel + 1, s, c => by
    unfold ScanRun.runBackward
    split
    · obtain ⟨sent, hg, -⟩ := Backward.step_moves P b c s
      rcases hstep : Backward.step P b c s with ⟨f, p, c'⟩
      have hmove : Backward.move P b c s = ((f, p), c') := by simp [Backward.move, hstep]
      rw [hmove] at hg
      obtain ⟨steps, hsteps, hrows, hstate⟩ := runBackward_replay P b fuel (f, p) c'
      refine ⟨(b, c) :: steps, ?_, fun side => (hrows side).trans (hg.rows side), fun t ht => ?_⟩
      · intro e he
        rcases List.mem_cons.mp he with rfl | he
        · exact ⟨rfl, fun _ => rfl⟩
        · exact ⟨(hsteps e he).1, fun side => ((hsteps e he).2 side).trans (hg.rows side)⟩
      · rw [Trace.replay_cons]
        exact hstate _ (by simp [Trace.step, ht, hmove])
    · exact ⟨[], by simp, fun _ => rfl, fun _ ht => ht⟩

theorem ScanRun.legsDone_iff (r : ScanRun) :
    r.legsDone = true ↔ r.forward = .done ∧ r.backward = .done := by
  unfold ScanRun.legsDone
  split <;> simp_all

/-- A poll runs both legs, one after the other in clusters holding the rows of the poll's
cluster, keeps the plan, and sums the legs' reports once both are done. -/
theorem ScanRun.poll_runs (r : ScanRun) (b : Bool) (c : Cluster) :
    ∃ cf cb : Cluster, (∀ s, (cf.node s).contents = (c.node s).contents) ∧
      (∀ s, (cb.node s).contents = (c.node s).contents) ∧
      ((r.poll b c).1.forward, (r.poll b c).1.forwardProgress) =
        (runForward r.plan b pollBudget (r.forward, r.forwardProgress) cf).1 ∧
      ((r.poll b c).1.backward, (r.poll b c).1.backwardProgress) =
        (runBackward r.plan b pollBudget (r.backward, r.backwardProgress) cb).1 ∧
      (r.poll b c).1.plan = r.plan ∧
      (r.poll b c).1.report =
        if (r.poll b c).1.legsDone then
          some { (r.poll b c).1.forwardProgress.report.merge
            (r.poll b c).1.backwardProgress.report with cancelled := b }
        else r.report := by
  obtain ⟨sf, sb, c₁, c₂, hturns, hpoll⟩ := r.poll_turns b c
  rw [hpoll]
  -- the leg that goes second runs in the cluster the first left, which holds the same rows
  rcases hturns with ⟨h₁, h₂⟩ | ⟨h₁, h₂⟩
  · obtain ⟨_, -, hrows, -⟩ := runForward_replay r.plan b pollBudget (r.forward, r.forwardProgress) c
    rw [h₁] at hrows
    refine ⟨c, c₁, fun _ => rfl, hrows, ?_⟩
    rw [h₁, h₂]
    split <;> rename_i hd <;> simp only [ScanRun.legsDone] at hd ⊢ <;> simp [hd]
  · obtain ⟨_, -, hrows, -⟩ := runBackward_replay r.plan b pollBudget (r.backward, r.backwardProgress) c
    rw [h₁] at hrows
    refine ⟨c₁, c, hrows, fun _ => rfl, ?_⟩
    rw [h₁, h₂]
    split <;> rename_i hd <;> simp only [ScanRun.legsDone] at hd ⊢ <;> simp [hd]

/-! ## A polled run -/

theorem runForward_done (P : Plan) (b : Bool) (fuel : Nat) (p : Progress) (c : Cluster) :
    (ScanRun.runForward P b fuel (.done, p) c).1 = (.done, p) := by
  cases fuel <;> simp [ScanRun.runForward, Forward.ready]

theorem runBackward_done (P : Plan) (b : Bool) (fuel : Nat) (p : Progress) (c : Cluster) :
    (ScanRun.runBackward P b fuel (.done, p) c).1 = (.done, p) := by
  cases fuel <;> simp [ScanRun.runBackward, Backward.ready]

theorem ScanRun.replay_append_singleton (env : List (Bool × Cluster)) (e : Bool × Cluster)
    (r : ScanRun) : ScanRun.replay (env ++ [e]) r = ((ScanRun.replay env r).poll e.1 e.2).1 := by
  simp [ScanRun.replay]

/-- A run's report, once made, sums its legs' reports, both legs being done. -/
def ScanRun.Summed (r : ScanRun) : Prop :=
  ∀ rep, r.report = some rep → r.legsDone = true ∧
    rep = { r.forwardProgress.report.merge r.backwardProgress.report with cancelled := rep.cancelled }

/-- The report of two done legs, summed: it counts the rows each leg read, bounds the drifts
of each direction by the rows scanned that can show them, and accounts for every drift found as
published or failed. -/
theorem report_of_done {pf pb : Progress} {seenF seenB : List Row} {sentF sentB : List Message}
    (hf : Forward.Counted (.done, pf) seenF sentF) (hb : Backward.Counted (.done, pb) seenB sentB)
    (rep : Report) (hrep : rep = { pf.report.merge pb.report with cancelled := rep.cancelled }) :
    rep.baseScanned = seenF.length ∧ rep.targetScanned = seenB.length ∧
      rep.targetMissing + rep.neq ≤ rep.baseScanned ∧ rep.baseMissing ≤ rep.targetScanned ∧
      sentF.length + sentB.length + rep.notifyFailures = rep.events ∧
      rep.notifyFailures ≤ rep.events := by
  obtain ⟨hfs, hfts, hfbm, hfj, hfr⟩ := hf
  obtain ⟨hbts, hbbs, hbtm, hbneq, hbm, hbr⟩ := hb
  simp only [Forward.judging, Forward.sends, Backward.pending, Backward.sends, List.length_nil]
    at hfs hfts hfbm hfj hfr hbts hbbs hbtm hbneq hbm hbr
  rw [hrep]
  simp only [Report.merge, Report.events]
  omega

/-- In a full pass the rows a leg is to visit are all the rows of the table. -/
theorem Plan.shows_of_full {P : Plan} (hfull : P.config.mode = .full) {side : Side}
    {c : Cluster} {x : Int64} (hx : x ∈ ((c.node side).contents.table P.table).map (·.id)) :
    P.Shows side c x := by
  obtain ⟨r, hr, rfl⟩ := List.mem_map.mp hx
  exact ⟨r, hr, rfl, by simp [Config.sinceUtime, hfull]⟩

/-! ## Polls amid the rest of the system -/

/-- The end of a poll: the poll is counted, and once both legs are done the report is their sum,
marked cancelled if the poll was. -/
def ScanRun.close (r : ScanRun) (cancelled : Bool) : ScanRun :=
  if r.legsDone then
    { r with
      polls := r.polls + 1
      report := some { r.forwardProgress.report.merge r.backwardProgress.report with
                        cancelled := cancelled } }
  else { r with polls := r.polls + 1 }

/-- A run polled amid the rest of the system. The run awaits every store call it makes and other
tasks run meanwhile, so each action of a leg is taken in whatever cluster they left: `fs` and
`bs` list, in order, the cancellation flag and the cluster of each action of the base-to-target
and of the target-to-base leg. A leg acts only when it is ready; a poll ends with
`ScanRun.close`. -/
inductive ScanRun.Amid (P : Plan) : List (Bool × Cluster) → List (Bool × Cluster) → ScanRun → Prop
  | start : Amid P [] [] (ScanRun.start P)
  | forward {fs bs : List (Bool × Cluster)} {r : ScanRun} (e : Bool × Cluster) :
      Amid P fs bs r → r.forward.ready e.1 e.2 = true →
      Amid P (fs ++ [e]) bs
        { r with
          forward := (Forward.move P e.1 e.2 (r.forward, r.forwardProgress)).1.1
          forwardProgress := (Forward.move P e.1 e.2 (r.forward, r.forwardProgress)).1.2 }
  | backward {fs bs : List (Bool × Cluster)} {r : ScanRun} (e : Bool × Cluster) :
      Amid P fs bs r → r.backward.ready e.1 e.2 = true →
      Amid P fs (bs ++ [e])
        { r with
          backward := (Backward.move P e.1 e.2 (r.backward, r.backwardProgress)).1.1
          backwardProgress := (Backward.move P e.1 e.2 (r.backward, r.backwardProgress)).1.2 }
  | close {fs bs : List (Bool × Cluster)} {r : ScanRun} (cancelled : Bool) :
      Amid P fs bs r → Amid P fs bs (r.close cancelled)

namespace ScanRun

@[simp] theorem close_plan (r : ScanRun) (b : Bool) : (r.close b).plan = r.plan := by
  unfold close
  split <;> rfl

@[simp] theorem close_forward (r : ScanRun) (b : Bool) : (r.close b).forward = r.forward := by
  unfold close
  split <;> rfl

@[simp] theorem close_forwardProgress (r : ScanRun) (b : Bool) :
    (r.close b).forwardProgress = r.forwardProgress := by
  unfold close
  split <;> rfl

@[simp] theorem close_backward (r : ScanRun) (b : Bool) : (r.close b).backward = r.backward := by
  unfold close
  split <;> rfl

@[simp] theorem close_backwardProgress (r : ScanRun) (b : Bool) :
    (r.close b).backwardProgress = r.backwardProgress := by
  unfold close
  split <;> rfl

variable {P : Plan} {fs bs : List (Bool × Cluster)} {r : ScanRun}

theorem Amid.plan (h : Amid P fs bs r) : r.plan = P := by
  induction h with
  | start => rfl
  | forward _ _ _ ih => exact ih
  | backward _ _ _ ih => exact ih
  | close _ _ ih => rwa [close_plan]

/-- Each leg of a run polled amid the rest of the system is the replay of its actions from the
leg's start. -/
theorem Amid.traces (h : Amid P fs bs r) :
    (Forward.trace P fs).state = (r.forward, r.forwardProgress) ∧
      (Backward.trace P bs).state = (r.backward, r.backwardProgress) := by
  induction h with
  | start => exact ⟨rfl, rfl⟩
  | forward e _ _ ih =>
    refine ⟨?_, ih.2⟩
    rw [Forward.trace, Trace.replay_append_singleton, Trace.step, ← Forward.trace, ih.1]
  | backward e _ _ ih =>
    refine ⟨ih.1, ?_⟩
    rw [Backward.trace, Trace.replay_append_singleton, Trace.step, ← Backward.trace, ih.2]
  | close _ _ ih => simpa using ih

/-- A run polled amid the rest of the system keeps its report a sum of its legs' reports: legs
once done are never ready again. -/
theorem Amid.summed (h : Amid P fs bs r) : r.Summed := by
  induction h with
  | start => exact fun _ h => by cases h
  | @forward fs bs r e _ hready ih =>
    intro rep hrep
    obtain ⟨hdone, -⟩ := ih rep hrep
    rw [(legsDone_iff r).mp hdone |>.1] at hready
    cases hready
  | @backward fs bs r e _ hready ih =>
    intro rep hrep
    obtain ⟨hdone, -⟩ := ih rep hrep
    rw [(legsDone_iff r).mp hdone |>.2] at hready
    cases hready
  | @close fs bs r b _ ih =>
    intro rep hrep
    unfold ScanRun.close at hrep ⊢
    split at hrep
    · rename_i hd
      rw [Option.some.injEq] at hrep
      subst hrep
      rw [if_pos hd]
      exact ⟨hd, rfl⟩
    · rename_i hd
      rw [if_neg hd]
      exact ih rep hrep

/-- A leg's turn in a poll is a run of its actions amid the rest of the system, each in the
cluster the one before it left, all with the turn's flag and the rows of the turn's first
cluster. -/
theorem Amid.runForward (b : Bool) :
    ∀ (fuel : Nat) {fs : List (Bool × Cluster)} {r : ScanRun} (c : Cluster),
      Amid P fs bs r → ∃ steps : List (Bool × Cluster),
        (∀ e ∈ steps, e.1 = b ∧ ∀ side, (e.2.node side).contents = (c.node side).contents) ∧
        (∀ side, ((runForward P b fuel (r.forward, r.forwardProgress) c).2.node side).contents =
          (c.node side).contents) ∧
        Amid P (fs ++ steps) bs
          { r with
            forward := (runForward P b fuel (r.forward, r.forwardProgress) c).1.1
            forwardProgress := (runForward P b fuel (r.forward, r.forwardProgress) c).1.2 }
  | 0, fs, r, c, h => ⟨[], by simp, fun _ => rfl, by rw [List.append_nil]; exact h⟩
  | fuel + 1, fs, r, c, h => by
    unfold ScanRun.runForward
    split
    · rename_i hready
      obtain ⟨sent, hg, -⟩ := Forward.step_moves P b c (r.forward, r.forwardProgress)
      rcases hstep : Forward.step P b c (r.forward, r.forwardProgress) with ⟨f, p, c'⟩
      have hmove : Forward.move P b c (r.forward, r.forwardProgress) = ((f, p), c') := by
        simp [Forward.move, hstep]
      rw [hmove] at hg
      -- the action runs in the poll's cluster, then the turn goes on in the one it left
      have h₁ := Amid.forward (b, c) h hready
      rw [hmove] at h₁
      dsimp only at h₁
      obtain ⟨steps, hsteps, hrows, hrun⟩ := Amid.runForward b fuel c' h₁
      refine ⟨(b, c) :: steps, ?_, fun side => (hrows side).trans (hg.rows side), ?_⟩
      · intro e he
        rcases List.mem_cons.mp he with rfl | he
        · exact ⟨rfl, fun _ => rfl⟩
        · exact ⟨(hsteps e he).1, fun side => ((hsteps e he).2 side).trans (hg.rows side)⟩
      · rw [← List.singleton_append, ← List.append_assoc]
        exact hrun
    · exact ⟨[], by simp, fun _ => rfl, by rw [List.append_nil]; exact h⟩

theorem Amid.runBackward (b : Bool) :
    ∀ (fuel : Nat) {bs : List (Bool × Cluster)} {r : ScanRun} (c : Cluster),
      Amid P fs bs r → ∃ steps : List (Bool × Cluster),
        (∀ e ∈ steps, e.1 = b ∧ ∀ side, (e.2.node side).contents = (c.node side).contents) ∧
        (∀ side, ((runBackward P b fuel (r.backward, r.backwardProgress) c).2.node side).contents =
          (c.node side).contents) ∧
        Amid P fs (bs ++ steps)
          { r with
            backward := (runBackward P b fuel (r.backward, r.backwardProgress) c).1.1
            backwardProgress := (runBackward P b fuel (r.backward, r.backwardProgress) c).1.2 }
  | 0, bs, r, c, h => ⟨[], by simp, fun _ => rfl, by rw [List.append_nil]; exact h⟩
  | fuel + 1, bs, r, c, h => by
    unfold ScanRun.runBackward
    split
    · rename_i hready
      obtain ⟨sent, hg, -⟩ := Backward.step_moves P b c (r.backward, r.backwardProgress)
      rcases hstep : Backward.step P b c (r.backward, r.backwardProgress) with ⟨f, p, c'⟩
      have hmove : Backward.move P b c (r.backward, r.backwardProgress) = ((f, p), c') := by
        simp [Backward.move, hstep]
      rw [hmove] at hg
      have h₁ := Amid.backward (b, c) h hready
      rw [hmove] at h₁
      dsimp only at h₁
      obtain ⟨steps, hsteps, hrows, hrun⟩ := Amid.runBackward b fuel c' h₁
      refine ⟨(b, c) :: steps, ?_, fun side => (hrows side).trans (hg.rows side), ?_⟩
      · intro e he
        rcases List.mem_cons.mp he with rfl | he
        · exact ⟨rfl, fun _ => rfl⟩
        · exact ⟨(hsteps e he).1, fun side => ((hsteps e he).2 side).trans (hg.rows side)⟩
      · rw [← List.singleton_append, ← List.append_assoc]
        exact hrun
    · exact ⟨[], by simp, fun _ => rfl, by rw [List.append_nil]; exact h⟩

/-- Actions of one turn, all with the poll's flag and the rows of the poll's cluster, are drawn
from that poll. -/
private theorem drawnFrom_turn {steps : List (Bool × Cluster)} {b : Bool} {c c' : Cluster}
    (hc : ∀ side, (c'.node side).contents = (c.node side).contents)
    (h : ∀ e ∈ steps, e.1 = b ∧ ∀ side, (e.2.node side).contents = (c'.node side).contents) :
    DrawnFrom steps [(b, c)] := fun e he =>
  ⟨(b, c), List.mem_singleton_self _, (h e he).1, fun side => ((h e he).2 side).trans (hc side)⟩

/-- A poll of the run is a run amid the rest of the system in which every action sees the rows
of the poll's cluster: both legs take their turns, the second in the cluster the first left,
and the poll closes. -/
theorem Amid.poll (h : Amid P fs bs r) (b : Bool) (c : Cluster) :
    ∃ fs' bs' : List (Bool × Cluster), DrawnFrom fs' [(b, c)] ∧ DrawnFrom bs' [(b, c)] ∧
      Amid P (fs ++ fs') (bs ++ bs') (r.poll b c).1 := by
  obtain ⟨sf, sb, c₁, c₂, hturns, hpoll⟩ := r.poll_turns b c
  have hclose : (r.poll b c).1 = ScanRun.close
      { r with
        forward := sf.1
        forwardProgress := sf.2
        backward := sb.1
        backwardProgress := sb.2 } b := by
    -- whether the legs are done reads only where they stand
    set r' : ScanRun :=
      { r with forward := sf.1, forwardProgress := sf.2, backward := sb.1, backwardProgress := sb.2 }
    have hdone : ScanRun.legsDone { r with forward := sf.1, backward := sb.1 } = r'.legsDone := rfl
    rw [hpoll, hdone]
    unfold ScanRun.close
    by_cases hd : r'.legsDone = true
    · rw [if_pos hd, if_pos hd]
    · rw [if_neg hd, if_neg hd]
  rw [hclose]
  rw [h.plan] at hturns
  rcases hturns with ⟨h₁, h₂⟩ | ⟨h₁, h₂⟩
  · -- base to target first, in the poll's cluster; then target to base in the one it left
    obtain ⟨fs', hfs', hrows, hf⟩ := Amid.runForward b pollBudget c h
    rw [h₁] at hf hrows
    obtain ⟨bs', hbs', -, hb⟩ := Amid.runBackward b pollBudget c₁ hf
    rw [h₂] at hb
    exact ⟨fs', bs', drawnFrom_turn (fun _ => rfl) hfs', drawnFrom_turn hrows hbs', .close b hb⟩
  · obtain ⟨bs', hbs', hrows, hb⟩ := Amid.runBackward b pollBudget c h
    rw [h₁] at hb hrows
    obtain ⟨fs', hfs', -, hf⟩ := Amid.runForward b pollBudget c₁ hb
    rw [h₂] at hf
    exact ⟨fs', bs', drawnFrom_turn hrows hfs', drawnFrom_turn (fun _ => rfl) hbs', .close b hf⟩

/-- A run polled once in each cluster of a sequence is a run amid the rest of the system whose
actions are drawn from the polls: by induction on the polls, from `Amid.poll`. -/
theorem Amid.replay (P : Plan) (env : List (Bool × Cluster)) :
    ∃ fs bs : List (Bool × Cluster), DrawnFrom fs env ∧ DrawnFrom bs env ∧
      Amid P fs bs (ScanRun.replay env (ScanRun.start P)) := by
  induction env using List.reverseRecOn with
  | nil => exact ⟨[], [], by simp [DrawnFrom], by simp [DrawnFrom], .start⟩
  | append_singleton env e ih =>
    obtain ⟨fs, bs, hfs, hbs, h⟩ := ih
    obtain ⟨fs', bs', hfs', hbs', h'⟩ := h.poll e.1 e.2
    rw [replay_append_singleton]
    exact ⟨_, _, hfs.append hfs', hbs.append hbs', h'⟩

/-- Each leg of a polled run is a replay of the leg from its start, in actions drawn from the
polls. -/
theorem replay_legs (P : Plan) (env : List (Bool × Cluster)) :
    ∃ fs bs : List (Bool × Cluster), DrawnFrom fs env ∧ DrawnFrom bs env ∧
      (Forward.trace P fs).state = ((ScanRun.replay env (ScanRun.start P)).forward,
        (ScanRun.replay env (ScanRun.start P)).forwardProgress) ∧
      (Backward.trace P bs).state = ((ScanRun.replay env (ScanRun.start P)).backward,
        (ScanRun.replay env (ScanRun.start P)).backwardProgress) ∧
      (ScanRun.replay env (ScanRun.start P)).plan = P := by
  obtain ⟨fs, bs, hfs, hbs, hrun⟩ := Amid.replay P env
  exact ⟨fs, bs, hfs, hbs, hrun.traces.1, hrun.traces.2, hrun.plan⟩

end ScanRun

/-! ## Keyset paging under concurrent change -/

/-- Keyset paging is robust to concurrent change. Take a validation run polled amid the rest of
the system: every store call it awaits lets other tasks write to either store, delete or upsert
rows behind either cursor, fail or hold back reads, fill or close the bus, or cancel the run, so
each action of a leg is taken in any cluster at all. With the batch size positive and the store
each action reads an ordered map, each leg's actions are a replay of the leg from its start,
and its log shows:

* in each direction the ids read strictly increase, so no row is read twice in a direction;
* the drifts each leg put on the bus have strictly increasing ids, so no id is reported twice
  in a direction, each of a row the leg read and each naming the run's base as its direction;
* once the run has its report, it counts the rows each leg read; target-missing and not-equal
  drifts are at most the base rows scanned, base-missing ones at most the target rows scanned,
  and the drifts on the bus and the failed reports together are exactly the drifts found, so
  the failed reports are at most the drifts found;
* in a full pass whose report is not aborted, a leg none of whose actions saw the run cancelled
  read every row that was in the store it pages at each of its actions.

Polling the run as `ScanRun.poll` does is one such run (`ScanRun.Amid.replay`). -/
theorem ScanRun.keyset_robust (P : Plan) (hbatch : 0 < P.config.batchSize)
    {fs bs : List (Bool × Cluster)} {r : ScanRun} (hrun : ScanRun.Amid P fs bs r)
    (hford : ∀ e ∈ fs, (e.2.node P.base).contents.Ordered)
    (hbord : ∀ e ∈ bs, (e.2.node P.target).contents.Ordered) :
    let tf := Forward.trace P fs
    let tb := Backward.trace P bs
    tf.state = (r.forward, r.forwardProgress) ∧ tb.state = (r.backward, r.backwardProgress) ∧
    (tf.seen.map (·.id)).Pairwise (· < ·) ∧ (tb.seen.map (·.id)).Pairwise (· < ·) ∧
    (∃ ds : List Drift, tf.sent = ds.map P.post ∧
      (∀ d ∈ ds, d.side = P.base ∧ d.id ∈ tf.seen.map (·.id)) ∧
      (ds.map (·.id)).Pairwise (· < ·)) ∧
    (∃ ds : List Drift, tb.sent = ds.map P.post ∧
      (∀ d ∈ ds, d.side = P.base ∧ d.id ∈ tb.seen.map (·.id)) ∧
      (ds.map (·.id)).Pairwise (· < ·)) ∧
    ∀ rep, r.report = some rep →
      rep.baseScanned = tf.seen.length ∧ rep.targetScanned = tb.seen.length ∧
      rep.targetMissing + rep.neq ≤ rep.baseScanned ∧ rep.baseMissing ≤ rep.targetScanned ∧
      tf.sent.length + tb.sent.length + rep.notifyFailures = rep.events ∧
      rep.notifyFailures ≤ rep.targetMissing + rep.baseMissing + rep.neq ∧
      (P.config.mode = .full → rep.aborted = false →
        ((∀ e ∈ fs, e.1 = false) → ∀ x,
          (∀ e ∈ fs, x ∈ ((e.2.node P.base).contents.table P.table).map (·.id)) →
            x ∈ tf.seen.map (·.id)) ∧
        ((∀ e ∈ bs, e.1 = false) → ∀ x,
          (∀ e ∈ bs, x ∈ ((e.2.node P.target).contents.table P.table).map (·.id)) →
            x ∈ tb.seen.map (·.id))) := by
  intro tf tb
  obtain ⟨hf, hb⟩ := hrun.traces
  have hlf := Forward.logged_trace fs (fun e he => hford e he P.table)
  have hlb := Backward.logged_trace hbatch bs (fun e he => hbord e he P.table)
  refine ⟨hf, hb, List.pairwise_map.mpr hlf.walked.sorted, List.pairwise_map.mpr hlb.walked.sorted,
    ?_, ?_, fun rep hrep => ?_⟩
  · obtain ⟨owed, -, hr⟩ := hlf.reported
    exact hr.published
  · obtain ⟨owed, -, hr⟩ := hlb.reported
    exact hr.published
  -- a report is made only once both legs are done, as the sum of their reports
  obtain ⟨hdone, hsum⟩ := hrun.summed rep hrep
  obtain ⟨hfd, hbd⟩ := (ScanRun.legsDone_iff _).mp hdone
  have hfstate : (Forward.trace P fs).state = (.done, r.forwardProgress) := by rw [hf, hfd]
  have hbstate : (Backward.trace P bs).state = (.done, r.backwardProgress) := by rw [hb, hbd]
  have hcf := hlf.counted
  have hcb := hlb.counted
  rw [hfstate] at hcf
  rw [hbstate] at hcb
  obtain ⟨h₁, h₂, h₃, h₄, h₅, h₆⟩ := report_of_done hcf hcb rep hsum
  -- neither leg gave up when the report is not aborted
  have habort' : rep.aborted = false →
      r.forwardProgress.report.aborted = false ∧ r.backwardProgress.report.aborted = false := by
    intro habort
    rw [hsum] at habort
    simpa only [Report.merge, Bool.or_eq_false_iff] using habort
  refine ⟨h₁, h₂, h₃, h₄, h₅, h₆, fun hfull habort =>
    ⟨fun hcancel x hx => ?_, fun hcancel x hx => ?_⟩⟩
  · have hended := hlf.ended (by rw [hfstate])
    have hw := hlf.walked
    simp only [hfstate] at hended hw
    exact hw.visits hended (habort' habort).1 hcancel
      fun e he => Plan.shows_of_full hfull (hx e he)
  · have hended := hlb.ended (by rw [hbstate]; trivial)
    have hw := hlb.walked
    simp only [hbstate] at hended hw
    exact hw.visits hended (habort' habort).2 hcancel
      fun e he => Plan.shows_of_full hfull (hx e he)

/-- A full pass during which rows 0 and 2 are written to the base and row 0 to the target, 0
behind both cursors: the base-to-target leg reads 1, then 2 and 3 and reports 2 missing, the other
leg reads 1 and 3; each reads its ids in increasing order, never 0, and every row that was there
throughout. -/
theorem ScanRun.keyset_robust_writes_behind :
    let P : Plan := { table := "t", base := .src, topic := "drift", config := { batchSize := 1 } }
    let store (ids : List Int64) : Contents :=
      Contents.empty.applyAll (ids.map fun i => .upsert "t" (rowOf (.new i 5)))
    let before : Cluster :=
      { src := { side := .src, contents := store [1, 3] },
        dst := { side := .dst, contents := store [1, 3] } }
    let after : Cluster :=
      { src := { side := .src, contents := store [2, 0, 3, 1] },
        dst := { side := .dst, contents := store [1, 0, 3] } }
    let fs := [(false, before), (false, after), (false, after), (false, after)]
    let bs := [(false, before), (false, before), (false, after), (false, after), (false, after)]
    ∃ r, ScanRun.Amid P fs bs r ∧ r.report.isSome ∧ (Forward.trace P fs).sent.length = 1 ∧
      ((Forward.trace P fs).seen.map (·.id)).Pairwise (· < ·) ∧
      ((Backward.trace P bs).seen.map (·.id)).Pairwise (· < ·) ∧
      (∀ x ∈ [1, 3], x ∈ (Forward.trace P fs).seen.map (·.id) ∧
        x ∈ (Backward.trace P bs).seen.map (·.id)) ∧
      0 ∉ (Forward.trace P fs).seen.map (·.id) ∧ 0 ∉ (Backward.trace P bs).seen.map (·.id) := by
  intro P store before after fs bs
  -- the base-to-target leg reads 1 before the writes, then 2 and 3, and finds nothing more
  have f₁ := (ScanRun.Amid.start (P := P)).forward (false, before) (by decide +kernel)
  have f₂ := f₁.forward (false, after) (by decide +kernel)
  have f₃ := f₂.forward (false, after) (by decide +kernel)
  have f₄ := f₃.forward (false, after) (by decide +kernel)
  -- the other leg reads 1 before the writes, then 3, and finds nothing more
  have b₁ := f₄.backward (false, before) (by decide +kernel)
  have b₂ := b₁.backward (false, before) (by decide +kernel)
  have b₃ := b₂.backward (false, after) (by decide +kernel)
  have b₄ := b₃.backward (false, after) (by decide +kernel)
  have b₅ := b₄.backward (false, after) (by decide +kernel)
  obtain ⟨r, hrun, hdone⟩ : ∃ r, ScanRun.Amid P fs bs r ∧
      r.report.map (·.aborted) = some false :=
    ⟨_, b₅.close false, by decide +kernel⟩
  have hord (ids : List Int64) : (store ids).Ordered :=
    Contents.ordered_applyAll Contents.ordered_empty _
  have hford : ∀ e ∈ fs, (e.2.node P.base).contents.Ordered := by
    simp only [fs, List.mem_cons, List.not_mem_nil, or_false]
    rintro e (rfl | rfl | rfl | rfl) <;> exact hord _
  have hbord : ∀ e ∈ bs, (e.2.node P.target).contents.Ordered := by
    simp only [bs, List.mem_cons, List.not_mem_nil, or_false]
    rintro e (rfl | rfl | rfl | rfl | rfl) <;> exact hord _
  obtain ⟨-, -, hfsorted, hbsorted, -, -, hreport⟩ :=
    ScanRun.keyset_robust P (by decide) hrun hford hbord
  obtain ⟨rep, hrep, haborted⟩ := Option.map_eq_some_iff.mp hdone
  obtain ⟨hfall, hball⟩ := (hreport rep hrep).2.2.2.2.2.2 rfl haborted
  -- rows 1 and 3 are in both stores at every action of either leg
  have hthroughout : ∀ x ∈ [1, 3],
      (∀ e ∈ fs, x ∈ ((e.2.node P.base).contents.table P.table).map (·.id)) ∧
      ∀ e ∈ bs, x ∈ ((e.2.node P.target).contents.table P.table).map (·.id) := by
    simp only [List.mem_cons, List.not_mem_nil, or_false]
    rintro x (rfl | rfl) <;> decide +kernel
  refine ⟨r, hrun, by rw [hrep]; rfl, by decide +kernel, hfsorted, hbsorted, fun x hx =>
    ⟨hfall (by decide) x (hthroughout x hx).1, hball (by decide) x (hthroughout x hx).2⟩,
    by decide +kernel, by decide +kernel⟩

end TableMigration.Validation
