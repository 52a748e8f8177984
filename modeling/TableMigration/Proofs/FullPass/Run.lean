import TableMigration.Proofs.FullPass.Forward
import TableMigration.Proofs.FullPass.Backward
import TableMigration.Proofs.RunReports

/-!
# Proofs.FullPass.Run

Both legs of a full pass over tables that do not change, polled as one run.

`PassAt` says where the two legs stand together: each where its own invariant puts it, the bus
offered exactly the reports of both (each leg's in its own order, the two interleaved), and
every report that did not go out is counted by a leg or still waiting. `RunAt` adds what the
run itself keeps: its report, set exactly when both legs are done, is `passReport`, what the
pass must report.

A poll of a run that can act (`RunAt.poll`) lets both legs take their turns and brings the run
strictly closer to its end, measured by `ScanRun.left`. A run that cannot act and has no
report waits for a report's deadline (`RunAt.wake`); at that instant it can act again.
-/

namespace TableMigration.Validation

open TableMigration.Access TableMigration.Store

variable {plan : Plan} {B T : Table} {b0 : Bus} {c : Cluster}

/-! ## What a full pass reports -/

/-- What a full pass over the base rows `B` and the target rows `T` reports, `lost` of its
reports having not gone out. -/
def passReport (side : Side) (B T : Table) (lost : Nat) : Report where
  baseScanned := B.length
  targetScanned := T.length
  targetMissing := (forwardDrifts side B T).countP (·.kind == .targetMissing)
  baseMissing := (backwardDrifts side T B).length
  neq := (forwardDrifts side B T).countP (·.kind == .neq)
  lookupFailures := B.countP unreadable
  notifyFailures := lost

/-- The reports of two legs that have taken every row add up to what the pass reports. -/
theorem merge_counts {a b : Report} (side : Side) (ha : a.counts = forwardCounts side B T)
    (hb : b.counts = backwardCounts side T B 0) :
    { a.merge b with cancelled := false } = passReport side B T (a.notifyFailures + b.notifyFailures) := by
  obtain ⟨_, _, _, _, _, _, _, _, _⟩ := a
  obtain ⟨_, _, _, _, _, _, _, _, _⟩ := b
  simp only [Report.counts, forwardCounts, backwardCounts, Report.mk.injEq] at ha hb
  obtain ⟨rfl, rfl, rfl, rfl, rfl, rfl, -, rfl, rfl⟩ := ha
  obtain ⟨rfl, rfl, rfl, rfl, rfl, rfl, -, rfl, rfl⟩ := hb
  simp [Report.merge, passReport]

/-! ## Both legs -/

/-- Both legs of a full pass partway: each stands somewhere, the bus was offered exactly the
reports of both, each leg's in its own order, and every report that did not go out is counted
or still waiting. -/
structure PassAt (plan : Plan) (B T : Table) (b0 : Bus) (i j : Nat) (back sent : List Message)
    (r : ScanRun) (c : Cluster) : Prop where
  planned : r.plan = plan
  forward : ForwardAt plan B T b0 i (r.forward, r.forwardProgress)
  backward : BackwardAt plan B T b0 j back (r.backward, r.backwardProgress)
  reads : Reads plan B T c
  bus : Bus.Posted b0 sent c.bus
  perm : sent.Perm ((forwardDrifts plan.base (B.take i) T).map plan.post ++ back)
  forwardSub : ((forwardDrifts plan.base (B.take i) T).map plan.post).Sublist sent
  backwardSub : back.Sublist sent
  lost : r.forwardProgress.report.notifyFailures + r.backwardProgress.report.notifyFailures +
    r.forward.sends + r.backward.sends = sent.length - b0.room

/-- Actions left to both legs. -/
def ScanRun.left (B T : Table) (i j : Nat) (r : ScanRun) : Nat :=
  r.forward.left B i + r.backward.left T j

variable {i j : Nat} {back sent : List Message} {r : ScanRun}

/-- One action of the base-to-target leg keeps the pass standing somewhere. -/
theorem PassAt.forward_step (hr : PassAt plan B T b0 i j back sent r c) (hissued : b0.TicketsIssued)
    (hB : B.Sorted) (hfull : plan.config.mode = .full) (hlimit : 0 < plan.config.lookupTimeoutMs)
    (hready : r.forward.ready false c = true) {f : Forward} {p : Progress} {c' : Cluster}
    (hout : Forward.step plan false c (r.forward, r.forwardProgress) = (f, p, c')) :
    ∃ i' sent', PassAt plan B T b0 i' j back sent' { r with forward := f, forwardProgress := p } c' ∧
      c'.now = c.now ∧ f.left B i' < r.forward.left B i := by
  obtain ⟨i', new, hs⟩ := hr.forward.step hr.reads hr.bus hissued hB hfull hlimit hready
  rw [hout] at hs
  refine ⟨i', sent ++ new, ⟨hr.planned, hs.at', hr.backward, hs.reads, hs.bus, ?_, ?_, ?_, ?_⟩,
    hs.now, hs.left⟩
  · rw [hs.posts]
    refine (hr.perm.append_right new).trans ?_
    simpa only [List.append_assoc] using
      List.Perm.append_left ((forwardDrifts plan.base (B.take i) T).map plan.post)
        (@List.perm_append_comm _ back new)
  · rw [hs.posts]
    exact hr.forwardSub.append (List.Sublist.refl new)
  · exact hr.backwardSub.trans (List.sublist_append_left sent new)
  · have := hs.lost
    have := hr.lost
    simp only at *
    omega

/-- One action of the target-to-base leg keeps the pass standing somewhere. -/
theorem PassAt.backward_step (hr : PassAt plan B T b0 i j back sent r c) (hissued : b0.TicketsIssued)
    (hT : T.Sorted) (hfull : plan.config.mode = .full) (hlimit : 0 < plan.config.lookupTimeoutMs)
    (hbatch : 0 < plan.config.batchSize)
    (hready : r.backward.ready false c = true) {b : Backward} {p : Progress} {c' : Cluster}
    (hout : Backward.step plan false c (r.backward, r.backwardProgress) = (b, p, c')) :
    ∃ j' back' sent', PassAt plan B T b0 i j' back' sent' { r with backward := b, backwardProgress := p } c' ∧
      c'.now = c.now ∧ b.left T j' < r.backward.left T j := by
  obtain ⟨j', new, hs⟩ := hr.backward.step hr.reads hr.bus hissued hT hfull hlimit hbatch hready
  rw [hout] at hs
  refine ⟨j', back ++ new, sent ++ new, ⟨hr.planned, hr.forward, hs.at', hs.reads, hs.bus, ?_, ?_, ?_, ?_⟩,
    hs.now, hs.left⟩
  · simpa only [List.append_assoc] using hr.perm.append_right new
  · exact hr.forwardSub.trans (List.sublist_append_left sent new)
  · exact hr.backwardSub.append (List.Sublist.refl new)
  · have := hs.lost
    have := hr.lost
    simp only at *
    omega

/-! ## One leg's turn -/

/-- A leg that cannot act is left as it is by its turn. -/
theorem runForward_idle (fuel : Nat) {s : Forward × Progress} (h : s.1.ready false c = false) :
    ScanRun.runForward plan false fuel s c = (s, c) := by
  cases fuel <;> simp [ScanRun.runForward, h]

/-- A leg that cannot act is left as it is by its turn. -/
theorem runBackward_idle (fuel : Nat) {s : Backward × Progress} (h : s.1.ready false c = false) :
    ScanRun.runBackward plan false fuel s c = (s, c) := by
  cases fuel <;> simp [ScanRun.runBackward, h]

/-- The base-to-target leg's turn keeps the pass standing somewhere; the leg's actions left
drop, strictly when it could act. -/
theorem PassAt.runForward (hissued : b0.TicketsIssued) (hB : B.Sorted)
    (hfull : plan.config.mode = .full) (hlimit : 0 < plan.config.lookupTimeoutMs) (fuel : Nat) :
    ∀ {i sent r c}, PassAt plan B T b0 i j back sent r c →
      ∀ {s' c'}, ScanRun.runForward plan false fuel (r.forward, r.forwardProgress) c = (s', c') →
      ∃ i' sent', PassAt plan B T b0 i' j back sent' { r with forward := s'.1, forwardProgress := s'.2 } c' ∧
        c'.now = c.now ∧ s'.1.left B i' ≤ r.forward.left B i ∧
        (0 < fuel → r.forward.ready false c = true → s'.1.left B i' < r.forward.left B i) := by
  induction fuel with
  | zero =>
    intro i sent r c hr s' c' hrun
    simp only [ScanRun.runForward, Prod.mk.injEq] at hrun
    obtain ⟨rfl, rfl⟩ := hrun
    exact ⟨i, sent, hr, rfl, le_rfl, by omega⟩
  | succ fuel ih =>
    intro i sent r c hr s' c' hrun
    by_cases hready : r.forward.ready false c = true
    · -- the leg acts once and takes the rest of its turn from there
      rcases hstep : Forward.step plan false c (r.forward, r.forwardProgress) with ⟨f, p, c1⟩
      simp only [ScanRun.runForward, hready, if_true, hstep] at hrun
      obtain ⟨i1, sent1, hr1, hnow1, hleft1⟩ := hr.forward_step hissued hB hfull hlimit hready hstep
      obtain ⟨i2, sent2, hr2, hnow2, hle2, -⟩ := ih hr1 hrun
      simp only at hle2
      exact ⟨i2, sent2, hr2, hnow2.trans hnow1, by omega, fun _ _ => by omega⟩
    · rw [runForward_idle _ (by simpa using hready), Prod.mk.injEq] at hrun
      obtain ⟨rfl, rfl⟩ := hrun
      exact ⟨i, sent, hr, rfl, le_rfl, fun _ h => absurd h hready⟩

/-- The target-to-base leg's turn keeps the pass standing somewhere; the leg's actions left
drop, strictly when it could act. -/
theorem PassAt.runBackward (hissued : b0.TicketsIssued) (hT : T.Sorted)
    (hfull : plan.config.mode = .full) (hlimit : 0 < plan.config.lookupTimeoutMs)
    (hbatch : 0 < plan.config.batchSize) (fuel : Nat) :
    ∀ {j back sent r c}, PassAt plan B T b0 i j back sent r c →
      ∀ {s' c'}, ScanRun.runBackward plan false fuel (r.backward, r.backwardProgress) c = (s', c') →
      ∃ j' back' sent', PassAt plan B T b0 i j' back' sent'
          { r with backward := s'.1, backwardProgress := s'.2 } c' ∧
        c'.now = c.now ∧ s'.1.left T j' ≤ r.backward.left T j ∧
        (0 < fuel → r.backward.ready false c = true → s'.1.left T j' < r.backward.left T j) := by
  induction fuel with
  | zero =>
    intro j back sent r c hr s' c' hrun
    simp only [ScanRun.runBackward, Prod.mk.injEq] at hrun
    obtain ⟨rfl, rfl⟩ := hrun
    exact ⟨j, back, sent, hr, rfl, le_rfl, by omega⟩
  | succ fuel ih =>
    intro j back sent r c hr s' c' hrun
    by_cases hready : r.backward.ready false c = true
    · rcases hstep : Backward.step plan false c (r.backward, r.backwardProgress) with ⟨b, p, c1⟩
      simp only [ScanRun.runBackward, hready, if_true, hstep] at hrun
      obtain ⟨j1, back1, sent1, hr1, hnow1, hleft1⟩ :=
        hr.backward_step hissued hT hfull hlimit hbatch hready hstep
      obtain ⟨j2, back2, sent2, hr2, hnow2, hle2, -⟩ := ih hr1 hrun
      simp only at hle2
      exact ⟨j2, back2, sent2, hr2, hnow2.trans hnow1, by omega, fun _ _ => by omega⟩
    · rw [runBackward_idle _ (by simpa using hready), Prod.mk.injEq] at hrun
      obtain ⟨rfl, rfl⟩ := hrun
      exact ⟨j, back, sent, hr, rfl, le_rfl, fun _ h => absurd h hready⟩

/-! ## Both legs done -/

/-- Once both legs are done every row of both tables is taken and every report offered. -/
theorem PassAt.done (hr : PassAt plan B T b0 i j back sent r c) (hdone : r.legsDone = true) :
    r.forward = .done ∧ r.backward = .done ∧ i = B.length ∧ j = T.length ∧
      back = (backwardDrifts plan.base T B).map plan.post := by
  obtain ⟨hf, hb⟩ : r.forward = .done ∧ r.backward = .done := by
    unfold ScanRun.legsDone at hdone
    split at hdone
    · next hf hb => exact ⟨hf, hb⟩
    · simp at hdone
  have hi : i = B.length := by
    have := hr.forward.state
    simpa only [hf, Forward.Settled] using this
  have hj : j = T.length := by
    have := hr.backward.state
    simpa only [hb, Backward.Settled] using this
  refine ⟨hf, hb, hi, hj, ?_⟩
  have := hr.backward.posts
  simpa [hb, hj, Backward.pending] using this.symm

/-- Once both legs are done their reports add up to what the pass reports. -/
theorem PassAt.report_done (hr : PassAt plan B T b0 i j back sent r c) (hdone : r.legsDone = true) :
    { r.forwardProgress.report.merge r.backwardProgress.report with cancelled := false } =
      passReport plan.base B T (sent.length - b0.room) := by
  obtain ⟨hf, hb, hi, hj, -⟩ := hr.done hdone
  have hfc := hr.forward.counts
  have hbc := hr.backward.counts
  have hlost := hr.lost
  simp only [hi, List.take_length] at hfc
  simp only [hj, hb, List.take_length, Backward.pending, List.length_nil] at hbc
  simp only [hf, hb, Forward.sends, Backward.sends, Nat.add_zero] at hlost
  rw [merge_counts plan.base hfc hbc, hlost]

/-- Where a pass stands does not depend on how often the run was polled or on its report. -/
theorem PassAt.close (hr : PassAt plan B T b0 i j back sent r c) (n : Nat) (x : Option Report) :
    PassAt plan B T b0 i j back sent { r with polls := n, report := x } c :=
  ⟨hr.planned, hr.forward, hr.backward, hr.reads, hr.bus, hr.perm, hr.forwardSub, hr.backwardSub,
    hr.lost⟩

/-- A full pass as a run: both legs stand somewhere, a run never polled is at its start, and
the run has its report, what the pass reports, exactly when both legs are done. -/
structure RunAt (plan : Plan) (B T : Table) (b0 : Bus) (i j : Nat) (back sent : List Message)
    (r : ScanRun) (c : Cluster) : Prop extends PassAt plan B T b0 i j back sent r c where
  fresh : r.polls = 0 → r.forward = .head
  report : r.report =
    if r.legsDone then some (passReport plan.base B T (sent.length - b0.room)) else none

/-- A run that has not started stands at the start of a full pass. -/
theorem RunAt.start (h : Reads plan B T c) : RunAt plan B T c.bus 0 0 [] [] (ScanRun.start plan) c where
  planned := rfl
  forward := ⟨Nat.zero_le _, (Table.cursor_zero B).symm, rfl, rfl, trivial⟩
  backward := ⟨Nat.zero_le _, (Table.cursor_zero T).symm, rfl, rfl, rfl, trivial⟩
  reads := h
  bus := Bus.Posted.start c.bus
  perm := List.Perm.refl []
  forwardSub := List.Sublist.slnil
  backwardSub := List.Sublist.slnil
  lost := by simp [ScanRun.start, Forward.sends, Backward.sends]
  fresh := fun _ => rfl
  report := rfl

/-- A run that can act has no report yet, and one of its legs can act. -/
theorem RunAt.ready_leg (hr : RunAt plan B T b0 i j back sent r c) (hready : r.ready false c = true) :
    r.report = none ∧ (r.forward.ready false c = true ∨ r.backward.ready false c = true) := by
  simp only [ScanRun.ready, Bool.and_eq_true, Bool.or_eq_true, beq_iff_eq,
    Option.isNone_iff_eq_none] at hready
  obtain ⟨hnone, (h0 | hf) | hb⟩ := hready
  · refine ⟨hnone, .inl ?_⟩
    rw [hr.fresh h0]
    rfl
  · exact ⟨hnone, .inl hf⟩
  · exact ⟨hnone, .inr hb⟩

/-- A poll that leaves both legs done sets the report, what the pass reports. -/
theorem PassAt.runAt_done {rl : ScanRun} (hp : PassAt plan B T b0 i j back sent rl c)
    (hdone : rl.legsDone = true) {n : Nat} (hn : n ≠ 0) :
    RunAt plan B T b0 i j back sent
      { rl with
        polls := n
        report := some { rl.forwardProgress.report.merge rl.backwardProgress.report with
          cancelled := false } } c := by
  refine ⟨hp.close _ _, fun h => absurd h hn, ?_⟩
  show some _ = if rl.legsDone then _ else _
  rw [if_pos hdone, hp.report_done hdone]

/-- A poll that leaves a leg going leaves the run without a report. -/
theorem PassAt.runAt_going {rl : ScanRun} (hp : PassAt plan B T b0 i j back sent rl c)
    (hgoing : rl.legsDone = false) {n : Nat} (hn : n ≠ 0) :
    RunAt plan B T b0 i j back sent { rl with polls := n, report := none } c := by
  refine ⟨hp.close _ _, fun h => absurd h hn, ?_⟩
  show none = if rl.legsDone then _ else _
  rw [hgoing]
  rfl

/-! ## A poll -/

/-- Each leg may act at least once in a poll. -/
theorem pollBudget_pos : 0 < pollBudget := by
  unfold pollBudget; omega

section Poll

variable (hissued : b0.TicketsIssued) (hB : B.Sorted) (hT : T.Sorted)
  (hfull : plan.config.mode = .full) (hlimit : 0 < plan.config.lookupTimeoutMs)
  (hbatch : 0 < plan.config.batchSize)
include hissued hB hT hfull hlimit hbatch

/-- Both legs' turns in a poll, base to target first, keep the pass standing somewhere; the
actions left drop, strictly when a leg could act. -/
theorem PassAt.turns_forward_first (hr : PassAt plan B T b0 i j back sent r c)
    {sf : Forward × Progress} {sb : Backward × Progress} {c1 c2 : Cluster}
    (h1 : ScanRun.runForward plan false pollBudget (r.forward, r.forwardProgress) c = (sf, c1))
    (h2 : ScanRun.runBackward plan false pollBudget (r.backward, r.backwardProgress) c1 = (sb, c2)) :
    ∃ i' j' back' sent', PassAt plan B T b0 i' j' back' sent'
        { r with forward := sf.1, forwardProgress := sf.2, backward := sb.1, backwardProgress := sb.2 } c2 ∧
      c2.now = c.now ∧
      (r.forward.ready false c = true ∨ r.backward.ready false c = true →
        ScanRun.left B T i' j' { r with forward := sf.1, backward := sb.1 } < r.left B T i j) := by
  obtain ⟨i1, sent1, hr1, hnow1, hle1, hlt1⟩ := hr.runForward hissued hB hfull hlimit pollBudget h1
  obtain ⟨j2, back2, sent2, hr2, hnow2, hle2, hlt2⟩ :=
    hr1.runBackward hissued hT hfull hlimit hbatch pollBudget h2
  simp only at hle2 hlt2
  refine ⟨i1, j2, back2, sent2, hr2, hnow2.trans hnow1, ?_⟩
  simp only [ScanRun.left]
  rintro (hf | hb)
  · have := hlt1 pollBudget_pos hf
    omega
  · by_cases hf : r.forward.ready false c = true
    · have := hlt1 pollBudget_pos hf
      omega
    · -- the first leg could not act, so the second takes its turn on the same cluster
      rw [runForward_idle _ (by simpa using hf), Prod.mk.injEq] at h1
      obtain ⟨rfl, rfl⟩ := h1
      have := hlt2 pollBudget_pos hb
      omega

/-- Both legs' turns in a poll, target to base first, keep the pass standing somewhere; the
actions left drop, strictly when a leg could act. -/
theorem PassAt.turns_backward_first (hr : PassAt plan B T b0 i j back sent r c)
    {sf : Forward × Progress} {sb : Backward × Progress} {c1 c2 : Cluster}
    (h1 : ScanRun.runBackward plan false pollBudget (r.backward, r.backwardProgress) c = (sb, c1))
    (h2 : ScanRun.runForward plan false pollBudget (r.forward, r.forwardProgress) c1 = (sf, c2)) :
    ∃ i' j' back' sent', PassAt plan B T b0 i' j' back' sent'
        { r with backward := sb.1, backwardProgress := sb.2, forward := sf.1, forwardProgress := sf.2 } c2 ∧
      c2.now = c.now ∧
      (r.forward.ready false c = true ∨ r.backward.ready false c = true →
        ScanRun.left B T i' j' { r with forward := sf.1, backward := sb.1 } < r.left B T i j) := by
  obtain ⟨j1, back1, sent1, hr1, hnow1, hle1, hlt1⟩ :=
    hr.runBackward hissued hT hfull hlimit hbatch pollBudget h1
  obtain ⟨i2, sent2, hr2, hnow2, hle2, hlt2⟩ := hr1.runForward hissued hB hfull hlimit pollBudget h2
  simp only at hle2 hlt2
  refine ⟨i2, j1, back1, sent2, hr2, hnow2.trans hnow1, ?_⟩
  simp only [ScanRun.left]
  rintro (hf | hb)
  · by_cases hb : r.backward.ready false c = true
    · have := hlt1 pollBudget_pos hb
      omega
    · rw [runBackward_idle _ (by simpa using hb), Prod.mk.injEq] at h1
      obtain ⟨rfl, rfl⟩ := h1
      have := hlt2 pollBudget_pos hf
      omega
  · have := hlt1 pollBudget_pos hb
    omega

/-- A poll of a run that can act keeps it where a full pass stands and brings it closer to its
end: both legs take their turns, in the order of the poll's parity, and the report is set
exactly when both legs are done. -/
theorem RunAt.poll (hr : RunAt plan B T b0 i j back sent r c) (hready : r.ready false c = true)
    {r' : ScanRun} {c' : Cluster} (hout : r.poll false c = (r', c')) :
    ∃ i' j' back' sent', RunAt plan B T b0 i' j' back' sent' r' c' ∧ c'.now = c.now ∧
      r'.left B T i' j' < r.left B T i j := by
  obtain ⟨hnone, hleg⟩ := hr.ready_leg hready
  obtain ⟨sf, sb, c₁, c₂, hturns, hpoll⟩ := r.poll_turns false c
  rw [hr.planned] at hturns
  -- both legs take their turns, in the order of the poll's parity
  obtain ⟨i', j', back', sent', hpass, hnow, hlt⟩ :
      ∃ i' j' back' sent', PassAt plan B T b0 i' j' back' sent'
          { r with forward := sf.1, forwardProgress := sf.2, backward := sb.1, backwardProgress := sb.2 }
          c₂ ∧
        c₂.now = c.now ∧ ScanRun.left B T i' j' { r with forward := sf.1, backward := sb.1 } <
          r.left B T i j := by
    rcases hturns with ⟨h₁, h₂⟩ | ⟨h₁, h₂⟩
    · obtain ⟨i', j', back', sent', hpass, hnow, hlt⟩ :=
        hr.toPassAt.turns_forward_first hissued hB hT hfull hlimit hbatch h₁ h₂
      exact ⟨i', j', back', sent', hpass, hnow, hlt hleg⟩
    · obtain ⟨i', j', back', sent', hpass, hnow, hlt⟩ :=
        hr.toPassAt.turns_backward_first hissued hB hT hfull hlimit hbatch h₁ h₂
      exact ⟨i', j', back', sent', hpass, hnow, hlt hleg⟩
  rw [hpoll] at hout
  refine ⟨i', j', back', sent', ?_⟩
  split at hout
  · next hdone =>
    simp only [Prod.mk.injEq] at hout
    obtain ⟨rfl, rfl⟩ := hout
    exact ⟨hpass.runAt_done hdone (by omega), hnow, hlt⟩
  · next hgoing =>
    simp only [Prod.mk.injEq] at hout
    obtain ⟨rfl, rfl⟩ := hout
    rw [hnone]
    have hgoing' : ScanRun.legsDone { r with forward := sf.1, backward := sb.1 } = false := by
      simpa using hgoing
    exact ⟨hpass.runAt_going hgoing' (by omega), hnow, hlt⟩

end Poll

/-! ## Waiting for a deadline -/

/-- Moving the clock leaves a run where a full pass stands. -/
theorem RunAt.setNow (hr : RunAt plan B T b0 i j back sent r c) (t : Nat) :
    RunAt plan B T b0 i j back sent r { c with now := t } :=
  ⟨⟨hr.planned, hr.forward, hr.backward, hr.reads.of_nodes fun _ => ⟨rfl, id⟩, hr.bus, hr.perm,
    hr.forwardSub, hr.backwardSub, hr.lost⟩, hr.fresh, hr.report⟩

/-- A waiting report is ready once the clock has moved to its deadline or past it. -/
theorem Waiting.ready_after (w : Waiting) {t : Nat} (ht : w.deadline ≤ t) :
    w.ready { c with now := max t c.now } = true := by
  simp only [Waiting.ready, Bool.or_eq_true, decide_eq_true_eq]
  exact .inr (by omega)

/-- A run without its report that cannot act waits for a report's deadline, and can act once
the clock reaches it. -/
theorem RunAt.wake (hr : RunAt plan B T b0 i j back sent r c) (hnone : r.report = none)
    (hidle : r.ready false c = false) :
    ∃ w, r.wake = some w ∧ r.ready false { c with now := max w c.now } = true := by
  have hgoing : r.legsDone = false := by
    have := hr.report
    rw [hnone] at this
    by_contra h
    simp [h] at this
  simp only [ScanRun.ready, hnone, Option.isNone_none, Bool.true_and, Bool.or_eq_false_iff,
    beq_eq_false_iff_ne] at hidle
  obtain ⟨⟨-, hf⟩, hb⟩ := hidle
  have hfs := hr.forward.state
  have hbs := hr.backward.state
  simp only [ScanRun.ready, hnone, Option.isNone_none, Bool.true_and, Bool.or_eq_true]
  -- each leg is waiting to send a report or done, and not both are done
  cases hfw : r.forward with
  | head => simp [hfw, Forward.ready] at hf
  | lookup _ _ _ _ => simp [hfw, Forward.Settled] at hfs
  | pausing _ => simp [hfw, Forward.Settled] at hfs
  | sending wf =>
    cases hbw : r.backward with
    | head => simp [hbw, Backward.ready] at hb
    | publish _ _ => simp [hbw, Backward.ready] at hb
    | pausing _ => simp [hbw, Backward.Settled] at hbs
    | sending wb _ _ =>
      refine ⟨min wf.deadline wb.deadline, by simp [ScanRun.wake, hfw, hbw], ?_⟩
      rcases le_total wf.deadline wb.deadline with hle | hle
      · exact .inl (.inr (Waiting.ready_after wf (by omega)))
      · exact .inr (Waiting.ready_after wb (by omega))
    | done =>
      exact ⟨wf.deadline, by simp [ScanRun.wake, hfw, hbw],
        .inl (.inr (Waiting.ready_after wf (by omega)))⟩
  | done =>
    cases hbw : r.backward with
    | head => simp [hbw, Backward.ready] at hb
    | publish _ _ => simp [hbw, Backward.ready] at hb
    | pausing _ => simp [hbw, Backward.Settled] at hbs
    | sending wb _ _ =>
      exact ⟨wb.deadline, by simp [ScanRun.wake, hfw, hbw],
        .inr (Waiting.ready_after wb (by omega))⟩
    | done => simp [ScanRun.legsDone, hfw, hbw] at hgoing

end TableMigration.Validation
