import TableMigration.Proofs.Keyset.Termination

/-!
# Proofs.Keyset.FailureCount

What a leg's counter of failed cursor reads counts. Only cursor reads move it: failed lookups by
id, failed batch lookups of the base, unreadable rows and lost reports do not. It is the number of
failed cursor reads since the last read that cleared the run (`failedRun`). An incremental run
starts the count again at each backoff (`Config.counted`).

The two legs clear the run on different reads. The target-to-base leg clears it on any read that
answered, also one that found nothing. The base-to-target leg clears it only on a read that found
a row; a read that found nothing keeps it. In a full pass that read ends the leg, so the
difference does not show. In an incremental run the leg pauses after such a read, and its next
failed reads continue the old run. So the base-to-target leg of an incremental run with limit two
backs off after a failed read, an empty read and a failed read
(`Forward.empty_read_keeps_failure_run`).

`FailuresCounted` ties the counter to the log of cursor reads. It also gives a full pass's abort
flag: set exactly when the run reached the limit, which ends the leg. Every action keeps it
(`Forward.failuresCounted_step`, `Backward.failuresCounted_step`), so every replay keeps it, and
with it every interleaving of the legs' actions with the rest of the system
(`ScanRun.Amid.failures_counted`).

The main statement is `ScanRun.failures_count_cursor_runs`.
-/

namespace TableMigration.Validation

open TableMigration.Access TableMigration.Store

/-! ## Runs of failed cursor reads -/

/-- Whether a cursor read clears a run of failed reads: one that found rows always does, one that
found nothing when `empty` says so. -/
def CursorRead.clears (empty : Bool) : CursorRead → Bool
  | .found => true
  | .empty => empty
  | .failed => false

/-- The failed cursor reads of a log since the last read that cleared the run. -/
def failedRun (empty : Bool) (log : List CursorRead) : Nat :=
  (log.reverse.takeWhile fun r => !r.clears empty).count .failed

@[simp] theorem failedRun_nil (empty : Bool) : failedRun empty [] = 0 := rfl

@[simp] theorem failedRun_append_failed (empty : Bool) (log : List CursorRead) :
    failedRun empty (log ++ [.failed]) = failedRun empty log + 1 := by
  simp [failedRun, CursorRead.clears]

theorem failedRun_append_clears {empty : Bool} {r : CursorRead} (h : r.clears empty = true)
    (log : List CursorRead) : failedRun empty (log ++ [r]) = 0 := by
  simp [failedRun, h]

/-- A read that found nothing and does not clear the run leaves it as it was. -/
theorem failedRun_append_empty (log : List CursorRead) :
    failedRun false (log ++ [.empty]) = failedRun false log := by
  simp [failedRun, CursorRead.clears]

/-- The part of a run of failed cursor reads a leg counts: all of it in a full pass; in an
incremental run what is left since the last backoff, each backoff starting the count again. -/
def Config.counted (cfg : Config) (k : Nat) : Nat :=
  match cfg.intervalMs with
  | none => k
  | some _ => k % cfg.maxConsecutiveFailures

theorem Config.intervalMs_eq_none {cfg : Config} : cfg.intervalMs = none ↔ cfg.mode = .full := by
  unfold Config.intervalMs
  split <;> simp_all

/-- One more failed read, counted modulo the limit: the count grows by one, or it reaches the
limit and starts again. -/
theorem succ_mod_restarts {k m : Nat} (hm : 0 < m) :
    (k + 1) % m = if k % m + 1 < m then k % m + 1 else 0 := by
  have hlt := Nat.mod_lt k hm
  rw [Nat.add_mod]
  by_cases h1 : m = 1
  · subst h1
    simp [Nat.mod_one]
  · rw [Nat.mod_eq_of_lt (show 1 < m by omega)]
    split
    · exact Nat.mod_eq_of_lt ‹_›
    · rw [show k % m + 1 = m by omega, Nat.mod_self]

/-! ## The counter against the log -/

/-- A leg's counter of failed cursor reads against its log of cursor reads: it is the count of the
failed reads since the last read that cleared the run (`empty` says whether a read that found
nothing clears it), it never passes the limit, a full pass has given up exactly when the run
reached the limit, and a leg that gave up is out of its loop. -/
structure FailuresCounted (cfg : Config) (empty : Bool) (log : List CursorRead) (p : Progress)
    (done : Bool) : Prop where
  failures : p.failures = cfg.counted (failedRun empty log)
  bounded : p.failures ≤ cfg.maxConsecutiveFailures
  aborted : cfg.mode = .full →
    (p.report.aborted = true ↔ cfg.maxConsecutiveFailures ≤ failedRun empty log)
  ended : p.report.aborted = true → done = true

namespace FailuresCounted

variable {cfg : Config} {empty : Bool} {log : List CursorRead} {p p' : Progress}
  {done done' : Bool}

theorem start (hmax : 0 < cfg.maxConsecutiveFailures) : FailuresCounted cfg empty [] {} false := by
  refine ⟨?_, Nat.zero_le _, fun _ => ?_, fun h => absurd h (by decide)⟩
  · unfold Config.counted
    split <;> simp
  · simp only [failedRun_nil]
    constructor
    · intro h
      cases h
    · intro h
      omega

/-- A leg in its loop has not given up. -/
theorem not_aborted (h : FailuresCounted cfg empty log p false) : p.report.aborted = false := by
  cases ha : p.report.aborted with
  | false => rfl
  | true => exact absurd (h.ended ha) (by decide)

/-- An action that makes no cursor read keeps the count. -/
theorem keep (h : FailuresCounted cfg empty log p done) (hsame : p.SameCursor p')
    (hdone : done = true → done' = true) : FailuresCounted cfg empty log p' done' :=
  ⟨hsame.failures ▸ h.failures, hsame.failures ▸ h.bounded, hsame.aborted ▸ h.aborted,
    fun ha => hdone (h.ended (hsame.aborted ▸ ha))⟩

/-- A read that clears the run clears the counter. -/
theorem cleared (hmax : 0 < cfg.maxConsecutiveFailures) (h : FailuresCounted cfg empty log p false)
    {r : CursorRead} (hr : r.clears empty = true) (hfail : p'.failures = 0)
    (habort : p'.report.aborted = p.report.aborted) :
    FailuresCounted cfg empty (log ++ [r]) p' done' := by
  have hnot := h.not_aborted
  rw [hnot] at habort
  refine ⟨?_, by omega, fun _ => ?_, fun ha => absurd (habort ▸ ha) (by decide)⟩
  · rw [hfail, failedRun_append_clears hr]
    unfold Config.counted
    split <;> simp
  · rw [habort, failedRun_append_clears hr]
    simp only [Bool.false_eq_true, false_iff]
    omega

/-- A read that found nothing and does not clear the run keeps the counter. -/
theorem keptEmpty (h : FailuresCounted cfg false log p false) :
    FailuresCounted cfg false (log ++ [.empty]) p done' := by
  have hnot := h.not_aborted
  refine ⟨?_, h.bounded, ?_, fun ha => absurd (hnot ▸ ha) (by decide)⟩
  · rw [failedRun_append_empty]
    exact h.failures
  · rw [failedRun_append_empty]
    exact h.aborted

/-- A failed cursor read, counted and absorbed: the run grows by one; a full pass gives up when
it reaches the limit, and an incremental run starts the count again. -/
theorem failed (hmax : 0 < cfg.maxConsecutiveFailures) (h : FailuresCounted cfg empty log p false)
    {now : Nat} {r : Resume} (habsorb : cfg.absorb now p.lookupFailed = (r, p'))
    (hstop : r = .stop → done' = true) :
    FailuresCounted cfg empty (log ++ [.failed]) p' done' := by
  have hnot := h.not_aborted
  have hfailures := h.failures
  have hk := failedRun_append_failed empty log
  unfold Config.absorb at habsorb
  cases hint : cfg.intervalMs with
  | none =>
    -- a full pass: the counter is the run, below the limit while the leg is in its loop
    have hfull := Config.intervalMs_eq_none.mp hint
    have hbelow : failedRun empty log < cfg.maxConsecutiveFailures := by
      have := h.aborted hfull
      rw [hnot] at this
      simp only [Bool.false_eq_true, false_iff, Nat.not_le] at this
      exact this
    simp only [Config.counted, hint] at hfailures
    simp only [Progress.lookupFailed, hint] at habsorb
    split_ifs at habsorb with hlt
    · obtain ⟨rfl, rfl⟩ := Prod.mk.inj habsorb
      refine ⟨?_, ?_, fun _ => ?_, fun ha => absurd (hnot ▸ ha) (by decide)⟩
      · simp only [Config.counted, hint, hk, hfailures]
      · simp only
        omega
      · simp only [hk, hnot, Bool.false_eq_true, false_iff, Nat.not_le]
        omega
    · obtain ⟨rfl, rfl⟩ := Prod.mk.inj habsorb
      refine ⟨?_, ?_, fun _ => ?_, fun _ => hstop rfl⟩
      · simp only [Config.counted, hint, hk, hfailures]
      · simp only
        omega
      · simp only [hk, true_iff]
        omega
  | some ms =>
    -- an incremental run: the count grows by one, or starts again at the limit
    have hinc : cfg.mode ≠ .full := fun hfull => by
      rw [Config.intervalMs_eq_none.mpr hfull] at hint
      cases hint
    simp only [Config.counted, hint] at hfailures
    simp only [Progress.lookupFailed, hint] at habsorb
    have hmod := succ_mod_restarts (k := failedRun empty log) hmax
    split_ifs at habsorb with hlt
    · obtain ⟨rfl, rfl⟩ := Prod.mk.inj habsorb
      rw [if_pos (by rw [← hfailures]; exact hlt)] at hmod
      refine ⟨?_, ?_, fun hfull => absurd hfull hinc, fun ha => absurd (hnot ▸ ha) (by decide)⟩
      · simp only [Config.counted, hint, hk, hmod, hfailures]
      · simp only
        omega
    · obtain ⟨rfl, rfl⟩ := Prod.mk.inj habsorb
      rw [if_neg (by rw [← hfailures]; exact hlt)] at hmod
      refine ⟨?_, Nat.zero_le _, fun hfull => absurd hfull hinc,
        fun ha => absurd (hnot ▸ ha) (by decide)⟩
      simp only [Config.counted, hint, hk, hmod]

end FailuresCounted

/-! ## Every action keeps the count -/

variable {P : Plan}

theorem Forward.isDone_move {b : Bool} {c : Cluster} {s : Forward × Progress}
    (h : s.1.isDone = true) : (Forward.move P b c s).1.1.isDone = true := by
  obtain ⟨f, p⟩ := s
  obtain rfl : f = .done := Forward.isDone_eq_true.mp h
  rfl

theorem Backward.isDone_move {b : Bool} {c : Cluster} {s : Backward × Progress}
    (h : s.1.isDone = true) : (Backward.move P b c s).1.1.isDone = true := by
  obtain ⟨f, p⟩ := s
  obtain rfl : f = .done := Backward.isDone_eq_true.mp h
  rfl

/-- Only the top of the loop, not cancelled, reads at the cursor. -/
theorem Forward.head_of_cursor {b : Bool} {c : Cluster} {s : Forward × Progress}
    {r : CursorRead} (h : Forward.cursor P b c s = some r) : ∃ p, s = (.head, p) ∧ b = false := by
  obtain ⟨f, p⟩ := s
  cases f <;> cases b <;> simp_all [Forward.cursor]

theorem Backward.head_of_cursor {b : Bool} {c : Cluster} {s : Backward × Progress}
    {r : CursorRead} (h : Backward.cursor P b c s = some r) : ∃ p, s = (.head, p) ∧ b = false := by
  obtain ⟨f, p⟩ := s
  cases f <;> cases b <;> simp_all [Backward.cursor]

/-- A cursor read of the base-to-target leg is one of the reads `Forward.Reads` describes. -/
theorem Forward.reads_of_cursor {b : Bool} {c : Cluster} {s : Forward × Progress}
    {r : CursorRead} (h : Forward.cursor P b c s = some r) :
    ∃ p, s = (.head, p) ∧ b = false ∧ Forward.Reads P c p r (Forward.move P b c s).1 := by
  obtain ⟨p, rfl, rfl⟩ := Forward.head_of_cursor h
  obtain ⟨r', hr', hreads⟩ := Forward.head_reads P c p
  rw [h, Option.some.injEq] at hr'
  exact ⟨p, rfl, rfl, hr' ▸ hreads⟩

/-- A cursor read of the target-to-base leg is one of the reads `Backward.Reads` describes. -/
theorem Backward.reads_of_cursor {b : Bool} {c : Cluster} {s : Backward × Progress}
    {r : CursorRead} (h : Backward.cursor P b c s = some r) :
    ∃ p, s = (.head, p) ∧ b = false ∧ Backward.Reads P c p r (Backward.move P b c s).1 := by
  obtain ⟨p, rfl, rfl⟩ := Backward.head_of_cursor h
  obtain ⟨r', hr', hreads⟩ := Backward.head_reads P c p
  rw [h, Option.some.injEq] at hr'
  exact ⟨p, rfl, rfl, hr' ▸ hreads⟩

/-- Every action of the base-to-target leg keeps its counter the count of the failed cursor reads
since the last read that found a row. -/
theorem Forward.failuresCounted_step (hmax : 0 < P.config.maxConsecutiveFailures) {b : Bool}
    {c : Cluster} {log : List CursorRead} {s : Forward × Progress}
    (h : FailuresCounted P.config false log s.2 s.1.isDone) :
    FailuresCounted P.config false (log ++ (Forward.cursor P b c s).toList)
      (Forward.move P b c s).1.2 (Forward.move P b c s).1.1.isDone := by
  cases hc : Forward.cursor P b c s with
  | none =>
    rw [Option.toList_none, List.append_nil]
    exact h.keep (Forward.sameCursor_of_cursor hc) Forward.isDone_move
  | some r =>
    obtain ⟨p, rfl, rfl, hreads⟩ := Forward.reads_of_cursor hc
    rw [Option.toList_some]
    generalize (Forward.move P false c (.head, p)).1 = s' at hreads ⊢
    cases hreads with
    | failed habsorb => exact h.failed hmax habsorb fun hstop => by subst hstop; rfl
    | empty => exact h.keptEmpty
    | found _ htook =>
      obtain ⟨-, hfail, habort⟩ := htook.took
      exact h.cleared hmax rfl hfail habort

/-- Every action of the target-to-base leg keeps its counter the count of the failed cursor reads
since the last read that answered. -/
theorem Backward.failuresCounted_step (hmax : 0 < P.config.maxConsecutiveFailures) {b : Bool}
    {c : Cluster} {log : List CursorRead} {s : Backward × Progress}
    (h : FailuresCounted P.config true log s.2 s.1.isDone) :
    FailuresCounted P.config true (log ++ (Backward.cursor P b c s).toList)
      (Backward.move P b c s).1.2 (Backward.move P b c s).1.1.isDone := by
  cases hc : Backward.cursor P b c s with
  | none =>
    rw [Option.toList_none, List.append_nil]
    exact h.keep (Backward.sameCursor_of_cursor hc) Backward.isDone_move
  | some r =>
    obtain ⟨p, rfl, rfl, hreads⟩ := Backward.reads_of_cursor hc
    rw [Option.toList_some]
    generalize (Backward.move P false c (.head, p)).1 = s' at hreads ⊢
    cases hreads with
    | failed habsorb => exact h.failed hmax habsorb fun hstop => by subst hstop; rfl
    | empty => exact h.cleared hmax rfl rfl rfl
    | found _ _ _ hp =>
      obtain ⟨-, hfail, habort⟩ := Progress.tookBatch_or hp
      exact h.cleared hmax rfl hfail habort

/-- Every replay of the base-to-target leg from its start keeps the count: by induction on the
actions. -/
theorem Forward.failuresCounted_trace (hmax : 0 < P.config.maxConsecutiveFailures)
    (env : List (Bool × Cluster)) :
    FailuresCounted P.config false (Forward.reads P env) (Forward.trace P env).state.2
      (Forward.trace P env).state.1.isDone := by
  induction env using List.reverseRecOn with
  | nil => exact FailuresCounted.start hmax
  | append_singleton env e ih =>
    have htrace : Forward.trace P (env ++ [e]) =
        Trace.step (Forward.move P) (Forward.scanned P) (Forward.trace P env) e := by
      rw [Forward.trace, Forward.trace, Trace.replay_append_singleton]
    rw [Forward.reads_append_singleton, htrace]
    exact Forward.failuresCounted_step hmax ih

/-- Every replay of the target-to-base leg from its start keeps the count. -/
theorem Backward.failuresCounted_trace (hmax : 0 < P.config.maxConsecutiveFailures)
    (env : List (Bool × Cluster)) :
    FailuresCounted P.config true (Backward.reads P env) (Backward.trace P env).state.2
      (Backward.trace P env).state.1.isDone := by
  induction env using List.reverseRecOn with
  | nil => exact FailuresCounted.start hmax
  | append_singleton env e ih =>
    have htrace : Backward.trace P (env ++ [e]) =
        Trace.step (Backward.move P) (Backward.scanned P) (Backward.trace P env) e := by
      rw [Backward.trace, Backward.trace, Trace.replay_append_singleton]
    rw [Backward.reads_append_singleton, htrace]
    exact Backward.failuresCounted_step hmax ih

/-! ## When an incremental run backs off -/

/-- In an incremental run a failed cursor read waits for one interval exactly when the run of
failed reads it completes is a multiple of the limit; otherwise the leg reads again at once. -/
theorem FailuresCounted.absorb_waits {cfg : Config} {empty : Bool} {log : List CursorRead}
    {p : Progress} (hmax : 0 < cfg.maxConsecutiveFailures)
    (h : FailuresCounted cfg empty log p false) {ms : Nat} (hint : cfg.intervalMs = some ms)
    (now : Nat) :
    (cfg.absorb now p.lookupFailed).1 = .wait (now + ms) ↔
      failedRun empty (log ++ [.failed]) % cfg.maxConsecutiveFailures = 0 := by
  have hfailures := h.failures
  simp only [Config.counted, hint] at hfailures
  rw [failedRun_append_failed, succ_mod_restarts hmax, ← hfailures]
  unfold Config.absorb
  simp only [Progress.lookupFailed, hint]
  split_ifs <;> simp

theorem Forward.resume_eq_pausing {r : Resume} {t : Nat} :
    Forward.resume r = .pausing t ↔ r = .wait t := by
  cases r <;> simp [Forward.resume]

theorem Backward.resume_eq_pausing {r : Resume} {t : Nat} :
    Backward.resume r = .pausing t ↔ r = .wait t := by
  cases r <;> simp [Backward.resume]

/-- A failed cursor read of the base-to-target leg of an incremental run pauses the leg for one
interval exactly when it completes a multiple of the limit of failed reads since the last read
that found a row. -/
theorem Forward.backs_off (hmax : 0 < P.config.maxConsecutiveFailures) {ms : Nat}
    (hint : P.config.intervalMs = some ms) {log : List CursorRead} {s : Forward × Progress}
    (h : FailuresCounted P.config false log s.2 s.1.isDone) {b : Bool} {c : Cluster}
    (hfail : Forward.cursor P b c s = some .failed) :
    (Forward.move P b c s).1.1 = .pausing (c.now + ms) ↔
      failedRun false (log ++ [.failed]) % P.config.maxConsecutiveFailures = 0 := by
  obtain ⟨p, rfl, rfl, hreads⟩ := Forward.reads_of_cursor hfail
  generalize (Forward.move P false c (.head, p)).1 = s' at hreads ⊢
  -- only a failed read has a failed cursor read in the log
  cases hreads with
  | failed habsorb =>
    rw [← h.absorb_waits hmax hint c.now, habsorb]
    exact Forward.resume_eq_pausing

/-- A failed cursor read of the target-to-base leg of an incremental run pauses the leg for one
interval exactly when it completes a multiple of the limit of failed reads since the last read
that answered. -/
theorem Backward.backs_off (hmax : 0 < P.config.maxConsecutiveFailures) {ms : Nat}
    (hint : P.config.intervalMs = some ms) {log : List CursorRead} {s : Backward × Progress}
    (h : FailuresCounted P.config true log s.2 s.1.isDone) {b : Bool} {c : Cluster}
    (hfail : Backward.cursor P b c s = some .failed) :
    (Backward.move P b c s).1.1 = .pausing (c.now + ms) ↔
      failedRun true (log ++ [.failed]) % P.config.maxConsecutiveFailures = 0 := by
  obtain ⟨p, rfl, rfl, hreads⟩ := Backward.reads_of_cursor hfail
  generalize (Backward.move P false c (.head, p)).1 = s' at hreads ⊢
  cases hreads with
  | failed habsorb =>
    rw [← h.absorb_waits hmax hint c.now, habsorb]
    exact Backward.resume_eq_pausing

/-! ## The counters of a run -/

/-- Each leg's counter is the part its mode counts of the failed cursor reads since the last read
that cleared the run, whatever the rest of the system does between any two of the legs' actions:
for the target-to-base leg any read that answered, for the base-to-target leg only a read that
found a row. Both counters stay within the limit. A full pass has given up in a leg exactly when
that run reached the limit, and its report says so exactly when one leg did. In an incremental run
the next failed cursor read of a leg pauses it for one interval exactly when it completes a
multiple of the limit. -/
theorem ScanRun.Amid.failures_counted {P : Plan} (hmax : 0 < P.config.maxConsecutiveFailures)
    {fs bs : List (Bool × Cluster)} {r : ScanRun} (hrun : ScanRun.Amid P fs bs r) :
    let max := P.config.maxConsecutiveFailures
    r.forwardProgress.failures = P.config.counted (failedRun false (Forward.reads P fs)) ∧
    r.backwardProgress.failures = P.config.counted (failedRun true (Backward.reads P bs)) ∧
    r.forwardProgress.failures ≤ max ∧ r.backwardProgress.failures ≤ max ∧
    (P.config.mode = .full →
      (r.forwardProgress.report.aborted = true ↔ max ≤ failedRun false (Forward.reads P fs)) ∧
      (r.backwardProgress.report.aborted = true ↔ max ≤ failedRun true (Backward.reads P bs)) ∧
      ∀ rep, r.report = some rep →
        (rep.aborted = true ↔ max ≤ failedRun false (Forward.reads P fs) ∨
          max ≤ failedRun true (Backward.reads P bs))) ∧
    ∀ ms, P.config.intervalMs = some ms → ∀ b c,
      (Forward.cursor P b c (r.forward, r.forwardProgress) = some .failed →
        ((Forward.move P b c (r.forward, r.forwardProgress)).1.1 = .pausing (c.now + ms) ↔
          failedRun false (Forward.reads P fs ++ [.failed]) % max = 0)) ∧
      (Backward.cursor P b c (r.backward, r.backwardProgress) = some .failed →
        ((Backward.move P b c (r.backward, r.backwardProgress)).1.1 = .pausing (c.now + ms) ↔
          failedRun true (Backward.reads P bs ++ [.failed]) % max = 0)) := by
  dsimp only
  obtain ⟨hf, hb⟩ := hrun.traces
  -- each leg is a replay from its start, so its counter is counted against its log
  have hcf := Forward.failuresCounted_trace hmax fs
  have hcb := Backward.failuresCounted_trace hmax bs
  rw [hf] at hcf
  rw [hb] at hcb
  refine ⟨hcf.failures, hcb.failures, hcf.bounded, hcb.bounded,
    fun hfull => ⟨hcf.aborted hfull, hcb.aborted hfull, fun rep hrep => ?_⟩,
    fun ms hint b c => ⟨Forward.backs_off hmax hint hcf, Backward.backs_off hmax hint hcb⟩⟩
  -- the report is the sum of the legs' reports, so it gave up when either leg did
  obtain ⟨-, hsum⟩ := hrun.summed rep hrep
  rw [hsum]
  show (r.forwardProgress.report.aborted || r.backwardProgress.report.aborted) = true ↔ _
  rw [Bool.or_eq_true, hcf.aborted hfull, hcb.aborted hfull]

/-- The failure counters of a run, whose legs' actions are interleaved in any order with the rest
of the system, or which is polled any number of times from its start (each leg's actions then
being a replay of the leg in actions drawn from the polls): each leg's counter is the part its mode
counts of the failed cursor reads since the last read that cleared the run: for the
target-to-base leg any read that answered, for the base-to-target leg only a read that found a
row. Both counters stay within the limit. A full pass has given up in a leg exactly when that run
reached the limit, and its report says so exactly when one leg did. In an incremental run the next
failed cursor read of a leg pauses it for one interval exactly when it completes a multiple of the
limit. -/
theorem ScanRun.failures_count_cursor_runs (P : Plan) (hmax : 0 < P.config.maxConsecutiveFailures)
    (env : List (Bool × Cluster)) :
    let r := ScanRun.replay env (ScanRun.start P)
    let max := P.config.maxConsecutiveFailures
    (∀ fs bs r', ScanRun.Amid P fs bs r' →
      r'.forwardProgress.failures = P.config.counted (failedRun false (Forward.reads P fs)) ∧
      r'.backwardProgress.failures = P.config.counted (failedRun true (Backward.reads P bs)) ∧
      r'.forwardProgress.failures ≤ max ∧ r'.backwardProgress.failures ≤ max ∧
      (P.config.mode = .full →
        (r'.forwardProgress.report.aborted = true ↔ max ≤ failedRun false (Forward.reads P fs)) ∧
        (r'.backwardProgress.report.aborted = true ↔ max ≤ failedRun true (Backward.reads P bs)) ∧
        ∀ rep, r'.report = some rep →
          (rep.aborted = true ↔ max ≤ failedRun false (Forward.reads P fs) ∨
            max ≤ failedRun true (Backward.reads P bs))) ∧
      ∀ ms, P.config.intervalMs = some ms → ∀ b c,
        (Forward.cursor P b c (r'.forward, r'.forwardProgress) = some .failed →
          ((Forward.move P b c (r'.forward, r'.forwardProgress)).1.1 = .pausing (c.now + ms) ↔
            failedRun false (Forward.reads P fs ++ [.failed]) % max = 0)) ∧
        (Backward.cursor P b c (r'.backward, r'.backwardProgress) = some .failed →
          ((Backward.move P b c (r'.backward, r'.backwardProgress)).1.1 = .pausing (c.now + ms) ↔
            failedRun true (Backward.reads P bs ++ [.failed]) % max = 0))) ∧
    ∃ fs bs : List (Bool × Cluster), DrawnFrom fs env ∧ DrawnFrom bs env ∧
      (Forward.trace P fs).state = (r.forward, r.forwardProgress) ∧
      (Backward.trace P bs).state = (r.backward, r.backwardProgress) ∧
      r.forwardProgress.failures = P.config.counted (failedRun false (Forward.reads P fs)) ∧
      r.backwardProgress.failures = P.config.counted (failedRun true (Backward.reads P bs)) ∧
      r.forwardProgress.failures ≤ max ∧ r.backwardProgress.failures ≤ max ∧
      (P.config.mode = .full →
        (r.forwardProgress.report.aborted = true ↔ max ≤ failedRun false (Forward.reads P fs)) ∧
        (r.backwardProgress.report.aborted = true ↔ max ≤ failedRun true (Backward.reads P bs)) ∧
        ∀ rep, r.report = some rep →
          (rep.aborted = true ↔ max ≤ failedRun false (Forward.reads P fs) ∨
            max ≤ failedRun true (Backward.reads P bs))) ∧
      ∀ ms, P.config.intervalMs = some ms → ∀ b c,
        (Forward.cursor P b c (r.forward, r.forwardProgress) = some .failed →
          ((Forward.move P b c (r.forward, r.forwardProgress)).1.1 = .pausing (c.now + ms) ↔
            failedRun false (Forward.reads P fs ++ [.failed]) % max = 0)) ∧
        (Backward.cursor P b c (r.backward, r.backwardProgress) = some .failed →
          ((Backward.move P b c (r.backward, r.backwardProgress)).1.1 = .pausing (c.now + ms) ↔
            failedRun true (Backward.reads P bs ++ [.failed]) % max = 0)) := by
  dsimp only
  refine ⟨fun _ _ _ hrun => hrun.failures_counted hmax, ?_⟩
  -- polling the run is one interleaving of its actions
  obtain ⟨fs, bs, hfs, hbs, hrun⟩ := ScanRun.Amid.replay P env
  exact ⟨fs, bs, hfs, hbs, hrun.traces.1, hrun.traces.2, hrun.failures_counted hmax⟩

/-- An incremental run over empty stores, polled once in a quiet cluster. -/
theorem ScanRun.failures_count_cursor_runs_quiet :
    let P : Plan := { table := "orders", base := .src, topic := "drift",
                      config := { mode := .incremental 0 10 } }
    let env : List (Bool × Cluster) := [(false, {})]
    0 < P.config.maxConsecutiveFailures ∧
    let r := ScanRun.replay env (ScanRun.start P)
    let max := P.config.maxConsecutiveFailures
    (∀ fs bs r', ScanRun.Amid P fs bs r' →
      r'.forwardProgress.failures = P.config.counted (failedRun false (Forward.reads P fs)) ∧
      r'.backwardProgress.failures = P.config.counted (failedRun true (Backward.reads P bs)) ∧
      r'.forwardProgress.failures ≤ max ∧ r'.backwardProgress.failures ≤ max ∧
      (P.config.mode = .full →
        (r'.forwardProgress.report.aborted = true ↔ max ≤ failedRun false (Forward.reads P fs)) ∧
        (r'.backwardProgress.report.aborted = true ↔ max ≤ failedRun true (Backward.reads P bs)) ∧
        ∀ rep, r'.report = some rep →
          (rep.aborted = true ↔ max ≤ failedRun false (Forward.reads P fs) ∨
            max ≤ failedRun true (Backward.reads P bs))) ∧
      ∀ ms, P.config.intervalMs = some ms → ∀ b c,
        (Forward.cursor P b c (r'.forward, r'.forwardProgress) = some .failed →
          ((Forward.move P b c (r'.forward, r'.forwardProgress)).1.1 = .pausing (c.now + ms) ↔
            failedRun false (Forward.reads P fs ++ [.failed]) % max = 0)) ∧
        (Backward.cursor P b c (r'.backward, r'.backwardProgress) = some .failed →
          ((Backward.move P b c (r'.backward, r'.backwardProgress)).1.1 = .pausing (c.now + ms) ↔
            failedRun true (Backward.reads P bs ++ [.failed]) % max = 0))) ∧
    ∃ fs bs : List (Bool × Cluster), DrawnFrom fs env ∧ DrawnFrom bs env ∧
      (Forward.trace P fs).state = (r.forward, r.forwardProgress) ∧
      (Backward.trace P bs).state = (r.backward, r.backwardProgress) ∧
      r.forwardProgress.failures = P.config.counted (failedRun false (Forward.reads P fs)) ∧
      r.backwardProgress.failures = P.config.counted (failedRun true (Backward.reads P bs)) ∧
      r.forwardProgress.failures ≤ max ∧ r.backwardProgress.failures ≤ max ∧
      (P.config.mode = .full →
        (r.forwardProgress.report.aborted = true ↔ max ≤ failedRun false (Forward.reads P fs)) ∧
        (r.backwardProgress.report.aborted = true ↔ max ≤ failedRun true (Backward.reads P bs)) ∧
        ∀ rep, r.report = some rep →
          (rep.aborted = true ↔ max ≤ failedRun false (Forward.reads P fs) ∨
            max ≤ failedRun true (Backward.reads P bs))) ∧
      ∀ ms, P.config.intervalMs = some ms → ∀ b c,
        (Forward.cursor P b c (r.forward, r.forwardProgress) = some .failed →
          ((Forward.move P b c (r.forward, r.forwardProgress)).1.1 = .pausing (c.now + ms) ↔
            failedRun false (Forward.reads P fs ++ [.failed]) % max = 0)) ∧
        (Backward.cursor P b c (r.backward, r.backwardProgress) = some .failed →
          ((Backward.move P b c (r.backward, r.backwardProgress)).1.1 = .pausing (c.now + ms) ↔
            failedRun true (Backward.reads P bs ++ [.failed]) % max = 0)) :=
  ⟨by decide, ScanRun.failures_count_cursor_runs _ (by decide) _⟩

/-! ## A read that found nothing keeps the run -/

/-- The base-to-target leg of an incremental run with limit two: a failed cursor read, a read
that found nothing and paused the leg, the leg woken, and another failed read. Since the last read
that answered only one read failed, yet the leg backs off for another interval with its counter
at zero, as after two failed reads in a row. -/
theorem Forward.empty_read_keeps_failure_run :
    let P : Plan := { table := "orders", base := .src, topic := "drift",
                      config := { maxConsecutiveFailures := 2, mode := .incremental 0 10 } }
    let failing : Node := { side := .src, faults := { failNextScans := 1 } }
    let fs : List (Bool × Cluster) :=
      [(false, { src := failing }), (false, {}), (false, { now := 10 }),
        (false, { now := 10, src := failing })]
    Forward.reads P fs = [.failed, .empty, .failed] ∧ failedRun true (Forward.reads P fs) = 1 ∧
      (Forward.trace P fs).state.1 = .pausing 20 ∧ (Forward.trace P fs).state.2.failures = 0 :=
  ⟨rfl, rfl, rfl, rfl⟩

end TableMigration.Validation
