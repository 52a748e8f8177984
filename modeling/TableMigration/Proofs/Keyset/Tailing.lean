import TableMigration.Proofs.Keyset.Cursor
import TableMigration.Proofs.Keyset.Run

/-!
# Proofs.Keyset.Tailing

An incremental run never ends on its own. Every way a leg of a full run leaves its loop is turned,
in an incremental run, into a pause: a pass that found nothing pauses for the interval
(`Config.idle_of_incremental`), and a failed read at the failure limit backs off for the interval
instead of giving up (`Config.absorb_of_incremental`). The only exits left are the two checks of
the cancellation flag, at the top of the loop and in a pause.

`Tails` says what one action of a leg of an incremental run keeps: the leg leaves its loop only in
a cancelled action, its report is never marked aborted, and its cursor never moves back. Each move
of either leg keeps it (`Forward.Moves.tails`, `Backward.Moves.tails`), so a leg's turn in a poll
does (`runForward_tails`, `runBackward_tails`), and so does every poll of the run
(`ScanRun.poll_tails`). Over the polls of a run from its start, polled in any clusters, it follows
that the run makes its report only in a cancelled poll, marked cancelled and not aborted.

The main statement is `ScanRun.tailing_ends_when_cancelled`.
-/

namespace TableMigration.Validation

open TableMigration.Access TableMigration.Store

/-! ## Incremental settings -/

section Incremental

variable {cfg : Config} {since : Int64} {ms : Nat}

theorem Config.intervalMs_of_incremental (h : cfg.mode = .incremental since ms) :
    cfg.intervalMs = some ms := by
  simp [Config.intervalMs, h]

/-- In an incremental run a pass that found nothing pauses for the interval. -/
theorem Config.idle_of_incremental (h : cfg.mode = .incremental since ms) (now : Nat) :
    cfg.idle now = .wait (now + ms) := by
  simp [Config.idle, Config.intervalMs_of_incremental h]

/-- In an incremental run a failed read is retried or backed off from, never given up on, and
its report is left as it was. -/
theorem Config.absorb_of_incremental (h : cfg.mode = .incremental since ms) (now : Nat)
    (p : Progress) :
    (cfg.absorb now p).1 ≠ .stop ∧ (cfg.absorb now p).2.report = p.report := by
  unfold Config.absorb
  dsimp only
  split_ifs <;> simp [Config.intervalMs_of_incremental h]

end Incremental

/-! ## What an action of a tailing leg keeps -/

/-- An id the cursor had reached is reached by a cursor on a row past it. -/
theorem reached_of_past {after : Option Int64} {id : Int64} (hpast : after.all (· < id) = true)
    {x : Int64} (hx : Reached after x) : Reached (some id) x := by
  obtain ⟨a, rfl, hxa⟩ := hx
  have hlt : a < id := by simpa using hpast
  exact ⟨id, rfl, Int64.le_of_lt (Int64.lt_of_le_of_lt hxa hlt)⟩

/-- What an action, or a run of actions, of a leg of an incremental run keeps: the leg leaves its
loop only when the actions are cancelled, its report is never marked aborted, and every id its
cursor had reached is still reached. -/
structure Tails {σ : Type} (done : σ) (b : Bool) (s s' : σ × Progress) : Prop where
  ends : s'.1 = done → s.1 = done ∨ b = true
  aborted : s'.2.report.aborted = s.2.report.aborted
  ahead : ∀ x, Reached s.2.after x → Reached s'.2.after x

namespace Tails

variable {σ : Type} {done : σ} {b : Bool}

theorem refl (s : σ × Progress) : Tails done b s s :=
  ⟨fun h => .inl h, rfl, fun _ h => h⟩

theorem trans {s₁ s₂ s₃ : σ × Progress} (h₁ : Tails done b s₁ s₂) (h₂ : Tails done b s₂ s₃) :
    Tails done b s₁ s₃ where
  ends h := (h₂.ends h).elim h₁.ends .inr
  aborted := h₂.aborted.trans h₁.aborted
  ahead x hx := h₂.ahead x (h₁.ahead x hx)

/-- An action that stays in the loop and keeps the cursor and the abort flag. -/
theorem stay {s s' : σ × Progress} (hnd : s'.1 ≠ done) (hafter : s'.2.after = s.2.after)
    (haborted : s'.2.report.aborted = s.2.report.aborted) : Tails done b s s' :=
  ⟨fun h => absurd h hnd, haborted, fun _ hx => hafter ▸ hx⟩

/-- A cancelled action may leave the loop. -/
theorem cancelled {s s' : σ × Progress} (hb : b = true) (hafter : s'.2.after = s.2.after)
    (haborted : s'.2.report.aborted = s.2.report.aborted) : Tails done b s s' :=
  ⟨fun _ => .inr hb, haborted, fun _ hx => hafter ▸ hx⟩

end Tails

variable {P : Plan} {since : Int64} {ms : Nat}

/-- Every action of the base-to-target leg of an incremental run keeps `Tails`. The cursor
moves only in a read, onto the row the read returned, which lies past it. -/
theorem Forward.Moves.tails (hmode : P.config.mode = .incremental since ms) {b : Bool}
    {c : Cluster} {s s' : Forward × Progress} {rows : List Row} {sent : List Message}
    (hm : Forward.Moves P b c s rows sent s') : Tails .done b s s' := by
  cases hm with
  | cancelled hb => exact .cancelled hb rfl rfl
  | @refused p p' r now _ habsorb =>
    obtain ⟨hstop, hreport⟩ := Config.absorb_of_incremental hmode now p.lookupFailed
    rw [habsorb] at hstop hreport
    simp only at hstop hreport
    refine .stay (fun h => hstop (Forward.resume_eq_done.mp h)) ?_ (by rw [hreport]; rfl)
    simpa [habsorb] using Config.after_absorb P.config now p.lookupFailed
  | held => exact .stay Forward.noConfusion rfl rfl
  | exhausted =>
    exact .stay (by simp [Config.idle_of_incremental hmode, Forward.resume]) rfl rfl
  | @read p row s' _ _ hpage htook =>
    obtain ⟨hafter, -, haborted⟩ := htook.took
    have hpast := (mem_page (hpage ▸ List.mem_singleton_self row)).2.1
    exact ⟨fun h => absurd h htook.not_done, haborted,
      fun x hx => hafter ▸ reached_of_past hpast hx⟩
  | settled hj =>
    have hsame := hj.sameCursor
    exact .stay hj.not_done hsame.after hsame.aborted
  | timedOut => exact .stay Forward.noConfusion rfl rfl
  | delivered => exact .stay Forward.noConfusion rfl rfl
  | lost => exact .stay Forward.noConfusion rfl rfl
  | paused hb => exact .cancelled hb rfl rfl
  | resumed => exact .stay Forward.noConfusion rfl rfl
  | idle => exact .refl _

/-- Every action of the target-to-base leg of an incremental run keeps `Tails`. The cursor
moves only in a batch read, onto the last row of the batch, which lies past it. -/
theorem Backward.Moves.tails (hmode : P.config.mode = .incremental since ms) {b : Bool}
    {c : Cluster} {s s' : Backward × Progress} {rows : List Row} {sent : List Message}
    (hm : Backward.Moves P b c s rows sent s') : Tails .done b s s' := by
  cases hm with
  | cancelled hb => exact .cancelled hb rfl rfl
  | @refused p p' r now _ habsorb =>
    obtain ⟨hstop, hreport⟩ := Config.absorb_of_incremental hmode now p.lookupFailed
    rw [habsorb] at hstop hreport
    simp only at hstop hreport
    refine .stay (fun h => hstop (Backward.resume_eq_done.mp h)) ?_ (by rw [hreport]; rfl)
    simpa [habsorb] using Config.after_absorb P.config now p.lookupFailed
  | held => exact .stay Backward.noConfusion rfl rfl
  | exhausted =>
    exact .stay (by simp [Config.idle_of_incremental hmode, Backward.resume]) rfl rfl
  | @batch p p' rows missing _ hpage hne _ hp =>
    obtain ⟨hafter, -, haborted⟩ := Progress.tookBatch_or hp
    -- the batch's last row is in the page, so past the cursor
    obtain ⟨last, hlast⟩ := Option.isSome_iff_exists.mp (List.getLast?_isSome.mpr hne)
    have hpast := (mem_page (hpage ▸ List.mem_of_getLast? hlast)).2.1
    refine ⟨fun h => (by cases h), haborted, fun x hx => ?_⟩
    rw [hafter, hlast, Option.map_some]
    exact reached_of_past hpast hx
  | drained => exact .stay (by simp [Config.idle_of_incremental hmode, Backward.resume]) rfl rfl
  | next => exact .stay Backward.noConfusion rfl rfl
  | @notified id rest n p p' s sent hn =>
    obtain ⟨hafter, haborted⟩ := hn.keeps
    refine .stay ?_ hafter haborted
    cases s <;> simp [Backward.afterSend]
  | delivered => exact .stay Backward.noConfusion rfl rfl
  | lost => exact .stay Backward.noConfusion rfl rfl
  | paused hb => exact .cancelled hb rfl rfl
  | resumed => exact .stay Backward.noConfusion rfl rfl
  | idle => exact .refl _

/-! ## A turn and a poll -/

/-- A leg's turn in a poll, every action with the poll's flag, keeps `Tails`: by induction on the
actions the turn may take. -/
theorem runForward_tails (hmode : P.config.mode = .incremental since ms) (b : Bool) :
    ∀ (fuel : Nat) (s : Forward × Progress) (c : Cluster),
      Tails .done b s (ScanRun.runForward P b fuel s c).1
  | 0, s, _ => .refl s
  | fuel + 1, s, c => by
    unfold ScanRun.runForward
    split
    · obtain ⟨_, -, hm⟩ := Forward.step_moves P b c s
      rcases hstep : Forward.step P b c s with ⟨f, p, c'⟩
      have hmove : Forward.move P b c s = ((f, p), c') := by simp [Forward.move, hstep]
      rw [hmove] at hm
      exact (hm.tails hmode).trans (runForward_tails hmode b fuel (f, p) c')
    · exact .refl s

theorem runBackward_tails (hmode : P.config.mode = .incremental since ms) (b : Bool) :
    ∀ (fuel : Nat) (s : Backward × Progress) (c : Cluster),
      Tails .done b s (ScanRun.runBackward P b fuel s c).1
  | 0, s, _ => .refl s
  | fuel + 1, s, c => by
    unfold ScanRun.runBackward
    split
    · obtain ⟨_, -, hm⟩ := Backward.step_moves P b c s
      rcases hstep : Backward.step P b c s with ⟨f, p, c'⟩
      have hmove : Backward.move P b c s = ((f, p), c') := by simp [Backward.move, hstep]
      rw [hmove] at hm
      exact (hm.tails hmode).trans (runBackward_tails hmode b fuel (f, p) c')
    · exact .refl s

/-- A poll of an incremental run keeps `Tails` for both legs. -/
theorem ScanRun.poll_tails (r : ScanRun) (hmode : r.plan.config.mode = .incremental since ms)
    (b : Bool) (c : Cluster) :
    Tails .done b (r.forward, r.forwardProgress)
        ((r.poll b c).1.forward, (r.poll b c).1.forwardProgress) ∧
      Tails .done b (r.backward, r.backwardProgress)
        ((r.poll b c).1.backward, (r.poll b c).1.backwardProgress) := by
  obtain ⟨cf, cb, -, -, hpf, hpb, -, -⟩ := r.poll_runs b c
  rw [hpf, hpb]
  exact ⟨runForward_tails hmode b _ _ _, runBackward_tails hmode b _ _ _⟩

/-- A poll that leaves both legs done makes the run's report. -/
theorem ScanRun.report_isSome_of_poll (r : ScanRun) (b : Bool) (c : Cluster)
    (h : (r.poll b c).1.legsDone = true) : (r.poll b c).1.report.isSome := by
  obtain ⟨-, -, -, -, -, -, -, hreport⟩ := r.poll_runs b c
  rw [hreport, if_pos h]
  rfl

/-! ## A polled run -/

theorem ScanRun.plan_replay (P : Plan) (env : List (Bool × Cluster)) :
    (ScanRun.replay env (ScanRun.start P)).plan = P := by
  obtain ⟨-, -, -, -, -, -, hplan⟩ := ScanRun.replay_legs P env
  exact hplan

theorem ScanRun.mode_replay (hmode : P.config.mode = .incremental since ms)
    (env : List (Bool × Cluster)) :
    (ScanRun.replay env (ScanRun.start P)).plan.config.mode = .incremental since ms := by
  rw [ScanRun.plan_replay]
  exact hmode

/-- A run without its report has a leg still in its loop: the poll that takes the last leg out
makes the report. -/
theorem ScanRun.legsDone_eq_false (P : Plan) (env : List (Bool × Cluster))
    (hnone : (ScanRun.replay env (ScanRun.start P)).report = none) :
    (ScanRun.replay env (ScanRun.start P)).legsDone = false := by
  induction env using List.reverseRecOn with
  | nil => rfl
  | append_singleton env e _ =>
    rw [ScanRun.replay_append_singleton] at hnone ⊢
    cases h : ((ScanRun.replay env (ScanRun.start P)).poll e.1 e.2).1.legsDone with
    | false => rfl
    | true =>
      have hsome := ScanRun.report_isSome_of_poll _ e.1 e.2 h
      rw [hnone] at hsome
      cases hsome

/-- No leg of an incremental run ever marks its report aborted. -/
theorem ScanRun.not_aborted_replay (hmode : P.config.mode = .incremental since ms)
    (env : List (Bool × Cluster)) :
    (ScanRun.replay env (ScanRun.start P)).forwardProgress.report.aborted = false ∧
      (ScanRun.replay env (ScanRun.start P)).backwardProgress.report.aborted = false := by
  induction env using List.reverseRecOn with
  | nil => exact ⟨rfl, rfl⟩
  | append_singleton env e ih =>
    rw [ScanRun.replay_append_singleton]
    obtain ⟨hf, hb⟩ := ScanRun.poll_tails _ (ScanRun.mode_replay hmode env) e.1 e.2
    exact ⟨hf.aborted.trans ih.1, hb.aborted.trans ih.2⟩

/-- An incremental run none of whose polls is cancelled has both legs in their loops and no
report. -/
theorem ScanRun.running_of_uncancelled (hmode : P.config.mode = .incremental since ms) :
    ∀ env : List (Bool × Cluster), (∀ e ∈ env, e.1 = false) →
      (ScanRun.replay env (ScanRun.start P)).forward ≠ .done ∧
      (ScanRun.replay env (ScanRun.start P)).backward ≠ .done ∧
      (ScanRun.replay env (ScanRun.start P)).report = none := by
  intro env
  induction env using List.reverseRecOn with
  | nil => exact fun _ => ⟨Forward.noConfusion, Backward.noConfusion, rfl⟩
  | append_singleton env e ih =>
    intro hcancel
    obtain ⟨hf, hb, hnone⟩ := ih fun e' he' => hcancel e' (List.mem_append_left _ he')
    have he : e.1 = false := hcancel e (List.mem_append_right _ List.mem_cons_self)
    rw [ScanRun.replay_append_singleton]
    set r := ScanRun.replay env (ScanRun.start P)
    obtain ⟨tf, tb⟩ := ScanRun.poll_tails r (ScanRun.mode_replay hmode env) e.1 e.2
    -- an uncancelled poll takes neither leg out of its loop
    have hf' : (r.poll e.1 e.2).1.forward ≠ .done := fun h =>
      (tf.ends h).elim hf (by simp [he])
    have hb' : (r.poll e.1 e.2).1.backward ≠ .done := fun h =>
      (tb.ends h).elim hb (by simp [he])
    obtain ⟨-, -, -, -, -, -, -, hreport⟩ := r.poll_runs e.1 e.2
    refine ⟨hf', hb', ?_⟩
    rw [hreport, if_neg fun h => hf' ((ScanRun.legsDone_iff _).mp h).1, hnone]

/-- The poll in which an incremental run makes its report is cancelled, and so is the report;
no leg gave up. -/
theorem ScanRun.report_of_tailing (hmode : P.config.mode = .incremental since ms)
    {env : List (Bool × Cluster)} {e : Bool × Cluster} {rep : Report}
    (hnone : (ScanRun.replay env (ScanRun.start P)).report = none)
    (hsome : (ScanRun.replay (env ++ [e]) (ScanRun.start P)).report = some rep) :
    e.1 = true ∧ rep.cancelled = true ∧ rep.aborted = false := by
  obtain ⟨haf, hab⟩ := ScanRun.not_aborted_replay hmode (env ++ [e])
  rw [ScanRun.replay_append_singleton] at hsome haf hab
  set r := ScanRun.replay env (ScanRun.start P)
  obtain ⟨-, -, -, -, -, -, -, hreport⟩ := r.poll_runs e.1 e.2
  rw [hreport] at hsome
  split at hsome
  · next hdone =>
    -- before the poll some leg was still in its loop, since the run had no report
    have hbefore := ScanRun.legsDone_eq_false P env hnone
    have hcancel : e.1 = true := by
      obtain ⟨tf, tb⟩ := ScanRun.poll_tails r (ScanRun.mode_replay hmode env) e.1 e.2
      obtain ⟨hfd, hbd⟩ := (ScanRun.legsDone_iff _).mp hdone
      rcases tf.ends hfd with hf | hc
      · rcases tb.ends hbd with hb | hc
        · rw [(ScanRun.legsDone_iff r).mpr ⟨hf, hb⟩] at hbefore
          cases hbefore
        · exact hc
      · exact hc
    obtain rfl := Option.some.inj hsome
    exact ⟨hcancel, hcancel, by simp [Report.merge, haf, hab]⟩
  · rw [hnone] at hsome
    cases hsome

/-- An incremental run never ends on its own. Polled in any clusters (any rows on either side,
any writes between polls, any faults on the paths to the stores, any state of the bus):
while no poll is cancelled it has no report; the poll in which it makes its report is a
cancelled one, and the report is marked cancelled and not aborted; and from poll to poll neither
leg's cursor moves back, across pauses and back-offs alike. -/
theorem ScanRun.tailing_ends_when_cancelled (P : Plan)
    (hmode : P.config.mode = .incremental since ms) :
    (∀ env : List (Bool × Cluster), (∀ e ∈ env, e.1 = false) →
      (ScanRun.replay env (ScanRun.start P)).report = none) ∧
    (∀ (env : List (Bool × Cluster)) (e : Bool × Cluster) (rep : Report),
      (ScanRun.replay env (ScanRun.start P)).report = none →
      (ScanRun.replay (env ++ [e]) (ScanRun.start P)).report = some rep →
      e.1 = true ∧ rep.cancelled = true ∧ rep.aborted = false) ∧
    (∀ (env : List (Bool × Cluster)) (e : Bool × Cluster) (x : Int64),
      (Reached (ScanRun.replay env (ScanRun.start P)).forwardProgress.after x →
        Reached (ScanRun.replay (env ++ [e]) (ScanRun.start P)).forwardProgress.after x) ∧
      (Reached (ScanRun.replay env (ScanRun.start P)).backwardProgress.after x →
        Reached (ScanRun.replay (env ++ [e]) (ScanRun.start P)).backwardProgress.after x)) := by
  refine ⟨fun env h => (ScanRun.running_of_uncancelled hmode env h).2.2,
    fun _ _ _ hnone hsome => ScanRun.report_of_tailing hmode hnone hsome, fun env e x => ?_⟩
  rw [ScanRun.replay_append_singleton]
  obtain ⟨tf, tb⟩ := ScanRun.poll_tails _ (ScanRun.mode_replay hmode env) e.1 e.2
  exact ⟨tf.ahead x, tb.ahead x⟩

/-- A run tailing from utime zero with a pause of ten milliseconds. -/
theorem ScanRun.tailing_ends_when_cancelled_orders :
    let P : Plan := { table := "orders", base := .src, topic := "drift",
                      config := { mode := .incremental 0 10 } }
    P.config.mode = .incremental 0 10 ∧
      ((∀ env : List (Bool × Cluster), (∀ e ∈ env, e.1 = false) →
        (ScanRun.replay env (ScanRun.start P)).report = none) ∧
      (∀ (env : List (Bool × Cluster)) (e : Bool × Cluster) (rep : Report),
        (ScanRun.replay env (ScanRun.start P)).report = none →
        (ScanRun.replay (env ++ [e]) (ScanRun.start P)).report = some rep →
        e.1 = true ∧ rep.cancelled = true ∧ rep.aborted = false) ∧
      (∀ (env : List (Bool × Cluster)) (e : Bool × Cluster) (x : Int64),
        (Reached (ScanRun.replay env (ScanRun.start P)).forwardProgress.after x →
          Reached (ScanRun.replay (env ++ [e]) (ScanRun.start P)).forwardProgress.after x) ∧
        (Reached (ScanRun.replay env (ScanRun.start P)).backwardProgress.after x →
          Reached (ScanRun.replay (env ++ [e]) (ScanRun.start P)).backwardProgress.after x))) :=
  ⟨rfl, ScanRun.tailing_ends_when_cancelled _ rfl⟩

end TableMigration.Validation
