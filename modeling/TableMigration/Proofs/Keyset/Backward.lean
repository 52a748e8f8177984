import TableMigration.Proofs.Keyset.Forward

/-!
# Proofs.Keyset.Backward

The target-to-base leg replayed in an arbitrary environment, as the base-to-target leg is in
`Proofs.Keyset.Forward`: `Backward.Moves` says once what one action can do,
`Backward.step_moves` shows the step function does one of them, and `Backward.Logged` is kept
by every move (`Backward.logged_trace`).

The leg reads a batch at a time and owes a report to every id of the batch the base lacks, in
batch order. It leaves its loop in a full pass after a batch shorter than it asked for, which
then held every row past the cursor; so the batch size must be positive, as every way of
setting it makes it.
-/

namespace TableMigration.Validation

open TableMigration.Access TableMigration.Store

variable {P : Plan}

theorem Backward.resume_eq_done {r : Resume} : Backward.resume r = .done ↔ r = .stop := by
  cases r <;> simp [Backward.resume]

/-- The leg's state after a report's first attempt: waiting on it with the rest of the batch's
ids, or on to the rest. -/
def Backward.afterSend : Sent → List Int64 → Nat → Backward
  | .waiting w, rest, n => .sending w rest n
  | _, rest, n => .publish rest n

/-! ## One action -/

/-- The rows the leg's cursor read returns in an action: the next batch of target rows past
the cursor, read at the top of the loop when the leg is not cancelled. -/
def Backward.scanned (P : Plan) (b : Bool) (c : Cluster) : Backward × Progress → List Row
  | (.head, p) =>
    if b then []
    else (c.lookupWithin P.target (.scan P.table P.config.sinceUtime p.after P.config.batchSize)
      P.config.lookupTimeoutMs).1.answer
  | _ => []

/-- One action of the leg, as a move of its state in a cluster. -/
def Backward.move (P : Plan) (b : Bool) (c : Cluster) (s : Backward × Progress) :
    (Backward × Progress) × Cluster :=
  (((Backward.step P b c s).1, (Backward.step P b c s).2.1), (Backward.step P b c s).2.2)

/-- What one action of the leg can do: from a state, reading some rows and putting some
messages on the bus, it moves to a new state. -/
inductive Backward.Moves (P : Plan) (b : Bool) (c : Cluster) :
    Backward × Progress → List Row → List Message → Backward × Progress → Prop
  /-- Cancelled at the top of the loop: the leg ends. -/
  | cancelled {p : Progress} (hb : b = true) : Moves P b c (.head, p) [] [] (.done, p)
  /-- The cursor read was refused: counted, then retried, given up or paused. -/
  | refused {p p' : Progress} {r : Resume} {now : Nat} (hb : b = false)
      (habsorb : P.config.absorb now p.lookupFailed = (r, p')) :
      Moves P b c (.head, p) [] [] (Backward.resume r, p')
  /-- The cursor read was held back: counted as failed. -/
  | held {p : Progress} (hb : b = false) : Moves P b c (.head, p) [] [] (.head, p.lookupFailed)
  /-- Nothing past the cursor: the pass is over. -/
  | exhausted {p : Progress} {now : Nat} (hb : b = false)
      (hpage : page ((c.node P.target).contents.table P.table) P.config.sinceUtime p.after
        P.config.batchSize = []) :
      Moves P b c (.head, p) [] [] (Backward.resume (P.config.idle now), { p with failures := 0 })
  /-- A batch past the cursor was read; the leg owes a report to some of its ids, in order
  (none when the base's batch lookup failed, which is counted). -/
  | batch {p p' : Progress} {rows : List Row} {missing : List Int64} (hb : b = false)
      (hpage : page ((c.node P.target).contents.table P.table) P.config.sinceUtime p.after
        P.config.batchSize = rows)
      (hne : rows ≠ []) (hmissing : missing.Sublist (rows.map (·.id)))
      (hp : p' = p.tookBatch rows ∨ p' = (p.tookBatch rows).lookupFailed) :
      Moves P b c (.head, p) rows [] (.publish missing rows.length, p')
  /-- Every id of a short batch reported: the pass is over. -/
  | drained {n : Nat} {p : Progress} {now : Nat} (hn : n < P.config.batchSize) :
      Moves P b c (.publish [] n, p) [] [] (Backward.resume (P.config.idle now), p)
  /-- Every id of a full batch reported: back to the top. -/
  | next {n : Nat} {p : Progress} (hn : ¬ n < P.config.batchSize) :
      Moves P b c (.publish [] n, p) [] [] (.head, p)
  /-- The next id owed a report was reported as `Notifies` says. -/
  | notified {id : Int64} {rest : List Int64} {n : Nat} {p p' : Progress} {s : Sent}
      {sent : List Message} (hn : Notifies P p id .baseMissing s p' sent) :
      Moves P b c (.publish (id :: rest) n, p) [] sent (Backward.afterSend s rest n, p')
  /-- The waiting report went out. -/
  | delivered {w : Waiting} {rest : List Int64} {n : Nat} {p : Progress} :
      Moves P b c (.sending w rest n, p) [] [w.message] (.publish rest n, p)
  /-- The waiting report was lost: counted as failed. -/
  | lost {w : Waiting} {rest : List Int64} {n : Nat} {p : Progress} :
      Moves P b c (.sending w rest n, p) [] [] (.publish rest n, p.notifyFailed)
  /-- Cancelled while pausing: the leg ends. -/
  | paused {t : Nat} {p : Progress} (hb : b = true) : Moves P b c (.pausing t, p) [] [] (.done, p)
  /-- The pause is over: back to the top. -/
  | resumed {t : Nat} {p : Progress} (hb : b = false) :
      Moves P b c (.pausing t, p) [] [] (.head, p)
  /-- Out of the loop, the leg stays out. -/
  | idle {p : Progress} : Moves P b c (.done, p) [] [] (.done, p)

/-- Every action of the leg is one of its moves, leaving the stores' rows alone and putting
on the bus what the move says. -/
theorem Backward.step_moves (P : Plan) (b : Bool) (c : Cluster) (s : Backward × Progress) :
    ∃ sent, c.Grew (Backward.move P b c s).2 sent ∧
      Backward.Moves P b c s (Backward.scanned P b c s) sent (Backward.move P b c s).1 := by
  obtain ⟨f, p⟩ := s
  cases f with
  | head =>
    cases b with
    | true => exact ⟨[], .refl c, .cancelled rfl⟩
    | false =>
      simp only [Backward.move, Backward.step, Backward.scanned, Bool.false_eq_true, if_false]
      have hg₁ := Cluster.grew_lookupWithin c P.target
        (.scan P.table P.config.sinceUtime p.after P.config.batchSize) P.config.lookupTimeoutMs
      rcases hread : c.lookupWithin P.target
        (.scan P.table P.config.sinceUtime p.after P.config.batchSize)
        P.config.lookupTimeoutMs with ⟨l, c₁⟩
      rw [hread] at hg₁
      cases l with
      | refused e =>
        dsimp only
        rcases habsorb : P.config.absorb c₁.now p.lookupFailed with ⟨r, p'⟩
        exact ⟨[], hg₁, .refused rfl habsorb⟩
      | heldUntil t => exact ⟨[], hg₁, .held rfl⟩
      | rows rs =>
        have hpage : page ((c.node P.target).contents.table P.table) P.config.sinceUtime p.after
            P.config.batchSize = rs := (Cluster.rows_of_lookupWithin hread).symm
        dsimp only
        cases rs with
        | nil => exact ⟨[], hg₁, .exhausted rfl hpage⟩
        | cons row rest =>
          dsimp only
          split
          · rename_i found c₂ hread₂
            have hg₂ := Cluster.grew_lookupWithin c₁ P.base
              (.byIds P.table ((row :: rest).map (·.id))) P.config.lookupTimeoutMs
            rw [hread₂] at hg₂
            exact ⟨[], hg₁.trans hg₂,
              .batch rfl hpage (List.cons_ne_nil _ _) List.filter_sublist (.inl rfl)⟩
          · rename_i l₂ c₂ _ hread₂
            have hg₂ := Cluster.grew_lookupWithin c₁ P.base
              (.byIds P.table ((row :: rest).map (·.id))) P.config.lookupTimeoutMs
            rw [hread₂] at hg₂
            exact ⟨[], hg₁.trans hg₂,
              .batch rfl hpage (List.cons_ne_nil _ _) (List.nil_sublist _) (.inr rfl)⟩
  | publish missing n =>
    cases missing with
    | nil =>
      simp only [Backward.move, Backward.step, Backward.scanned]
      split
      · rename_i hn
        exact ⟨[], .refl c, .drained hn⟩
      · rename_i hn
        exact ⟨[], .refl c, .next hn⟩
    | cons id rest =>
      simp only [Backward.move, Backward.step, Backward.scanned]
      rcases hn : notify P c p id .baseMissing with ⟨s, p', c'⟩
      obtain ⟨sent, hnot, hg⟩ := notify_notifies hn
      cases s with
      | delivered => exact ⟨sent, hg, .notified hnot⟩
      | lost => exact ⟨sent, hg, .notified hnot⟩
      | waiting w => exact ⟨sent, hg, .notified hnot⟩
  | sending w rest n =>
    simp only [Backward.move, Backward.step, Backward.scanned]
    rcases settleReport_cases w c p with ⟨hp, hg⟩ | ⟨hp, hg⟩
    · rw [hp]; exact ⟨_, hg, .delivered⟩
    · rw [hp]; exact ⟨_, hg, .lost⟩
  | pausing t =>
    cases b with
    | true => exact ⟨[], .refl c, .paused rfl⟩
    | false => exact ⟨[], .refl c, .resumed rfl⟩
  | done => exact ⟨[], .refl c, .idle⟩

/-! ## The cursor and why the leg ends -/

theorem Progress.after_tookBatch (p : Progress) (rows : List Row) :
    (p.tookBatch rows).after = rows.getLast?.map (·.id) := by
  simp [Progress.tookBatch, List.getLast?_map]

variable {env : List (Bool × Cluster)} {b : Bool} {c : Cluster}

/-- An action keeps the leg's reads walked: only a batch read moves the cursor, onto the last
row it returned. -/
theorem Backward.Moves.walked {s s' : Backward × Progress} {rows : List Row}
    {sent : List Message} (hm : Backward.Moves P b c s rows sent s') {seen : List Row}
    (hw : Walked P P.target env seen s.2.after)
    (hs : ((c.node P.target).contents.table P.table).Sorted) :
    Walked P P.target (env ++ [(b, c)]) (seen ++ rows) s'.2.after := by
  cases hm with
  | @batch p p' rows missing _ hpage hne _ hp =>
    have hafter : p'.after = rows.getLast?.map (·.id) := by
      rcases hp with rfl | rfl <;> simp [Progress.after_tookBatch]
    rw [hafter]
    exact hw.read hs hpage hne
  | @refused p p' r now _ habsorb =>
    have hafter : p'.after = p.after := by
      simpa [habsorb] using Config.after_absorb P.config now p.lookupFailed
    simpa [hafter] using hw.stay (b, c)
  | notified hn => simpa [hn.keeps.1] using hw.stay (b, c)
  | _ => simpa using hw.stay (b, c)

/-- The states in which the leg may be about to leave its loop: out of it, or reporting the
ids of a batch shorter than it asked for. -/
def Backward.Closing (P : Plan) : Backward → Prop
  | .done => True
  | .publish _ n => n < P.config.batchSize
  | .sending _ _ n => n < P.config.batchSize
  | _ => False

theorem Backward.not_closing_resume {r : Resume} (h : r ≠ .stop) :
    ¬ (Backward.resume r).Closing P := by
  cases r with
  | again => exact id
  | wait t => exact id
  | stop => exact absurd rfl h

/-- An action that takes the leg out of its loop, or into reporting a short batch, does so
for a reason: it was cancelled, it gave up, or the cursor left nothing behind. -/
theorem Backward.Moves.ended {s s' : Backward × Progress} {rows : List Row}
    {sent : List Message} (hm : Backward.Moves P b c s rows sent s')
    (hbatch : 0 < P.config.batchSize) (hs : ((c.node P.target).contents.table P.table).Sorted)
    (he : s.1.Closing P → Ended P P.target env s.2) (hclosing : s'.1.Closing P) :
    Ended P P.target (env ++ [(b, c)]) s'.2 := by
  cases hm with
  | cancelled hb => subst hb; exact ended_cancelled
  | paused hb => subst hb; exact ended_cancelled
  | @refused p p' r now _ habsorb =>
    by_cases hr : r = .stop
    · subst hr; exact .inl (Config.aborted_of_absorb habsorb)
    · exact absurd hclosing (Backward.not_closing_resume hr)
  | exhausted _ hpage =>
    exact ended_sweeps (sweeps_of_page_nil hpage hbatch)
  | batch _ hpage hne _ hp =>
    -- a short batch held every row past the cursor
    have hsweeps := sweeps_of_short hs hpage hclosing hne
    rcases hp with rfl | rfl <;>
      exact ended_sweeps (by simpa [Progress.after_tookBatch] using hsweeps)
  | drained hn => exact (he hn).grow _
  | notified hn =>
    refine ((he ?_).grow _).congr hn.keeps.1 hn.keeps.2
    cases hn <;> exact hclosing
  | delivered => exact (he hclosing).grow _
  | lost => exact ((he hclosing).grow _).congr rfl rfl
  | idle => exact (he trivial).grow _
  | _ => exact absurd hclosing id

/-! ## Reports -/

/-- The ids the leg owes a report in a state, and what a waiting report carries: the ids of
the batch the base lacks, the first of them waiting for room. -/
def Backward.Owes (P : Plan) : Backward → List Int64 → Prop
  | .publish missing _, owed => owed = missing
  | .sending w rest _, owed => ∃ id, w.message = P.message id .baseMissing ∧ owed = id :: rest
  | _, owed => owed = []

theorem Backward.owes_resume (r : Resume) : (Backward.resume r).Owes P [] := by
  cases r <;> rfl

/-- An action keeps the leg's reports in order: a batch read owes reports to ids of its rows,
in order, and every later move reports, drops or keeps the first of them. -/
theorem Backward.Moves.reported {s s' : Backward × Progress} {rows : List Row}
    {sent : List Message} (hm : Backward.Moves P b c s rows sent s') {seen : List Row}
    {sent₀ : List Message} {owed : List Int64} (howes : s.1.Owes P owed)
    (hr : Reported P seen sent₀ owed) (hs : Table.Sorted (seen ++ rows)) :
    ∃ owed', s'.1.Owes P owed' ∧ Reported P (seen ++ rows) (sent₀ ++ sent) owed' := by
  cases hm with
  | batch _ _ _ hmissing =>
    subst howes
    exact ⟨_, rfl, by simpa using hr.read hs hmissing⟩
  | notified hn =>
    subst howes
    cases hn with
    | delivered => exact ⟨_, rfl, by simpa using hr.send _⟩
    | lost => exact ⟨_, rfl, by simpa using hr.drop⟩
    | waiting w hw => exact ⟨_, ⟨_, hw, rfl⟩, by simpa using hr⟩
  | delivered =>
    obtain ⟨id, hw, rfl⟩ := howes
    exact ⟨_, rfl, by simpa [hw] using hr.send _⟩
  | lost =>
    obtain ⟨id, -, rfl⟩ := howes
    exact ⟨_, rfl, by simpa using hr.drop⟩
  | refused => subst howes; exact ⟨[], Backward.owes_resume _, by simpa using hr⟩
  | exhausted => subst howes; exact ⟨[], Backward.owes_resume _, by simpa using hr⟩
  | drained => subst howes; exact ⟨[], Backward.owes_resume _, by simpa using hr⟩
  | next => subst howes; exact ⟨[], rfl, by simpa using hr⟩
  | _ => exact ⟨owed, howes, by simpa using hr⟩

/-! ## Counts -/

@[simp] theorem Progress.report_tookBatch (p : Progress) (rows : List Row) :
    (p.tookBatch rows).report =
      { p.report with targetScanned := p.report.targetScanned + rows.length } := rfl

theorem Backward.pending_resume (r : Resume) : (Backward.resume r).pending = [] := by
  cases r <;> rfl

theorem Backward.sends_resume (r : Resume) : (Backward.resume r).sends = 0 := by
  cases r <;> rfl

/-- The counts of the leg's report against its log: every row read is counted scanned, the
missing ids counted and those still to report are at most the rows read, every missing id
counted is on the bus, counted as a failed report or waiting to be sent, and nothing the other
leg counts is counted. -/
structure Backward.Counted (s : Backward × Progress) (seen : List Row) (sent : List Message) :
    Prop where
  scanned : s.2.report.targetScanned = seen.length
  baseScanned : s.2.report.baseScanned = 0
  targetMissing : s.2.report.targetMissing = 0
  neq : s.2.report.neq = 0
  missing : s.2.report.baseMissing + s.1.pending.length ≤ s.2.report.targetScanned
  reports : sent.length + s.2.report.notifyFailures + s.1.sends = s.2.report.baseMissing

theorem Backward.counted_start : Backward.Counted (.head, {}) [] [] :=
  ⟨rfl, rfl, rfl, rfl, Nat.le_refl _, rfl⟩

/-- An action keeps the report's counts in step with the log. -/
theorem Backward.Moves.counted {s s' : Backward × Progress} {rows : List Row}
    {sent : List Message} (hm : Backward.Moves P b c s rows sent s') {seen : List Row}
    {sent₀ : List Message} (hc : Backward.Counted s seen sent₀) :
    Backward.Counted s' (seen ++ rows) (sent₀ ++ sent) := by
  obtain ⟨hsc, hbs, htm, hneq, hmis, hrep⟩ := hc
  cases hm with
  | batch _ _ _ hmissing hp =>
    simp only [Backward.pending, Backward.sends] at hsc hbs htm hneq hmis hrep
    have hlen := hmissing.length_le
    rw [List.length_map] at hlen
    rcases hp with rfl | rfl <;>
      exact ⟨by simp [hsc], by simpa using hbs, by simpa using htm, by simpa using hneq,
        by simp [Backward.pending]; omega, by simpa [Backward.sends] using hrep⟩
  | @refused p p' r now _ habsorb =>
    simp only [Backward.pending, Backward.sends] at hsc hbs htm hneq hmis hrep
    have hr := Config.report_absorb P.config now p.lookupFailed
    rw [habsorb] at hr
    dsimp only at hr
    rcases hr with hr | hr <;>
      exact ⟨by simp [hr, hsc], by simp [hr, hbs], by simp [hr, htm], by simp [hr, hneq],
        by simp [hr, Backward.pending_resume]; omega,
        by simp [hr, Backward.sends_resume]; omega⟩
  | notified hn =>
    simp only [Backward.pending, Backward.sends, List.length_cons] at hsc hbs htm hneq hmis hrep
    cases hn <;>
      exact ⟨by simpa [Report.record] using hsc, by simpa [Report.record] using hbs,
        by simpa [Report.record] using htm, by simpa [Report.record] using hneq,
        by simp only [Progress.report_recorded, Progress.report_notifyFailed, Report.record,
          Backward.afterSend, Backward.pending]; omega,
        by simp [Report.record, Backward.afterSend, Backward.sends]; omega⟩
  | exhausted | drained =>
    simp only [Backward.pending, Backward.sends] at hsc hbs htm hneq hmis hrep
    exact ⟨by simpa using hsc, by simpa using hbs, by simpa using htm, by simpa using hneq,
      by simp [Backward.pending_resume]; omega,
      by simp [Backward.sends_resume]; omega⟩
  | _ =>
    simp only [Backward.pending, Backward.sends] at hsc hbs htm hneq hmis hrep
    exact ⟨by simpa using hsc, by simpa using hbs, by simpa using htm, by simpa using hneq,
      by simp [Backward.pending]; omega, by simp [Backward.sends]; omega⟩

/-! ## The replay -/

/-- The leg replayed from its start in a sequence of clusters. -/
def Backward.trace (P : Plan) (env : List (Bool × Cluster)) : Trace (Backward × Progress) :=
  Trace.replay (Backward.move P) (Backward.scanned P) env ⟨(.head, {}), [], []⟩

/-- What the leg keeps true of its log after the actions of `env`. -/
structure Backward.Logged (P : Plan) (env : List (Bool × Cluster))
    (t : Trace (Backward × Progress)) : Prop where
  walked : Walked P P.target env t.seen t.state.2.after
  reported : ∃ owed, t.state.1.Owes P owed ∧ Reported P t.seen t.sent owed
  ended : t.state.1.Closing P → Ended P P.target env t.state.2
  counted : Backward.Counted t.state t.seen t.sent

/-- One more action, in a cluster whose target table is sorted, keeps the log. -/
theorem Backward.Logged.step {t : Trace (Backward × Progress)} (h : Backward.Logged P env t)
    (hbatch : 0 < P.config.batchSize) (e : Bool × Cluster)
    (hs : ((e.2.node P.target).contents.table P.table).Sorted) :
    Backward.Logged P (env ++ [e]) (Trace.step (Backward.move P) (Backward.scanned P) t e) := by
  obtain ⟨b, c⟩ := e
  obtain ⟨sent, hg, hm⟩ := Backward.step_moves P b c t.state
  have hstep : Trace.step (Backward.move P) (Backward.scanned P) t (b, c) =
      ⟨(Backward.move P b c t.state).1, t.seen ++ Backward.scanned P b c t.state,
        t.sent ++ sent⟩ := by
    simp only [Trace.step, hg.sent_eq]
  rw [hstep]
  have hw := hm.walked h.walked hs
  obtain ⟨owed, howes, hr⟩ := h.reported
  exact ⟨hw, hm.reported howes hr hw.sorted, fun hcl => hm.ended hbatch hs h.ended hcl,
    hm.counted h.counted⟩

/-- Every replay of the leg from its start, in clusters whose target tables are sorted, keeps
the log. -/
theorem Backward.logged_trace (hbatch : 0 < P.config.batchSize) (env : List (Bool × Cluster))
    (hs : ∀ e ∈ env, ((e.2.node P.target).contents.table P.table).Sorted) :
    Backward.Logged P env (Backward.trace P env) := by
  induction env using List.reverseRecOn with
  | nil =>
    exact ⟨walked_start, ⟨[], rfl, reported_start⟩, (fun h => by cases h), Backward.counted_start⟩
  | append_singleton env e ih =>
    rw [Backward.trace, Trace.replay_append_singleton]
    exact (ih fun e' he' => hs e' (List.mem_append_left _ he')).step hbatch e
      (hs e (List.mem_append_right _ List.mem_cons_self))

end TableMigration.Validation
