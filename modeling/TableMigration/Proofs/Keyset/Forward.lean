import TableMigration.Proofs.Keyset.Trace

/-!
# Proofs.Keyset.Forward

The base-to-target leg replayed in an arbitrary environment.

`Forward.Moves` says once what one action of the leg can do, from the state it is in: the rows
its cursor read returned, the messages it put on the bus and the state it moves to.
`Forward.step_moves` shows that the step function does one of them, and every invariant below
is derived from the moves alone, one case per move. `Forward.Logged` gathers them: after any
replay from the start (`Forward.logged_trace`) the rows read and the drifts reported have
strictly increasing ids, the cursor left no row behind, the leg ended only for a reason, and
the report counts what the log shows.
-/

namespace TableMigration.Validation

open TableMigration.Access TableMigration.Store

variable {P : Plan}

/-! ## Progress -/

@[simp] theorem Progress.after_lookupFailed (p : Progress) : p.lookupFailed.after = p.after := rfl

@[simp] theorem Progress.after_notifyFailed (p : Progress) : p.notifyFailed.after = p.after := rfl

@[simp] theorem Progress.after_recorded (p : Progress) (k : DriftKind) :
    (p.recorded k).after = p.after := rfl

@[simp] theorem Progress.after_took (p : Progress) (id : Int64) : (p.took id).after = some id := rfl

theorem Config.after_absorb (cfg : Config) (now : Nat) (p : Progress) :
    (cfg.absorb now p).2.after = p.after := by
  unfold Config.absorb
  dsimp only
  split_ifs
  · rfl
  · cases cfg.intervalMs <;> rfl

/-- A failed read gives up only with the report marked aborted. -/
theorem Config.aborted_of_absorb {cfg : Config} {now : Nat} {p p' : Progress}
    (h : cfg.absorb now p = (.stop, p')) : p'.report.aborted = true := by
  unfold Config.absorb at h
  dsimp only at h
  split_ifs at h
  · cases h
  · cases hi : cfg.intervalMs with
    | none =>
      rw [hi] at h
      simp only [Prod.mk.injEq] at h
      rw [← h.2]
    | some ms =>
      rw [hi] at h
      simp at h

/-- Absorbing a failed read changes no count of the report. -/
theorem Config.report_absorb (cfg : Config) (now : Nat) (p : Progress) :
    (cfg.absorb now p).2.report = p.report ∨
      (cfg.absorb now p).2.report = { p.report with aborted := true } := by
  unfold Config.absorb
  dsimp only
  split_ifs
  · exact .inl rfl
  · cases cfg.intervalMs
    · exact .inr rfl
    · exact .inl rfl

theorem Forward.resume_eq_done {r : Resume} : Forward.resume r = .done ↔ r = .stop := by
  cases r <;> simp [Forward.resume]

theorem classify_ne_baseMissing (b : Record) (t : Option Record) :
    classify (some b) t ≠ some .baseMissing := by
  cases t with
  | none => simp [classify]
  | some t => simp only [classify]; split <;> simp

/-! ## Judging a row -/

/-- The leg's state after a report's first attempt: waiting on it, or back at the top. -/
def Forward.afterSend : Sent → Forward
  | .waiting w => .sending w
  | _ => .head

/-- How judging a base row ended: the target's row matched, or a drift of the base-to-target
kinds was reported as `Notifies` says and the leg waits on the report if it must. -/
inductive Judged (P : Plan) (p : Progress) (id : Int64) :
    Forward × Progress → List Message → Prop
  | agree : Judged P p id (.head, p) []
  | drift {k : DriftKind} {s : Sent} {p' : Progress} {sent : List Message}
      (hk : k ≠ .baseMissing) (hn : Notifies P p id k s p' sent) :
      Judged P p id (Forward.afterSend s, p') sent

theorem judge_judged (c : Cluster) (p : Progress) (id : Int64) (base : Record) (rs : List Row) :
    ∃ sent, Judged P p id ((judge P c p id base rs).1, (judge P c p id base rs).2.1) sent ∧
      c.Grew (judge P c p id base rs).2.2 sent := by
  unfold judge afterJudged
  split
  · exact ⟨[], .agree, .refl c⟩
  · rename_i k hkind
    have hk : k ≠ .baseMissing := by
      rintro rfl
      split at hkind
      · exact classify_ne_baseMissing base none hkind
      · split at hkind
        · exact classify_ne_baseMissing base _ hkind
        · cases hkind
    rcases hn : notify P c p id k with ⟨s, p', c'⟩
    obtain ⟨sent, hnot, hg⟩ := notify_notifies hn
    cases s with
    | delivered => exact ⟨sent, .drift hk hnot, hg⟩
    | lost => exact ⟨sent, .drift hk hnot, hg⟩
    | waiting w => exact ⟨sent, .drift hk hnot, hg⟩

/-- How the leg goes on from a base row it read, its cursor already on the row: the row could
not be judged (it is unreadable, or the target's read was refused), it was judged, or the leg
waits for the target's row. -/
inductive Forward.Took (P : Plan) (p : Progress) (row : Row) :
    Forward × Progress → List Message → Prop
  | failed : Took P p row (.head, p.lookupFailed) []
  | judged {s' : Forward × Progress} {sent : List Message} (hj : Judged P p row.id s' sent) :
      Took P p row s' sent
  | deferred {base : Record} {readyAt deadline : Nat} :
      Took P p row (.lookup row.id base readyAt deadline, p) []

/-! ## One action -/

/-- The rows the leg's cursor read returns in an action: the next base row past the cursor,
read at the top of the loop when the leg is not cancelled. -/
def Forward.scanned (P : Plan) (b : Bool) (c : Cluster) : Forward × Progress → List Row
  | (.head, p) =>
    if b then []
    else (c.lookupWithin P.base (.scan P.table P.config.sinceUtime p.after 1)
      P.config.lookupTimeoutMs).1.answer
  | _ => []

/-- One action of the leg, as a move of its state in a cluster. -/
def Forward.move (P : Plan) (b : Bool) (c : Cluster) (s : Forward × Progress) :
    (Forward × Progress) × Cluster :=
  (((Forward.step P b c s).1, (Forward.step P b c s).2.1), (Forward.step P b c s).2.2)

/-- What one action of the leg can do: from a state, reading some rows and putting some
messages on the bus, it moves to a new state. -/
inductive Forward.Moves (P : Plan) (b : Bool) (c : Cluster) :
    Forward × Progress → List Row → List Message → Forward × Progress → Prop
  /-- Cancelled at the top of the loop: the leg ends. -/
  | cancelled {p : Progress} (hb : b = true) : Moves P b c (.head, p) [] [] (.done, p)
  /-- The cursor read was refused: counted, then retried, given up or paused. -/
  | refused {p p' : Progress} {r : Resume} {now : Nat} (hb : b = false)
      (habsorb : P.config.absorb now p.lookupFailed = (r, p')) :
      Moves P b c (.head, p) [] [] (Forward.resume r, p')
  /-- The cursor read was held back: counted as failed. -/
  | held {p : Progress} (hb : b = false) : Moves P b c (.head, p) [] [] (.head, p.lookupFailed)
  /-- Nothing past the cursor: the pass is over. -/
  | exhausted {p : Progress} {now : Nat} (hb : b = false)
      (hpage : page ((c.node P.base).contents.table P.table) P.config.sinceUtime p.after 1 = []) :
      Moves P b c (.head, p) [] [] (Forward.resume (P.config.idle now), p)
  /-- The next row past the cursor was read, and the leg went on with it. -/
  | read {p : Progress} {row : Row} {s' : Forward × Progress} {sent : List Message}
      (hb : b = false)
      (hpage : page ((c.node P.base).contents.table P.table) P.config.sinceUtime p.after 1 =
        [row])
      (htook : Forward.Took P (p.took row.id) row s' sent) :
      Moves P b c (.head, p) [row] sent s'
  /-- The held-back target row came in time and the base row was judged. -/
  | settled {id : Int64} {base : Record} {readyAt deadline : Nat} {p : Progress}
      {s' : Forward × Progress} {sent : List Message} (hj : Judged P p id s' sent) :
      Moves P b c (.lookup id base readyAt deadline, p) [] sent s'
  /-- The held-back target row came too late: counted as failed. -/
  | timedOut {id : Int64} {base : Record} {readyAt deadline : Nat} {p : Progress} :
      Moves P b c (.lookup id base readyAt deadline, p) [] [] (.head, p.lookupFailed)
  /-- The waiting report went out. -/
  | delivered {w : Waiting} {p : Progress} :
      Moves P b c (.sending w, p) [] [w.message] (.head, p)
  /-- The waiting report was lost: counted as failed. -/
  | lost {w : Waiting} {p : Progress} :
      Moves P b c (.sending w, p) [] [] (.head, p.notifyFailed)
  /-- Cancelled while pausing: the leg ends. -/
  | paused {t : Nat} {p : Progress} (hb : b = true) : Moves P b c (.pausing t, p) [] [] (.done, p)
  /-- The pause is over: back to the top. -/
  | resumed {t : Nat} {p : Progress} (hb : b = false) :
      Moves P b c (.pausing t, p) [] [] (.head, p)
  /-- Out of the loop, the leg stays out. -/
  | idle {p : Progress} : Moves P b c (.done, p) [] [] (.done, p)

/-- Every action of the leg is one of its moves, leaving the stores' rows alone and putting
on the bus what the move says. -/
theorem Forward.step_moves (P : Plan) (b : Bool) (c : Cluster) (s : Forward × Progress) :
    ∃ sent, c.Grew (Forward.move P b c s).2 sent ∧
      Forward.Moves P b c s (Forward.scanned P b c s) sent (Forward.move P b c s).1 := by
  obtain ⟨f, p⟩ := s
  cases f with
  | head =>
    cases b with
    | true => exact ⟨[], .refl c, .cancelled rfl⟩
    | false =>
      simp only [Forward.move, Forward.step, Forward.scanned, Bool.false_eq_true, if_false]
      have hg₁ := Cluster.grew_lookupWithin c P.base
        (.scan P.table P.config.sinceUtime p.after 1) P.config.lookupTimeoutMs
      rcases hread : c.lookupWithin P.base (.scan P.table P.config.sinceUtime p.after 1)
        P.config.lookupTimeoutMs with ⟨l, c₁⟩
      rw [hread] at hg₁
      cases l with
      | refused e =>
        dsimp only
        rcases habsorb : P.config.absorb c₁.now p.lookupFailed with ⟨r, p'⟩
        exact ⟨[], hg₁, .refused rfl habsorb⟩
      | heldUntil t => exact ⟨[], hg₁, .held rfl⟩
      | rows rs =>
        have hpage : page ((c.node P.base).contents.table P.table) P.config.sinceUtime p.after 1 =
            rs := (Cluster.rows_of_lookupWithin hread).symm
        dsimp only
        cases rs with
        | nil => exact ⟨[], hg₁, .exhausted rfl hpage⟩
        | cons row rest =>
          -- a read of one row returns at most one
          obtain rfl : rest = [] := by
            have hlen := length_page_le ((c.node P.base).contents.table P.table)
              P.config.sinceUtime p.after 1
            rw [hpage, List.length_cons] at hlen
            exact List.eq_nil_of_length_eq_zero (by omega)
          dsimp only
          cases hrec : recordOf row with
          | error e => exact ⟨[], hg₁, .read rfl hpage .failed⟩
          | ok base =>
            have hg₂ := Cluster.grew_lookupWithin c₁ P.target (.byId P.table row.id)
              P.config.lookupTimeoutMs
            rcases hread₂ : c₁.lookupWithin P.target (.byId P.table row.id)
              P.config.lookupTimeoutMs with ⟨l₂, c₂⟩
            rw [hread₂] at hg₂
            dsimp only
            cases l₂ with
            | refused e => exact ⟨[], hg₁.trans hg₂, .read rfl hpage .failed⟩
            | rows ts =>
              obtain ⟨sent, hj, hg₃⟩ := judge_judged (P := P) c₂ (p.took row.id) row.id base ts
              exact ⟨sent, hg₁.nil_trans (hg₂.nil_trans hg₃), .read rfl hpage (.judged hj)⟩
            | heldUntil t => exact ⟨[], hg₁.trans hg₂, .read rfl hpage .deferred⟩
  | lookup id base readyAt deadline =>
    simp only [Forward.move, Forward.step, Forward.scanned]
    split
    · rename_i rs _
      obtain ⟨sent, hj, hg⟩ := judge_judged (P := P) c p id base rs
      exact ⟨sent, hg, .settled hj⟩
    · exact ⟨[], .refl c, .timedOut⟩
  | sending w =>
    simp only [Forward.move, Forward.step, Forward.scanned]
    rcases settleReport_cases w c p with ⟨hp, hg⟩ | ⟨hp, hg⟩
    · rw [hp]; exact ⟨_, hg, .delivered⟩
    · rw [hp]; exact ⟨_, hg, .lost⟩
  | pausing t =>
    cases b with
    | true => exact ⟨[], .refl c, .paused rfl⟩
    | false => exact ⟨[], .refl c, .resumed rfl⟩
  | done => exact ⟨[], .refl c, .idle⟩

/-! ## The cursor and why the leg ends -/

theorem Judged.after {p : Progress} {id : Int64} {s' : Forward × Progress} {sent : List Message}
    (h : Judged P p id s' sent) : s'.2.after = p.after := by
  cases h with
  | agree => rfl
  | drift _ hn => cases hn <;> rfl

theorem Forward.Took.after {p : Progress} {row : Row} {s' : Forward × Progress}
    {sent : List Message} (h : Forward.Took P p row s' sent) : s'.2.after = p.after := by
  cases h with
  | failed => rfl
  | judged hj => exact hj.after
  | deferred => rfl

theorem Judged.not_done {p : Progress} {id : Int64} {s' : Forward × Progress}
    {sent : List Message} (h : Judged P p id s' sent) : s'.1 ≠ .done := by
  cases h with
  | agree => simp
  | drift _ hn => cases hn <;> simp [Forward.afterSend]

theorem Forward.Took.not_done {p : Progress} {row : Row} {s' : Forward × Progress}
    {sent : List Message} (h : Forward.Took P p row s' sent) : s'.1 ≠ .done := by
  cases h with
  | failed => simp
  | judged hj => exact hj.not_done
  | deferred => simp

variable {env : List (Bool × Cluster)} {b : Bool} {c : Cluster}

/-- An action keeps the leg's reads walked: only a read moves the cursor, onto the row it
returned. -/
theorem Forward.Moves.walked {s s' : Forward × Progress} {rows : List Row} {sent : List Message}
    (hm : Forward.Moves P b c s rows sent s') {seen : List Row}
    (hw : Walked P P.base env seen s.2.after)
    (hs : ((c.node P.base).contents.table P.table).Sorted) :
    Walked P P.base (env ++ [(b, c)]) (seen ++ rows) s'.2.after := by
  cases hm with
  | read _ hpage htook =>
    rw [htook.after, Progress.after_took]
    exact hw.read hs hpage (List.cons_ne_nil _ _)
  | @refused p p' r now _ habsorb =>
    have hafter : p'.after = p.after := by
      simpa [habsorb] using Config.after_absorb P.config now p.lookupFailed
    simpa [hafter] using hw.stay (b, c)
  | settled hj => simpa [hj.after] using hw.stay (b, c)
  | _ => simpa using hw.stay (b, c)

/-- An action that takes the leg out of its loop does so for a reason: it was cancelled, it
gave up, or nothing was left past the cursor. -/
theorem Forward.Moves.ended {s s' : Forward × Progress} {rows : List Row} {sent : List Message}
    (hm : Forward.Moves P b c s rows sent s')
    (he : s.1 = .done → Ended P P.base env s.2) (hdone : s'.1 = .done) :
    Ended P P.base (env ++ [(b, c)]) s'.2 := by
  cases hm with
  | cancelled hb => subst hb; exact ended_cancelled
  | paused hb => subst hb; exact ended_cancelled
  | refused _ habsorb =>
    obtain rfl := Forward.resume_eq_done.mp hdone
    exact .inl (Config.aborted_of_absorb habsorb)
  | exhausted _ hpage => exact ended_sweeps (sweeps_of_page_nil hpage Nat.one_pos)
  | idle => exact (he rfl).grow _
  | read _ _ htook => exact absurd hdone htook.not_done
  | settled hj => exact absurd hdone hj.not_done
  | _ => cases hdone

/-! ## Reports -/

/-- The ids the leg owes a report in a state, and what a waiting report carries: the row whose
target read is held back, or the row whose report waits for room. -/
def Forward.Owes (P : Plan) : Forward → List Int64 → Prop
  | .lookup id _ _ _, owed => owed = [id]
  | .sending w, owed => ∃ id k, w.message = P.message id k ∧ owed = [id]
  | _, owed => owed = []

theorem Forward.owes_resume (r : Resume) : (Forward.resume r).Owes P [] := by
  cases r <;> rfl

/-- Judging the row owed a report settles it: it is reported, dropped, or still owed while its
report waits. -/
theorem Judged.reported {p : Progress} {id : Int64} {s' : Forward × Progress}
    {sent : List Message} (hj : Judged P p id s' sent) {seen : List Row} {sent₀ : List Message}
    (hr : Reported P seen sent₀ [id]) :
    ∃ owed, s'.1.Owes P owed ∧ Reported P seen (sent₀ ++ sent) owed := by
  cases hj with
  | agree => exact ⟨[], rfl, by simpa using hr.drop⟩
  | drift _ hn =>
    cases hn with
    | delivered => exact ⟨[], rfl, hr.send _⟩
    | lost => exact ⟨[], rfl, by simpa using hr.drop⟩
    | waiting w hw => exact ⟨[id], ⟨id, _, hw, rfl⟩, by simpa using hr⟩

/-- An action keeps the leg's reports in order: a read owes the row it returned a report, and
every later move reports, drops or keeps it. -/
theorem Forward.Moves.reported {s s' : Forward × Progress} {rows : List Row}
    {sent : List Message} (hm : Forward.Moves P b c s rows sent s') {seen : List Row}
    {sent₀ : List Message} {owed : List Int64} (howes : s.1.Owes P owed)
    (hr : Reported P seen sent₀ owed) (hs : Table.Sorted (seen ++ rows)) :
    ∃ owed', s'.1.Owes P owed' ∧ Reported P (seen ++ rows) (sent₀ ++ sent) owed' := by
  cases hm with
  | read _ _ htook =>
    subst howes
    have hread : Reported P (seen ++ [_]) sent₀ [_] := hr.read hs (List.Sublist.refl _)
    cases htook with
    | failed => exact ⟨[], rfl, by simpa using hread.drop⟩
    | judged hj => exact hj.reported hread
    | deferred => exact ⟨_, rfl, by simpa using hread⟩
  | settled hj =>
    subst howes
    simpa using hj.reported hr
  | timedOut =>
    subst howes
    exact ⟨[], rfl, by simpa using hr.drop⟩
  | delivered =>
    obtain ⟨id, k, hw, rfl⟩ := howes
    exact ⟨[], rfl, by simpa [hw] using hr.send k⟩
  | lost =>
    obtain ⟨id, k, -, rfl⟩ := howes
    exact ⟨[], rfl, by simpa using hr.drop⟩
  | refused => subst howes; exact ⟨[], Forward.owes_resume _, by simpa using hr⟩
  | exhausted => subst howes; exact ⟨[], Forward.owes_resume _, by simpa using hr⟩
  | _ => exact ⟨owed, howes, by simpa using hr⟩

/-! ## Counts -/

@[simp] theorem Progress.report_lookupFailed (p : Progress) :
    p.lookupFailed.report = { p.report with lookupFailures := p.report.lookupFailures + 1 } := rfl

@[simp] theorem Progress.report_notifyFailed (p : Progress) :
    p.notifyFailed.report = { p.report with notifyFailures := p.report.notifyFailures + 1 } := rfl

@[simp] theorem Progress.report_recorded (p : Progress) (k : DriftKind) :
    (p.recorded k).report = p.report.record k := rfl

@[simp] theorem Progress.report_took (p : Progress) (id : Int64) :
    (p.took id).report = { p.report with baseScanned := p.report.baseScanned + 1 } := rfl

/-- Rows read whose target row the leg still waits for. -/
def Forward.judging : Forward → Nat
  | .lookup .. => 1
  | _ => 0

theorem Forward.judging_resume (r : Resume) : (Forward.resume r).judging = 0 := by
  cases r <;> rfl

theorem Forward.sends_resume (r : Resume) : (Forward.resume r).sends = 0 := by
  cases r <;> rfl

/-- The counts of the leg's report against its log: every row read is counted scanned and
judged at most once, every drift found is on the bus, counted as a failed report or waiting
to be sent, and nothing the other leg counts is counted. -/
structure Forward.Counted (s : Forward × Progress) (seen : List Row) (sent : List Message) :
    Prop where
  scanned : s.2.report.baseScanned = seen.length
  targetScanned : s.2.report.targetScanned = 0
  baseMissing : s.2.report.baseMissing = 0
  judged : s.2.report.targetMissing + s.2.report.neq + s.1.judging ≤ s.2.report.baseScanned
  reports : sent.length + s.2.report.notifyFailures + s.1.sends =
    s.2.report.targetMissing + s.2.report.neq

theorem Forward.counted_start : Forward.Counted (.head, {}) [] [] :=
  ⟨rfl, rfl, rfl, Nat.le_refl _, rfl⟩

/-- Judging a row with room left to judge it counts at most one drift, and that drift is on
the bus, counted as a failed report, or waiting. -/
theorem Judged.counted {p : Progress} {id : Int64} {s' : Forward × Progress}
    {sent : List Message} (hj : Judged P p id s' sent) {seen : List Row} {sent₀ : List Message}
    (hc : Forward.Counted (.head, p) seen sent₀)
    (hroom : p.report.targetMissing + p.report.neq < p.report.baseScanned) :
    Forward.Counted s' seen (sent₀ ++ sent) := by
  obtain ⟨hsc, hts, hbm, -, hrep⟩ := hc
  simp only [Forward.sends] at hsc hts hbm hrep
  cases hj with
  | agree =>
    exact ⟨hsc, hts, hbm, by simp only [Forward.judging]; omega, by simpa [Forward.sends] using hrep⟩
  | @drift k _ _ _ hk hn =>
    cases hn <;> cases k <;> first
      | exact absurd rfl hk
      | exact ⟨by simpa [Report.record] using hsc, by simpa [Report.record] using hts,
          by simpa [Report.record] using hbm,
          by simp [Report.record, Forward.afterSend, Forward.judging]; omega,
          by simp [Report.record, Forward.afterSend, Forward.sends]; omega⟩

/-- Taking a row counts it scanned, and leaves room to judge it. -/
theorem Forward.Took.counted {p : Progress} {row : Row} {s' : Forward × Progress}
    {sent : List Message} (ht : Forward.Took P (p.took row.id) row s' sent) {seen : List Row}
    {sent₀ : List Message} (hc : Forward.Counted (.head, p) seen sent₀) :
    Forward.Counted s' (seen ++ [row]) (sent₀ ++ sent) := by
  obtain ⟨hsc, hts, hbm, hjd, hrep⟩ := hc
  simp only [Forward.judging, Forward.sends] at hsc hts hbm hjd hrep
  cases ht with
  | failed => exact ⟨by simp [hsc], hts, hbm, by simp [Forward.judging]; omega,
      by simpa [Forward.sends] using hrep⟩
  | judged hj =>
    exact hj.counted ⟨by simp [hsc], hts, hbm, by simp [Forward.judging]; omega,
      by simpa [Forward.sends] using hrep⟩ (by simp; omega)
  | deferred => exact ⟨by simp [hsc], hts, hbm, by simp [Forward.judging]; omega,
      by simpa [Forward.sends] using hrep⟩

/-- An action keeps the report's counts in step with the log. -/
theorem Forward.Moves.counted {b : Bool} {c : Cluster} {s s' : Forward × Progress}
    {rows : List Row} {sent : List Message} (hm : Forward.Moves P b c s rows sent s')
    {seen : List Row} {sent₀ : List Message} (hc : Forward.Counted s seen sent₀) :
    Forward.Counted s' (seen ++ rows) (sent₀ ++ sent) := by
  cases hm with
  | read _ _ htook => exact htook.counted hc
  | settled hj =>
    obtain ⟨hsc, hts, hbm, hjd, hrep⟩ := hc
    simp only [Forward.judging, Forward.sends] at hsc hts hbm hjd hrep
    simpa using hj.counted ⟨hsc, hts, hbm, by simp only [Forward.judging]; omega,
      by simpa [Forward.sends] using hrep⟩ (by omega)
  | @refused p p' r now _ habsorb =>
    obtain ⟨hsc, hts, hbm, hjd, hrep⟩ := hc
    simp only [Forward.judging, Forward.sends] at hsc hts hbm hjd hrep
    have hr := Config.report_absorb P.config now p.lookupFailed
    rw [habsorb] at hr
    dsimp only at hr
    rcases hr with hr | hr <;>
      exact ⟨by simp [hr, hsc], by simp [hr, hts], by simp [hr, hbm],
        by simp [hr, Forward.judging_resume]; omega, by simp [hr, Forward.sends_resume]; omega⟩
  | exhausted =>
    obtain ⟨hsc, hts, hbm, hjd, hrep⟩ := hc
    simp only [Forward.judging, Forward.sends] at hsc hts hbm hjd hrep
    exact ⟨by simpa using hsc, hts, hbm, by simp [Forward.judging_resume]; omega,
      by simp [Forward.sends_resume]; omega⟩
  | _ =>
    obtain ⟨hsc, hts, hbm, hjd, hrep⟩ := hc
    simp only [Forward.judging, Forward.sends] at hsc hts hbm hjd hrep
    exact ⟨by simpa using hsc, by simpa using hts, by simpa using hbm,
      by simp [Forward.judging]; omega, by simp [Forward.sends]; omega⟩

/-! ## The replay -/

/-- The leg replayed from its start in a sequence of clusters. -/
def Forward.trace (P : Plan) (env : List (Bool × Cluster)) : Trace (Forward × Progress) :=
  Trace.replay (Forward.move P) (Forward.scanned P) env ⟨(.head, {}), [], []⟩

/-- What the leg keeps true of its log after the actions of `env`. -/
structure Forward.Logged (P : Plan) (env : List (Bool × Cluster))
    (t : Trace (Forward × Progress)) : Prop where
  walked : Walked P P.base env t.seen t.state.2.after
  reported : ∃ owed, t.state.1.Owes P owed ∧ Reported P t.seen t.sent owed
  ended : t.state.1 = .done → Ended P P.base env t.state.2
  counted : Forward.Counted t.state t.seen t.sent

/-- One more action, in a cluster whose base table is sorted, keeps the log. -/
theorem Forward.Logged.step {env : List (Bool × Cluster)} {t : Trace (Forward × Progress)}
    (h : Forward.Logged P env t) (e : Bool × Cluster)
    (hs : ((e.2.node P.base).contents.table P.table).Sorted) :
    Forward.Logged P (env ++ [e]) (Trace.step (Forward.move P) (Forward.scanned P) t e) := by
  obtain ⟨b, c⟩ := e
  obtain ⟨sent, hg, hm⟩ := Forward.step_moves P b c t.state
  have hstep : Trace.step (Forward.move P) (Forward.scanned P) t (b, c) =
      ⟨(Forward.move P b c t.state).1, t.seen ++ Forward.scanned P b c t.state, t.sent ++ sent⟩ := by
    simp only [Trace.step, hg.sent_eq]
  rw [hstep]
  have hw := hm.walked h.walked hs
  obtain ⟨owed, howes, hr⟩ := h.reported
  exact ⟨hw, hm.reported howes hr hw.sorted, fun hd => hm.ended h.ended hd, hm.counted h.counted⟩

/-- Every replay of the leg from its start, in clusters whose base tables are sorted, keeps
the log. -/
theorem Forward.logged_trace (env : List (Bool × Cluster))
    (hs : ∀ e ∈ env, ((e.2.node P.base).contents.table P.table).Sorted) :
    Forward.Logged P env (Forward.trace P env) := by
  induction env using List.reverseRecOn with
  | nil =>
    exact ⟨walked_start, ⟨[], rfl, reported_start⟩, (fun h => by cases h), Forward.counted_start⟩
  | append_singleton env e ih =>
    rw [Forward.trace, Trace.replay_append_singleton]
    exact (ih fun e' he' => hs e' (List.mem_append_left _ he')).step e
      (hs e (List.mem_append_right _ List.mem_cons_self))

end TableMigration.Validation
