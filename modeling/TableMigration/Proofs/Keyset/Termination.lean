import TableMigration.Proofs.Keyset.Cursor
import TableMigration.Proofs.Keyset.Run

/-!
# Proofs.Keyset.Termination

A full pass ends. Its tables do not change, and the failure limit is at least one. Each leg then
has a budget of cursor reads (`Progress.budget`): a run of failed reads for every row past its
cursor, plus what is left of its current run. A failed read spends one from the current run. A
read that finds rows moves the cursor past at least one row and clears the run, so it spends at
least one. A read that finds nothing, or a failed read at the limit, ends the leg. So a leg makes
at most `(n + 1) * limit` cursor reads, where `n` is the number of rows in the table it pages.

Between two cursor reads a leg takes a bounded number of other actions: judging a row and settling
its report, or reporting the ids of a batch. `Spends` says once what an action can do to the work
left (`workLeft`): end the leg, spend budget at the cursor, or move on within the round of a
read. `Forward.spends` and `Backward.spends` show every action of a full pass is one of these. A
poll that finds the run ready lets some leg act, so such polls are bounded by the work left at the
start. A run without its report is ready at once, or at the instant its wake names.

The main statement is `ScanRun.full_pass_ends`.
-/

namespace TableMigration

open TableMigration.Access TableMigration.Store TableMigration.Validation

/-! ## Rows past a cursor -/

/-- The rows of a table past a cursor. -/
def Store.Table.past (T : Table) (after : Option Int64) : Nat :=
  T.countP fun r => after.all (· < r.id)

/-- Moving the cursor onto a row past it leaves fewer rows past the cursor. -/
theorem Store.Table.past_lt {T : Table} {after : Option Int64} {row : Row} (hrow : row ∈ T)
    (hpast : after.all (· < row.id) = true) : T.past (some row.id) < T.past after := by
  -- every row past `row` is past the cursor
  have hmono : ∀ x : Row, (some row.id).all (· < x.id) = true → after.all (· < x.id) = true := by
    intro x hx
    cases after with
    | none => rfl
    | some a =>
      simp only [Option.all_some, decide_eq_true_eq] at hx hpast ⊢
      exact Int64.lt_trans hpast hx
  induction T with
  | nil => cases hrow
  | cons r rs ih =>
    unfold Table.past at ih ⊢
    rw [List.countP_cons, List.countP_cons]
    have hle := List.countP_mono_left (l := rs) fun x _ hx => hmono x hx
    rcases List.mem_cons.mp hrow with rfl | hrow
    · -- the row itself is past the cursor, but not past itself
      have hself : (some row.id).all (· < row.id) = false := by simp
      rw [hself, if_neg Bool.false_ne_true, if_pos hpast]
      omega
    · have hlt := ih hrow
      by_cases hr : (some row.id).all (· < r.id) = true
      · rw [if_pos hr, if_pos (hmono r hr)]
        omega
      · rw [if_neg hr]
        split <;> omega

namespace Validation

/-! ## The budget of cursor reads -/

/-- In a full pass a failed cursor read is retried below the limit and gives up at it. -/
theorem Config.absorb_of_full {cfg : Config} (hfull : cfg.mode = .full) (now : Nat)
    (p : Progress) :
    cfg.absorb now p =
      if p.failures + 1 < cfg.maxConsecutiveFailures then
        (.again, { p with failures := p.failures + 1 })
      else
        (.stop, { p with failures := p.failures + 1, report := { p.report with aborted := true } }) := by
  simp [Config.absorb, Config.intervalMs, hfull]

/-- In a full pass a read that finds nothing ends the leg. -/
theorem Config.idle_of_full {cfg : Config} (hfull : cfg.mode = .full) (now : Nat) :
    cfg.idle now = .stop := by
  simp [Config.idle, Config.intervalMs, hfull]

/-- The cursor reads a leg may still make in a full pass over table `T` with failure limit
`max`: a run of failed reads for each row past its cursor, and the rest of its current run. -/
def Progress.budget (max : Nat) (T : Table) (p : Progress) : Nat :=
  T.past p.after * max + (max - p.failures)

/-- A leg at its start may read a run of failures for every row and one more run. -/
theorem Progress.budget_start (max : Nat) (T : Table) :
    ({} : Progress).budget max T = (T.length + 1) * max := by
  simp [Progress.budget, Table.past, Nat.succ_mul]

theorem Progress.budget_pos {max : Nat} (T : Table) {p : Progress} (h : p.failures < max) :
    0 < p.budget max T := by
  unfold Progress.budget
  omega

/-- A failed read below the limit spends one read of the current run. -/
theorem Progress.budget_failed {max : Nat} (T : Table) {p p' : Progress}
    (hafter : p'.after = p.after) (hfail : p'.failures = p.failures + 1) (h : p.failures < max) :
    p'.budget max T + 1 = p.budget max T := by
  unfold Progress.budget
  rw [hafter, hfail]
  omega

/-- A read that moves the cursor onto a row past it and clears the run spends at least one read:
the row's run is gone, and the new run is no longer than the old one was at its start. -/
theorem Progress.budget_took {max : Nat} {T : Table} {p p' : Progress} {row : Row}
    (hrow : row ∈ T) (hpast : p.after.all (· < row.id) = true) (hafter : p'.after = some row.id)
    (hfail : p'.failures = 0) (hp : p.failures < max) : p'.budget max T < p.budget max T := by
  have hlt := Table.past_lt hrow hpast
  have hmul : (T.past (some row.id) + 1) * max ≤ T.past p.after * max := Nat.mul_le_mul_right _ hlt
  rw [Nat.succ_mul] at hmul
  unfold Progress.budget
  rw [hafter, hfail]
  omega

/-- A read that moves the cursor onto the last row of a nonempty page past it and clears the run
spends at least one read. -/
theorem Progress.budget_page {max : Nat} {T : Table} {since : Option Int64} {limit : Nat}
    {p p' : Progress} {rows : List Row} (hpage : page T since p.after limit = rows)
    (hne : rows ≠ []) (hafter : p'.after = rows.getLast?.map (·.id)) (hfail : p'.failures = 0)
    (hp : p.failures < max) : p'.budget max T < p.budget max T := by
  have hlast : rows.getLast hne ∈ page T since p.after limit := by
    rw [hpage]
    exact List.getLast_mem hne
  obtain ⟨hrow, helig⟩ := mem_page hlast
  refine Progress.budget_took hrow helig.1 ?_ hfail hp
  rw [hafter, List.getLast?_eq_some_getLast hne]
  rfl

/-- A failed cursor read of a full pass ends the leg, or is retried one failure further into the
run: still below the limit, with less budget left. -/
theorem Config.absorb_spends {cfg : Config} (hfull : cfg.mode = .full) (T : Table) {now : Nat}
    {p p' : Progress} {r : Resume} (habsorb : cfg.absorb now p.lookupFailed = (r, p'))
    (hp : p.failures < cfg.maxConsecutiveFailures) :
    r = .stop ∨ r = .again ∧ p'.failures < cfg.maxConsecutiveFailures ∧
      p'.budget cfg.maxConsecutiveFailures T < p.budget cfg.maxConsecutiveFailures T := by
  rw [Config.absorb_of_full hfull] at habsorb
  split_ifs at habsorb with hlt
  · -- retried: one read of the current run is spent
    obtain ⟨rfl, rfl⟩ := Prod.mk.inj habsorb
    have hspent : ({ p.lookupFailed with failures := p.lookupFailed.failures + 1 } :
        Progress).budget cfg.maxConsecutiveFailures T + 1 =
        p.budget cfg.maxConsecutiveFailures T := Progress.budget_failed T rfl rfl hp
    exact .inr ⟨rfl, hlt, Nat.lt_of_lt_of_eq (Nat.lt_succ_self _) hspent⟩
  · obtain ⟨rfl, -⟩ := Prod.mk.inj habsorb
    exact .inl rfl

/-! ## What an action spends -/

section Spending

variable {σ : Type} (done : σ → Bool) (extra : σ → Nat) (K max : Nat) (T : Table)

/-- The work a leg has left in a full pass: for each cursor read of its budget a round of at most
`K` actions, plus what is left of the current round. -/
def workLeft (s : σ × Progress) : Nat :=
  if done s.1 then 0 else K * s.2.budget max T + extra s.1

/-- The cursor reads a leg has left in a full pass. -/
def readsLeft (s : σ × Progress) : Nat :=
  if done s.1 then 0 else s.2.budget max T

/-- What one action of a leg in a full pass can do to the work left: end the leg; read at the
cursor, spending budget and staying below the failure limit, into a round of fewer than `K`
actions; or keep the cursor and move on within the round. The flag says whether the action read
at the cursor. -/
inductive Spends : Bool → σ × Progress → σ × Progress → Prop
  | ends {read : Bool} {s s' : σ × Progress} (hdone : done s'.1 = true) : Spends read s s'
  | reads {s s' : σ × Progress} (hfit : s'.2.failures < max)
      (hspent : s'.2.budget max T < s.2.budget max T) (hround : extra s'.1 < K) :
      Spends true s s'
  | quiet {s s' : σ × Progress} (hsame : s.2.SameCursor s'.2) (hround : extra s'.1 < extra s.1) :
      Spends false s s'

variable {done extra K max T}

/-- Every action of a leg still in its loop and below the failure limit does some of its work,
and leaves it out of the loop or below the limit. -/
theorem Spends.work_lt {read : Bool} {s s' : σ × Progress}
    (h : Spends done extra K max T read s s') (hK : 0 < K) (hnd : done s.1 = false)
    (hfit : s.2.failures < max) :
    workLeft done extra K max T s' < workLeft done extra K max T s ∧
      (done s'.1 = false → s'.2.failures < max) := by
  have hpos := Progress.budget_pos T hfit
  unfold workLeft
  rw [hnd, if_neg Bool.false_ne_true]
  cases h with
  | ends hdone =>
    rw [if_pos hdone]
    exact ⟨Nat.lt_of_lt_of_le (Nat.mul_pos hK hpos) (Nat.le_add_right _ _),
      fun h => absurd hdone (by rw [h]; decide)⟩
  | reads hfit' hspent hround =>
    refine ⟨?_, fun _ => hfit'⟩
    have hmul : K * (s'.2.budget max T + 1) ≤ K * s.2.budget max T := Nat.mul_le_mul_left _ hspent
    rw [Nat.mul_succ] at hmul
    split <;> omega
  | quiet hsame hround =>
    refine ⟨?_, fun _ => hsame.failures ▸ hfit⟩
    have hbudget : s'.2.budget max T = s.2.budget max T := by
      unfold Progress.budget
      rw [hsame.after, hsame.failures]
    rw [hbudget]
    split <;> omega

/-- A cursor read of a leg still in its loop spends one of the reads it has left. -/
theorem Spends.reads_le {read : Bool} {s s' : σ × Progress}
    (h : Spends done extra K max T read s s') (hnd : done s.1 = false)
    (hfit : s.2.failures < max) :
    readsLeft done max T s' + (if read then 1 else 0) ≤ readsLeft done max T s := by
  have hpos := Progress.budget_pos T hfit
  unfold readsLeft
  rw [hnd, if_neg Bool.false_ne_true]
  cases h with
  | ends hdone =>
    rw [if_pos hdone]
    split <;> omega
  | reads _ hspent _ =>
    simp only [if_true]
    split <;> omega
  | quiet hsame _ =>
    have hbudget : s'.2.budget max T = s.2.budget max T := by
      unfold Progress.budget
      rw [hsame.after, hsame.failures]
    simp only [Bool.false_eq_true, if_false]
    split <;> omega

/-- A leg in its loop and below the failure limit has work left. -/
theorem workLeft_pos {s : σ × Progress} (hK : 0 < K) (hnd : done s.1 = false)
    (hfit : s.2.failures < max) : 0 < workLeft done extra K max T s := by
  unfold workLeft
  rw [hnd, if_neg Bool.false_ne_true]
  exact Nat.lt_of_lt_of_le (Nat.mul_pos hK (Progress.budget_pos T hfit)) (Nat.le_add_right _ _)

/-- An action keeps a leg out of its loop or below the failure limit. -/
theorem Spends.fits {read : Bool} {s s' : σ × Progress}
    (h : Spends done extra K max T read s s') (hfit : s.2.failures < max) :
    done s'.1 = false → s'.2.failures < max := by
  cases h with
  | ends hdone => exact fun h => absurd hdone (by rw [h]; decide)
  | reads hfit' => exact fun _ => hfit'
  | quiet hsame => exact fun _ => hsame.failures ▸ hfit

/-- The cursor reads of a replay of a leg in a full pass are at most the reads it had left: by
induction on the actions, each a `Spends` while the leg is in its loop, the leg staying out
once out. -/
theorem Spends.log_length {move : Bool → Cluster → σ × Progress → (σ × Progress) × Cluster}
    {cursor : Bool → Cluster → σ × Progress → Option CursorRead} (env : List (Bool × Cluster))
    (hstep : ∀ e ∈ env, ∀ s : σ × Progress, done s.1 = false → s.2.failures < max →
      Spends done extra K max T (cursor e.1 e.2 s).isSome s (move e.1 e.2 s).1)
    (hdone : ∀ e ∈ env, ∀ s : σ × Progress, done s.1 = true →
      cursor e.1 e.2 s = none ∧ done (move e.1 e.2 s).1.1 = true) :
    ∀ s : σ × Progress, (done s.1 = false → s.2.failures < max) →
      (Trace.log move cursor env s).length ≤ readsLeft done max T s := by
  induction env with
  | nil => intro s _; exact Nat.zero_le _
  | cons e env ih =>
    intro s hfit
    have hstep' := fun e' he' => hstep e' (List.mem_cons_of_mem e he')
    have hdone' := fun e' he' => hdone e' (List.mem_cons_of_mem e he')
    rw [Trace.log, List.length_append]
    cases hs : done s.1 with
    | true =>
      -- a leg out of its loop reads nothing more
      obtain ⟨hnone, hdone₁⟩ := hdone e List.mem_cons_self s hs
      have hrest := ih hstep' hdone' (move e.1 e.2 s).1 (fun h => absurd hdone₁ (by rw [h]; decide))
      rw [readsLeft, if_pos hdone₁] at hrest
      rw [hnone, readsLeft, if_pos hs]
      simpa using hrest
    | false =>
      have hsp := hstep e List.mem_cons_self s hs (hfit hs)
      have hrest := ih hstep' hdone' (move e.1 e.2 s).1 (hsp.fits (hfit hs))
      have hle := hsp.reads_le hs (hfit hs)
      cases hc : cursor e.1 e.2 s with
      | none =>
        rw [hc] at hle
        simp only [Option.isSome_none, Bool.false_eq_true, if_false] at hle
        simp only [Option.toList_none, List.length_nil]
        omega
      | some r =>
        rw [hc] at hle
        simp only [Option.isSome_some, if_true] at hle
        simp only [Option.toList_some, List.length_singleton]
        omega

end Spending

/-! ## Every action of a full pass spends -/

/-- Whether the base-to-target leg is out of its loop. -/
def Forward.isDone : Forward → Bool
  | .done => true
  | _ => false

/-- What is left of the round of the base-to-target leg's last cursor read: judging the row
takes an action and settling its report another. -/
def Forward.extra : Forward → Nat
  | .lookup .. => 2
  | .sending _ => 1
  | .pausing _ => 1
  | _ => 0

theorem Forward.extra_lt (f : Forward) : f.extra < 3 := by
  cases f <;> simp [Forward.extra]

theorem Judged.extra_le {p : Progress} {id : Int64} {s' : Forward × Progress}
    {sent : List Message} (h : Judged P p id s' sent) : s'.1.extra ≤ 1 := by
  cases h with
  | agree => simp [Forward.extra]
  | drift _ hn => cases hn <;> simp [Forward.afterSend, Forward.extra]

/-- Every action of the base-to-target leg in a full pass over base table `T` spends: a round of
a cursor read takes at most three actions. -/
theorem Forward.spends (hfull : P.config.mode = .full) (hmax : 0 < P.config.maxConsecutiveFailures)
    {b : Bool} {c : Cluster} {T : Table} (hT : (c.node P.base).contents.table P.table = T)
    {s : Forward × Progress} (hfit : s.1.isDone = false → s.2.failures < P.config.maxConsecutiveFailures) :
    Spends Forward.isDone Forward.extra 3 P.config.maxConsecutiveFailures T
      (Forward.cursor P b c s).isSome s (Forward.move P b c s).1 := by
  obtain ⟨f, p⟩ := s
  cases f with
  | head =>
    have hp : p.failures < P.config.maxConsecutiveFailures := hfit rfl
    cases b with
    | true => exact .ends rfl
    | false =>
      obtain ⟨r, hr, hreads⟩ := Forward.head_reads P c p
      rw [hr, Option.isSome_some]
      generalize (Forward.move P false c (.head, p)).1 = s' at hreads ⊢
      cases hreads with
      | failed habsorb =>
        rcases Config.absorb_spends hfull T habsorb hp with rfl | ⟨rfl, hfit', hspent⟩
        · exact .ends rfl
        · exact .reads hfit' hspent (Forward.extra_lt _)
      | empty =>
        rw [Config.idle_of_full hfull]
        exact .ends rfl
      | found hpage htook =>
        obtain ⟨hafter, hfail, -⟩ := htook.took
        rw [hT] at hpage
        exact .reads (by rw [hfail]; exact hmax)
          (Progress.budget_page hpage (List.cons_ne_nil _ _) (by rw [hafter]; rfl) hfail hp)
          (Forward.extra_lt _)
  | lookup id base readyAt deadline =>
    obtain ⟨sent, -, hm⟩ := Forward.step_moves P b c (.lookup id base readyAt deadline, p)
    generalize Forward.scanned P b c _ = rows at hm
    generalize (Forward.move P b c _).1 = s' at hm ⊢
    cases hm with
    | settled hj => exact .quiet hj.sameCursor (Nat.lt_of_le_of_lt hj.extra_le (by simp [Forward.extra]))
    | timedOut => exact .quiet (.lookupFailed p) (by simp [Forward.extra])
  | sending w =>
    obtain ⟨sent, -, hm⟩ := Forward.step_moves P b c (.sending w, p)
    generalize Forward.scanned P b c _ = rows at hm
    generalize (Forward.move P b c _).1 = s' at hm ⊢
    cases hm with
    | delivered => exact .quiet (.refl p) (by simp [Forward.extra])
    | lost => exact .quiet (.notifyFailed p) (by simp [Forward.extra])
  | pausing t =>
    cases b with
    | true => exact .ends rfl
    | false => exact .quiet (.refl p) (by simp [Forward.extra, Forward.move, Forward.step])
  | done => exact .ends rfl

/-- Whether the target-to-base leg is out of its loop. -/
def Backward.isDone : Backward → Bool
  | .done => true
  | _ => false

/-- What is left of the round of the target-to-base leg's last batch: two actions for each id
still owed a report (its first attempt, then settling it) and one to end the batch. -/
def Backward.extra : Backward → Nat
  | .publish missing _ => 2 * missing.length + 1
  | .sending _ missing _ => 2 * missing.length + 2
  | .pausing _ => 1
  | _ => 0

/-- Every action of the target-to-base leg in a full pass over target table `T` spends: the
round of a batch read takes at most two actions per row of the batch and one more. -/
theorem Backward.spends (hfull : P.config.mode = .full)
    (hmax : 0 < P.config.maxConsecutiveFailures) {b : Bool} {c : Cluster} {T : Table}
    (hT : (c.node P.target).contents.table P.table = T) {s : Backward × Progress}
    (hfit : s.1.isDone = false → s.2.failures < P.config.maxConsecutiveFailures) :
    Spends Backward.isDone Backward.extra (2 * P.config.batchSize + 2)
      P.config.maxConsecutiveFailures T (Backward.cursor P b c s).isSome s
      (Backward.move P b c s).1 := by
  obtain ⟨f, p⟩ := s
  cases f with
  | head =>
    have hp : p.failures < P.config.maxConsecutiveFailures := hfit rfl
    cases b with
    | true => exact .ends rfl
    | false =>
      obtain ⟨r, hr, hreads⟩ := Backward.head_reads P c p
      rw [hr, Option.isSome_some]
      generalize (Backward.move P false c (.head, p)).1 = s' at hreads ⊢
      cases hreads with
      | failed habsorb =>
        rcases Config.absorb_spends hfull T habsorb hp with rfl | ⟨rfl, hfit', hspent⟩
        · exact .ends rfl
        · exact .reads hfit' hspent (by simp [Backward.resume, Backward.extra])
      | empty =>
        rw [Config.idle_of_full hfull]
        exact .ends rfl
      | @found rows missing p' hpage hne hmissing hp' =>
        obtain ⟨hafter, hfail, -⟩ := Progress.tookBatch_or hp'
        rw [hT] at hpage
        -- the batch owes reports only to its own ids, so the round fits a page
        have hlen : missing.length ≤ P.config.batchSize :=
          calc missing.length
              _ ≤ (rows.map (·.id)).length := hmissing.length_le
              _ = rows.length := List.length_map _
              _ ≤ P.config.batchSize := hpage ▸ length_page_le _ _ _ _
        exact .reads (by rw [hfail]; exact hmax) (Progress.budget_page hpage hne hafter hfail hp)
          (by simp only [Backward.extra]; omega)
  | publish missing n =>
    obtain ⟨sent, -, hm⟩ := Backward.step_moves P b c (.publish missing n, p)
    generalize Backward.scanned P b c _ = rows at hm
    generalize (Backward.move P b c _).1 = s' at hm ⊢
    cases hm with
    | drained =>
      rw [Config.idle_of_full hfull]
      exact .ends rfl
    | next => exact .quiet (.refl p) (by simp [Backward.extra])
    | notified hn =>
      exact .quiet hn.sameCursor
        (by cases hn <;> simp only [Backward.afterSend, Backward.extra, List.length_cons] <;> omega)
  | sending w missing n =>
    obtain ⟨sent, -, hm⟩ := Backward.step_moves P b c (.sending w missing n, p)
    generalize Backward.scanned P b c _ = rows at hm
    generalize (Backward.move P b c _).1 = s' at hm ⊢
    cases hm with
    | delivered => exact .quiet (.refl p) (by simp [Backward.extra])
    | lost => exact .quiet (.notifyFailed p) (by simp [Backward.extra])
  | pausing t =>
    cases b with
    | true => exact .ends rfl
    | false => exact .quiet (.refl p) (by simp [Backward.extra, Backward.move, Backward.step])
  | done => exact .ends rfl

/-! ## A leg's turn -/

theorem Forward.isDone_of_ready {b : Bool} {c : Cluster} {f : Forward} (h : f.ready b c = true) :
    f.isDone = false := by
  cases f <;> simp_all [Forward.ready, Forward.isDone]

theorem Backward.isDone_of_ready {b : Bool} {c : Cluster} {f : Backward} (h : f.ready b c = true) :
    f.isDone = false := by
  cases f <;> simp_all [Backward.ready, Backward.isDone]

/-- A turn of the base-to-target leg in a full pass over base table `T` keeps the leg out of its
loop or below the failure limit and adds no work; a leg that was ready did some work, and one
that was not did nothing: by induction on the fuel, each action a `Spends`. -/
theorem Forward.run_work (hfull : P.config.mode = .full)
    (hmax : 0 < P.config.maxConsecutiveFailures) {T : Table} (b : Bool) :
    ∀ (fuel : Nat) (s : Forward × Progress) (c : Cluster),
      (c.node P.base).contents.table P.table = T →
      (s.1.isDone = false → s.2.failures < P.config.maxConsecutiveFailures) →
      let out := ScanRun.runForward P b fuel s c
      (out.1.1.isDone = false → out.1.2.failures < P.config.maxConsecutiveFailures) ∧
      workLeft Forward.isDone Forward.extra 3 P.config.maxConsecutiveFailures T out.1 ≤
        workLeft Forward.isDone Forward.extra 3 P.config.maxConsecutiveFailures T s ∧
      (0 < fuel → s.1.ready b c = true →
        workLeft Forward.isDone Forward.extra 3 P.config.maxConsecutiveFailures T out.1 <
          workLeft Forward.isDone Forward.extra 3 P.config.maxConsecutiveFailures T s) ∧
      (s.1.ready b c = false → out = (s, c))
  | 0, s, c, _, hfit => ⟨hfit, le_rfl, fun h => absurd h (Nat.lt_irrefl 0), fun _ => rfl⟩
  | fuel + 1, s, c, hT, hfit => by
    dsimp only
    unfold ScanRun.runForward
    split
    · rename_i hready
      have hnd := Forward.isDone_of_ready hready
      obtain ⟨sent, hg, -⟩ := Forward.step_moves P b c s
      have hsp := Forward.spends hfull hmax (b := b) hT hfit
      rcases hstep : Forward.step P b c s with ⟨f, p, c'⟩
      have hmove : Forward.move P b c s = ((f, p), c') := by simp [Forward.move, hstep]
      rw [hmove] at hsp hg
      obtain ⟨hlt, hfit'⟩ := hsp.work_lt (by decide) hnd (hfit hnd)
      have hT' : (c'.node P.base).contents.table P.table = T := by rw [hg.rows P.base]; exact hT
      obtain ⟨h₁, h₂, -, -⟩ := Forward.run_work hfull hmax b fuel (f, p) c' hT' hfit'
      exact ⟨h₁, Nat.le_of_lt (Nat.lt_of_le_of_lt h₂ hlt), fun _ _ => Nat.lt_of_le_of_lt h₂ hlt,
        fun h => absurd hready (by rw [h]; decide)⟩
    · rename_i hready
      exact ⟨hfit, le_rfl, fun _ h => absurd h hready, fun _ => rfl⟩

/-- A turn of the target-to-base leg in a full pass over target table `T`, as
`Forward.run_work`. -/
theorem Backward.run_work (hfull : P.config.mode = .full)
    (hmax : 0 < P.config.maxConsecutiveFailures) {T : Table} (b : Bool) :
    ∀ (fuel : Nat) (s : Backward × Progress) (c : Cluster),
      (c.node P.target).contents.table P.table = T →
      (s.1.isDone = false → s.2.failures < P.config.maxConsecutiveFailures) →
      let out := ScanRun.runBackward P b fuel s c
      (out.1.1.isDone = false → out.1.2.failures < P.config.maxConsecutiveFailures) ∧
      workLeft Backward.isDone Backward.extra (2 * P.config.batchSize + 2)
          P.config.maxConsecutiveFailures T out.1 ≤
        workLeft Backward.isDone Backward.extra (2 * P.config.batchSize + 2)
          P.config.maxConsecutiveFailures T s ∧
      (0 < fuel → s.1.ready b c = true →
        workLeft Backward.isDone Backward.extra (2 * P.config.batchSize + 2)
            P.config.maxConsecutiveFailures T out.1 <
          workLeft Backward.isDone Backward.extra (2 * P.config.batchSize + 2)
            P.config.maxConsecutiveFailures T s) ∧
      (s.1.ready b c = false → out = (s, c))
  | 0, s, c, _, hfit => ⟨hfit, le_rfl, fun h => absurd h (Nat.lt_irrefl 0), fun _ => rfl⟩
  | fuel + 1, s, c, hT, hfit => by
    dsimp only
    unfold ScanRun.runBackward
    split
    · rename_i hready
      have hnd := Backward.isDone_of_ready hready
      obtain ⟨sent, hg, -⟩ := Backward.step_moves P b c s
      have hsp := Backward.spends hfull hmax (b := b) hT hfit
      rcases hstep : Backward.step P b c s with ⟨f, p, c'⟩
      have hmove : Backward.move P b c s = ((f, p), c') := by simp [Backward.move, hstep]
      rw [hmove] at hsp hg
      obtain ⟨hlt, hfit'⟩ := hsp.work_lt (by omega) hnd (hfit hnd)
      have hT' : (c'.node P.target).contents.table P.table = T := by
        rw [hg.rows P.target]
        exact hT
      obtain ⟨h₁, h₂, -, -⟩ := Backward.run_work hfull hmax b fuel (f, p) c' hT' hfit'
      exact ⟨h₁, Nat.le_of_lt (Nat.lt_of_le_of_lt h₂ hlt), fun _ _ => Nat.lt_of_le_of_lt h₂ hlt,
        fun h => absurd hready (by rw [h]; decide)⟩
    · rename_i hready
      exact ⟨hfit, le_rfl, fun _ h => absurd h hready, fun _ => rfl⟩

/-! ## A poll -/

/-- A poll runs first the leg whose turn comes first, in the poll's cluster, then the other in the
cluster the first left. It keeps the plan, counts itself, and makes the report once both legs are
done. -/
theorem ScanRun.poll_order (r : ScanRun) (b : Bool) (c : Cluster) :
    ∃ cf cb : Cluster,
      (cf = c ∧ cb = (runForward r.plan b pollBudget (r.forward, r.forwardProgress) c).2 ∨
        cb = c ∧ cf = (runBackward r.plan b pollBudget (r.backward, r.backwardProgress) c).2) ∧
      ((r.poll b c).1.forward, (r.poll b c).1.forwardProgress) =
        (runForward r.plan b pollBudget (r.forward, r.forwardProgress) cf).1 ∧
      ((r.poll b c).1.backward, (r.poll b c).1.backwardProgress) =
        (runBackward r.plan b pollBudget (r.backward, r.backwardProgress) cb).1 ∧
      (r.poll b c).1.plan = r.plan ∧ (r.poll b c).1.polls = r.polls + 1 ∧
      ((r.poll b c).1.report = none → (r.poll b c).1.legsDone = false) := by
  obtain ⟨sf, sb, c₁, c₂, hturns, hpoll⟩ := r.poll_turns b c
  rw [hpoll]
  rcases hturns with ⟨h₁, h₂⟩ | ⟨h₁, h₂⟩
  · refine ⟨c, c₁, .inl ⟨rfl, by rw [h₁]⟩, ?_⟩
    rw [h₁, h₂]
    split <;> rename_i hd <;> simp only [ScanRun.legsDone] at hd ⊢ <;> simp [hd]
  · refine ⟨c₁, c, .inr ⟨rfl, by rw [h₁]⟩, ?_⟩
    rw [h₁, h₂]
    split <;> rename_i hd <;> simp only [ScanRun.legsDone] at hd ⊢ <;> simp [hd]

/-- The work a run has left in a full pass over base table `B` and target table `T`. -/
def ScanRun.workLeft (B T : Table) (r : ScanRun) : Nat :=
  Validation.workLeft Forward.isDone Forward.extra 3 r.plan.config.maxConsecutiveFailures B
      (r.forward, r.forwardProgress) +
    Validation.workLeft Backward.isDone Backward.extra (2 * r.plan.config.batchSize + 2)
      r.plan.config.maxConsecutiveFailures T (r.backward, r.backwardProgress)

/-- What a full pass keeps from poll to poll: each leg is out of its loop or below the failure
limit, a run never polled has its base-to-target leg at the top, and a polled run without its
report has a leg in its loop. -/
structure ScanRun.Going (r : ScanRun) : Prop where
  forward : r.forward.isDone = false →
    r.forwardProgress.failures < r.plan.config.maxConsecutiveFailures
  backward : r.backward.isDone = false →
    r.backwardProgress.failures < r.plan.config.maxConsecutiveFailures
  fresh : r.polls = 0 → r.forward = .head
  pending : r.report = none → r.polls ≠ 0 → r.legsDone = false

theorem ScanRun.going_start (P : Plan) (hmax : 0 < P.config.maxConsecutiveFailures) :
    (ScanRun.start P).Going :=
  ⟨fun _ => hmax, fun _ => hmax, fun _ => rfl, fun _ h => absurd rfl h⟩

/-- A poll of a full pass, in a cluster holding the pass's tables, keeps it going and adds no
work; a poll that found the run ready did some work. -/
theorem ScanRun.Going.poll {r : ScanRun} (h : r.Going) (hfull : r.plan.config.mode = .full)
    (hmax : 0 < r.plan.config.maxConsecutiveFailures) {B T : Table} (b : Bool) (c : Cluster)
    (hB : (c.node r.plan.base).contents.table r.plan.table = B)
    (hT : (c.node r.plan.target).contents.table r.plan.table = T) :
    (r.poll b c).1.Going ∧
      (r.poll b c).1.workLeft B T + (if r.ready b c then 1 else 0) ≤ r.workLeft B T := by
  obtain ⟨cf, cb, horder, hf, hb, hplan, hpolls, hpending⟩ := r.poll_order b c
  -- the clusters both legs act in hold the poll's tables
  have hrowsF := (runForward_replay r.plan b pollBudget (r.forward, r.forwardProgress) c).choose_spec.2.1
  have hrowsB := (runBackward_replay r.plan b pollBudget (r.backward, r.backwardProgress) c).choose_spec.2.1
  have hBf : (cf.node r.plan.base).contents.table r.plan.table = B := by
    rcases horder with ⟨rfl, -⟩ | ⟨-, rfl⟩
    · exact hB
    · rw [hrowsB]; exact hB
  have hTb : (cb.node r.plan.target).contents.table r.plan.table = T := by
    rcases horder with ⟨-, rfl⟩ | ⟨rfl, -⟩
    · rw [hrowsF]; exact hT
    · exact hT
  obtain ⟨hfitF, hleF, hltF, hidleF⟩ :=
    Forward.run_work hfull hmax b pollBudget (r.forward, r.forwardProgress) cf hBf h.forward
  obtain ⟨hfitB, hleB, hltB, hidleB⟩ :=
    Backward.run_work hfull hmax b pollBudget (r.backward, r.backwardProgress) cb hTb h.backward
  rw [← hf] at hfitF hleF hltF
  rw [← hb] at hfitB hleB hltB
  refine ⟨⟨?_, ?_, fun h0 => absurd h0 (by omega), fun hr _ => hpending hr⟩, ?_⟩
  · rw [hplan]; exact hfitF
  · rw [hplan]; exact hfitB
  unfold ScanRun.workLeft
  rw [hplan]
  split
  · -- a ready run has a ready leg; the leg that acts first acts in the poll's cluster, and a
    -- first leg that is not ready leaves that cluster to the second
    rename_i hready
    simp only [ScanRun.ready, Bool.and_eq_true, Bool.or_eq_true, beq_iff_eq] at hready
    have hready' : r.forward.ready b c = true ∨ r.backward.ready b c = true := by
      rcases hready.2 with (h0 | hF) | hB'
      · exact .inl (by rw [h.fresh h0]; rfl)
      · exact .inl hF
      · exact .inr hB'
    rcases horder with ⟨hcf, hcb⟩ | ⟨hcb, hcf⟩
    · rw [hcf] at hltF hidleF
      by_cases hF : r.forward.ready b c = true
      · have := hltF (by decide) hF
        omega
      · rw [hidleF (by simpa using hF)] at hcb
        rw [hcb] at hltB
        have := hltB (by decide) (hready'.resolve_left hF)
        omega
    · rw [hcb] at hltB hidleB
      by_cases hB' : r.backward.ready b c = true
      · have := hltB (by decide) hB'
        omega
      · rw [hidleB (by simpa using hB')] at hcf
        rw [hcf] at hltF
        have := hltF (by decide) (hready'.resolve_right hB')
        omega
  · omega

/-! ## Polls of a full pass -/

/-- How many polls of a sequence found the run with something to do. -/
def ScanRun.readyPolls : List (Bool × Cluster) → ScanRun → Nat
  | [], _ => 0
  | e :: env, r => (if r.ready e.1 e.2 then 1 else 0) + ScanRun.readyPolls env (r.poll e.1 e.2).1

/-- Polls of a full pass in clusters holding its tables keep it going, and those that found it
ready are at most the work it had left less the work it has left: by induction on the polls. -/
theorem ScanRun.Going.replay {r : ScanRun} (h : r.Going) (hfull : r.plan.config.mode = .full)
    (hmax : 0 < r.plan.config.maxConsecutiveFailures) {B T : Table} (env : List (Bool × Cluster))
    (hstatic : ∀ e ∈ env, (e.2.node r.plan.base).contents.table r.plan.table = B ∧
      (e.2.node r.plan.target).contents.table r.plan.table = T) :
    (ScanRun.replay env r).Going ∧
      ScanRun.readyPolls env r + (ScanRun.replay env r).workLeft B T ≤ r.workLeft B T := by
  induction env generalizing r with
  | nil => exact ⟨h, by simp [ScanRun.readyPolls, ScanRun.replay]⟩
  | cons e env ih =>
    obtain ⟨hB, hT⟩ := hstatic e List.mem_cons_self
    obtain ⟨hgoing, hle⟩ := h.poll hfull hmax e.1 e.2 hB hT
    have hplan : (r.poll e.1 e.2).1.plan = r.plan := (r.poll_order e.1 e.2).choose_spec.choose_spec.2.2.2.1
    rw [← hplan] at hfull hmax hstatic
    obtain ⟨hgoing', hle'⟩ :=
      ih hgoing hfull hmax fun e' he' => hstatic e' (List.mem_cons_of_mem e he')
    refine ⟨hgoing', ?_⟩
    show (if r.ready e.1 e.2 then 1 else 0) + ScanRun.readyPolls env (r.poll e.1 e.2).1 +
      (ScanRun.replay env (r.poll e.1 e.2).1).workLeft B T ≤ r.workLeft B T
    omega

theorem Forward.isDone_eq_true {f : Forward} : f.isDone = true ↔ f = .done := by
  cases f <;> simp [Forward.isDone]

theorem Backward.isDone_eq_true {f : Backward} : f.isDone = true ↔ f = .done := by
  cases f <;> simp [Backward.isDone]

/-- A going run without its report has work left. -/
theorem ScanRun.Going.work_pos {r : ScanRun} (h : r.Going) (hreport : r.report = none)
    (B T : Table) : 0 < r.workLeft B T := by
  unfold ScanRun.workLeft
  by_cases h0 : r.polls = 0
  · -- never polled: the base-to-target leg is at the top of its loop
    have hF : r.forward.isDone = false := by rw [h.fresh h0]; rfl
    have hw : 0 < Validation.workLeft Forward.isDone Forward.extra 3
        r.plan.config.maxConsecutiveFailures B (r.forward, r.forwardProgress) :=
      workLeft_pos (by decide) hF (h.forward hF)
    omega
  · -- polled without a report: a leg is still in its loop
    have hlegs := h.pending hreport h0
    cases hF : r.forward.isDone with
    | false =>
      have hw : 0 < Validation.workLeft Forward.isDone Forward.extra 3
          r.plan.config.maxConsecutiveFailures B (r.forward, r.forwardProgress) :=
        workLeft_pos (by decide) hF (h.forward hF)
      omega
    | true =>
      have hB : r.backward.isDone = false := by
        cases hB : r.backward.isDone with
        | false => rfl
        | true =>
          have := (ScanRun.legsDone_iff r).mpr
            ⟨Forward.isDone_eq_true.mp hF, Backward.isDone_eq_true.mp hB⟩
          rw [hlegs] at this
          cases this
      have hw : 0 < Validation.workLeft Backward.isDone Backward.extra
          (2 * r.plan.config.batchSize + 2) r.plan.config.maxConsecutiveFailures T
          (r.backward, r.backwardProgress) :=
        workLeft_pos (by omega) hB (h.backward hB)
      omega

/-! ## Waking -/

/-- The instant the base-to-target leg's clock wakes it, if it waits on one. -/
def Forward.wakeAt : Forward → Option Nat
  | .lookup _ _ readyAt deadline => some (min readyAt deadline)
  | .sending w => some w.deadline
  | .pausing t => some t
  | _ => none

/-- The instant the target-to-base leg's clock wakes it, if it waits on one. -/
def Backward.wakeAt : Backward → Option Nat
  | .sending w _ _ => some w.deadline
  | .pausing t => some t
  | _ => none

theorem ScanRun.wake_eq (r : ScanRun) :
    r.wake =
      match r.forward.wakeAt, r.backward.wakeAt with
      | some x, some y => some (min x y)
      | some x, none => some x
      | none, y => y := by
  unfold ScanRun.wake Forward.wakeAt Backward.wakeAt
  rfl

/-- A leg is ready once its clock reaches its wake, and one in its loop that waits on no clock is
ready at once. -/
theorem Forward.ready_of_wakeAt {f : Forward} {t : Nat} (h : f.wakeAt = some t) (b : Bool)
    {c : Cluster} (hc : t ≤ c.now) : f.ready b c = true := by
  cases f with
  | lookup id base readyAt deadline =>
    simp only [Forward.wakeAt, Option.some.injEq] at h
    simp only [Forward.ready, Bool.or_eq_true, decide_eq_true_eq]
    omega
  | sending w =>
    simp only [Forward.wakeAt, Option.some.injEq] at h
    simp [Forward.ready, Waiting.ready, h ▸ hc]
  | pausing t' =>
    simp only [Forward.wakeAt, Option.some.injEq] at h
    simp [Forward.ready, h ▸ hc]
  | head => cases h
  | done => cases h

theorem Forward.ready_of_wakeAt_none {f : Forward} (h : f.wakeAt = none) (hnd : f.isDone = false)
    (b : Bool) (c : Cluster) : f.ready b c = true := by
  cases f <;> simp_all [Forward.wakeAt, Forward.isDone, Forward.ready]

theorem Backward.ready_of_wakeAt {f : Backward} {t : Nat} (h : f.wakeAt = some t) (b : Bool)
    {c : Cluster} (hc : t ≤ c.now) : f.ready b c = true := by
  cases f with
  | sending w ms n =>
    simp only [Backward.wakeAt, Option.some.injEq] at h
    simp [Backward.ready, Waiting.ready, h ▸ hc]
  | pausing t' =>
    simp only [Backward.wakeAt, Option.some.injEq] at h
    simp [Backward.ready, h ▸ hc]
  | head => cases h
  | publish ms n => cases h
  | done => cases h

theorem Backward.ready_of_wakeAt_none {f : Backward} (h : f.wakeAt = none)
    (hnd : f.isDone = false) (b : Bool) (c : Cluster) : f.ready b c = true := by
  cases f <;> simp_all [Backward.wakeAt, Backward.isDone, Backward.ready]

/-- A going run without its report is ready in every cluster, or ready in every cluster whose
clock has reached the instant its wake names. -/
theorem ScanRun.Going.wakes {r : ScanRun} (h : r.Going) (hreport : r.report = none) :
    (∀ b c, r.ready b c = true) ∨
      ∃ t, r.wake = some t ∧ ∀ b (c : Cluster), t ≤ c.now → r.ready b c = true := by
  have hready : ∀ {b c}, (r.forward.ready b c = true ∨ r.backward.ready b c = true) →
      r.ready b c = true := by
    intro b c hleg
    rcases hleg with hleg | hleg <;> simp [ScanRun.ready, hreport, hleg]
  by_cases h0 : r.polls = 0
  · exact .inl fun b c => by simp [ScanRun.ready, hreport, h0]
  have hlegs := h.pending hreport h0
  rw [ScanRun.wake_eq]
  cases hf : r.forward.wakeAt with
  | none =>
    cases hb : r.backward.wakeAt with
    | none =>
      -- neither leg waits on a clock, and one is in its loop
      refine .inl fun b c => hready ?_
      cases hF : r.forward.isDone with
      | false => exact .inl (Forward.ready_of_wakeAt_none hf hF b c)
      | true =>
        have hB : r.backward.isDone = false := by
          cases hB : r.backward.isDone with
          | false => rfl
          | true =>
            have := (ScanRun.legsDone_iff r).mpr
              ⟨Forward.isDone_eq_true.mp hF, Backward.isDone_eq_true.mp hB⟩
            rw [hlegs] at this
            cases this
        exact .inr (Backward.ready_of_wakeAt_none hb hB b c)
    | some y => exact .inr ⟨y, rfl, fun b c hc => hready (.inr (Backward.ready_of_wakeAt hb b hc))⟩
  | some x =>
    cases hb : r.backward.wakeAt with
    | none => exact .inr ⟨x, rfl, fun b c hc => hready (.inl (Forward.ready_of_wakeAt hf b hc))⟩
    | some y =>
      refine .inr ⟨min x y, rfl, fun b c hc => hready ?_⟩
      by_cases hxy : x ≤ y
      · exact .inl (Forward.ready_of_wakeAt hf b (by omega))
      · exact .inr (Backward.ready_of_wakeAt hb b (by omega))

/-! ## Cursor reads of a full pass -/

/-- A replay of the base-to-target leg of a full pass, in clusters whose base table is `B`, makes
at most `(B.length + 1) * max` cursor reads. -/
theorem Forward.reads_length_le (hfull : P.config.mode = .full)
    (hmax : 0 < P.config.maxConsecutiveFailures) {B : Table} (env : List (Bool × Cluster))
    (hB : ∀ e ∈ env, (e.2.node P.base).contents.table P.table = B) :
    (Forward.reads P env).length ≤ (B.length + 1) * P.config.maxConsecutiveFailures := by
  have hlog := Spends.log_length env
    (fun e he s _ hfit => Forward.spends hfull hmax (b := e.1) (hB e he) (s := s) fun _ => hfit)
    (fun e _ s hs => by
      obtain ⟨f, p⟩ := s
      obtain rfl : f = .done := Forward.isDone_eq_true.mp hs
      exact ⟨rfl, rfl⟩)
    (.head, {}) (fun _ => hmax)
  simpa [Forward.reads, readsLeft, Forward.isDone, Progress.budget_start] using hlog

/-- A replay of the target-to-base leg of a full pass, in clusters whose target table is `T`,
makes at most `(T.length + 1) * max` cursor reads. -/
theorem Backward.reads_length_le (hfull : P.config.mode = .full)
    (hmax : 0 < P.config.maxConsecutiveFailures) {T : Table} (env : List (Bool × Cluster))
    (hT : ∀ e ∈ env, (e.2.node P.target).contents.table P.table = T) :
    (Backward.reads P env).length ≤ (T.length + 1) * P.config.maxConsecutiveFailures := by
  have hlog := Spends.log_length env
    (fun e he s _ hfit => Backward.spends hfull hmax (b := e.1) (hT e he) (s := s) fun _ => hfit)
    (fun e _ s hs => by
      obtain ⟨f, p⟩ := s
      obtain rfl : f = .done := Backward.isDone_eq_true.mp hs
      exact ⟨rfl, rfl⟩)
    (.head, {}) (fun _ => hmax)
  simpa [Backward.reads, readsLeft, Backward.isDone, Progress.budget_start] using hlog

/-! ## A full pass ends -/

/-- A full pass ends. Take a full pass whose failure limit is at least one, and poll it from its
start any number of times, cancelled or not. Each poll is in any cluster whose base table is
`B` and whose target table is `T`, with any faults on the paths and any state of the bus. Then:

* at most `3 * ((B.length + 1) * max) + (2 * batchSize + 2) * ((T.length + 1) * max)` of the
  polls found the run ready, and fewer while it has no report;
* a run without its report is ready in every cluster, or in every cluster whose clock has reached
  the instant its wake names.

So polling the run whenever it is ready, at the latest at its wake, gives its report within that
many polls. Moreover each leg is a replay of actions drawn from the polls, and makes at most
`(n + 1) * max` cursor reads, where `n` is the number of rows of the table it pages. -/
theorem ScanRun.full_pass_ends (P : Plan) (hfull : P.config.mode = .full)
    (hmax : 0 < P.config.maxConsecutiveFailures) (B T : Table) (env : List (Bool × Cluster))
    (hstatic : ∀ e ∈ env, (e.2.node P.base).contents.table P.table = B ∧
      (e.2.node P.target).contents.table P.table = T) :
    let r := ScanRun.replay env (ScanRun.start P)
    let work := 3 * ((B.length + 1) * P.config.maxConsecutiveFailures) +
      (2 * P.config.batchSize + 2) * ((T.length + 1) * P.config.maxConsecutiveFailures)
    ScanRun.readyPolls env (ScanRun.start P) ≤ work ∧
    (r.report = none → ScanRun.readyPolls env (ScanRun.start P) < work ∧
      ((∀ b c, r.ready b c = true) ∨
        ∃ t, r.wake = some t ∧ ∀ b (c : Cluster), t ≤ c.now → r.ready b c = true)) ∧
    ∃ fs bs : List (Bool × Cluster), DrawnFrom fs env ∧ DrawnFrom bs env ∧
      (Forward.trace P fs).state = (r.forward, r.forwardProgress) ∧
      (Backward.trace P bs).state = (r.backward, r.backwardProgress) ∧
      (Forward.reads P fs).length ≤ (B.length + 1) * P.config.maxConsecutiveFailures ∧
      (Backward.reads P bs).length ≤ (T.length + 1) * P.config.maxConsecutiveFailures := by
  intro r work
  -- the polls that found the run ready did work, of which the start had `work`
  obtain ⟨hgoing, hle⟩ := (ScanRun.going_start P hmax).replay hfull hmax env hstatic
  have hstart : (ScanRun.start P).workLeft B T = work := by
    simp only [ScanRun.workLeft, Validation.workLeft, ScanRun.start, Forward.isDone,
      Backward.isDone, Forward.extra, Backward.extra, Progress.budget_start]
    simp [work]
  rw [hstart] at hle
  refine ⟨by omega, fun hreport => ⟨?_, hgoing.wakes hreport⟩, ?_⟩
  · have := hgoing.work_pos hreport B T
    omega
  -- each leg is a replay in clusters holding the pass's tables
  obtain ⟨fs, bs, hfs, hbs, hf, hb, -⟩ := ScanRun.replay_legs P env
  refine ⟨fs, bs, hfs, hbs, hf, hb, Forward.reads_length_le hfull hmax fs ?_,
    Backward.reads_length_le hfull hmax bs ?_⟩
  · intro e he
    obtain ⟨e', he', -, hc⟩ := hfs e he
    rw [hc]
    exact (hstatic e' he').1
  · intro e he
    obtain ⟨e', he', -, hc⟩ := hbs e he
    rw [hc]
    exact (hstatic e' he').2

/-- A full pass with a failure limit of two and batches of one, over a base with records 1 and 2
and a target with a changed record 1 and a record 3. In the first poll the base refuses one scan
and the bus, with room for one message, takes the first drift and leaves the other two waiting:
the run has no report and wakes at the reports' deadline. The second poll comes after it, with
an empty bus; the two reports are lost and the run ends, its report counting the failed lookup
and the two failed reports, two polls in all. -/
theorem ScanRun.full_pass_ends_refused_scan :
    let P : Plan := { table := "t", base := .src, topic := "drift",
                      config := { batchSize := 1, maxConsecutiveFailures := 2 } }
    let src : Contents :=
      Contents.empty.applyAll [.upsert "t" (rowOf (.new 1 5)), .upsert "t" (rowOf (.new 2 5))]
    let dst : Contents := Contents.empty.applyAll
      [.upsert "t" (rowOf ⟨1, 7, [("a", .null)]⟩), .upsert "t" (rowOf (.new 3 5))]
    let c₁ : Cluster := { src := { side := .src, contents := src, faults := { failNextScans := 1 } },
                          dst := { side := .dst, contents := dst } }
    let c₂ : Cluster := { now := 2000, src := { side := .src, contents := src },
                          dst := { side := .dst, contents := dst } }
    let env : List (Bool × Cluster) := [(false, c₁), (false, c₂)]
    let r₁ := ScanRun.replay [(false, c₁)] (ScanRun.start P)
    let r := ScanRun.replay env (ScanRun.start P)
    let B := src.table "t"
    let T := dst.table "t"
    (r₁.report = none ∧ r₁.wake = some 1000 ∧ r₁.ready false c₂ = true) ∧
    ScanRun.readyPolls env (ScanRun.start P) = 2 ∧
    ScanRun.readyPolls env (ScanRun.start P) ≤ 3 * ((B.length + 1) * 2) + 4 * ((T.length + 1) * 2) ∧
    r.report.map (·.lookupFailures) = some 1 ∧ r.report.map (·.notifyFailures) = some 2 ∧
    ∃ fs bs : List (Bool × Cluster), DrawnFrom fs env ∧ DrawnFrom bs env ∧
      (Forward.trace P fs).state = (r.forward, r.forwardProgress) ∧
      (Backward.trace P bs).state = (r.backward, r.backwardProgress) ∧
      (Forward.reads P fs).length ≤ (B.length + 1) * 2 ∧
      (Backward.reads P bs).length ≤ (T.length + 1) * 2 := by
  intro P src dst c₁ c₂ env r₁ r B T
  have hstatic : ∀ e ∈ env, (e.2.node P.base).contents.table P.table = B ∧
      (e.2.node P.target).contents.table P.table = T := by
    simp only [env, List.mem_cons, List.not_mem_nil, or_false]
    rintro e (rfl | rfl) <;> exact ⟨rfl, rfl⟩
  have h := ScanRun.full_pass_ends P rfl (by decide) B T env hstatic
  have h₁ := ScanRun.full_pass_ends P rfl (by decide) B T [(false, c₁)]
    (fun e he => hstatic e (List.mem_cons.mpr (.inl (List.mem_singleton.mp he))))
  -- after the first poll the run waits for the reports' deadline
  have hnone : r₁.report = none := by decide +kernel
  have hwake : r₁.wake = some 1000 := by decide +kernel
  have hready : r₁.ready false c₂ = true := by
    rcases (h₁.2.1 hnone).2 with hall | ⟨t, ht, hat⟩
    · exact hall false c₂
    · rw [hwake, Option.some.injEq] at ht
      exact hat false c₂ (by rw [← ht]; decide)
  obtain ⟨hle, -, hlegs⟩ := h
  refine ⟨⟨hnone, hwake, hready⟩, by decide +kernel, hle, by decide +kernel, by decide +kernel, hlegs⟩

end Validation

end TableMigration
