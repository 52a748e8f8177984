import TableMigration.Proofs.Keyset.Cursor
import TableMigration.Proofs.Keyset.Run
import TableMigration.Proofs.Json.Records

/-!
# Proofs.Keyset.Publish

What a validation run's report says of the bus. Every drift a leg counts is reported once: the
report goes out on the bus at once, is lost (the bus is closed, or the send gave up at its
deadline) and counted as a failed report, or waits for room. So a leg keeps a ledger per kind of
drift (`Tallied`): the messages of that kind it put on the bus, the reports of that kind it lost
and the report of that kind it waits on add up to the report's count of that kind, and the lost
reports of all kinds add up to the failed reports.

A lost report changes nothing else: the action that loses it puts nothing on the bus and leaves
the leg in its loop. A report that waits for room gives up at the instant of the action that
offered it plus the notify limit, and the leg can act again once the clock reaches that instant.

The ledgers hold of every interleaving of the legs' actions with the rest of the system
(`ScanRun.Amid.bus_ledger`), and so of a polled run. The main statement is
`ScanRun.bus_accounting`.
-/

namespace TableMigration

open TableMigration.Access TableMigration.Store TableMigration.Validation

/-! ## Kinds of messages -/

/-- The kind of drift a message reports, when its payload reads as a drift. -/
def Message.driftKind (m : Message) : Option DriftKind :=
  match Drift.decode m.payload with
  | .ok d => some d.kind
  | .error _ => none

/-- How many of the messages report a drift of kind `k`. -/
def kindCount (k : DriftKind) (ms : List Message) : Nat := ms.countP (·.driftKind == some k)

/-- One when the message reports a drift of kind `k`. -/
def Message.ofKind (m : Message) (k : DriftKind) : Nat := if m.driftKind = some k then 1 else 0

@[simp] theorem kindCount_nil (k : DriftKind) : kindCount k [] = 0 := rfl

@[simp] theorem kindCount_append (k : DriftKind) (ms ms' : List Message) :
    kindCount k (ms ++ ms') = kindCount k ms + kindCount k ms' := by
  simp [kindCount, List.countP_append]

@[simp] theorem kindCount_singleton (k : DriftKind) (m : Message) : kindCount k [m] = m.ofKind k := by
  by_cases h : m.driftKind = some k <;> simp [kindCount, Message.ofKind, h]

/-- A message of a run reports the drift of its kind. -/
@[simp] theorem driftKind_message (P : Plan) (id : Int64) (k : DriftKind) :
    (P.message id k).driftKind = some k := by
  unfold Message.driftKind Plan.message
  rw [Drift.decode_encode]

@[simp] theorem ofKind_message (P : Plan) (id : Int64) (k k' : DriftKind) :
    (P.message id k).ofKind k' = if k = k' then 1 else 0 := by
  by_cases h : k = k' <;> simp [Message.ofKind, h]

/-- A message of a run reports a drift of exactly one kind. -/
theorem ofKind_sum {P : Plan} {m : Message} (hm : P.Sends m) :
    m.ofKind .targetMissing + m.ofKind .baseMissing + m.ofKind .neq = 1 := by
  obtain ⟨id, k, rfl⟩ := hm
  cases k <;> simp

/-- A report's count of drifts of kind `k`. -/
def Validation.Report.found (r : Report) : DriftKind → Nat
  | .targetMissing => r.targetMissing
  | .baseMissing => r.baseMissing
  | .neq => r.neq

@[simp] theorem Validation.Report.found_record (r : Report) (k k' : DriftKind) :
    (r.record k).found k' = r.found k' + if k = k' then 1 else 0 := by
  cases k <;> cases k' <;> simp [Report.record, Report.found]

/-! ## Counts through a leg's progress -/

@[simp] theorem Validation.Progress.found_recorded (p : Progress) (k k' : DriftKind) :
    (p.recorded k).report.found k' = p.report.found k' + if k = k' then 1 else 0 := by
  cases k <;> cases k' <;> simp [Progress.recorded, Report.record, Report.found]

@[simp] theorem Validation.Progress.notifyFailures_recorded (p : Progress) (k : DriftKind) :
    (p.recorded k).report.notifyFailures = p.report.notifyFailures := by
  cases k <;> rfl

@[simp] theorem Validation.Progress.found_notifyFailed (p : Progress) (k : DriftKind) :
    p.notifyFailed.report.found k = p.report.found k := by
  cases k <;> rfl

@[simp] theorem Validation.Progress.notifyFailures_notifyFailed (p : Progress) :
    p.notifyFailed.report.notifyFailures = p.report.notifyFailures + 1 := rfl

@[simp] theorem Validation.Progress.found_lookupFailed (p : Progress) (k : DriftKind) :
    p.lookupFailed.report.found k = p.report.found k := by
  cases k <;> rfl

@[simp] theorem Validation.Progress.notifyFailures_lookupFailed (p : Progress) :
    p.lookupFailed.report.notifyFailures = p.report.notifyFailures := rfl

@[simp] theorem Validation.Progress.found_took (p : Progress) (id : Int64) (k : DriftKind) :
    (p.took id).report.found k = p.report.found k := by
  cases k <;> rfl

@[simp] theorem Validation.Progress.notifyFailures_took (p : Progress) (id : Int64) :
    (p.took id).report.notifyFailures = p.report.notifyFailures := rfl

theorem Validation.Report.events_eq_found (r : Report) :
    r.events = r.found .targetMissing + r.found .baseMissing + r.found .neq := rfl

/-! ## A leg's ledger -/

/-- What a leg waiting to send `m` waits on. -/
def waitingOn (m : Message) (k : DriftKind) : Nat := m.ofKind k

/-- Nothing waits. -/
def noWaiting (_ : DriftKind) : Nat := 0

/-- What a report's first attempt leaves waiting: its message, when it waits for room. -/
def Access.Sent.waitsOn : Sent → DriftKind → Nat
  | .waiting w => waitingOn w.message
  | _ => noWaiting

/-- A message that waits for room gives up `limitMs` after the instant it was offered. -/
theorem Access.deadline_of_publish {c : Cluster} {m : Message} {limitMs : Nat} {w : Waiting}
    (h : (publish c m limitMs).1 = .waiting w) : w.deadline = c.now + limitMs := by
  unfold publish Cluster.offer Bus.offer at h
  split_ifs at h
  simp only [Sent.waiting.injEq] at h
  rw [← h]

namespace Validation

/-- A leg's reports against the bus: for each kind, the messages of that kind it put on the bus
(`sent`), the reports of that kind it lost and the report of that kind it waits on (`waiting`)
add up to its report's count of that kind; the lost reports add up to its failed reports. -/
def Tallied (p : Progress) (sent : List Message) (waiting : DriftKind → Nat) : Prop :=
  ∃ lost : DriftKind → Nat,
    lost .targetMissing + lost .baseMissing + lost .neq = p.report.notifyFailures ∧
      ∀ k, kindCount k sent + lost k + waiting k = p.report.found k

theorem tallied_start : Tallied {} [] noWaiting :=
  ⟨noWaiting, rfl, fun k => by cases k <;> rfl⟩

namespace Tallied

variable {p : Progress} {sent : List Message}

/-- An action that counts no drift and no failed report keeps the ledger. -/
theorem keep {p' : Progress} {w : DriftKind → Nat} (h : Tallied p sent w)
    (hfound : ∀ k, p'.report.found k = p.report.found k)
    (hfail : p'.report.notifyFailures = p.report.notifyFailures) : Tallied p' sent w := by
  obtain ⟨lost, hsum, hk⟩ := h
  exact ⟨lost, hfail ▸ hsum, fun k => (hk k).trans (hfound k).symm⟩

/-- The first attempt to report a drift of kind `k`: it went out, it was lost, or it waits. -/
theorem notifies {P : Plan} {id : Int64} {k : DriftKind} {s : Sent} {p' : Progress}
    {out : List Message} (h : Tallied p sent noWaiting) (hn : Notifies P p id k s p' out) :
    Tallied p' (sent ++ out) s.waitsOn := by
  obtain ⟨lost, hsum, hk⟩ := h
  cases hn with
  | delivered =>
    refine ⟨lost, by simpa using hsum, fun k' => ?_⟩
    have := hk k'
    simp only [noWaiting, Sent.waitsOn, kindCount_append, kindCount_singleton, ofKind_message,
      Progress.found_recorded] at this ⊢
    omega
  | lost =>
    refine ⟨fun k' => lost k' + if k = k' then 1 else 0, ?_, fun k' => ?_⟩
    · simp only [Progress.notifyFailures_notifyFailed, Progress.notifyFailures_recorded]
      cases k <;> simp <;> omega
    · have := hk k'
      simp only [noWaiting, Sent.waitsOn, List.append_nil, Progress.found_notifyFailed,
        Progress.found_recorded] at this ⊢
      omega
  | waiting w hw =>
    refine ⟨lost, by simpa using hsum, fun k' => ?_⟩
    have := hk k'
    simp only [noWaiting, Sent.waitsOn, waitingOn, hw, List.append_nil, ofKind_message,
      Progress.found_recorded] at this ⊢
    omega

/-- The waiting report went out. -/
theorem delivered {m : Message} (h : Tallied p sent (waitingOn m)) :
    Tallied p (sent ++ [m]) noWaiting := by
  obtain ⟨lost, hsum, hk⟩ := h
  exact ⟨lost, hsum, fun k => by
    have := hk k
    simp only [waitingOn, noWaiting, kindCount_append, kindCount_singleton] at this ⊢
    omega⟩

/-- The waiting report was lost: counted as a failed report of its kind. -/
theorem lost {P : Plan} {m : Message} (hm : P.Sends m) (h : Tallied p sent (waitingOn m)) :
    Tallied p.notifyFailed sent noWaiting := by
  obtain ⟨lost, hsum, hk⟩ := h
  have hone := ofKind_sum hm
  refine ⟨fun k => lost k + m.ofKind k, ?_, fun k => ?_⟩
  · simp only [Progress.notifyFailures_notifyFailed]
    omega
  · have := hk k
    simp only [waitingOn, noWaiting, Progress.found_notifyFailed] at this ⊢
    omega

end Tallied

/-! ## The base-to-target leg -/

/-- What the base-to-target leg waits on: the report it waits to send, if any. -/
@[simp] def Forward.waiting : Forward → DriftKind → Nat
  | .sending w => waitingOn w.message
  | _ => noWaiting

theorem Forward.waiting_resume (r : Resume) : (Forward.resume r).waiting = noWaiting := by
  cases r <;> rfl

theorem Forward.waiting_afterSend (s : Sent) : (Forward.afterSend s).waiting = s.waitsOn := by
  cases s <;> rfl

variable {P : Plan}

theorem Judged.tallied {p : Progress} {id : Int64} {s' : Forward × Progress} {out : List Message}
    (hj : Judged P p id s' out) {sent : List Message} (h : Tallied p sent noWaiting) :
    Tallied s'.2 (sent ++ out) s'.1.waiting ∧ s'.1.Carries P := by
  cases hj with
  | agree => exact ⟨by simpa using h, trivial⟩
  | drift _ hn =>
    refine ⟨by rw [Forward.waiting_afterSend]; exact h.notifies hn, ?_⟩
    cases hn with
    | waiting w hw => exact ⟨_, _, hw⟩
    | _ => trivial

/-- Every action of the leg keeps its ledger, and a report it waits on is one of the run's. -/
theorem Forward.Moves.tallied {b : Bool} {c : Cluster} {s s' : Forward × Progress} {rows : List Row}
    {out : List Message} (hm : Forward.Moves P b c s rows out s') {sent : List Message}
    (h : Tallied s.2 sent s.1.waiting) (hc : s.1.Carries P) :
    Tallied s'.2 (sent ++ out) s'.1.waiting ∧ s'.1.Carries P := by
  cases hm with
  | @read p row s' out _ _ htook =>
    simp only [Forward.waiting] at h
    have h' : Tallied (p.took row.id) sent noWaiting := h.keep (Progress.found_took p row.id) rfl
    cases htook with
    | failed =>
      exact ⟨by simpa using h'.keep (Progress.found_lookupFailed _) rfl, trivial⟩
    | judged hj => exact hj.tallied h'
    | deferred => exact ⟨by simpa using h', trivial⟩
  | settled hj => exact hj.tallied (by simpa using h)
  | delivered => exact ⟨(by simpa using h : Tallied _ sent (waitingOn _)).delivered, trivial⟩
  | lost => exact ⟨by simpa using (by simpa using h : Tallied _ sent (waitingOn _)).lost hc, trivial⟩
  | @refused p p' r now _ habsorb =>
    have hr := Config.report_absorb P.config now p.lookupFailed
    rw [habsorb] at hr
    dsimp only at hr
    refine ⟨?_, Forward.carries_resume P r⟩
    rw [Forward.waiting_resume, List.append_nil]
    simp only [Forward.waiting] at h
    have h' := h.keep (Progress.found_lookupFailed p) rfl
    rcases hr with hr | hr <;> exact h'.keep (fun k => by cases k <;> simp [hr, Report.found]) (by simp [hr])
  | exhausted =>
    exact ⟨by rw [Forward.waiting_resume]; simpa using h, Forward.carries_resume P _⟩
  | held => exact ⟨by simpa using h.keep (Progress.found_lookupFailed _) rfl, trivial⟩
  | timedOut => exact ⟨by simpa using h.keep (Progress.found_lookupFailed _) rfl, trivial⟩
  | cancelled => exact ⟨by simpa using h, trivial⟩
  | paused => exact ⟨by simpa using h, trivial⟩
  | resumed => exact ⟨by simpa using h, trivial⟩
  | idle => exact ⟨by simpa using h, trivial⟩

/-! ## The target-to-base leg -/

@[simp] theorem Progress.found_tookBatch (p : Progress) (rows : List Row) (k : DriftKind) :
    (p.tookBatch rows).report.found k = p.report.found k := by
  cases k <;> rfl

@[simp] theorem Progress.notifyFailures_tookBatch (p : Progress) (rows : List Row) :
    (p.tookBatch rows).report.notifyFailures = p.report.notifyFailures := rfl

/-- What the target-to-base leg waits on: the report it waits to send, if any. -/
@[simp] def Backward.waiting : Backward → DriftKind → Nat
  | .sending w _ _ => waitingOn w.message
  | _ => noWaiting

theorem Backward.waiting_resume (r : Resume) : (Backward.resume r).waiting = noWaiting := by
  cases r <;> rfl

theorem Backward.waiting_afterSend (s : Sent) (rest : List Int64) (n : Nat) :
    (Backward.afterSend s rest n).waiting = s.waitsOn := by
  cases s <;> rfl

/-- Every action of the leg keeps its ledger, and a report it waits on is one of the run's. -/
theorem Backward.Moves.tallied {b : Bool} {c : Cluster} {s s' : Backward × Progress}
    {rows : List Row} {out : List Message} (hm : Backward.Moves P b c s rows out s')
    {sent : List Message} (h : Tallied s.2 sent s.1.waiting) (hc : s.1.Carries P) :
    Tallied s'.2 (sent ++ out) s'.1.waiting ∧ s'.1.Carries P := by
  cases hm with
  | @batch p p' rows missing _ _ _ _ hp =>
    simp only [Backward.waiting] at h
    have h' : Tallied (p.tookBatch rows) sent noWaiting := h.keep (Progress.found_tookBatch p rows) rfl
    refine ⟨?_, trivial⟩
    rcases hp with rfl | rfl
    · simpa using h'
    · simpa using h'.keep (Progress.found_lookupFailed _) rfl
  | notified hn =>
    simp only [Backward.waiting] at h
    refine ⟨by rw [Backward.waiting_afterSend]; exact h.notifies hn, ?_⟩
    cases hn with
    | waiting w hw => exact ⟨_, _, hw⟩
    | _ => trivial
  | delivered => exact ⟨(by simpa using h : Tallied _ sent (waitingOn _)).delivered, trivial⟩
  | lost => exact ⟨by simpa using (by simpa using h : Tallied _ sent (waitingOn _)).lost hc, trivial⟩
  | @refused p p' r now _ habsorb =>
    have hr := Config.report_absorb P.config now p.lookupFailed
    rw [habsorb] at hr
    dsimp only at hr
    refine ⟨?_, Backward.carries_resume P r⟩
    rw [Backward.waiting_resume, List.append_nil]
    simp only [Backward.waiting] at h
    have h' := h.keep (Progress.found_lookupFailed p) rfl
    rcases hr with hr | hr <;> exact h'.keep (fun k => by cases k <;> simp [hr, Report.found]) (by simp [hr])
  | exhausted =>
    refine ⟨?_, Backward.carries_resume P _⟩
    rw [Backward.waiting_resume, List.append_nil]
    exact Tallied.keep h (fun k => by cases k <;> rfl) rfl
  | drained =>
    exact ⟨by rw [Backward.waiting_resume]; simpa using h, Backward.carries_resume P _⟩
  | next => exact ⟨by simpa using h, trivial⟩
  | held => exact ⟨by simpa using h.keep (Progress.found_lookupFailed _) rfl, trivial⟩
  | cancelled => exact ⟨by simpa using h, trivial⟩
  | paused => exact ⟨by simpa using h, trivial⟩
  | resumed => exact ⟨by simpa using h, trivial⟩
  | idle => exact ⟨by simpa using h, trivial⟩

/-! ## Replays of the legs -/

/-- Messages on the bus each report a drift of the run. -/
def Plan.SendsAll (P : Plan) (ms : List Message) : Prop := ∀ m ∈ ms, P.Sends m

theorem Plan.SendsAll.append {P : Plan} {ms ms' : List Message} (h : P.SendsAll ms)
    (h' : P.SendsAll ms') : P.SendsAll (ms ++ ms') := by
  intro m hm
  rcases List.mem_append.mp hm with hm | hm
  · exact h m hm
  · exact h' m hm

theorem Notifies.sendsAll {p p' : Progress} {id : Int64} {k : DriftKind} {s : Sent}
    {out : List Message} (hn : Notifies P p id k s p' out) : P.SendsAll out := by
  cases hn with
  | delivered => exact fun m hm => ⟨id, k, List.mem_singleton.mp hm⟩
  | _ => exact fun _ hm => absurd hm List.not_mem_nil

theorem Judged.sendsAll {p : Progress} {id : Int64} {s' : Forward × Progress} {out : List Message}
    (hj : Judged P p id s' out) : P.SendsAll out := by
  cases hj with
  | agree => exact fun _ hm => absurd hm List.not_mem_nil
  | drift _ hn => exact hn.sendsAll

/-- What a move puts on the bus reports drifts of the run. -/
theorem Forward.Moves.sendsAll {b : Bool} {c : Cluster} {s s' : Forward × Progress}
    {rows : List Row} {out : List Message} (hm : Forward.Moves P b c s rows out s')
    (hc : s.1.Carries P) : P.SendsAll out := by
  cases hm with
  | read _ _ htook =>
    cases htook with
    | judged hj => exact hj.sendsAll
    | _ => exact fun _ hm => absurd hm List.not_mem_nil
  | settled hj => exact hj.sendsAll
  | delivered => exact fun m hm => List.mem_singleton.mp hm ▸ hc
  | _ => exact fun _ hm => absurd hm List.not_mem_nil

theorem Backward.Moves.sendsAll {b : Bool} {c : Cluster} {s s' : Backward × Progress}
    {rows : List Row} {out : List Message} (hm : Backward.Moves P b c s rows out s')
    (hc : s.1.Carries P) : P.SendsAll out := by
  cases hm with
  | notified hn => exact hn.sendsAll
  | delivered => exact fun m hm => List.mem_singleton.mp hm ▸ hc
  | _ => exact fun _ hm => absurd hm List.not_mem_nil

/-- What a replay of a leg keeps: its ledger, a report it waits on being one of the run's, and the
messages it put on the bus being reports of the run's drifts. -/
structure Ledgered (P : Plan) {σ : Type} (waiting : σ → DriftKind → Nat) (carries : σ → Prop)
    (t : Trace (σ × Progress)) : Prop where
  tally : Tallied t.state.2 t.sent (waiting t.state.1)
  carries : carries t.state.1
  sends : P.SendsAll t.sent

theorem ledgered_start {σ : Type} {waiting : σ → DriftKind → Nat} {carries : σ → Prop} {s : σ}
    (hw : waiting s = noWaiting) (hc : carries s) : Ledgered P waiting carries ⟨(s, {}), [], []⟩ :=
  ⟨by rw [hw]; exact tallied_start, hc, fun _ hm => absurd hm List.not_mem_nil⟩

/-- One more action of the base-to-target leg keeps its replay ledgered. -/
theorem Forward.ledgered_step {t : Trace (Forward × Progress)}
    (h : Ledgered P Forward.waiting (Forward.Carries P) t) (e : Bool × Cluster) :
    Ledgered P Forward.waiting (Forward.Carries P) (Trace.step (Forward.move P) (Forward.scanned P) t e) := by
  obtain ⟨out, hg, hm⟩ := Forward.step_moves P e.1 e.2 t.state
  have hsent : (Trace.step (Forward.move P) (Forward.scanned P) t e).sent = t.sent ++ out := by
    simp only [Trace.step, hg.sent_eq]
  obtain ⟨htally, hcarries⟩ := hm.tallied h.tally h.carries
  exact ⟨hsent ▸ htally, hcarries, hsent ▸ h.sends.append (hm.sendsAll h.carries)⟩

/-- One more action of the target-to-base leg keeps its replay ledgered. -/
theorem Backward.ledgered_step {t : Trace (Backward × Progress)}
    (h : Ledgered P Backward.waiting (Backward.Carries P) t) (e : Bool × Cluster) :
    Ledgered P Backward.waiting (Backward.Carries P)
      (Trace.step (Backward.move P) (Backward.scanned P) t e) := by
  obtain ⟨out, hg, hm⟩ := Backward.step_moves P e.1 e.2 t.state
  have hsent : (Trace.step (Backward.move P) (Backward.scanned P) t e).sent = t.sent ++ out := by
    simp only [Trace.step, hg.sent_eq]
  obtain ⟨htally, hcarries⟩ := hm.tallied h.tally h.carries
  exact ⟨hsent ▸ htally, hcarries, hsent ▸ h.sends.append (hm.sendsAll h.carries)⟩

/-- Every replay of the base-to-target leg from its start is ledgered: by induction on the actions. -/
theorem Forward.ledgered_trace (env : List (Bool × Cluster)) :
    Ledgered P Forward.waiting (Forward.Carries P) (Forward.trace P env) := by
  induction env using List.reverseRecOn with
  | nil => exact ledgered_start rfl trivial
  | append_singleton env e ih =>
    rw [Forward.trace, Trace.replay_append_singleton]
    exact Forward.ledgered_step ih e

/-- Every replay of the target-to-base leg from its start is ledgered. -/
theorem Backward.ledgered_trace (env : List (Bool × Cluster)) :
    Ledgered P Backward.waiting (Backward.Carries P) (Backward.trace P env) := by
  induction env using List.reverseRecOn with
  | nil => exact ledgered_start rfl trivial
  | append_singleton env e ih =>
    rw [Backward.trace, Trace.replay_append_singleton]
    exact Backward.ledgered_step ih e

/-! ## A lost report, and a report that waits -/

/-- An action either counts no failed report, or counts one, puts nothing on the bus and leaves
the leg in its loop. -/
theorem Notifies.lost_quiet {p p' : Progress} {id : Int64} {k : DriftKind} {s : Sent}
    {out : List Message} (hn : Notifies P p id k s p' out) :
    p'.report.notifyFailures = p.report.notifyFailures ∨
      (p'.report.notifyFailures = p.report.notifyFailures + 1 ∧ out = [] ∧ s = .lost) := by
  cases hn with
  | lost => exact .inr ⟨by simp, rfl, rfl⟩
  | _ => exact .inl (by simp)

theorem Judged.lost_quiet {p : Progress} {id : Int64} {s' : Forward × Progress} {out : List Message}
    (hj : Judged P p id s' out) :
    s'.2.report.notifyFailures = p.report.notifyFailures ∨
      (s'.2.report.notifyFailures = p.report.notifyFailures + 1 ∧ out = [] ∧ s'.1 ≠ .done) := by
  cases hj with
  | agree => exact .inl rfl
  | drift _ hn =>
    rcases hn.lost_quiet with h | ⟨h, hout, rfl⟩
    · exact .inl h
    · exact .inr ⟨h, hout, by simp [Forward.afterSend]⟩

theorem Forward.Moves.lost_quiet {b : Bool} {c : Cluster} {s s' : Forward × Progress}
    {rows : List Row} {out : List Message} (hm : Forward.Moves P b c s rows out s') :
    s'.2.report.notifyFailures = s.2.report.notifyFailures ∨
      (s'.2.report.notifyFailures = s.2.report.notifyFailures + 1 ∧ out = [] ∧ s'.1 ≠ .done) := by
  cases hm with
  | read _ _ htook =>
    cases htook with
    | judged hj => simpa using hj.lost_quiet
    | _ => exact .inl rfl
  | settled hj => exact hj.lost_quiet
  | lost => exact .inr ⟨rfl, rfl, by simp⟩
  | @refused p p' r now _ habsorb =>
    have hr := Config.report_absorb P.config now p.lookupFailed
    rw [habsorb] at hr
    dsimp only at hr
    rcases hr with hr | hr <;> exact .inl (by simp [hr])
  | _ => exact .inl rfl

theorem Backward.Moves.lost_quiet {b : Bool} {c : Cluster} {s s' : Backward × Progress}
    {rows : List Row} {out : List Message} (hm : Backward.Moves P b c s rows out s') :
    s'.2.report.notifyFailures = s.2.report.notifyFailures ∨
      (s'.2.report.notifyFailures = s.2.report.notifyFailures + 1 ∧ out = [] ∧ s'.1 ≠ .done) := by
  cases hm with
  | batch _ _ _ _ hp => rcases hp with rfl | rfl <;> exact .inl rfl
  | notified hn =>
    rcases hn.lost_quiet with h | ⟨h, hout, rfl⟩
    · exact .inl h
    · exact .inr ⟨h, hout, by simp [Backward.afterSend]⟩
  | lost => exact .inr ⟨rfl, rfl, by simp⟩
  | @refused p p' r now _ habsorb =>
    have hr := Config.report_absorb P.config now p.lookupFailed
    rw [habsorb] at hr
    dsimp only at hr
    rcases hr with hr | hr <;> exact .inl (by simp [hr])
  | _ => exact .inl rfl

/-- Reporting a drift ends as publishing its message does. -/
theorem notify_sent (c : Cluster) (p : Progress) (id : Int64) (k : DriftKind) :
    (notify P c p id k).1 = (publish c (P.message id k) P.config.notifyTimeoutMs).1 := by
  unfold notify
  rcases publish c (P.message id k) P.config.notifyTimeoutMs with ⟨s, c'⟩
  cases s <;> rfl

/-- A report that waits for room gives up at the notify limit after the instant it was offered. -/
theorem notify_deadline {c : Cluster} {p : Progress} {id : Int64} {k : DriftKind} {w : Waiting}
    (h : (notify P c p id k).1 = .waiting w) : w.deadline = c.now + P.config.notifyTimeoutMs := by
  apply Access.deadline_of_publish (m := P.message id k)
  rw [← notify_sent]
  exact h

theorem judge_deadline {c : Cluster} {p : Progress} {id : Int64} {base : Record} {rs : List Row}
    {w : Waiting} (h : (judge P c p id base rs).1 = .sending w) :
    w.deadline = c.now + P.config.notifyTimeoutMs := by
  revert h
  unfold judge afterJudged
  split
  · simp
  · rename_i k _
    rcases hn : notify P c p id k with ⟨s, p', c'⟩
    cases s with
    | waiting w' =>
      simp only [Forward.sending.injEq]
      rintro rfl
      exact notify_deadline (by rw [hn])
    | _ => simp

theorem Forward.resume_ne_sending (r : Resume) (w : Waiting) : Forward.resume r ≠ .sending w := by
  cases r <;> simp [Forward.resume]

theorem Backward.resume_ne_sending (r : Resume) (w : Waiting) (rest : List Int64) (n : Nat) :
    Backward.resume r ≠ .sending w rest n := by
  cases r <;> simp [Backward.resume]

/-- An action that leaves the base-to-target leg waiting for room gave the report the notify limit
from the action's instant. -/
theorem Forward.step_deadline {b : Bool} {c : Cluster} {s : Forward × Progress} {w : Waiting}
    (h : (Forward.step P b c s).1 = .sending w) : w.deadline = c.now + P.config.notifyTimeoutMs := by
  obtain ⟨f, p⟩ := s
  revert h
  cases f with
  | head =>
    cases b with
    | true => simp [Forward.step]
    | false =>
      simp only [Forward.step, Bool.false_eq_true, if_false]
      -- the reads before the report take no time
      rcases hread : c.lookupWithin P.base (.scan P.table P.config.sinceUtime p.after 1)
        P.config.lookupTimeoutMs with ⟨l, c₁⟩
      have hnow₁ : c₁.now = c.now := by
        rw [← Access.Cluster.now_lookupWithin c P.base _ P.config.lookupTimeoutMs, hread]
      cases l with
      | refused e => exact fun h => absurd h (Forward.resume_ne_sending _ w)
      | heldUntil t => simp
      | rows rs =>
        cases rs with
        | nil => exact fun h => absurd h (Forward.resume_ne_sending _ w)
        | cons row rest =>
          dsimp only
          cases recordOf row with
          | error e => simp
          | ok base =>
            dsimp only
            rcases hread₂ : c₁.lookupWithin P.target (.byId P.table row.id)
              P.config.lookupTimeoutMs with ⟨l₂, c₂⟩
            have hnow₂ : c₂.now = c₁.now := by
              rw [← Access.Cluster.now_lookupWithin c₁ P.target _ P.config.lookupTimeoutMs, hread₂]
            cases l₂ with
            | refused e => simp
            | rows ts => exact fun h => by rw [judge_deadline h, hnow₂, hnow₁]
            | heldUntil t => simp
  | lookup id base readyAt deadline =>
    simp only [Forward.step]
    split
    · exact judge_deadline
    · simp
  | sending w' => simp [Forward.step]
  | pausing t => cases b <;> simp [Forward.step]
  | done => simp [Forward.step]

/-- An action that leaves the target-to-base leg waiting for room gave the report the notify limit
from the action's instant. -/
theorem Backward.step_deadline {b : Bool} {c : Cluster} {s : Backward × Progress} {w : Waiting}
    {rest : List Int64} {n : Nat} (h : (Backward.step P b c s).1 = .sending w rest n) :
    w.deadline = c.now + P.config.notifyTimeoutMs := by
  obtain ⟨f, p⟩ := s
  revert h
  cases f with
  | head =>
    cases b with
    | true => simp [Backward.step]
    | false =>
      simp only [Backward.step, Bool.false_eq_true, if_false]
      rcases c.lookupWithin P.target (.scan P.table P.config.sinceUtime p.after P.config.batchSize)
        P.config.lookupTimeoutMs with ⟨l, c₁⟩
      cases l with
      | refused e => exact fun h => absurd h (Backward.resume_ne_sending _ w rest n)
      | heldUntil t => simp
      | rows rs =>
        cases rs with
        | nil => exact fun h => absurd h (Backward.resume_ne_sending _ w rest n)
        | cons row rows =>
          dsimp only
          split <;> simp
  | publish missing m =>
    cases missing with
    | nil =>
      simp only [Backward.step]
      split
      · exact fun h => absurd h (Backward.resume_ne_sending _ w rest n)
      · simp
    | cons id ids =>
      simp only [Backward.step]
      rcases hn : notify P c p id .baseMissing with ⟨s, p', c'⟩
      cases s with
      | waiting w' =>
        simp only [Backward.sending.injEq]
        rintro ⟨rfl, -, -⟩
        exact notify_deadline (by rw [hn])
      | _ => simp
  | sending w' ms m => simp [Backward.step]
  | pausing t => cases b <;> simp [Backward.step]
  | done => simp [Backward.step]

/-- Messages that are all reports of the run's drifts: counted by kind, they are all counted. -/
theorem Plan.SendsAll.kindCount_sum {ms : List Message} (h : P.SendsAll ms) :
    kindCount .targetMissing ms + kindCount .baseMissing ms + kindCount .neq ms = ms.length := by
  induction ms with
  | nil => rfl
  | cons m ms ih =>
    have hm := ofKind_sum (h m List.mem_cons_self)
    have hrest := ih fun m' hm' => h m' (List.mem_cons_of_mem m hm')
    rw [← List.singleton_append]
    simp only [kindCount_append, kindCount_singleton, List.length_append, List.length_singleton]
    omega

/-- A report of the run names the run's topic and reads back as a drift of the run's direction. -/
theorem Plan.Sends.reads_back {m : Message} (h : P.Sends m) :
    m.topic = P.topic ∧ ∃ d : Drift, Drift.decode m.payload = .ok d ∧ d.side = P.base := by
  obtain ⟨id, k, rfl⟩ := h
  exact ⟨rfl, ⟨id, P.base, k⟩, Drift.decode_encode _, rfl⟩

/-- A leg that is done waits on nothing, so its ledger is settled: per kind, what it put on the bus
and what it lost add up to what it found. -/
theorem Tallied.settled {p : Progress} {sent : List Message} (h : Tallied p sent noWaiting) :
    ∃ lost : DriftKind → Nat,
      lost .targetMissing + lost .baseMissing + lost .neq = p.report.notifyFailures ∧
        ∀ k, kindCount k sent + lost k = p.report.found k := by
  obtain ⟨lost, hsum, hk⟩ := h
  exact ⟨lost, hsum, fun k => hk k⟩

/-- A lost report in an action of the base-to-target leg is counted once, leaves the bus as it was
and leaves the leg in its loop. -/
theorem Forward.step_lost_quiet (b : Bool) (c : Cluster) (s : Forward × Progress) :
    (Forward.step P b c s).2.1.report.notifyFailures = s.2.report.notifyFailures ∨
      ((Forward.step P b c s).2.1.report.notifyFailures = s.2.report.notifyFailures + 1 ∧
        (Forward.step P b c s).2.2.bus.queue = c.bus.queue ∧ (Forward.step P b c s).1 ≠ .done) := by
  obtain ⟨out, hg, hm⟩ := Forward.step_moves P b c s
  rcases hm.lost_quiet with h | ⟨h, rfl, hdone⟩
  · exact .inl h
  · exact .inr ⟨h, (by simpa using hg.queue : (Forward.move P b c s).2.bus.queue = _), hdone⟩

/-- A lost report in an action of the target-to-base leg is counted once, leaves the bus as it was
and leaves the leg in its loop. -/
theorem Backward.step_lost_quiet (b : Bool) (c : Cluster) (s : Backward × Progress) :
    (Backward.step P b c s).2.1.report.notifyFailures = s.2.report.notifyFailures ∨
      ((Backward.step P b c s).2.1.report.notifyFailures = s.2.report.notifyFailures + 1 ∧
        (Backward.step P b c s).2.2.bus.queue = c.bus.queue ∧ (Backward.step P b c s).1 ≠ .done) := by
  obtain ⟨out, hg, hm⟩ := Backward.step_moves P b c s
  rcases hm.lost_quiet with h | ⟨h, rfl, hdone⟩
  · exact .inl h
  · exact .inr ⟨h, (by simpa using hg.queue : (Backward.move P b c s).2.bus.queue = _), hdone⟩

/-! ## The run against the bus -/

/-- What the legs of a run put on the bus, whatever the rest of the system does between any two
of their actions: every message names the run's topic and reads back as a drift of the run's
direction; once the run has its report, for each kind of drift the messages of that kind and the
lost reports of that kind add up to the report's count of that kind, so the messages and the
failed reports add up to the drifts found. -/
theorem ScanRun.Amid.bus_ledger {P : Plan} {fs bs : List (Bool × Cluster)} {r : ScanRun}
    (hrun : ScanRun.Amid P fs bs r) :
    let tf := Forward.trace P fs
    let tb := Backward.trace P bs
    (∀ m ∈ tf.sent ++ tb.sent,
      m.topic = P.topic ∧ ∃ d : Drift, Drift.decode m.payload = .ok d ∧ d.side = P.base) ∧
    ∀ rep, r.report = some rep →
      (∃ lost : DriftKind → Nat,
        lost .targetMissing + lost .baseMissing + lost .neq = rep.notifyFailures ∧
        ∀ k, kindCount k (tf.sent ++ tb.sent) + lost k = rep.found k) ∧
      (tf.sent ++ tb.sent).length + rep.notifyFailures = rep.events := by
  dsimp only
  obtain ⟨hf, hb⟩ := hrun.traces
  have hlf := Forward.ledgered_trace (P := P) fs
  have hlb := Backward.ledgered_trace (P := P) bs
  have hsends : P.SendsAll ((Forward.trace P fs).sent ++ (Backward.trace P bs).sent) :=
    hlf.sends.append hlb.sends
  refine ⟨fun m hm => (hsends m hm).reads_back, fun rep hrep => ?_⟩
  -- a report is made only once both legs are done, as the sum of their reports
  obtain ⟨hdone, hsum⟩ := hrun.summed rep hrep
  obtain ⟨hfd, hbd⟩ := (ScanRun.legsDone_iff _).mp hdone
  -- done legs wait on nothing, so each ledger is settled
  have htf := hlf.tally
  have htb := hlb.tally
  rw [hf, hfd] at htf
  rw [hb, hbd] at htb
  obtain ⟨lostF, hsumF, hkF⟩ := Tallied.settled htf
  obtain ⟨lostB, hsumB, hkB⟩ := Tallied.settled htb
  dsimp only at hsumF hkF hsumB hkB
  have hfound : ∀ k, rep.found k = r.forwardProgress.report.found k + r.backwardProgress.report.found k := by
    intro k
    rw [hsum]
    cases k <;> rfl
  have hfailed : rep.notifyFailures =
      r.forwardProgress.report.notifyFailures + r.backwardProgress.report.notifyFailures := by
    rw [hsum]
    rfl
  have hkinds : ∀ k, kindCount k ((Forward.trace P fs).sent ++ (Backward.trace P bs).sent) +
      (lostF k + lostB k) = rep.found k := by
    intro k
    rw [kindCount_append, hfound, ← hkF k, ← hkB k]
    omega
  refine ⟨⟨fun k => lostF k + lostB k, by dsimp only; omega, hkinds⟩, ?_⟩
  have hlen := hsends.kindCount_sum
  have htm := hkinds .targetMissing
  have hbm := hkinds .baseMissing
  have hneq := hkinds .neq
  rw [Report.events_eq_found]
  omega

/-- Reports of a validation run against the bus. Run the legs' actions interleaved in any order,
each in a cluster of its own (any bus capacity, any state of its consumer, the bus closed or not)
and cancelled or not, under any notify limit, or poll the run from its start any number of times,
each poll in any cluster; in the second case each leg's actions are a replay of the leg from its
start in actions drawn from the polls. Then:

* every message the legs put on the bus names the run's topic and reads back as a drift of the
  run's direction;
* once the run has its report, for each kind of drift the messages of that kind on the bus and the
  lost reports of that kind add up to the report's count of that kind, the lost reports of all
  kinds add up to its failed reports, and so the messages on the bus and the failed reports add
  up to the drifts found;
* in every action of either leg the failed reports stay as they were, or grow by one while the bus
  queue stays as it was and the leg stays in its loop;
* an action that leaves a leg waiting for room gives the report until the action's instant plus
  the notify limit, and from that instant on the leg is ready to act again. -/
theorem ScanRun.bus_accounting (P : Plan) (env : List (Bool × Cluster)) :
    let r := ScanRun.replay env (ScanRun.start P)
    (∀ fs bs r', ScanRun.Amid P fs bs r' →
      let tf := Forward.trace P fs
      let tb := Backward.trace P bs
      (∀ m ∈ tf.sent ++ tb.sent,
        m.topic = P.topic ∧ ∃ d : Drift, Drift.decode m.payload = .ok d ∧ d.side = P.base) ∧
      ∀ rep, r'.report = some rep →
        (∃ lost : DriftKind → Nat,
          lost .targetMissing + lost .baseMissing + lost .neq = rep.notifyFailures ∧
          ∀ k, kindCount k (tf.sent ++ tb.sent) + lost k = rep.found k) ∧
        (tf.sent ++ tb.sent).length + rep.notifyFailures = rep.events) ∧
    (∃ fs bs : List (Bool × Cluster), DrawnFrom fs env ∧ DrawnFrom bs env ∧
      let tf := Forward.trace P fs
      let tb := Backward.trace P bs
      tf.state = (r.forward, r.forwardProgress) ∧ tb.state = (r.backward, r.backwardProgress) ∧
      (∀ m ∈ tf.sent ++ tb.sent,
        m.topic = P.topic ∧ ∃ d : Drift, Drift.decode m.payload = .ok d ∧ d.side = P.base) ∧
      ∀ rep, r.report = some rep →
        (∃ lost : DriftKind → Nat,
          lost .targetMissing + lost .baseMissing + lost .neq = rep.notifyFailures ∧
          ∀ k, kindCount k (tf.sent ++ tb.sent) + lost k = rep.found k) ∧
        (tf.sent ++ tb.sent).length + rep.notifyFailures = rep.events) ∧
    (∀ b c s, (Forward.step P b c s).2.1.report.notifyFailures = s.2.report.notifyFailures ∨
      ((Forward.step P b c s).2.1.report.notifyFailures = s.2.report.notifyFailures + 1 ∧
        (Forward.step P b c s).2.2.bus.queue = c.bus.queue ∧ (Forward.step P b c s).1 ≠ .done)) ∧
    (∀ b c s, (Backward.step P b c s).2.1.report.notifyFailures = s.2.report.notifyFailures ∨
      ((Backward.step P b c s).2.1.report.notifyFailures = s.2.report.notifyFailures + 1 ∧
        (Backward.step P b c s).2.2.bus.queue = c.bus.queue ∧ (Backward.step P b c s).1 ≠ .done)) ∧
    (∀ b c s w, (Forward.step P b c s).1 = .sending w →
      w.deadline = c.now + P.config.notifyTimeoutMs ∧
        ∀ b' (c' : Cluster), w.deadline ≤ c'.now → (Forward.sending w).ready b' c' = true) ∧
    (∀ b c s w rest n, (Backward.step P b c s).1 = .sending w rest n →
      w.deadline = c.now + P.config.notifyTimeoutMs ∧
        ∀ b' (c' : Cluster), w.deadline ≤ c'.now → (Backward.sending w rest n).ready b' c' = true) := by
  dsimp only
  refine ⟨fun _ _ _ hrun => hrun.bus_ledger, ?_, Forward.step_lost_quiet, Backward.step_lost_quiet,
    fun b c s w h => ⟨Forward.step_deadline h, fun b' c' hw => by simp [Forward.ready, Waiting.ready, hw]⟩,
    fun b c s w rest n h =>
      ⟨Backward.step_deadline h, fun b' c' hw => by simp [Backward.ready, Waiting.ready, hw]⟩⟩
  -- polling the run is one interleaving of its actions
  obtain ⟨fs, bs, hfs, hbs, hrun⟩ := ScanRun.Amid.replay P env
  exact ⟨fs, bs, hfs, hbs, hrun.traces.1, hrun.traces.2, hrun.bus_ledger⟩

end Validation

end TableMigration
