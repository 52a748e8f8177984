import Mathlib.Data.List.Induction
import TableMigration.Proofs.FullPass.Run
import TableMigration.Proofs.RunReports

/-!
# Proofs.Keyset.Trace

Keyset paging is robust to concurrent change. A leg of a validation run keeps only a cursor,
the id of the last row it read, and each read asks the store for the rows past it. So whatever
the rest of the system does between two actions of the leg (writes on either side, the
repairer deleting or upserting rows behind the cursor, failed or slow reads, a bus that fills
up or closes, cancellation), the leg never reads a row twice and never passes a row it did not
read.

This module holds what both legs share. A leg is replayed action by action in an arbitrary
environment, a list of clusters each with a cancellation flag (`Trace.replay`); the replay logs
the rows the leg's cursor reads returned and the messages its actions put on the bus. Three
invariants of such a log are stated here with the lemmas that move them along:

* `Walked`: the rows read have strictly increasing ids, the cursor is the last of them, and
  every row the store showed at every action, once the cursor reached it, was read;
* `Reported`: the drifts on the bus followed by the ids still owed a report have strictly
  increasing ids, all of rows read, each drift naming the run's base;
* `Ended`: why a leg left its loop: it gave up, it was cancelled, or at some action its cursor
  was past every row the store showed (`Sweeps`).
-/

namespace TableMigration

open TableMigration.Access TableMigration.Store TableMigration.Validation

/-! ## Keyset pages of ordered tables -/

namespace Store

/-- A row a keyset read may return: past the cursor and at or above the watermark. -/
def Row.Eligible (since after : Option Int64) (r : Row) : Prop :=
  after.all (· < r.id) = true ∧ since.all (· ≤ r.utime) = true

theorem mem_eligible {rows : List Row} {since after : Option Int64} {r : Row} :
    r ∈ (rows.filter fun r => after.all (· < r.id)).filter (fun r => since.all (· ≤ r.utime)) ↔
      r ∈ rows ∧ r.Eligible since after := by
  simp only [List.mem_filter, Row.Eligible]
  exact ⟨fun ⟨⟨hr, ha⟩, hs⟩ => ⟨hr, ha, hs⟩, fun ⟨hr, ha, hs⟩ => ⟨⟨hr, ha⟩, hs⟩⟩

/-- A page holds eligible rows of the table. -/
theorem mem_page {rows : List Row} {since after : Option Int64} {limit : Nat} {r : Row}
    (h : r ∈ page rows since after limit) : r ∈ rows ∧ r.Eligible since after :=
  mem_eligible.mp ((List.take_sublist _ _).subset h)

theorem length_page_le (rows : List Row) (since after : Option Int64) (limit : Nat) :
    (page rows since after limit).length ≤ limit := by
  simp [page, List.length_take]

/-- The eligible rows of a sorted table, in order: a page is a prefix of them. -/
theorem Table.Sorted.eligible {rows : List Row} (h : Table.Sorted rows) (since after : Option Int64) :
    Table.Sorted ((rows.filter fun r => after.all (· < r.id)).filter
      (fun r => since.all (· ≤ r.utime))) :=
  h.sublist (List.filter_sublist.trans List.filter_sublist)

theorem Table.Sorted.page {rows : List Row} (h : Table.Sorted rows) (since after : Option Int64)
    (limit : Nat) : Table.Sorted (page rows since after limit) :=
  (h.eligible since after).sublist (List.take_sublist _ _)

/-- On a sorted table, a page holds every eligible row up to its last row. -/
theorem mem_page_of_le_last {rows : List Row} (hs : Table.Sorted rows) {since after : Option Int64}
    {limit : Nat} {last : Row} (hlast : (page rows since after limit).getLast? = some last)
    {r : Row} (hr : r ∈ rows) (he : r.Eligible since after) (hle : r.id ≤ last.id) :
    r ∈ page rows since after limit := by
  unfold page at hlast ⊢
  have hsorted := hs.eligible since after
  have hmem := mem_eligible.mpr ⟨hr, he⟩
  generalize (rows.filter fun r => after.all (· < r.id)).filter
    (fun r => since.all (· ≤ r.utime)) = L at hlast hsorted hmem ⊢
  rw [← List.take_append_drop limit L] at hmem hsorted
  rcases List.mem_append.mp hmem with hin | hout
  · exact hin
  · -- a row after the page lies past all of the page, its last row included
    have hlastmem : last ∈ L.take limit := List.mem_of_getLast? hlast
    have hlt := (List.pairwise_append.mp hsorted).2.2 last hlastmem r hout
    exact absurd hle (Int64.not_le.mpr hlt)

/-- A page shorter than its limit holds every eligible row. -/
theorem mem_page_of_short {rows : List Row} {since after : Option Int64} {limit : Nat}
    (hshort : (page rows since after limit).length < limit) {r : Row} (hr : r ∈ rows)
    (he : r.Eligible since after) : r ∈ page rows since after limit := by
  unfold page at hshort ⊢
  have hlen : ((rows.filter fun r => after.all (· < r.id)).filter
      (fun r => since.all (· ≤ r.utime))).length ≤ limit := by
    rw [List.length_take] at hshort
    omega
  rw [List.take_of_length_le hlen]
  exact mem_eligible.mpr ⟨hr, he⟩

/-- In a sorted list of rows, every row's id is at most the last one's. -/
theorem Table.Sorted.le_getLast {t : Table} (h : t.Sorted) {last r : Row}
    (hlast : t.getLast? = some last) (hr : r ∈ t) : r.id ≤ last.id := by
  obtain ⟨init, rfl⟩ := List.getLast?_eq_some_iff.mp hlast
  rcases List.mem_append.mp hr with hr | hr
  · exact Int64.le_of_lt ((List.pairwise_append.mp h).2.2 r hr last List.mem_cons_self)
  · rw [List.mem_singleton.mp hr]
    exact Int64.le_refl _

end Store

/-! ## The cursor -/

/-- An id the cursor has reached: at or before it, so that a read past the cursor no longer
returns it. -/
def Reached (after : Option Int64) (x : Int64) : Prop := ∃ a, after = some a ∧ x ≤ a

theorem not_reached_iff {after : Option Int64} {x : Int64} :
    ¬ Reached after x ↔ after.all (· < x) = true := by
  cases after with
  | none => simp [Reached]
  | some a => simp [Reached, Int64.not_le]

/-! ## Reads and sends -/

namespace Access

/-- The rows a guarded read answered with at once: none when it was refused or held back. -/
def Lookup.answer : Lookup → List Row
  | .rows rs => rs
  | _ => []

/-- What an action left of the cluster: every store holds the rows it held, and the bus queue
grew by these messages. -/
structure Cluster.Grew (c c' : Cluster) (sent : List Message) : Prop where
  rows : ∀ s, (c'.node s).contents = (c.node s).contents
  queue : c'.bus.queue = c.bus.queue ++ sent

namespace Cluster.Grew

theorem refl (c : Cluster) : c.Grew c [] := ⟨fun _ => rfl, by simp⟩

theorem trans {c₁ c₂ c₃ : Cluster} {s₁ s₂ : List Message} (h₁ : c₁.Grew c₂ s₁)
    (h₂ : c₂.Grew c₃ s₂) : c₁.Grew c₃ (s₁ ++ s₂) :=
  ⟨fun s => (h₂.rows s).trans (h₁.rows s), by rw [h₂.queue, h₁.queue, List.append_assoc]⟩

/-- An action that put nothing on the bus, followed by another. -/
theorem nil_trans {c₁ c₂ c₃ : Cluster} {s : List Message} (h₁ : c₁.Grew c₂ [])
    (h₂ : c₂.Grew c₃ s) : c₁.Grew c₃ s := by
  simpa using h₁.trans h₂

/-- The messages an action put on the bus are what its queue gained. -/
theorem sent_eq {c c' : Cluster} {sent : List Message} (h : c.Grew c' sent) :
    c'.bus.queue.drop c.bus.queue.length = sent := by
  rw [h.queue, List.drop_left]

end Cluster.Grew

theorem Cluster.grew_lookupWithin (c : Cluster) (s : Side) (q : Query) (limitMs : Nat) :
    c.Grew (c.lookupWithin s q limitMs).2 [] := by
  refine ⟨fun s' => ?_, ?_⟩
  · rw [Cluster.lookupWithin_snd, Cluster.lookup_snd]
    by_cases hs : s' = s
    · subst hs
      rw [Cluster.node_setNode_self, Node.contents_admitRead]
    · have hs' : s' = s.opposite := by cases s <;> cases s' <;> simp_all [Side.opposite]
      subst hs'
      rw [Cluster.node_setNode_opposite]
  · rw [Cluster.lookupWithin_snd, Cluster.lookup_snd, Cluster.setNode_bus, List.append_nil]

/-- Rows a guarded read answers at once are the store's answer to the query. -/
theorem Cluster.rows_of_lookup {c c' : Cluster} {s : Side} {q : Query} {rs : List Row}
    (h : c.lookup s q = (.rows rs, c')) : rs = (c.node s).contents.select q := by
  unfold Cluster.lookup Cluster.onNode at h
  dsimp only at h
  rcases ha : (c.node s).admitRead q with ⟨res, n⟩
  have hn : n.contents = (c.node s).contents := by rw [← Node.contents_admitRead (c.node s) q, ha]
  rw [ha] at h
  rcases res with f | _ | d
  · cases h
  · simp only [Prod.mk.injEq, Lookup.rows.injEq] at h
    obtain ⟨rfl, -⟩ := h
    simp [Cluster.read, Node.read, hn]
  · cases h

theorem Cluster.rows_of_lookupWithin {c c' : Cluster} {s : Side} {q : Query} {limitMs : Nat}
    {rs : List Row} (h : c.lookupWithin s q limitMs = (.rows rs, c')) :
    rs = (c.node s).contents.select q := by
  unfold Cluster.lookupWithin at h
  rcases hl : c.lookup s q with ⟨l, c₁⟩
  rw [hl] at h
  cases l with
  | rows rs' =>
    split_ifs at h
    · simp at h
    · simp only [Prod.mk.injEq, Lookup.rows.injEq] at h
      obtain ⟨rfl, -⟩ := h
      exact rows_of_lookup hl
  | refused f => cases h
  | heldUntil t => cases h

/-- The messages a send put on the bus at once: its own, when it went out. -/
def Sent.out : Sent → Message → List Message
  | .delivered, m => [m]
  | _, _ => []

theorem grew_publish (c : Cluster) (m : Message) (limitMs : Nat) :
    c.Grew (publish c m limitMs).2 ((publish c m limitMs).1.out m) := by
  unfold publish Cluster.offer Bus.offer
  split_ifs <;> exact ⟨fun s => by cases s <;> rfl, by simp [Sent.out]⟩

theorem message_of_publish {c : Cluster} {m : Message} {limitMs : Nat} {w : Waiting}
    (h : (publish c m limitMs).1 = .waiting w) : w.message = m := by
  unfold publish Cluster.offer Bus.offer at h
  split_ifs at h
  simp only [Sent.waiting.injEq] at h
  rw [← h]

theorem grew_finish (w : Waiting) (c : Cluster) :
    c.Grew (w.finish c).2 ((w.finish c).1.out w.message) := by
  unfold Waiting.finish Cluster.complete Bus.complete
  split_ifs <;> exact ⟨fun s => by cases s <;> rfl, by simp [Sent.out]⟩

end Access

/-! ## Reports of drifts -/

namespace Validation

/-- The leg's progress once it counted a drift of this kind. -/
def Progress.recorded (p : Progress) (k : DriftKind) : Progress :=
  { p with report := p.report.record k }

/-- How the first attempt to report a drift ended, with the leg's progress and what went on the
bus: out at once, lost and counted as a failed report, or waiting for room with the drift's
message. -/
inductive Notifies (P : Plan) (p : Progress) (id : Int64) (k : DriftKind) :
    Sent → Progress → List Message → Prop
  | delivered : Notifies P p id k .delivered (p.recorded k) [P.message id k]
  | lost : Notifies P p id k .lost (p.recorded k).notifyFailed []
  | waiting (w : Waiting) (hw : w.message = P.message id k) :
      Notifies P p id k (.waiting w) (p.recorded k) []

/-- A report's first attempt moves no cursor and sets no abort flag. -/
theorem Notifies.keeps {P : Plan} {p p' : Progress} {id : Int64} {k : DriftKind} {s : Sent}
    {sent : List Message} (h : Notifies P p id k s p' sent) :
    p'.after = p.after ∧ p'.report.aborted = p.report.aborted := by
  cases h <;> cases k <;> exact ⟨rfl, rfl⟩

theorem notify_notifies {P : Plan} {c c' : Cluster} {p p' : Progress} {id : Int64}
    {k : DriftKind} {s : Sent} (h : notify P c p id k = (s, p', c')) :
    ∃ sent, Notifies P p id k s p' sent ∧ c.Grew c' sent := by
  have hg := grew_publish c (P.message id k) P.config.notifyTimeoutMs
  have hw := @message_of_publish c (P.message id k) P.config.notifyTimeoutMs
  unfold notify at h
  rcases hpub : publish c (P.message id k) P.config.notifyTimeoutMs with ⟨s₀, c₀⟩
  rw [hpub] at hg hw h
  cases s₀ with
  | delivered =>
    simp only [Prod.mk.injEq] at h
    obtain ⟨rfl, rfl, rfl⟩ := h
    exact ⟨_, .delivered, hg⟩
  | lost =>
    simp only [Prod.mk.injEq] at h
    obtain ⟨rfl, rfl, rfl⟩ := h
    exact ⟨_, .lost, hg⟩
  | waiting w =>
    simp only [Prod.mk.injEq] at h
    obtain ⟨rfl, rfl, rfl⟩ := h
    exact ⟨_, .waiting w (hw rfl), hg⟩

/-- Settling a waiting report: it went out, or it is counted as a failed report. -/
theorem settleReport_cases (w : Waiting) (c : Cluster) (p : Progress) :
    (settleReport w c p).1 = p ∧ c.Grew (settleReport w c p).2 [w.message] ∨
      (settleReport w c p).1 = p.notifyFailed ∧ c.Grew (settleReport w c p).2 [] := by
  have hg := grew_finish w c
  unfold settleReport
  rcases hfin : w.finish c with ⟨s, c'⟩
  rw [hfin] at hg
  cases s with
  | delivered => exact .inl ⟨rfl, hg⟩
  | lost => exact .inr ⟨rfl, hg⟩
  | waiting w' => exact .inr ⟨rfl, hg⟩

end Validation

/-! ## Replaying a leg -/

/-- A leg replayed action by action: where it stands, the rows its cursor reads returned and the
messages its actions put on the bus, in order. -/
structure Trace (σ : Type) where
  state : σ
  seen : List Row
  sent : List Message

namespace Trace

variable {σ : Type} (move : Bool → Cluster → σ → σ × Cluster)
  (scan : Bool → Cluster → σ → List Row)

/-- One action, taken in the cluster the rest of the system left, cancelled or not. -/
def step (t : Trace σ) (e : Bool × Cluster) : Trace σ :=
  { state := (move e.1 e.2 t.state).1
    seen := t.seen ++ scan e.1 e.2 t.state
    sent := t.sent ++ (move e.1 e.2 t.state).2.bus.queue.drop e.2.bus.queue.length }

/-- Actions in a sequence of clusters. -/
def replay (env : List (Bool × Cluster)) (t : Trace σ) : Trace σ := env.foldl (step move scan) t

@[simp] theorem replay_nil (t : Trace σ) : replay move scan [] t = t := rfl

@[simp] theorem replay_append_singleton (env : List (Bool × Cluster)) (e : Bool × Cluster)
    (t : Trace σ) : replay move scan (env ++ [e]) t = step move scan (replay move scan env t) e := by
  simp [replay]

theorem replay_append (env₁ env₂ : List (Bool × Cluster)) (t : Trace σ) :
    replay move scan (env₁ ++ env₂) t = replay move scan env₂ (replay move scan env₁ t) := by
  simp [replay]

end Trace

/-! ## What a leg's log keeps -/

namespace Validation

variable {P : Plan} {side : Side} {env : List (Bool × Cluster)}

/-- The row with this id is in the run's table on a side, at or above the run's watermark: a row
the leg reading that side is to visit. -/
def Plan.Shows (P : Plan) (side : Side) (c : Cluster) (x : Int64) : Prop :=
  ∃ r ∈ (c.node side).contents.table P.table, r.id = x ∧
    P.config.sinceUtime.all (· ≤ r.utime) = true

/-- The cursor is past every row the store on a side shows. -/
def Plan.Sweeps (P : Plan) (side : Side) (c : Cluster) (after : Option Int64) : Prop :=
  ∀ x, P.Shows side c x → Reached after x

/-- A read past the cursor that found nothing leaves no row behind. -/
theorem sweeps_of_page_nil {c : Cluster} {after : Option Int64} {limit : Nat}
    (hpage : page ((c.node side).contents.table P.table) P.config.sinceUtime after limit = [])
    (hlimit : 0 < limit) : P.Sweeps side c after := by
  rintro x ⟨r, hr, rfl, hsince⟩
  by_contra hreach
  have hmem := mem_page_of_short (by rw [hpage]; exact hlimit) hr
    ⟨not_reached_iff.mp hreach, hsince⟩
  rw [hpage] at hmem
  exact List.not_mem_nil hmem

/-- A read past the cursor in a sorted table that found fewer rows than it asked for leaves no
row behind its last row. -/
theorem sweeps_of_short {c : Cluster} (hs : ((c.node side).contents.table P.table).Sorted)
    {after : Option Int64} {limit : Nat} {rows : List Row}
    (hpage : page ((c.node side).contents.table P.table) P.config.sinceUtime after limit = rows)
    (hshort : rows.length < limit) (hne : rows ≠ []) :
    P.Sweeps side c (rows.getLast?.map (·.id)) := by
  rintro x ⟨r, hr, rfl, hsince⟩
  obtain ⟨last, hlast⟩ := Option.isSome_iff_exists.mp (List.getLast?_isSome.mpr hne)
  refine ⟨last.id, by rw [hlast]; rfl, ?_⟩
  by_cases hreach : Reached after r.id
  · -- the row was behind the cursor, which the page's rows lie past
    obtain ⟨a, ha, hle⟩ := hreach
    have hpast := (mem_page (hpage ▸ List.mem_of_getLast? hlast)).2.1
    rw [ha] at hpast
    exact Int64.le_of_lt (Int64.lt_of_le_of_lt hle (by simpa using hpast))
  · have hmem := mem_page_of_short (hpage ▸ hshort) hr ⟨not_reached_iff.mp hreach, hsince⟩
    rw [hpage] at hmem
    exact (hpage ▸ hs.page _ _ _ : Table.Sorted rows).le_getLast hlast hmem

/-- A leg's reads so far: strictly increasing ids, the cursor on the last of them, and no row
left behind that the store showed at every action. -/
structure Walked (P : Plan) (side : Side) (env : List (Bool × Cluster)) (seen : List Row)
    (after : Option Int64) : Prop where
  sorted : Table.Sorted seen
  cursor : after = seen.getLast?.map (·.id)
  noSkip : ∀ x, (∀ e ∈ env, P.Shows side e.2 x) → Reached after x → x ∈ seen.map (·.id)

theorem walked_start : Walked P side [] [] none :=
  ⟨List.Pairwise.nil, rfl, fun _ _ ⟨_, ha, _⟩ => by cases ha⟩

/-- An action that reads nothing and keeps the cursor. -/
theorem Walked.stay {seen : List Row} {after : Option Int64} (h : Walked P side env seen after)
    (e : Bool × Cluster) : Walked P side (env ++ [e]) seen after :=
  ⟨h.sorted, h.cursor, fun x hx => h.noSkip x fun e' he' => hx e' (List.mem_append_left _ he')⟩

/-- A read past the cursor in a sorted table: the rows it returns extend the rows read, the
cursor moves to the last of them, and every row it passed is among them. -/
theorem Walked.read {seen : List Row} {after : Option Int64} (h : Walked P side env seen after)
    {b : Bool} {c : Cluster} (hs : ((c.node side).contents.table P.table).Sorted) {limit : Nat}
    {rows : List Row}
    (hpage : page ((c.node side).contents.table P.table) P.config.sinceUtime after limit = rows)
    (hne : rows ≠ []) :
    Walked P side (env ++ [(b, c)]) (seen ++ rows) (rows.getLast?.map (·.id)) := by
  obtain ⟨last, hlast⟩ := Option.isSome_iff_exists.mp (List.getLast?_isSome.mpr hne)
  have hpast : ∀ r ∈ rows, after.all (· < r.id) = true := fun r hr =>
    (mem_page (hpage ▸ hr)).2.1
  refine ⟨List.pairwise_append.mpr ⟨h.sorted, hpage ▸ hs.page _ _ _, fun a ha r hr => ?_⟩,
    by simp [List.getLast?_append, hlast], fun x hx hreach => ?_⟩
  · -- every row read before is at or behind the cursor, which the page lies past
    obtain ⟨prev, hprev⟩ := Option.isSome_iff_exists.mp
      (List.getLast?_isSome.mpr (List.ne_nil_of_mem ha))
    have hr' := hpast r hr
    rw [h.cursor, hprev] at hr'
    exact Int64.lt_of_le_of_lt (h.sorted.le_getLast hprev ha) (by simpa using hr')
  · rw [List.map_append, List.mem_append]
    by_cases hold : Reached after x
    · exact .inl (h.noSkip x (fun e he => hx e (List.mem_append_left _ he)) hold)
    · -- a row the cursor passed in this read: the page holds it
      obtain ⟨r, hr, rfl, hsince⟩ := hx (b, c) (List.mem_append_right _ List.mem_cons_self)
      obtain ⟨a, ha, hle⟩ := hreach
      rw [hlast, Option.map_some, Option.some.injEq] at ha
      have hmem := mem_page_of_le_last hs (by rw [hpage]; exact hlast) hr
        ⟨not_reached_iff.mp hold, hsince⟩ (ha ▸ hle)
      rw [hpage] at hmem
      exact .inr (List.mem_map_of_mem hmem)

/-- Why a leg left its loop: it gave up, an action was cancelled, or at some action its cursor
was past every row the store showed. -/
def Ended (P : Plan) (side : Side) (env : List (Bool × Cluster)) (p : Progress) : Prop :=
  p.report.aborted = true ∨ (∃ e ∈ env, e.1 = true) ∨ ∃ e ∈ env, P.Sweeps side e.2 p.after

theorem Ended.grow {p : Progress} (h : Ended P side env p) (e : Bool × Cluster) :
    Ended P side (env ++ [e]) p := by
  rcases h with h | ⟨e', he', hc⟩ | ⟨e', he', hs⟩
  · exact .inl h
  · exact .inr (.inl ⟨e', List.mem_append_left _ he', hc⟩)
  · exact .inr (.inr ⟨e', List.mem_append_left _ he', hs⟩)

/-- A reason to end holds of any progress with the same cursor and the same abort flag. -/
theorem Ended.congr {p p' : Progress} (h : Ended P side env p) (hafter : p'.after = p.after)
    (habort : p'.report.aborted = p.report.aborted) : Ended P side env p' := by
  unfold Ended
  rw [hafter, habort]
  exact h

theorem ended_cancelled {p : Progress} {c : Cluster} : Ended P side (env ++ [(true, c)]) p :=
  .inr (.inl ⟨(true, c), List.mem_append_right _ List.mem_cons_self, rfl⟩)

theorem ended_sweeps {p : Progress} {b : Bool} {c : Cluster} (h : P.Sweeps side c p.after) :
    Ended P side (env ++ [(b, c)]) p :=
  .inr (.inr ⟨(b, c), List.mem_append_right _ List.mem_cons_self, h⟩)

/-- A leg that left its loop neither giving up nor cancelled read every row the store showed
at every action. -/
theorem Walked.visits {seen : List Row} {p : Progress} (hw : Walked P side env seen p.after)
    (he : Ended P side env p) (habort : p.report.aborted = false)
    (hcancel : ∀ e ∈ env, e.1 = false) {x : Int64} (hx : ∀ e ∈ env, P.Shows side e.2 x) :
    x ∈ seen.map (·.id) := by
  rcases he with h | ⟨e, he, hc⟩ | ⟨e, he, hs⟩
  · rw [habort] at h; cases h
  · rw [hcancel e he] at hc; cases hc
  · exact hw.noSkip x hx (hs x (hx e he))

/-- A leg's reports so far: the drifts it put on the bus, followed by the ids it still owes a
report, have strictly increasing ids, all of rows it read, and each drift names the run's
base. -/
def Reported (P : Plan) (seen : List Row) (sent : List Message) (owed : List Int64) : Prop :=
  ∃ ds : List Drift, sent = ds.map P.post ∧ (∀ d ∈ ds, d.side = P.base) ∧
    (ds.map (·.id) ++ owed).Pairwise (· < ·) ∧ ∀ x ∈ ds.map (·.id) ++ owed, x ∈ seen.map (·.id)

theorem reported_start : Reported P [] [] [] := ⟨[], rfl, by simp, by simp, by simp⟩

/-- Rows read past all rows read before, with the ids owed a report among them. -/
theorem Reported.read {seen rows : List Row} {sent : List Message} {owed : List Int64}
    (h : Reported P seen sent []) (hs : Table.Sorted (seen ++ rows))
    (howed : owed.Sublist (rows.map (·.id))) : Reported P (seen ++ rows) sent owed := by
  obtain ⟨ds, hsent, hside, hsorted, hmem⟩ := h
  rw [List.append_nil] at hsorted hmem
  obtain ⟨-, hrows, hcross⟩ := List.pairwise_append.mp hs
  refine ⟨ds, hsent, hside, List.pairwise_append.mpr ⟨hsorted, ?_, fun a ha b hb => ?_⟩,
    fun x hx => ?_⟩
  · exact (List.pairwise_map.mpr hrows).sublist howed
  · -- a drift is of a row read before, an owed id of a row read now
    obtain ⟨r, hr, rfl⟩ := List.mem_map.mp (hmem a ha)
    obtain ⟨r', hr', rfl⟩ := List.mem_map.mp (howed.subset hb)
    exact hcross r hr r' hr'
  · rw [List.map_append, List.mem_append]
    rcases List.mem_append.mp hx with hx | hx
    · exact .inl (hmem x hx)
    · exact .inr (howed.subset hx)

/-- The first id owed a report went out. -/
theorem Reported.send {seen : List Row} {sent : List Message} {id : Int64} {owed : List Int64}
    (h : Reported P seen sent (id :: owed)) (k : DriftKind) :
    Reported P seen (sent ++ [P.message id k]) owed := by
  obtain ⟨ds, hsent, hside, hsorted, hmem⟩ := h
  have hids : (ds ++ [Drift.mk id P.base k]).map (·.id) ++ owed = ds.map (·.id) ++ id :: owed := by
    simp
  refine ⟨ds ++ [Drift.mk id P.base k], by rw [hsent, List.map_append]; rfl, fun d hd => ?_,
    hids ▸ hsorted, hids ▸ hmem⟩
  rcases List.mem_append.mp hd with hd | hd
  · exact hside d hd
  · rw [List.mem_singleton.mp hd]

/-- The first id owed a report is owed no more: it matched, or its report was lost. -/
theorem Reported.drop {seen : List Row} {sent : List Message} {id : Int64} {owed : List Int64}
    (h : Reported P seen sent (id :: owed)) : Reported P seen sent owed := by
  obtain ⟨ds, hsent, hside, hsorted, hmem⟩ := h
  have hsub : (ds.map (·.id) ++ owed).Sublist (ds.map (·.id) ++ id :: owed) :=
    List.Sublist.append_left (List.sublist_cons_self id owed) _
  exact ⟨ds, hsent, hside, hsorted.sublist hsub, fun x hx => hmem x (hsub.subset hx)⟩

/-- Whatever is still owed, the drifts on the bus have strictly increasing ids, each of a row
read and naming the run's base. -/
theorem Reported.published {seen : List Row} {sent : List Message} {owed : List Int64}
    (h : Reported P seen sent owed) :
    ∃ ds : List Drift, sent = ds.map P.post ∧
      (∀ d ∈ ds, d.side = P.base ∧ d.id ∈ seen.map (·.id)) ∧
      (ds.map (·.id)).Pairwise (· < ·) := by
  obtain ⟨ds, hsent, hside, hsorted, hmem⟩ := h
  exact ⟨ds, hsent,
    fun d hd => ⟨hside d hd, hmem d.id (List.mem_append_left _ (List.mem_map_of_mem hd))⟩,
    hsorted.sublist (List.sublist_append_left _ _)⟩

end Validation

end TableMigration
