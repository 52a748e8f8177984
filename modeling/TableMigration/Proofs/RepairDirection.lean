import Mathlib.Logic.Relation
import Mathlib.Data.List.Forall2
import TableMigration.Proofs.RunReports
import TableMigration.Proofs.Json.Records
import TableMigration.World.Step

/-!
# Proofs.RepairDirection

Detection and repair agree on which store is authoritative.

The scheduler starts a run with the current pattern's authoritative side as its base
(`World.startRun`); every report a run of that plan puts on the bus names the base as its
direction (`ScanRun.poll_appends`). A consumer on the plan's topic reads that direction back
from the payload (`Drift.decode_encode`) and repairs with the base authoritative: it may read
the base, and it writes only the other side (`RepairJob.fix_base`).

A repair job answers the items of its queue one at a time, in order, each once: an item it
takes is answered before the next one is taken, also when its base read is held back, and no
answer stops the job (`RepairJob.Progressed`, `RepairJob.pending_step`). A message on another
topic is answered with no repair and an event that cannot be read with its reading error,
both with no store call. The main statement is `World.detection_repair_agree`.
-/

namespace TableMigration

open TableMigration.Access TableMigration.Validation TableMigration.Store

/-! ## Reading a drift's type -/

/-- A payload fails with an unknown type exactly when its fields read, its direction names a
side and its type names no kind: the direction is checked first. -/
theorem Drift.decode_eq_unknownType (bytes : List UInt8) (t : String) :
    Drift.decode bytes = .error (.unknownType t) ↔
      ∃ w : Drift.Wire, Json.readDocument Drift.readWire bytes = .ok w ∧
        (Side.ofName? w.direction).isSome ∧ w.kind = t ∧ DriftKind.ofName? t = none := by
  unfold Drift.decode
  constructor
  · intro h
    split at h
    · cases h
    · rename_i w hw
      split at h
      · cases h
      · rename_i side hside
        cases hkind : DriftKind.ofName? w.kind with
        | some k => simp [DriftKind.parse, hkind] at h
        | none =>
          simp only [DriftKind.parse, hkind, Except.error.injEq, DriftError.unknownType.injEq] at h
          exact ⟨w, hw, by simp [hside], h, h ▸ hkind⟩
  · rintro ⟨w, hw, hside, rfl, hkind⟩
    obtain ⟨side, hs⟩ := Option.isSome_iff_exists.mp hside
    simp [hw, hs, DriftKind.parse, hkind]

/-- A guarded write leaves the other side as it was. -/
theorem Access.Cluster.write_node_of_opposite (c : Cluster) (s : Side) (stmt : Statement) :
    (c.write s.opposite stmt).2.node s = c.node s := by
  rw [Cluster.write_snd, Cluster.node_setNode_of_opposite]

/-- A lookup through a side's guarded path leaves that side's rows as they were. -/
theorem Access.Cluster.contents_lookup (c : Cluster) (s : Side) (q : Query) :
    ((c.lookup s q).2.node s).contents = (c.node s).contents := by
  rw [Cluster.lookup_snd, Cluster.node_setNode_self, Node.contents_admitRead]

namespace RepairJob

/-! ## Answers -/

@[simp] theorem answer_answers (j : RepairJob) (a : Except FixError (Option FixOutcome)) :
    (j.answer a).answers = j.answers ++ [a] := rfl

@[simp] theorem answer_held (j : RepairJob) (a : Except FixError (Option FixOutcome)) :
    (j.answer a).held = none := rfl

@[simp] theorem answer_queue (j : RepairJob) (a : Except FixError (Option FixOutcome)) :
    (j.answer a).queue = j.queue := rfl

@[simp] theorem answer_topic (j : RepairJob) (a : Except FixError (Option FixOutcome)) :
    (j.answer a).topic = j.topic := rfl

@[simp] theorem answer_finished (j : RepairJob) (a : Except FixError (Option FixOutcome)) :
    (j.answer a).finished = j.finished := rfl

/-- Deleting a copy answers the item. -/
theorem remove_answers (j : RepairJob) (c : Cluster) (target : Side) (id : Int64) :
    ∃ a, (j.remove c target id).1 = j.answer a := by
  unfold remove
  split <;> exact ⟨_, rfl⟩

/-- Overriding a copy answers the item. -/
theorem override_answers (j : RepairJob) (c : Cluster) (target : Side) (id : Int64)
    (rows : List Row) : ∃ a, (j.override c target id rows).1 = j.answer a := by
  unfold override
  split
  · exact remove_answers j c target id
  · split
    · exact ⟨_, rfl⟩
    · split <;> exact ⟨_, rfl⟩

/-- A repair answers the item, or holds its base read back and leaves the rest as it was. -/
theorem fix_answers (j : RepairJob) (c : Cluster) (base : Side) (d : Drift) :
    (∃ a, (j.fix c base d).1 = j.answer a) ∨
      ∃ hd, (j.fix c base d).1 = { j with held := some hd } := by
  unfold fix
  split
  · exact .inl (remove_answers j c base.opposite d.id)
  all_goals
    split
    · exact .inl ⟨_, rfl⟩
    · exact .inl (override_answers j _ base.opposite d.id _)
    · exact .inr ⟨_, rfl⟩

/-! ## Repairs write only the target -/

theorem remove_node_base (j : RepairJob) (c : Cluster) (base : Side) (id : Int64) :
    (j.remove c base.opposite id).2.node base = c.node base := by
  unfold remove
  split <;> rename_i h <;> simpa [h] using c.write_node_of_opposite base (.delete j.table id)

theorem override_node_base (j : RepairJob) (c : Cluster) (base : Side) (id : Int64)
    (rows : List Row) : (j.override c base.opposite id rows).2.node base = c.node base := by
  unfold override
  split
  · exact remove_node_base j c base id
  · split
    · rfl
    · rename_i r _
      split <;> rename_i h <;>
        simpa [h] using c.write_node_of_opposite base (.upsert j.table (rowOf r))

/-- A repair with `base` authoritative leaves the base's rows as they were: it reads the base
through its guarded path and writes only the other side. -/
theorem fix_base (j : RepairJob) (c : Cluster) (base : Side) (d : Drift) :
    ((j.fix c base d).2.node base).contents = (c.node base).contents := by
  have hread : ∀ l c', c.lookup base (.byId j.table d.id) = (l, c') →
      (c'.node base).contents = (c.node base).contents := fun l c' h => by
    simpa [h] using c.contents_lookup base (.byId j.table d.id)
  unfold fix
  split
  · rw [remove_node_base]
  all_goals
    split
    · exact hread _ _ ‹_›
    · rw [override_node_base]
      exact hread _ _ ‹_›
    · exact hread _ _ ‹_›

/-! ## Dispatch -/

/-- A message on another topic is answered with no repair and no store call. -/
theorem handle_otherTopic (j : RepairJob) (c : Cluster) {m : Message} (h : m.topic ≠ j.topic) :
    j.handle c (.message m) = (j.answer (.ok none), c) := by
  simp [handle, h]

/-- A message on the topic that cannot be read is answered with its reading error and no
store call. -/
theorem handle_undecodable (j : RepairJob) (c : Cluster) {m : Message} {e : DriftError}
    (ht : m.topic = j.topic) (h : Drift.decode m.payload = .error e) :
    j.handle c (.message m) = (j.answer (.error (FixError.ofDrift e)), c) := by
  simp [handle, ht, h]

/-- A message of a run's plan, taken on the plan's topic, is repaired with the plan's base
authoritative. -/
theorem handle_planMessage {j : RepairJob} {P : Plan} (ht : j.topic = P.topic) (c : Cluster)
    (id : Int64) (k : DriftKind) :
    j.handle c (.message (P.message id k)) = j.fix c P.base ⟨id, P.base, k⟩ := by
  have ht' : (P.message id k).topic = j.topic := ht.symm
  have hd : Drift.decode (P.message id k).payload = .ok ⟨id, P.base, k⟩ := Drift.decode_encode _
  simp [handle, ht', hd]

/-! ## Order and exactly-once -/

/-- What the answer to an item must be whatever the stores hold: no repair for a message on
another topic, and the reading error for an event that cannot be read. -/
def Settles (j : RepairJob) : Work → Except FixError (Option FixOutcome) → Prop
  | .message m, a =>
    (m.topic ≠ j.topic → a = .ok none) ∧
      ∀ e, m.topic = j.topic → Drift.decode m.payload = .error e → a = .error (FixError.ofDrift e)
  | .payload _ bytes, a => ∀ e, Drift.decode bytes = .error e → a = .error (FixError.ofDrift e)

theorem settles_congr {j j' : RepairJob} (h : j.topic = j'.topic) (w : Work)
    (a : Except FixError (Option FixOutcome)) : j.Settles w a ↔ j'.Settles w a := by
  cases w <;> simp [Settles, h]

/-- Handling an item answers it as `Settles` asks, or holds its base read back; an item whose
base read is held is an event that was read, so any answer settles it. -/
theorem handle_answers (j : RepairJob) (c : Cluster) (w : Work) :
    (∃ a, (j.handle c w).1 = j.answer a ∧ j.Settles w a) ∨
      ∃ hd, (j.handle c w).1 = { j with held := some hd } ∧ ∀ a, j.Settles w a := by
  cases w with
  | message m =>
    by_cases ht : m.topic = j.topic
    · cases hd : Drift.decode m.payload with
      | error e =>
        refine .inl ⟨_, by rw [handle_undecodable j c ht hd], fun h => absurd ht h, ?_⟩
        intro e' _ he'
        rw [hd] at he'
        cases he'
        rfl
      | ok d =>
        have hs : ∀ a, j.Settles (.message m) a := fun a =>
          ⟨fun h => absurd ht h, fun e _ he => by rw [hd] at he; cases he⟩
        have hfix : j.handle c (.message m) = j.fix c d.side d := by simp [handle, ht, hd]
        rcases fix_answers j c d.side d with ⟨a, ha⟩ | ⟨held, ha⟩
        · exact .inl ⟨a, by rw [hfix, ha], hs a⟩
        · exact .inr ⟨held, by rw [hfix, ha], hs⟩
    · exact .inl ⟨_, by rw [handle_otherTopic j c ht], fun _ => rfl, fun _ h => absurd h ht⟩
  | payload base bytes =>
    cases hd : Drift.decode bytes with
    | error e =>
      refine .inl ⟨.error (FixError.ofDrift e), by simp [handle, hd], ?_⟩
      intro e' he'
      rw [hd] at he'
      cases he'
      rfl
    | ok d =>
      have hs : ∀ a, j.Settles (.payload base bytes) a := fun _ e he => by rw [hd] at he; cases he
      have hfix : j.handle c (.payload base bytes) = j.fix c base d := by simp [handle, hd]
      rcases fix_answers j c base d with ⟨a, ha⟩ | ⟨held, ha⟩
      · exact .inl ⟨a, by rw [hfix, ha], hs a⟩
      · exact .inr ⟨held, by rw [hfix, ha], hs⟩

/-- An action with a held base read settles it. -/
theorem step_of_held {j : RepairJob} {d : Drift} {base : Side} {t : Nat}
    (h : j.held = some (d, base, t)) (c : Cluster) :
    j.step c = j.override c base.opposite d.id (c.read base (.byId j.table d.id)) := by
  simp only [RepairJob.step, h]

/-- An action with nothing held and nothing queued finishes the job. -/
theorem step_of_empty {j : RepairJob} (h : j.held = none) (hq : j.queue = []) (c : Cluster) :
    j.step c = ({ j with finished := true }, c) := by
  simp only [RepairJob.step, h, hq]

/-- An action with nothing held takes the next item. -/
theorem step_of_cons {j : RepairJob} {w : Work} {rest : List Work} (h : j.held = none)
    (hq : j.queue = w :: rest) (c : Cluster) :
    j.step c = { j with queue := rest }.handle c w := by
  simp only [RepairJob.step, h, hq]

/-- One action of an unfinished job, whatever the cluster. -/
def Acts (j j' : RepairJob) : Prop := j.finished = false ∧ ∃ c, (j.step c).1 = j'

/-- `j` is `j₀` part way through its queue: the items taken so far are answered in order, each
as `Settles` asks, but for the last one taken when its base read is held; the rest of the
queue is still to come; and the job is finished only with nothing left. -/
structure Progressed (j₀ j : RepairJob) : Prop where
  topic : j.topic = j₀.topic
  answered : ∃ taken as, List.Forall₂ j₀.Settles taken as ∧ j.answers = j₀.answers ++ as ∧
    (j.held = none → j₀.queue = taken ++ j.queue) ∧
    (j.held ≠ none → ∃ w, j₀.queue = taken ++ w :: j.queue ∧ ∀ a, j₀.Settles w a)
  finished : j.finished = true → j.held = none ∧ j.queue = []

theorem Progressed.start {j : RepairJob} (hheld : j.held = none) (hfin : j.finished = false) :
    Progressed j j :=
  ⟨rfl, ⟨[], [], .nil, by simp, fun _ => rfl, fun h => absurd hheld h⟩,
    fun h => by simp [hfin] at h⟩

/-- The step lemma: one action of an unfinished job answers the held item, takes the next
item, or finishes with nothing left. -/
theorem Progressed.step {j₀ j : RepairJob} (h : Progressed j₀ j) (hfin : j.finished = false)
    (c : Cluster) : Progressed j₀ (j.step c).1 := by
  obtain ⟨htopic, ⟨taken, as, hsettles, hans, hnone, hsome⟩, -⟩ := h
  cases hheld : j.held with
  | some hd =>
    -- the held read is settled now: the item taken last gets its answer
    obtain ⟨d, base, t⟩ := hd
    obtain ⟨w, hq, hw⟩ := hsome (by simp [hheld])
    obtain ⟨a, ha⟩ := override_answers j c base.opposite d.id (c.read base (.byId j.table d.id))
    rw [step_of_held hheld, ha]
    refine ⟨htopic, ⟨taken ++ [w], as ++ [a], List.rel_append hsettles (.cons (hw a) .nil),
      by simp [hans], fun _ => by simp [hq], fun h => absurd rfl h⟩, fun h => ?_⟩
    simp [hfin] at h
  | none =>
    cases hq : j.queue with
    | nil =>
      rw [step_of_empty hheld hq]
      exact ⟨htopic, ⟨taken, as, hsettles, hans, fun _ => by simpa [hq] using hnone hheld,
        fun h => absurd hheld h⟩, fun _ => ⟨hheld, hq⟩⟩
    | cons w rest =>
      have hq₀ : j₀.queue = taken ++ w :: rest := by simpa [hq] using hnone hheld
      have hcongr : ∀ a, { j with queue := rest }.Settles w a ↔ j₀.Settles w a :=
        settles_congr htopic w
      rw [step_of_cons hheld hq]
      rcases handle_answers { j with queue := rest } c w with ⟨a, ha, hs⟩ | ⟨held, ha, hs⟩
      · rw [ha]
        refine ⟨htopic, ⟨taken ++ [w], as ++ [a], List.rel_append hsettles (.cons ((hcongr a).1 hs) .nil),
          by simp [hans], fun _ => by simp [hq₀], fun h => absurd rfl h⟩, fun h => ?_⟩
        simp [hfin] at h
      · rw [ha]
        refine ⟨htopic, ⟨taken, as, hsettles, hans, fun h => by simp at h,
          fun _ => ⟨w, hq₀, fun a => (hcongr a).1 (hs a)⟩⟩, fun h => ?_⟩
        simp [hfin] at h

/-- The run lemma: every sequence of actions keeps a job part way through its queue. -/
theorem Progressed.run {j₀ j j' : RepairJob} (h : Progressed j₀ j)
    (hrun : Relation.ReflTransGen Acts j j') : Progressed j₀ j' := by
  induction hrun with
  | refl => exact h
  | tail _ hact ih =>
    obtain ⟨hfin, c, rfl⟩ := hact
    exact ih.step hfin c

/-- A finished job has answered its whole queue, in order, each item once. -/
theorem Progressed.answers_of_finished {j₀ j : RepairJob} (h : Progressed j₀ j)
    (hfin : j.finished = true) :
    ∃ as, j.answers = j₀.answers ++ as ∧ List.Forall₂ j₀.Settles j₀.queue as := by
  obtain ⟨-, ⟨taken, as, hsettles, hans, hnone, -⟩, hdone⟩ := h
  obtain ⟨hheld, hq⟩ := hdone hfin
  have hq₀ : j₀.queue = taken := by simpa [hq] using hnone hheld
  exact ⟨as, hans, hq₀ ▸ hsettles⟩

/-- Every action of an unfinished job brings it closer to its end: no answer stops it early
and none makes it wait for ever. -/
theorem pending_step {j : RepairJob} (hfin : j.finished = false) (c : Cluster) :
    (j.step c).1.pending < j.pending := by
  cases hheld : j.held with
  | some hd =>
    obtain ⟨d, base, t⟩ := hd
    obtain ⟨a, ha⟩ := override_answers j c base.opposite d.id (c.read base (.byId j.table d.id))
    rw [step_of_held hheld, ha]
    simp [pending, hheld, hfin]
  | none =>
    cases hq : j.queue with
    | nil =>
      rw [step_of_empty hheld hq]
      simp [pending, hheld, hfin]
    | cons w rest =>
      rw [step_of_cons hheld hq]
      rcases handle_answers { j with queue := rest } c w with ⟨a, ha, -⟩ | ⟨held, ha, -⟩
      · rw [ha]
        simp [pending, hheld, hq, hfin]
      · rw [ha]
        simp [pending, hheld, hq, hfin]
        omega

end RepairJob

/-! ## Detection and repair -/

namespace World

/-- Detection and repair agree on direction. The scheduler starts a run with the current
pattern's authoritative side as base and the other side as target; each poll of a run of that
plan puts on the bus only reports on the plan's topic naming that base; and a consumer on that
topic repairs each of them with the same base authoritative, leaving the base's store as it
was. A consumer answers its queue in order, each item once, none stopping it: a message on
another topic with no repair and an unreadable event with its reading error (an unknown type
when the fields read, the direction names a side and the type names no kind, a decode error
otherwise), both with no store call. -/
theorem detection_repair_agree (w : World) (config : Config) :
    let base := w.cell.current.authoritative
    let P := w.plan base config
    ((w.startRun config).1.direction = base ∧ P.base = base ∧ P.target = base.opposite ∧
      P.topic = w.settings.topic ∧ P.table = w.settings.table ∧
      (w.startRun config).2.tl.tasks =
        w.tl.tasks ++ [⟨(w.startRun config).1.task, .scan (ScanRun.start P), false⟩]) ∧
    (∀ (r r' : ScanRun) (c c' : Cluster) (cancelled : Bool), r.plan = P → r.Carries →
      r.poll cancelled c = (r', c') → r'.plan = P ∧ r'.Carries ∧ P.Appends c c') ∧
    (∀ (j : RepairJob) (c : Cluster) (id : Int64) (k : DriftKind), j.topic = P.topic →
      j.handle c (.message (P.message id k)) = j.fix c base ⟨id, base, k⟩ ∧
        ((j.fix c base ⟨id, base, k⟩).2.node base).contents = (c.node base).contents) ∧
    (∀ (j : RepairJob) (c : Cluster) (m : Message), m.topic ≠ j.topic →
      j.handle c (.message m) = (j.answer (.ok none), c)) ∧
    (∀ (j : RepairJob) (c : Cluster) (m : Message) (e : DriftError), m.topic = j.topic →
      Drift.decode m.payload = .error e →
        j.handle c (.message m) = (j.answer (.error (FixError.ofDrift e)), c)) ∧
    (∀ (bytes : List UInt8) (t : String), Drift.decode bytes = .error (.unknownType t) ↔
      ∃ wire : Drift.Wire, Json.readDocument Drift.readWire bytes = .ok wire ∧
        (Side.ofName? wire.direction).isSome ∧ wire.kind = t ∧ DriftKind.ofName? t = none) ∧
    (∀ e : DriftError, (∃ t, e = .unknownType t ∧ FixError.ofDrift e = .unknownType t) ∨
      ((∀ t, e ≠ .unknownType t) ∧ FixError.ofDrift e = .decode e)) ∧
    (∀ j₀ j : RepairJob, j₀.held = none → j₀.finished = false →
      Relation.ReflTransGen RepairJob.Acts j₀ j → j.finished = true →
        ∃ as, j.answers = j₀.answers ++ as ∧ List.Forall₂ j₀.Settles j₀.queue as) ∧
    (∀ (j : RepairJob) (c : Cluster), j.finished = false → (j.step c).1.pending < j.pending) := by
  intro base P
  refine ⟨⟨rfl, rfl, rfl, rfl, rfl, rfl⟩, ?_, ?_, ?_, ?_, ?_, ?_, ?_, ?_⟩
  · intro r r' c c' cancelled hplan hr hpoll
    obtain ⟨hplan', hr', happ⟩ := ScanRun.poll_appends hr hpoll
    exact ⟨hplan'.trans hplan, hr', hplan ▸ happ⟩
  · intro j c id k ht
    exact ⟨RepairJob.handle_planMessage ht c id k, RepairJob.fix_base j c base _⟩
  · intro j c m ht
    exact RepairJob.handle_otherTopic j c ht
  · intro j c m e ht hd
    exact RepairJob.handle_undecodable j c ht hd
  · exact Drift.decode_eq_unknownType
  · intro e
    cases e with
    | unknownType t => exact .inl ⟨t, rfl, rfl⟩
    | malformed e => exact .inr ⟨fun _ h => (by cases h), rfl⟩
    | unknownDirection t => exact .inr ⟨fun _ h => (by cases h), rfl⟩
  · intro j₀ j hheld hfin hrun hdone
    exact ((RepairJob.Progressed.start hheld hfin).run hrun).answers_of_finished hdone
  · intro j c hfin
    exact RepairJob.pending_step hfin c

end World

end TableMigration
