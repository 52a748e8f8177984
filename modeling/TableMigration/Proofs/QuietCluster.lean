import TableMigration.Access.Cluster
import TableMigration.Proofs.Tables

/-!
# Proofs.QuietCluster

A cluster seen by one activity that only reads the stores and publishes on the bus.

A call through a path changes that path alone: a read or a begin only its counters, a write
its store as well when the path lets it through (`Node.contents_guardedWrite`); the other
side's path and the bus stay as they were.

A path is `Clear` when no fault is set on it: it is online, no scan or batch lookup is set to
fail and no id is slow. A read through a clear path is counted and answered at once from the
store (`Cluster.lookupWithin_clear`), so the store and the faults stay as they were.

The bus is followed by what was offered on it since a starting bus `b0`: while nobody takes
messages off it, the first `b0.room` offers are queued in order and every later one waits
for room that never comes (`Bus.Posted`). A sender that waited holds a ticket the bus never
gave room to, so its send ends without the message.
-/

namespace TableMigration

open TableMigration.Store

/-! ## Calls through a path, and clear paths -/

namespace Access

/-- No fault is set on the path: it is online, scans and batch lookups do not fail, and no
lookup is held back. -/
def Node.Clear (n : Node) : Prop :=
  n.faults.offline = false ∧ n.faults.failNextScans = 0 ∧ n.faults.failByIds = false ∧
    n.faults.slow = none

/-- The node after one more read went through its path. -/
def Node.counted (n : Node) : Node :=
  { n with faults := { n.faults with queries := n.faults.queries + 1 } }

@[simp] theorem Node.contents_counted (n : Node) : n.counted.contents = n.contents := rfl

@[simp] theorem Node.read_counted (n : Node) (q : Query) : n.counted.read q = n.read q := rfl

theorem Node.Clear.counted {n : Node} (h : n.Clear) : n.counted.Clear := h

/-- A clear path admits every read at once and counts it. -/
theorem Node.admitRead_clear {n : Node} (h : n.Clear) (q : Query) :
    n.admitRead q = (.ok 0, n.counted) := by
  obtain ⟨hoff, hscans, hbyIds, hslow⟩ := h
  cases q <;> simp [admitRead, counted, hoff, hscans, hbyIds, hslow]

/-- A guarded write applies its statement when the path lets it through, and changes no row
when refused. -/
theorem Node.contents_guardedWrite (n : Node) (stmt : Statement) :
    (n.guardedWrite stmt).2.contents =
      if (n.guardedWrite stmt).1.isOk then (n.contents.apply stmt).2 else n.contents := by
  unfold Node.guardedWrite Node.admitWrite
  by_cases hoff : n.faults.offline <;> by_cases hfail : n.faults.failWrites <;>
    simp [hoff, hfail, Node.write, Except.isOk, Except.toBool]

/-- A read through a path changes its counters only. -/
theorem Node.contents_admitRead (n : Node) (q : Query) : (n.admitRead q).2.contents = n.contents := by
  unfold Node.admitRead
  split
  · rfl
  · cases q <;> simp only <;> split <;> rfl

/-- A begin through a path changes its counters only. -/
theorem Node.contents_admitBegin (n : Node) : n.admitBegin.2.contents = n.contents := by
  by_cases hoff : n.faults.offline <;> by_cases hfail : n.faults.failBegin <;>
    simp [Node.admitBegin, hoff, hfail]

namespace Cluster

@[simp] theorem setNode_now (c : Cluster) (s : Side) (n : Node) : (c.setNode s n).now = c.now := by
  cases s <;> rfl

@[simp] theorem setNode_bus (c : Cluster) (s : Side) (n : Node) : (c.setNode s n).bus = c.bus := by
  cases s <;> rfl

@[simp] theorem node_setNode_self (c : Cluster) (s : Side) (n : Node) :
    (c.setNode s n).node s = n := node_setNode c s n

@[simp] theorem node_setNode_opposite (c : Cluster) (s : Side) (n : Node) :
    (c.setNode s n).node s.opposite = c.node s.opposite := by
  cases s <;> rfl

@[simp] theorem node_setNode_of_opposite (c : Cluster) (s : Side) (n : Node) :
    (c.setNode s.opposite n).node s = c.node s := by
  cases s <;> rfl

theorem write_fst (c : Cluster) (s : Side) (stmt : Statement) :
    (c.write s stmt).1 = ((c.node s).guardedWrite stmt).1 := rfl

theorem write_snd (c : Cluster) (s : Side) (stmt : Statement) :
    (c.write s stmt).2 = c.setNode s ((c.node s).guardedWrite stmt).2 := rfl

/-- A guarded write leaves the other side's path as it was. -/
theorem write_node_opposite (c : Cluster) (s : Side) (stmt : Statement) :
    (c.write s stmt).2.node s.opposite = c.node s.opposite := by
  rw [write_snd, node_setNode_opposite]

/-- The cluster once one more read went through a side's path. -/
def counted (c : Cluster) (s : Side) : Cluster := c.setNode s (c.node s).counted

@[simp] theorem counted_now (c : Cluster) (s : Side) : (c.counted s).now = c.now := by
  simp [counted]

@[simp] theorem counted_bus (c : Cluster) (s : Side) : (c.counted s).bus = c.bus := by
  simp [counted]

/-- A guarded read changes its own path only, whatever it answers. -/
theorem lookup_snd (c : Cluster) (s : Side) (q : Query) :
    (c.lookup s q).2 = c.setNode s ((c.node s).admitRead q).2 := by
  unfold lookup onNode
  split <;> simp_all

/-- A bounded read changes what the read itself changes. -/
theorem lookupWithin_snd (c : Cluster) (s : Side) (q : Query) (limitMs : Nat) :
    (c.lookupWithin s q limitMs).2 = (c.lookup s q).2 := by
  unfold lookupWithin
  split
  · rename_i rs c' h
    rw [h]
    split <;> rfl
  · rfl

/-- A bounded read through a clear path answers at once with the store's rows, and the
cluster keeps everything but the path's read count. -/
theorem lookupWithin_clear (c : Cluster) (s : Side) (q : Query) {limitMs : Nat}
    (h : (c.node s).Clear) (hlimit : 0 < limitMs) :
    c.lookupWithin s q limitMs = (.rows ((c.node s).read q), c.counted s) := by
  have hne : limitMs ≠ 0 := Nat.pos_iff_ne_zero.mp hlimit
  simp [lookupWithin, lookup, onNode, Node.admitRead_clear h, read, hne, counted]

end Cluster

end Access

/-! ## What the bus shows of the offers made on it -/

namespace Bus

/-- How many more messages the bus queues without a wait: none once it is closed. -/
def room (b : Bus) : Nat := if b.closed then 0 else b.capacity - (b.queue.length + b.granted.length)

/-- Every ticket given room was handed out before the next one. -/
def TicketsIssued (b : Bus) : Prop := ∀ t ∈ b.granted, t < b.nextTicket

/-- The bus `b` is `b0` after the offers `sent`, in order, with nobody taking messages off it:
the first `b0.room` of them are queued, the others waited. -/
structure Posted (b0 : Bus) (sent : List Message) (b : Bus) : Prop where
  capacity : b.capacity = b0.capacity
  closed : b.closed = b0.closed
  granted : b.granted = b0.granted
  queue : b.queue = b0.queue ++ sent.take b0.room
  tickets : b0.nextTicket ≤ b.nextTicket

theorem Posted.start (b0 : Bus) : Posted b0 [] b0 := ⟨rfl, rfl, rfl, by simp, le_refl _⟩

/-- What one offer does to a bus that shows `sent`: the offer is accepted while there is room,
refused on a closed bus, and otherwise waits with a ticket the bus never gave room to. -/
theorem Posted.offer {b0 b : Bus} {sent : List Message} (hp : Posted b0 sent b)
    (hissued : b0.TicketsIssued) (m : Message) :
    Posted b0 (sent ++ [m]) (b.offer m).2 ∧
      ((b.offer m).1 = .accepted ∧ sent.length < b0.room ∨
       (b.offer m).1 = .refused ∧ b0.room = 0 ∨
       ∃ t, (b.offer m).1 = .queued t ∧ b0.room ≤ sent.length ∧ t ∉ b0.granted) := by
  have hlen : b.queue.length + b.granted.length =
      b0.queue.length + min b0.room sent.length + b0.granted.length := by
    simp [hp.queue, hp.granted]
  by_cases hclosed : b.closed = true
  · have hoffer : b.offer m = (.refused, b) := by simp [Bus.offer, hclosed]
    have hroom : b0.room = 0 := by simp [room, ← hp.closed, hclosed]
    rw [hoffer]
    refine ⟨⟨hp.capacity, hp.closed, hp.granted, ?_, hp.tickets⟩, .inr (.inl ⟨rfl, hroom⟩)⟩
    simp [hp.queue, hroom]
  · have hopen : b0.closed = false := by simpa [hp.closed] using hclosed
    have hroom : b0.room = b0.capacity - (b0.queue.length + b0.granted.length) := by
      simp [room, hopen]
    by_cases hhas : b.hasRoom = true
    · have hoffer : b.offer m = (.accepted, { b with queue := b.queue ++ [m] }) := by
        simp [Bus.offer, hclosed, hhas]
      have hlt : sent.length < b0.room := by
        simp only [hasRoom, decide_eq_true_eq, hlen, hp.capacity] at hhas
        omega
      rw [hoffer]
      refine ⟨⟨hp.capacity, hp.closed, hp.granted, ?_, hp.tickets⟩, .inl ⟨rfl, hlt⟩⟩
      -- the new message still fits: it is queued right after the earlier ones
      have hfits : [m].length ≤ b0.room - sent.length := by simp; omega
      rw [hp.queue, List.take_append, List.take_of_length_le (Nat.le_of_lt hlt),
        List.take_of_length_le hfits, List.append_assoc]
    · have hoffer : b.offer m = (.queued b.nextTicket,
          { b with waiting := b.waiting ++ [b.nextTicket], nextTicket := b.nextTicket + 1 }) := by
        simp [Bus.offer, hclosed, hhas]
      have hge : b0.room ≤ sent.length := by
        simp only [hasRoom, decide_eq_true_eq, hlen, hp.capacity] at hhas
        omega
      rw [hoffer]
      refine ⟨⟨hp.capacity, hp.closed, hp.granted, ?_, Nat.le_succ_of_le hp.tickets⟩,
        .inr (.inr ⟨b.nextTicket, rfl, hge, fun hmem => ?_⟩)⟩
      · -- no room was left, so the queue does not grow
        rw [hp.queue, List.take_append, Nat.sub_eq_zero_of_le hge, List.take_zero,
          List.append_nil]
      · have := hissued _ hmem
        have := hp.tickets
        omega

/-- A send that waited with a ticket the bus never gave room to ends without its message,
and the bus still shows the same offers. -/
theorem Posted.complete {b0 b : Bus} {sent : List Message} (hp : Posted b0 sent b) {t : Nat}
    (ht : t ∉ b0.granted) (m : Message) :
    (b.complete t m).1 = false ∧ Posted b0 sent (b.complete t m).2 := by
  have hmem : t ∉ b.granted := by rw [hp.granted]; exact ht
  have herase : b.granted.erase t = b.granted := List.erase_of_not_mem hmem
  by_cases hclosed : b.closed = true
  · have hcomplete : b.complete t m = (false, { b with waiting := b.waiting.erase t }) := by
      simp [Bus.complete, hclosed, herase]
    rw [hcomplete]
    exact ⟨rfl, hp.capacity, hp.closed, hp.granted, hp.queue, hp.tickets⟩
  · have hcomplete : b.complete t m = (false, { b with waiting := b.waiting.erase t }) := by
      simp [Bus.complete, hclosed, hmem]
    rw [hcomplete]
    exact ⟨rfl, hp.capacity, hp.closed, hp.granted, hp.queue, hp.tickets⟩

end Bus

namespace Access

/-- Publishing on a bus that shows `sent`: the message goes out while there is room, is lost
on a closed bus, and otherwise waits, for a deadline, with a ticket never given room. -/
theorem publish_posted {b0 : Bus} {sent : List Message} {c : Cluster}
    (hp : Bus.Posted b0 sent c.bus) (hissued : b0.TicketsIssued) (m : Message) (limitMs : Nat) :
    Bus.Posted b0 (sent ++ [m]) (publish c m limitMs).2.bus ∧
      (publish c m limitMs).2.now = c.now ∧
      (∀ s, (publish c m limitMs).2.node s = c.node s) ∧
      ((publish c m limitMs).1 = .delivered ∧ sent.length < b0.room ∨
       (publish c m limitMs).1 = .lost ∧ b0.room = 0 ∨
       ∃ w, (publish c m limitMs).1 = .waiting w ∧ b0.room ≤ sent.length ∧
         w.ticket ∉ b0.granted) := by
  obtain ⟨hposted, hcases⟩ := hp.offer hissued m
  generalize hoff : c.bus.offer m = r at hposted hcases
  obtain ⟨o, b⟩ := r
  simp only at hposted hcases
  have hnodes : ∀ s, ({ c with bus := b } : Cluster).node s = c.node s := fun s => by cases s <;> rfl
  rcases hcases with ⟨rfl, hlt⟩ | ⟨rfl, hroom⟩ | ⟨t, rfl, hge, ht⟩
  · have hpub : publish c m limitMs = (.delivered, { c with bus := b }) := by
      simp only [Access.publish, Cluster.offer, hoff]
    rw [hpub]
    exact ⟨hposted, rfl, hnodes, .inl ⟨rfl, hlt⟩⟩
  · have hpub : publish c m limitMs = (.lost, { c with bus := b }) := by
      simp only [Access.publish, Cluster.offer, hoff]
    rw [hpub]
    exact ⟨hposted, rfl, hnodes, .inr (.inl ⟨rfl, hroom⟩)⟩
  · have hpub : publish c m limitMs = (.waiting ⟨m, t, c.now + limitMs⟩, { c with bus := b }) := by
      simp only [Access.publish, Cluster.offer, hoff]
    rw [hpub]
    exact ⟨hposted, rfl, hnodes, .inr (.inr ⟨_, rfl, hge, ht⟩)⟩

/-- A waiting send whose ticket was never given room finishes lost, leaving the bus showing
the same offers. -/
theorem finish_posted {b0 : Bus} {sent : List Message} {c : Cluster}
    (hp : Bus.Posted b0 sent c.bus) {w : Waiting} (ht : w.ticket ∉ b0.granted) :
    (w.finish c).1 = .lost ∧ Bus.Posted b0 sent (w.finish c).2.bus ∧ (w.finish c).2.now = c.now ∧
      ∀ s, (w.finish c).2.node s = c.node s := by
  obtain ⟨hfalse, hposted⟩ := hp.complete ht w.message
  generalize hcomp : c.bus.complete w.ticket w.message = r at hfalse hposted
  obtain ⟨ok, b⟩ := r
  simp only at hfalse
  subst hfalse
  have hfin : w.finish c = (.lost, { c with bus := b }) := by
    simp only [Waiting.finish, Cluster.complete, hcomp]
  rw [hfin]
  exact ⟨rfl, hposted, rfl, fun s => by cases s <;> rfl⟩

end Access

end TableMigration
