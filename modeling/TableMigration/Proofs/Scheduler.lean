import Mathlib.Data.List.Nodup
import TableMigration.World.Step

/-!
# Proofs.Scheduler

The scheduler follows an abstract state machine: a pattern cell and, for each kind of run
(full or incremental), the base side of the run its slot holds (`Machine`). A control call
(reading or switching the pattern, starting or stopping a run, the status, shutting down)
moves the system exactly as it moves the machine (`World.Tracked.controlStep`).

What carries this is an invariant of the timeline (`World.Tracked`): its validation runs are
exactly the runs the two slots hold, one task each, with distinct task numbers below the next
one. Waiting, polling and cancelling change task states but never which tasks exist
(`Timeline.Same`); stopping a run removes its task, starting one adds a task with a fresh
number. So at most one run of each kind is ever live, and stopping a slot gives a report
exactly when it held a run.

On the machine, a slot's direction is that of the pattern current at the last start not
followed by a stop, whatever switches came since (`Machine.slot_run`); under the forward-only
policy every switch stays or steps to the next pattern, and a refused switch changes nothing.
The main statement is `World.scheduler_follows_machine`.
-/

namespace TableMigration

open TableMigration.Validation

/-- Whether a task is a validation run. -/
def Task.isScan : Task → Bool
  | .scan _ => true
  | _ => false

@[simp] theorem Task.isScan_poll (t : Task) (cancelled : Bool) (c : Access.Cluster) :
    (t.poll cancelled c).1.isScan = t.isScan := by
  cases t <;> rfl

namespace Timeline

/-! ## Which tasks a timeline holds -/

/-- The number of each task and whether it is a validation run, in start order. -/
def shapes (tl : Timeline) : List (Nat × Bool) := tl.tasks.map fun e => (e.id, e.task.isScan)

/-- No two tasks share a number. -/
def Distinct (tl : Timeline) : Prop := (tl.tasks.map (·.id)).Nodup

theorem distinct_iff (tl : Timeline) : tl.Distinct ↔ (tl.shapes.map Prod.fst).Nodup := by
  simp [Distinct, shapes, Function.comp_def]

/-- Two timelines hold the same tasks, by number and kind, and number the next task alike. -/
def Same (tl tl' : Timeline) : Prop := tl'.shapes = tl.shapes ∧ tl'.nextId = tl.nextId

theorem Same.refl (tl : Timeline) : Same tl tl := ⟨rfl, rfl⟩

theorem Same.trans {tl₁ tl₂ tl₃ : Timeline} (h₁ : Same tl₁ tl₂) (h₂ : Same tl₂ tl₃) :
    Same tl₁ tl₃ :=
  ⟨h₂.1.trans h₁.1, h₂.2.trans h₁.2⟩

theorem Same.distinct {tl tl' : Timeline} (h : Same tl tl') (hd : tl.Distinct) : tl'.Distinct := by
  rw [distinct_iff, h.1]
  exact (distinct_iff tl).mp hd

theorem same_of_tasks {tl tl' : Timeline} (ht : tl'.tasks = tl.tasks) (hn : tl'.nextId = tl.nextId) :
    Same tl tl' :=
  ⟨by simp [shapes, ht], hn⟩

theorem same_cancel (tl : Timeline) (id : Nat) : Same tl (tl.cancel id) := by
  unfold cancel
  split
  · exact Same.refl tl
  · exact same_of_tasks rfl rfl

theorem same_setNow (tl : Timeline) (t : Nat) : Same tl (tl.setNow t) := same_of_tasks rfl rfl

/-- Polling a task changes its state, never its number or kind: the entry polled is the only
one with its number. -/
theorem same_pollTask {tl : Timeline} (hd : tl.Distinct) (id : Nat) :
    Same tl (tl.pollTask id) := by
  unfold pollTask
  split
  · exact Same.refl tl
  · rename_i e he
    have hmem : e ∈ tl.tasks := List.mem_of_find?_eq_some he
    have hid : e.id = id := by simpa using List.find?_some he
    rcases hpoll : e.task.poll (tl.isCancelled id) tl.cluster with ⟨t, c, victim⟩
    have hkind : t.isScan = e.task.isScan := by
      simpa [hpoll] using Task.isScan_poll e.task (tl.isCancelled id) tl.cluster
    have hsame : Same tl { tl with cluster := c, tasks := tl.tasks.map fun x =>
        if x.id == id then { x with task := t } else x } := by
      refine ⟨?_, rfl⟩
      simp only [shapes, List.map_map]
      apply List.map_congr_left
      intro x hx
      by_cases hx' : x.id = id
      · have hxe : x = e := List.inj_on_of_nodup_map hd hx hmem (hx'.trans hid.symm)
        subst hxe
        simp [hx', hkind]
      · simp [hx']
    cases victim with
    | none => exact hsame
    | some v => exact hsame.trans (same_cancel _ v)

theorem same_awaitLoop (id : Nat) (main : Bool) (fuel : Nat) {tl : Timeline}
    (hd : tl.Distinct) : Same tl (awaitLoop id main fuel tl) := by
  induction fuel generalizing tl with
  | zero => exact Same.refl tl
  | succ fuel ih =>
    unfold awaitLoop
    split
    · rename_i j _
      have hpoll := same_pollTask hd j
      dsimp only
      split
      · exact hpoll
      · exact hpoll.trans (ih (hpoll.distinct hd))
    · split
      · exact Same.refl tl
      · split
        · rename_i w _
          have hnow := same_setNow tl (max w tl.cluster.now)
          exact hnow.trans (ih (hnow.distinct hd))
        · exact Same.refl tl

theorem same_awaitWithin {tl : Timeline} (hd : tl.Distinct) (id fuel : Nat) :
    Same tl (tl.awaitWithin id fuel) := by
  unfold awaitWithin
  split
  · exact Same.refl tl
  · exact same_awaitLoop id _ fuel hd

theorem same_await {tl : Timeline} (hd : tl.Distinct) (id : Nat) : Same tl (tl.await id) :=
  same_awaitWithin hd id waitBudget

theorem same_sleepUntil (t : Nat) (fuel : Nat) {tl : Timeline} (hd : tl.Distinct) :
    Same tl (sleepUntil t fuel tl) := by
  induction fuel generalizing tl with
  | zero => exact Same.refl tl
  | succ fuel ih =>
    unfold sleepUntil
    split
    · exact Same.refl tl
    · split
      · rename_i j _
        have hpoll := same_pollTask hd j
        exact hpoll.trans (ih (hpoll.distinct hd))
      · split
        · rename_i w _
          split
          · have hnow := same_setNow tl w
            exact hnow.trans (ih (hnow.distinct hd))
          · exact same_setNow tl t
        · exact same_setNow tl t

/-- The tasks left once one is forgotten. -/
theorem shapes_remove (tl : Timeline) (id : Nat) :
    (tl.remove id).shapes = tl.shapes.filter (·.1 != id) := by
  simp [remove, shapes, List.filter_map, Function.comp_def]

/-- A task started: the new entry takes the next number. -/
theorem shapes_spawn (tl : Timeline) (t : Task) (main : Bool) :
    (tl.spawn t main).2.shapes = tl.shapes ++ [(tl.nextId, t.isScan)] := by
  simp [spawn, shapes]

/-- With distinct numbers, the task with a number is the one entry holding it. -/
theorem task?_of_mem {tl : Timeline} (hd : tl.Distinct) {e : Entry} (he : e ∈ tl.tasks) :
    tl.task? e.id = some e.task := by
  unfold task?
  cases hfind : tl.tasks.find? (·.id == e.id) with
  | none =>
    have := List.find?_eq_none.mp hfind e he
    simp at this
  | some e' =>
    have hmem : e' ∈ tl.tasks := List.mem_of_find?_eq_some hfind
    have hid : e'.id = e.id := by simpa using List.find?_some hfind
    rw [List.inj_on_of_nodup_map hd hmem he hid]
    rfl

/-- A number listed as a validation run is found as one. -/
theorem task?_scan {tl : Timeline} (hd : tl.Distinct) {id : Nat} (h : (id, true) ∈ tl.shapes) :
    ∃ r, tl.task? id = some (.scan r) := by
  obtain ⟨e, he, hshape⟩ := List.mem_map.mp h
  simp only [Prod.mk.injEq] at hshape
  obtain ⟨rfl, hscan⟩ := hshape
  rw [task?_of_mem hd he]
  cases ht : e.task with
  | scan r => exact ⟨r, rfl⟩
  | _ => simp [ht, Task.isScan] at hscan

end Timeline

/-! ## The scheduler's slots -/

/-- The two kinds of validation run the scheduler holds a slot for. -/
inductive RunKind where
  | full
  | incremental
  deriving DecidableEq, Repr

namespace World

/-- The slot of a kind of run. -/
def slot (w : World) : RunKind → Option Slot
  | .full => w.full
  | .incremental => w.incremental

/-- Fill or empty the slot of a kind of run. -/
def setSlot (w : World) : RunKind → Option Slot → World
  | .full, s => { w with full := s }
  | .incremental, s => { w with incremental := s }

@[simp] theorem slot_setSlot_self (w : World) (k : RunKind) (s : Option Slot) :
    (w.setSlot k s).slot k = s := by
  cases k <;> rfl

@[simp] theorem slot_setSlot_of_ne (w : World) {k k' : RunKind} (h : k' ≠ k) (s : Option Slot) :
    (w.setSlot k s).slot k' = w.slot k' := by
  cases k <;> cases k' <;> simp_all [setSlot, slot]

@[simp] theorem setSlot_tl (w : World) (k : RunKind) (s : Option Slot) :
    (w.setSlot k s).tl = w.tl := by
  cases k <;> rfl

@[simp] theorem setSlot_cell (w : World) (k : RunKind) (s : Option Slot) :
    (w.setSlot k s).cell = w.cell := by
  cases k <;> rfl

@[simp] theorem setSlot_settings (w : World) (k : RunKind) (s : Option Slot) :
    (w.setSlot k s).settings = w.settings := by
  cases k <;> rfl

/-- Stop the run of a kind, if any: `stopFull` and `stopIncremental` are its two cases. -/
def stopSlot (w : World) (k : RunKind) : Option Report × World :=
  match w.slot k with
  | none => (none, w)
  | some s => (w.setSlot k none).stopRun s

theorem stopFull_eq (w : World) : w.stopFull = w.stopSlot .full := by
  unfold stopFull stopSlot
  simp only [slot]
  cases w.full <;> rfl

theorem stopIncremental_eq (w : World) : w.stopIncremental = w.stopSlot .incremental := by
  unfold stopIncremental stopSlot
  simp only [slot]
  cases w.incremental <;> rfl

@[simp] theorem stopSlot_cell (w : World) (k : RunKind) : (w.stopSlot k).2.cell = w.cell := by
  unfold stopSlot
  split
  · rfl
  · cases k <;> rfl

@[simp] theorem stopSlot_settings (w : World) (k : RunKind) :
    (w.stopSlot k).2.settings = w.settings := by
  unfold stopSlot
  split
  · rfl
  · cases k <;> rfl

/-- Start a run of a kind, stopping the previous one first: `startFull` and
`startIncremental` are its two cases. -/
def startSlot (w : World) (k : RunKind) (config : Config) : Side × World :=
  let w := (w.stopSlot k).2
  let (s, w) := w.startRun config
  (s.direction, w.setSlot k (some s))

theorem startFull_eq (w : World) : w.startFull = w.startSlot .full w.settings.validator.full := by
  unfold startFull startSlot
  rw [stopFull_eq, ← stopSlot_settings w .full]
  rfl

theorem startIncremental_eq (w : World) (utime : Int64) (intervalMs : Nat) :
    w.startIncremental utime intervalMs =
      w.startSlot .incremental (w.settings.validator.incremental utime (max intervalMs 1)) := by
  unfold startIncremental startSlot
  rw [stopIncremental_eq, ← stopSlot_settings w .incremental]
  rfl

theorem shutdown_eq (w : World) : w.shutdown = ((w.stopSlot .full).2.stopSlot .incremental).2 := by
  unfold shutdown
  simp only [stopFull_eq, stopIncremental_eq]

theorem startRun_fst (w : World) (config : Config) :
    (w.startRun config).1 = ⟨w.tl.nextId, w.cell.current.authoritative⟩ := rfl

theorem startRun_snd (w : World) (config : Config) :
    (w.startRun config).2 = { w with tl := (w.tl.spawn
      (.scan (ScanRun.start (w.plan w.cell.current.authoritative config))) false).2 } := rfl

/-! ## The invariant -/

/-- The scheduler keeps track of its runs: task numbers are distinct and below the next one,
every validation run of the timeline is the run a slot holds, every slot holds a validation
run of the timeline, and the two slots hold different runs. -/
structure Tracked (w : World) : Prop where
  distinct : w.tl.Distinct
  fresh : ∀ p ∈ w.tl.shapes, p.1 < w.tl.nextId
  owned : ∀ p ∈ w.tl.shapes, p.2 = true → ∃ k s, w.slot k = some s ∧ s.task = p.1
  held : ∀ k s, w.slot k = some s → (s.task, true) ∈ w.tl.shapes
  apart : ∀ k k' s s', w.slot k = some s → w.slot k' = some s' → s.task = s'.task → k = k'

/-- A system with no task and empty slots keeps track of its runs. -/
theorem tracked_of_idle {w : World} (htasks : w.tl.tasks = []) (hfull : w.full = none)
    (hincr : w.incremental = none) : w.Tracked where
  distinct := by simp [Timeline.Distinct, htasks]
  fresh := by simp [Timeline.shapes, htasks]
  owned := by simp [Timeline.shapes, htasks]
  held k s hs := by cases k <;> simp_all [slot]
  apart k _ s _ hs := by cases k <;> simp_all [slot]

/-- Waiting moves the timeline only, and keeps its tasks. -/
theorem Tracked.of_same {w : World} (h : w.Tracked) {tl : Timeline} (hs : Timeline.Same w.tl tl) :
    { w with tl := tl }.Tracked where
  distinct := hs.distinct h.distinct
  fresh p hp := by
    rw [show tl.nextId = w.tl.nextId from hs.2]
    exact h.fresh p (hs.1 ▸ hp)
  owned p hp := h.owned p (hs.1 ▸ hp)
  held k s hk := hs.1 ▸ h.held k s hk
  apart := h.apart

@[simp] theorem slot_withTl (w : World) (tl : Timeline) (k : RunKind) :
    ({ w with tl := tl } : World).slot k = w.slot k := by
  cases k <;> rfl

/-- Switching the pattern moves no run. -/
theorem Tracked.withCell {w : World} (h : w.Tracked) (c : Cell) : { w with cell := c }.Tracked :=
  ⟨h.distinct, h.fresh, h.owned, h.held, h.apart⟩

/-- Emptying a slot and forgetting its run's task keeps track of the runs. -/
theorem Tracked.release {w : World} (h : w.Tracked) {k : RunKind} {s : Slot}
    (hk : w.slot k = some s) {tl : Timeline} (hshapes : tl.shapes = w.tl.shapes.filter (·.1 != s.task))
    (hnext : tl.nextId = w.tl.nextId) : (({ w with tl := tl } : World).setSlot k none).Tracked := by
  -- the slots left are slots of `w` other than `k`, whose runs are not the one forgotten
  have slot_of : ∀ k' s', (({ w with tl := tl } : World).setSlot k none).slot k' = some s' →
      k' ≠ k ∧ w.slot k' = some s' := fun k' s' hk' => by
    by_cases hk'k : k' = k
    · subst hk'k
      simp at hk'
    · exact ⟨hk'k, by simpa [hk'k] using hk'⟩
  have hother : ∀ k' s', k' ≠ k → w.slot k' = some s' → s'.task ≠ s.task :=
    fun k' s' hne hk' heq => hne (h.apart k' k s' s hk' hk heq)
  have htl : (({ w with tl := tl } : World).setSlot k none).tl = tl := by simp
  refine ⟨?distinct, ?fresh, ?owned, ?held, ?apart⟩
  case distinct =>
    rw [htl, Timeline.distinct_iff, hshapes]
    exact ((Timeline.distinct_iff w.tl).mp h.distinct).sublist (List.filter_sublist.map Prod.fst)
  case fresh =>
    intro p hp
    rw [htl, hshapes] at hp
    rw [htl, hnext]
    exact h.fresh p (List.mem_of_mem_filter hp)
  case owned =>
    intro p hp hscan
    rw [htl, hshapes] at hp
    obtain ⟨hp, hne⟩ := List.mem_filter.mp hp
    obtain ⟨k', s', hk', hs'⟩ := h.owned p hp hscan
    have hk'k : k' ≠ k := by
      rintro rfl
      rw [hk] at hk'
      cases hk'
      simp [hs'] at hne
    exact ⟨k', s', by simpa [hk'k] using hk', hs'⟩
  case held =>
    intro k' s' hk'
    obtain ⟨hk'k, hk''⟩ := slot_of k' s' hk'
    rw [htl, hshapes]
    exact List.mem_filter.mpr ⟨h.held k' s' hk'', by simpa using hother k' s' hk'k hk''⟩
  case apart =>
    intro k₁ k₂ s₁ s₂ h₁ h₂
    exact h.apart k₁ k₂ s₁ s₂ (slot_of k₁ s₁ h₁).2 (slot_of k₂ s₂ h₂).2

/-- Stopping the run a slot holds: cancelling and awaiting it keep the timeline's tasks, then
its task is forgotten and the slot emptied; the report is the run's, found as a scan. -/
theorem stopSlot_of_some {w : World} (hd : w.tl.Distinct) {k : RunKind} {s : Slot}
    (hk : w.slot k = some s) :
    ∃ tl, Timeline.Same w.tl tl ∧
      (w.stopSlot k).2 = ({ w with tl := tl.remove s.task } : World).setSlot k none ∧
      ((∃ r, tl.task? s.task = some (.scan r)) → (w.stopSlot k).1.isSome) := by
  set tl := (w.tl.cancel s.task).await s.task with htl
  have hcancel := Timeline.same_cancel w.tl s.task
  refine ⟨tl, hcancel.trans (Timeline.same_await (hcancel.distinct hd) s.task), ?_, ?_⟩
  · unfold World.stopSlot
    rw [hk]
    cases k <;> rfl
  · rintro ⟨r, hr⟩
    unfold World.stopSlot
    rw [hk]
    simp only [stopRun, setSlot_tl]
    rw [← htl, hr]
    rfl

/-- Stopping the run of a slot: the report is there exactly when the slot held a run, the slot
is left empty, and the run's task is gone from the timeline. -/
theorem Tracked.stopSlot {w : World} (h : w.Tracked) (k : RunKind) :
    (w.stopSlot k).2.Tracked ∧ (w.stopSlot k).1.isSome = (w.slot k).isSome ∧
      (w.stopSlot k).2.slot k = none ∧ ∀ k', k' ≠ k → (w.stopSlot k).2.slot k' = w.slot k' := by
  cases hk : w.slot k with
  | none =>
    have hstop : w.stopSlot k = (none, w) := by
      unfold World.stopSlot
      rw [hk]
    rw [hstop]
    exact ⟨h, rfl, hk, fun _ _ => rfl⟩
  | some s =>
    obtain ⟨tl, hsame, hworld, hreport⟩ := stopSlot_of_some h.distinct hk
    have hscan := Timeline.task?_scan (hsame.distinct h.distinct) (hsame.1 ▸ h.held k s hk)
    rw [hworld]
    refine ⟨h.release hk (by rw [Timeline.shapes_remove, hsame.1]) hsame.2,
      by simpa using hreport hscan, by simp, fun k' hne => by simp [hne]⟩

/-- Starting a run in an empty slot: its task takes the next number, which no task has. -/
theorem Tracked.startRun {w : World} (h : w.Tracked) {k : RunKind} (hk : w.slot k = none)
    (config : Config) : ((w.startRun config).2.setSlot k (some (w.startRun config).1)).Tracked := by
  rw [startRun_fst, startRun_snd]
  set id := w.tl.nextId
  set s : Slot := ⟨id, w.cell.current.authoritative⟩
  set tl := (w.tl.spawn (.scan (ScanRun.start (w.plan w.cell.current.authoritative config))) false).2
  have htl : (({ w with tl := tl } : World).setSlot k (some s)).tl = tl := by simp
  have hshapes : tl.shapes = w.tl.shapes ++ [(id, true)] := Timeline.shapes_spawn _ _ _
  have hnext : tl.nextId = id + 1 := rfl
  -- the new run sits in slot `k` under the new number; every other slot is as it was
  have slot_of : ∀ k' s', (({ w with tl := tl } : World).setSlot k (some s)).slot k' = some s' →
      (k' = k ∧ s' = s) ∨ (k' ≠ k ∧ w.slot k' = some s' ∧ s'.task < id) := fun k' s' hk' => by
    by_cases hk'k : k' = k
    · subst hk'k
      simp only [slot_setSlot_self, Option.some.injEq] at hk'
      exact .inl ⟨rfl, hk'.symm⟩
    · have hold : w.slot k' = some s' := by simpa [hk'k] using hk'
      exact .inr ⟨hk'k, hold, h.fresh _ (h.held k' s' hold)⟩
  refine ⟨?distinct, ?fresh, ?owned, ?held, ?apart⟩
  case distinct =>
    rw [htl, Timeline.distinct_iff, hshapes, List.map_append, List.nodup_append]
    refine ⟨(Timeline.distinct_iff w.tl).mp h.distinct, by simp, ?_⟩
    intro a ha b hb
    simp only [List.map_cons, List.map_nil, List.mem_singleton] at hb
    obtain ⟨p, hp, rfl⟩ := List.mem_map.mp ha
    have := h.fresh p hp
    omega
  case fresh =>
    intro p hp
    rw [htl, hshapes] at hp
    rw [htl, hnext]
    rcases List.mem_append.mp hp with hp | hp
    · have := h.fresh p hp
      omega
    · simp only [List.mem_singleton] at hp
      subst hp
      simp
  case owned =>
    intro p hp hscan
    rw [htl, hshapes] at hp
    rcases List.mem_append.mp hp with hp | hp
    · obtain ⟨k', s', hk', hs'⟩ := h.owned p hp hscan
      have hk'k : k' ≠ k := by
        rintro rfl
        rw [hk] at hk'
        cases hk'
      exact ⟨k', s', by simpa [hk'k] using hk', hs'⟩
    · simp only [List.mem_singleton] at hp
      subst hp
      exact ⟨k, s, by simp, rfl⟩
  case held =>
    intro k' s' hk'
    rw [htl, hshapes]
    rcases slot_of k' s' hk' with ⟨-, hs'⟩ | ⟨-, hk'', -⟩
    · simp [hs', s]
    · exact List.mem_append_left _ (h.held k' s' hk'')
  case apart =>
    -- the new run's number is above every old slot's, so it is apart from them
    intro k₁ k₂ s₁ s₂ h₁ h₂ heq
    rcases slot_of k₁ s₁ h₁ with ⟨hk₁, hs₁⟩ | ⟨-, h₁, hlt₁⟩ <;>
      rcases slot_of k₂ s₂ h₂ with ⟨hk₂, hs₂⟩ | ⟨-, h₂, hlt₂⟩
    · exact hk₁.trans hk₂.symm
    · simp [hs₁, s] at heq
      omega
    · simp [hs₂, s] at heq
      omega
    · exact h.apart k₁ k₂ s₁ s₂ h₁ h₂ heq

theorem startSlot_fst (w : World) (k : RunKind) (config : Config) :
    (w.startSlot k config).1 = w.cell.current.authoritative := by
  simp [startSlot, startRun_fst]

theorem startSlot_snd (w : World) (k : RunKind) (config : Config) :
    (w.startSlot k config).2 =
      ((w.stopSlot k).2.startRun config).2.setSlot k (some ((w.stopSlot k).2.startRun config).1) :=
  rfl

/-- Starting a run of a kind: the previous run of the kind is stopped, and the slot then holds
a new run whose direction is the current pattern's authoritative side. -/
theorem Tracked.startSlot {w : World} (h : w.Tracked) (k : RunKind) (config : Config) :
    (w.startSlot k config).2.Tracked ∧
      (w.startSlot k config).1 = w.cell.current.authoritative ∧
      ((w.startSlot k config).2.slot k).map (·.direction) = some w.cell.current.authoritative ∧
      (∀ k', k' ≠ k → (w.startSlot k config).2.slot k' = w.slot k') ∧
      (w.startSlot k config).2.cell = w.cell := by
  obtain ⟨hstop, -, hempty, hother⟩ := h.stopSlot k
  rw [startSlot_snd, startSlot_fst]
  refine ⟨hstop.startRun hempty config, rfl, by simp [startRun_fst], fun k' hne => ?_,
    by simp [startRun_snd]⟩
  simp only [slot_setSlot_of_ne _ hne, startRun_snd, slot_withTl]
  exact hother k' hne

/-- Waiting until the full run is over moves the timeline only, and keeps its tasks. -/
theorem awaitFullWithin_same (fuel : Nat) {w : World} (hd : w.tl.Distinct) :
    ∃ tl, Timeline.Same w.tl tl ∧ awaitFullWithin fuel w = { w with tl := tl } := by
  induction fuel generalizing w with
  | zero => exact ⟨w.tl, Timeline.Same.refl _, rfl⟩
  | succ fuel ih =>
    unfold awaitFullWithin
    split
    · have hsleep := Timeline.same_sleepUntil (w.cluster.now + 1) waitBudget hd
      obtain ⟨tl, hsame, heq⟩ := ih (w := w.sleepUntil (w.cluster.now + 1)) (hsleep.distinct hd)
      exact ⟨tl, hsleep.trans hsame, heq⟩
    · exact ⟨w.tl, Timeline.Same.refl _, rfl⟩

end World

/-! ## The abstract machine -/

/-- The pattern cell after a switch asked for by name: unchanged when no pattern has the name
or the policy refuses the switch. -/
def Cell.request (c : Cell) (name : String) : Cell :=
  match Pattern.parse name with
  | .error _ => c
  | .ok p =>
    match c.store p with
    | .error _ => c
    | .ok (_, c') => c'

namespace Step

/-- The control calls: reading or switching the pattern, the status, starting and stopping
runs, and shutting down. -/
def control : Step → Bool
  | .pattern | .setPattern _ | .status | .full _ | .fullStop | .incrStart _ _ | .incrStop
  | .shutdown => true
  | _ => false

/-- Whether a call starts a run of a kind and leaves it in its slot. -/
def starts : RunKind → Step → Bool
  | .full, .full wait => !wait
  | .incremental, .incrStart _ _ => true
  | _, _ => false

/-- Whether a call leaves the slot of a kind empty: a stop, a shutdown, or a full run waited
for to its end. -/
def stops : RunKind → Step → Bool
  | .full, .full wait => wait
  | .full, .fullStop => true
  | .incremental, .incrStop => true
  | _, .shutdown => true
  | _, _ => false

theorem not_starts_of_stops {k : RunKind} {st : Step} (h : st.stops k = true) :
    st.starts k = false := by
  cases k <;> cases st <;> simp_all [starts, stops]

end Step

/-- The scheduler as an abstract state machine: the pattern cell, and for each kind of run the
base side of the run its slot holds. -/
@[ext] structure Machine where
  cell : Cell
  slot : RunKind → Option Side

namespace Machine

/-- One control call: a switch moves the cell, a start fills the slot with the current
pattern's authoritative side, a stop empties it. -/
def step (m : Machine) (st : Step) : Machine where
  cell :=
    match st with
    | .setPattern name => m.cell.request name
    | _ => m.cell
  slot k :=
    if st.starts k then some m.cell.current.authoritative
    else if st.stops k then none
    else m.slot k

end Machine

namespace World

/-- What the scheduler's state machine sees of a system. -/
def machine (w : World) : Machine := ⟨w.cell, fun k => (w.slot k).map (·.direction)⟩

/-- A switch by name moves the cell as the machine does; a refused one answers with its error
and leaves the system as it was. -/
theorem step_setPattern (w : World) (name : String) :
    (∃ e, w.step (.setPattern name) = (.error (.pattern e), w) ∧ w.cell.request name = w.cell) ∨
      ∃ prev, w.step (.setPattern name) = (.ok (.previous prev), { w with cell := w.cell.request name }) := by
  cases hp : Pattern.parse name with
  | error e => exact .inl ⟨e, by simp [World.step, hp], by simp [Cell.request, hp]⟩
  | ok p =>
    cases hs : w.cell.store p with
    | error e => exact .inl ⟨e, by simp [World.step, hp, hs], by simp [Cell.request, hp, hs]⟩
    | ok r =>
      obtain ⟨prev, cell⟩ := r
      exact .inr ⟨prev, by simp [World.step, Cell.request, hp, hs]⟩

end World

namespace Machine

@[simp] theorem step_slot (m : Machine) (st : Step) (k : RunKind) :
    (m.step st).slot k =
      if st.starts k then some m.cell.current.authoritative
      else if st.stops k then none else m.slot k := rfl

/-! ## Runs of the machine -/

/-- A slot no call touches keeps its direction. -/
theorem slot_untouched (m : Machine) (k : RunKind) (calls : List Step)
    (hcalls : ∀ st ∈ calls, st.starts k = false ∧ st.stops k = false) :
    (calls.foldl step m).slot k = m.slot k := by
  induction calls generalizing m with
  | nil => rfl
  | cons st rest ih =>
    obtain ⟨hstart, hstop⟩ := hcalls st List.mem_cons_self
    rw [List.foldl_cons, ih _ fun st' h => hcalls st' (List.mem_cons_of_mem _ h)]
    simp [hstart, hstop]

/-- A slot's direction is set by the last call that starts or stops a run of its kind: the
authoritative side of the pattern current at that start, whatever switches came since, or
none after a stop. -/
theorem slot_run (m : Machine) (k : RunKind) (pre : List Step) (x : Step) (post : List Step)
    (hx : x.starts k = true ∨ x.stops k = true)
    (hpost : ∀ st ∈ post, st.starts k = false ∧ st.stops k = false) :
    ((pre ++ x :: post).foldl step m).slot k =
      if x.starts k then some (pre.foldl step m).cell.current.authoritative else none := by
  rw [List.foldl_append, List.foldl_cons, slot_untouched _ k post hpost]
  rcases hx with hstart | hstop
  · simp [hstart]
  · simp [hstop, Step.not_starts_of_stops hstop]

/-- No call changes the cell's policy. -/
theorem policy_step (m : Machine) (st : Step) : (m.step st).cell.policy = m.cell.policy := by
  cases st <;> simp only [step]
  case setPattern name =>
    unfold Cell.request
    split
    · rfl
    · split
      · rfl
      · rename_i h
        unfold Cell.store at h
        split at h
        · cases h
        · cases h
          rfl

theorem policy_run (m : Machine) (calls : List Step) :
    (calls.foldl step m).cell.policy = m.cell.policy := by
  induction calls generalizing m with
  | nil => rfl
  | cons st rest ih => rw [List.foldl_cons, ih, policy_step]

/-- Under the forward-only policy a call keeps the pattern or moves it one phase on. -/
theorem forwardStep (m : Machine) (hpol : m.cell.policy = .forwardOnly) (st : Step) :
    Pattern.isForwardStep m.cell.current (m.step st).cell.current = true := by
  have hstay : Pattern.isForwardStep m.cell.current m.cell.current = true := by
    simp [Pattern.isForwardStep]
  cases st <;> simp only [step] <;> try exact hstay
  case setPattern name =>
    unfold Cell.request
    split
    · exact hstay
    · split
      · exact hstay
      · rename_i h
        unfold Cell.store at h
        split at h
        · cases h
        · rename_i hallowed
          cases h
          simpa [hpol] using hallowed

end Machine

/-- A forward step stays in place or moves to the next phase: it never goes back and never
skips one. -/
theorem Pattern.isForwardStep_iff (a b : Pattern) :
    Pattern.isForwardStep a b = true ↔ b.index = a.index ∨ b.index = a.index + 1 := by
  cases a <;> cases b <;> decide

namespace World

@[simp] theorem machine_cell (w : World) : w.machine.cell = w.cell := rfl

@[simp] theorem machine_slot (w : World) (k : RunKind) :
    w.machine.slot k = (w.slot k).map (·.direction) := rfl

/-! ## Control calls -/

theorem step_fullStop (w : World) :
    w.step .fullStop = (.ok (.summary (w.stopSlot .full).1), (w.stopSlot .full).2) := by
  simp only [World.step, stopFull_eq]

theorem step_incrStop (w : World) :
    w.step .incrStop = (.ok (.summary (w.stopSlot .incremental).1), (w.stopSlot .incremental).2) := by
  simp only [World.step, stopIncremental_eq]

theorem step_full_snd (w : World) (wait : Bool) :
    (w.step (.full wait)).2 =
      if wait then ((w.startSlot .full w.settings.validator.full).2.awaitFull.stopSlot .full).2
      else (w.startSlot .full w.settings.validator.full).2 := by
  cases wait <;> simp only [World.step, startFull_eq, stopFull_eq] <;> rfl

theorem step_incrStart_snd (w : World) (utime : Int64) (intervalMs : Nat) :
    (w.step (.incrStart utime intervalMs)).2 =
      (w.startSlot .incremental (w.settings.validator.incremental utime (max intervalMs 1))).2 := by
  simp only [World.step, startIncremental_eq]

/-- Stopping a slot as a control call: the system moves as the machine does. -/
theorem Tracked.stopStep {w : World} (h : w.Tracked) (k : RunKind) :
    (w.stopSlot k).2.Tracked ∧ ∀ k', ((w.stopSlot k).2.slot k').map (·.direction) =
      if k' = k then none else (w.slot k').map (·.direction) := by
  obtain ⟨hstop, -, hempty, hother⟩ := h.stopSlot k
  refine ⟨hstop, fun k' => ?_⟩
  by_cases hk : k' = k
  · subst hk
    simp [hempty]
  · simp [hk, hother k' hk]

/-- One control call moves the system as it moves the machine, and keeps track of the runs. -/
theorem Tracked.controlStep {w : World} (h : w.Tracked) {st : Step} (hc : st.control = true) :
    (w.step st).2.Tracked ∧ (w.step st).2.machine = w.machine.step st := by
  cases st with
  | pattern | status =>
    refine ⟨h, Machine.ext rfl (funext fun k => ?_)⟩
    cases k <;> rfl
  | setPattern name =>
    rcases step_setPattern w name with ⟨e, hstep, hcell⟩ | ⟨prev, hstep⟩ <;> rw [hstep]
    · refine ⟨h, Machine.ext hcell.symm (funext fun k => ?_)⟩
      cases k <;> rfl
    · refine ⟨h.withCell _, Machine.ext rfl (funext fun k => ?_)⟩
      cases k <;> rfl
  | full wait =>
    obtain ⟨hstart, -, hdir, hother, hcell⟩ := h.startSlot .full w.settings.validator.full
    rw [step_full_snd]
    cases wait with
    | false =>
      refine ⟨hstart, Machine.ext (by simpa [Machine.step] using hcell) (funext fun k => ?_)⟩
      cases k
      · simpa [Step.starts] using hdir
      · simp [Step.starts, Step.stops, hother]
    | true =>
      -- the full run started is waited for, then stopped
      obtain ⟨tl, hsame, hwait⟩ := awaitFullWithin_same waitBudget hstart.distinct
      have hwaited := hstart.of_same hsame
      obtain ⟨hstop, hslots⟩ := hwaited.stopStep .full
      simp only [if_true]
      rw [awaitFull, hwait]
      refine ⟨hstop, Machine.ext (by simpa [Machine.step] using hcell) (funext fun k => ?_)⟩
      rw [machine_slot, hslots]
      cases k
      · simp [Step.starts, Step.stops]
      · simp [Step.starts, Step.stops, hother]
  | fullStop =>
    obtain ⟨hstop, hslots⟩ := h.stopStep .full
    rw [step_fullStop]
    refine ⟨hstop, Machine.ext (by simp [Machine.step]) (funext fun k => ?_)⟩
    rw [machine_slot, hslots]
    cases k <;> simp [Step.starts, Step.stops]
  | incrStart utime intervalMs =>
    obtain ⟨hstart, -, hdir, hother, hcell⟩ :=
      h.startSlot .incremental (w.settings.validator.incremental utime (max intervalMs 1))
    rw [step_incrStart_snd]
    refine ⟨hstart, Machine.ext (by simpa [Machine.step] using hcell) (funext fun k => ?_)⟩
    cases k
    · simp [Step.starts, Step.stops, hother]
    · simpa [Step.starts] using hdir
  | incrStop =>
    obtain ⟨hstop, hslots⟩ := h.stopStep .incremental
    rw [step_incrStop]
    refine ⟨hstop, Machine.ext (by simp [Machine.step]) (funext fun k => ?_)⟩
    rw [machine_slot, hslots]
    cases k <;> simp [Step.starts, Step.stops]
  | shutdown =>
    obtain ⟨hfull, hslots₁⟩ := h.stopStep .full
    obtain ⟨hincr, hslots₂⟩ := hfull.stopStep .incremental
    refine ⟨by simpa [World.step, shutdown_eq] using hincr, Machine.ext ?_ (funext fun k => ?_)⟩
    · simp [World.step, shutdown_eq, Machine.step]
    · simp only [World.step, shutdown_eq, machine_slot]
      rw [hslots₂, hslots₁]
      cases k <;> simp [Step.starts, Step.stops]
  | _ => simp [Step.control] at hc

/-- Starting a run of a kind replaces the run the slot held: the old run's task is gone from the
timeline, and the new one has a number it never had. -/
theorem Tracked.startSlot_replaces {w : World} (h : w.Tracked) {k : RunKind} {s : Slot}
    (hk : w.slot k = some s) (config : Config) :
    ∀ p ∈ (w.startSlot k config).2.tl.shapes, p.1 ≠ s.task := by
  obtain ⟨tl, hsame, hworld, -⟩ := stopSlot_of_some h.distinct hk
  have hlt : s.task < w.tl.nextId := h.fresh _ (h.held k s hk)
  intro p hp
  rw [startSlot_snd, setSlot_tl, startRun_snd] at hp
  simp only [Timeline.shapes_spawn, hworld, setSlot_tl, Timeline.shapes_remove, hsame.1,
    List.mem_append, List.mem_filter, List.mem_singleton] at hp
  rcases hp with ⟨-, hne⟩ | rfl
  · simpa using hne
  · have hnext : (tl.remove s.task).nextId = w.tl.nextId := hsame.2
    simp only [hnext]
    omega

/-- The run lemma: a sequence of control calls moves the system as it moves the machine. -/
theorem Tracked.controlSteps {w : World} (h : w.Tracked) {calls : List Step}
    (hcalls : ∀ st ∈ calls, st.control = true) :
    (w.steps calls).2.Tracked ∧ (w.steps calls).2.machine = calls.foldl Machine.step w.machine := by
  induction calls generalizing w with
  | nil => exact ⟨h, rfl⟩
  | cons st rest ih =>
    obtain ⟨hstep, hmachine⟩ := h.controlStep (hcalls st List.mem_cons_self)
    obtain ⟨hrest, hmrest⟩ := ih hstep fun st' h' => hcalls st' (List.mem_cons_of_mem _ h')
    refine ⟨hrest, ?_⟩
    rw [List.foldl_cons, ← hmachine, ← hmrest]
    rfl

/-! ## The scheduler follows its machine -/

/-- The scheduler follows its abstract state machine under every sequence of control calls from
a system that keeps track of its runs (a new one does). The status reports the machine's
pattern and directions. A slot's direction is the authoritative side of the pattern current at
the last start of its kind not followed by a stop, whatever switches came since, and none after
a stop. Every validation run in the timeline is the run of a slot, task numbers are distinct,
and a start replaces the run of its kind: at most one run of each kind is live. A stop reports
exactly when its slot held a run and leaves the slot empty. Under the forward-only policy each
call keeps the pattern or moves it one phase on, and a refused switch changes nothing. -/
theorem scheduler_follows_machine (w₀ : World) (h₀ : w₀.Tracked) (calls : List Step)
    (hcalls : ∀ st ∈ calls, st.control = true) :
    let w := (w₀.steps calls).2
    let m := calls.foldl Machine.step w₀.machine
    (w.step .status = (.ok (.status w.status), w) ∧ w.status.pattern = m.cell.current ∧
      w.status.fullDirection = m.slot .full ∧ w.status.incrementalDirection = m.slot .incremental) ∧
    (∀ k pre x post, calls = pre ++ x :: post → (x.starts k = true ∨ x.stops k = true) →
      (∀ st ∈ post, st.starts k = false ∧ st.stops k = false) →
      m.slot k = if x.starts k then some (w₀.steps pre).2.cell.current.authoritative else none) ∧
    (∀ k, (∀ st ∈ calls, st.starts k = false ∧ st.stops k = false) → m.slot k = w₀.machine.slot k) ∧
    (∀ p ∈ w.tl.shapes, p.2 = true → ∃ k s, w.slot k = some s ∧ s.task = p.1) ∧
    (w.tl.shapes.map Prod.fst).Nodup ∧
    (∀ s, w.full = some s → ∀ p ∈ (w.step (.full false)).2.tl.shapes, p.1 ≠ s.task) ∧
    (∀ s utime intervalMs, w.incremental = some s →
      ∀ p ∈ (w.step (.incrStart utime intervalMs)).2.tl.shapes, p.1 ≠ s.task) ∧
    (∃ r, w.step .fullStop = (.ok (.summary r), (w.step .fullStop).2) ∧
      r.isSome = w.full.isSome ∧ (w.step .fullStop).2.full = none) ∧
    (∃ r, w.step .incrStop = (.ok (.summary r), (w.step .incrStop).2) ∧
      r.isSome = w.incremental.isSome ∧ (w.step .incrStop).2.incremental = none) ∧
    (w₀.cell.policy = .forwardOnly → ∀ pre x post, calls = pre ++ x :: post →
      let a := (w₀.steps pre).2.cell.current
      let b := (w₀.steps (pre ++ [x])).2.cell.current
      b.index = a.index ∨ b.index = a.index + 1) ∧
    (∀ name e, (w.step (.setPattern name)).1 = .error e → (w.step (.setPattern name)).2 = w) := by
  intro w m
  obtain ⟨hw, hm⟩ := h₀.controlSteps hcalls
  -- the machine after a prefix of the calls is the system's after it
  have hprefix : ∀ pre, (∃ post, calls = pre ++ post) →
      (w₀.steps pre).2.machine = pre.foldl Machine.step w₀.machine := by
    rintro pre ⟨post, rfl⟩
    exact (h₀.controlSteps fun st hst => hcalls st (List.mem_append_left _ hst)).2
  refine ⟨⟨rfl, ?_, ?_, ?_⟩, ?_, ?_, hw.owned, (Timeline.distinct_iff _).mp hw.distinct, ?_, ?_, ?_,
    ?_, ?_, ?_⟩
  · exact congrArg (·.cell.current) hm
  · exact congrArg (·.slot .full) hm
  · exact congrArg (·.slot .incremental) hm
  · intro k pre x post hsplit hx hpost
    rw [show m = (pre ++ x :: post).foldl Machine.step w₀.machine by rw [← hsplit],
      Machine.slot_run _ k pre x post hx hpost, ← hprefix pre ⟨_, hsplit⟩]
    rfl
  · exact fun k hk => Machine.slot_untouched _ k calls hk
  · intro s hs
    rw [step_full_snd]
    exact hw.startSlot_replaces (k := .full) hs _
  · intro s utime intervalMs hs
    rw [step_incrStart_snd]
    exact hw.startSlot_replaces (k := .incremental) hs _
  · obtain ⟨-, hreport, hempty, -⟩ := hw.stopSlot .full
    exact ⟨_, by rw [step_fullStop], hreport, by rw [step_fullStop]; exact hempty⟩
  · obtain ⟨-, hreport, hempty, -⟩ := hw.stopSlot .incremental
    exact ⟨_, by rw [step_incrStop], hreport, by rw [step_incrStop]; exact hempty⟩
  · intro hpol pre x post hsplit
    have hpre := hprefix pre ⟨_, hsplit⟩
    have hx := hprefix (pre ++ [x]) ⟨post, by simp [hsplit]⟩
    have hcell : (w₀.steps (pre ++ [x])).2.cell = ((pre.foldl Machine.step w₀.machine).step x).cell := by
      rw [← machine_cell, hx, List.foldl_append]
      rfl
    have hpol' : (pre.foldl Machine.step w₀.machine).cell.policy = .forwardOnly := by
      rw [Machine.policy_run]
      exact hpol
    rw [← Pattern.isForwardStep_iff]
    show Pattern.isForwardStep (w₀.steps pre).2.cell.current (w₀.steps (pre ++ [x])).2.cell.current
    rw [hcell, ← machine_cell, hpre]
    exact Machine.forwardStep _ hpol' x
  · intro name e herr
    rcases step_setPattern w name with ⟨e', hstep, -⟩ | ⟨prev, hstep⟩
    · rw [hstep]
    · rw [hstep] at herr
      cases herr

/-- A new system, switched to source-first and then asked to start a full run, follows the
machine. -/
theorem scheduler_follows_machine_create :
    (World.create {} 0).Tracked ∧
      (∀ st ∈ [Step.setPattern "SRC_FIRST", .full false, .status], st.control = true) ∧
      let calls := [Step.setPattern "SRC_FIRST", .full false, .status]
      let w := ((World.create {} 0).steps calls).2
      w.step .status = (.ok (.status w.status), w) :=
  ⟨tracked_of_idle rfl rfl rfl, by simp [Step.control],
    (scheduler_follows_machine (World.create {} 0) (tracked_of_idle rfl rfl rfl)
      [Step.setPattern "SRC_FIRST", .full false, .status] (by simp [Step.control])).1.1⟩

end World

end TableMigration
