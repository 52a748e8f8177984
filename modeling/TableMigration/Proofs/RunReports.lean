import TableMigration.Validation.Scan
import TableMigration.Proofs.QuietCluster

/-!
# Proofs.RunReports

What a validation run puts on the bus, whatever the stores hold and whatever fails.

A run reports a drift as a message of its plan (`Plan.message`): on the plan's topic, naming
the plan's base side as the drift's direction. Between its two legs and all their steps the
run touches the bus only to offer such a message or to finish a send that waited with one;
both only append to the bus queue, and reads leave the bus alone. So every poll of a run
appends to the queue messages of its own plan and nothing else (`ScanRun.poll_appends`),
once the sends its legs wait on carry messages of the plan (`ScanRun.Carries`), which every
step keeps and a new run has.

What one poll does is stated here once (`ScanRun.poll_turns`): the legs' turns in the order of
the poll's parity, the second in the cluster the first left, then the run they leave. Every later
statement about a poll starts from it.
-/

namespace TableMigration.Validation

open TableMigration.Access TableMigration.Store

/-- A message reports a drift found by a run of this plan. -/
def Plan.Sends (P : Plan) (m : Message) : Prop := ∃ id k, m = P.message id k

/-- Going from `c` to `c'`, the bus queue only grew, by messages of the plan. -/
def Plan.Appends (P : Plan) (c c' : Cluster) : Prop :=
  ∃ sent : List Message, c'.bus.queue = c.bus.queue ++ sent ∧ ∀ m ∈ sent, P.Sends m

namespace Plan.Appends

theorem refl (P : Plan) (c : Cluster) : P.Appends c c := ⟨[], by simp, by simp⟩

theorem of_queue {P : Plan} {c c' : Cluster} (h : c'.bus.queue = c.bus.queue) : P.Appends c c' :=
  ⟨[], by simp [h], by simp⟩

theorem trans {P : Plan} {c₁ c₂ c₃ : Cluster} (h₁ : P.Appends c₁ c₂) (h₂ : P.Appends c₂ c₃) :
    P.Appends c₁ c₃ := by
  obtain ⟨s₁, hq₁, hs₁⟩ := h₁
  obtain ⟨s₂, hq₂, hs₂⟩ := h₂
  refine ⟨s₁ ++ s₂, by rw [hq₂, hq₁, List.append_assoc], fun m hm => ?_⟩
  rcases List.mem_append.mp hm with h | h
  · exact hs₁ m h
  · exact hs₂ m h

/-- Appending one message of the plan. -/
theorem single {P : Plan} {c c' : Cluster} {m : Message} (hm : P.Sends m)
    (h : c'.bus.queue = c.bus.queue ++ [m]) : P.Appends c c' :=
  ⟨[m], h, fun m' hm' => by rw [List.mem_singleton.mp hm']; exact hm⟩

end Plan.Appends

/-! ## The calls that touch the bus -/

/-- A bounded read leaves the bus alone. -/
theorem lookupWithin_appends (P : Plan) {c c' : Cluster} {s : Side} {q : Query} {limitMs : Nat}
    {r : Lookup} (h : c.lookupWithin s q limitMs = (r, c')) : P.Appends c c' := by
  have hc : c' = (c.lookupWithin s q limitMs).2 := by rw [h]
  refine .of_queue ?_
  rw [hc, Cluster.lookupWithin_snd, Cluster.lookup_snd, Cluster.setNode_bus]

/-- Publishing a message of the plan appends at most that message, and a send that waits
waits with it. -/
theorem publish_appends {P : Plan} {m : Message} (hm : P.Sends m) (c : Cluster) (limitMs : Nat) :
    P.Appends c (publish c m limitMs).2 ∧
      ∀ w, (publish c m limitMs).1 = .waiting w → w.message = m := by
  unfold publish Cluster.offer Bus.offer
  by_cases hclosed : c.bus.closed
  · simp only [hclosed, if_true]
    exact ⟨.refl P c, fun w h => by cases h⟩
  · by_cases hroom : c.bus.hasRoom
    · simp only [hclosed, hroom, if_true, Bool.false_eq_true, if_false]
      exact ⟨.single hm rfl, fun w h => by cases h⟩
    · simp only [hclosed, hroom, Bool.false_eq_true, if_false]
      exact ⟨.of_queue rfl, fun w h => by cases h; rfl⟩

/-- Finishing a send that waited with a message of the plan appends at most that message. -/
theorem finish_appends {P : Plan} {w : Waiting} (hw : P.Sends w.message) (c : Cluster) :
    P.Appends c (w.finish c).2 := by
  unfold Waiting.finish Cluster.complete Bus.complete
  by_cases hclosed : c.bus.closed
  · simp only [hclosed, if_true]
    exact .of_queue rfl
  · by_cases hgranted : c.bus.granted.contains w.ticket
    · simp only [hclosed, hgranted, if_true, Bool.false_eq_true, if_false]
      exact .single hw rfl
    · simp only [hclosed, hgranted, Bool.false_eq_true, if_false]
      exact .of_queue rfl

/-- Reporting a drift appends at most its message, and a report that waits carries it. -/
theorem notify_appends {P : Plan} {c c' : Cluster} {p p' : Progress} {id : Int64} {k : DriftKind}
    {s : Sent} (h : notify P c p id k = (s, p', c')) :
    P.Appends c c' ∧ ∀ w, s = .waiting w → P.Sends w.message := by
  have hm : P.Sends (P.message id k) := ⟨id, k, rfl⟩
  obtain ⟨happ, hwait⟩ := publish_appends hm c P.config.notifyTimeoutMs
  rcases hpub : publish c (P.message id k) P.config.notifyTimeoutMs with ⟨s₀, c₀⟩
  rw [hpub] at happ hwait
  unfold notify at h
  rw [hpub] at h
  cases s₀ with
  | delivered => cases h; exact ⟨happ, fun w h => by cases h⟩
  | lost => cases h; exact ⟨happ, fun w h => by cases h⟩
  | waiting w₀ => cases h; exact ⟨happ, fun w h => by cases h; rw [hwait w₀ rfl]; exact hm⟩

/-- Settling a waiting report appends at most its message. -/
theorem settleReport_appends {P : Plan} {w : Waiting} (hw : P.Sends w.message) (c : Cluster)
    (p : Progress) : P.Appends c (settleReport w c p).2 := by
  have happ := finish_appends hw c
  unfold settleReport
  split <;> rename_i heq <;> rw [heq] at happ <;> exact happ

/-! ## The legs -/

/-- The send the base-to-target leg waits on, if any, carries a message of the plan. -/
def Forward.Carries (P : Plan) : Forward → Prop
  | .sending w => P.Sends w.message
  | _ => True

/-- The send the target-to-base leg waits on, if any, carries a message of the plan. -/
def Backward.Carries (P : Plan) : Backward → Prop
  | .sending w _ _ => P.Sends w.message
  | _ => True

theorem Forward.carries_resume (P : Plan) (r : Resume) : (Forward.resume r).Carries P := by
  cases r <;> trivial

theorem Backward.carries_resume (P : Plan) (r : Resume) : (Backward.resume r).Carries P := by
  cases r <;> trivial

/-- Judging a record reports at most its drift, and the leg waits on the report if it
must. -/
theorem judge_appends (P : Plan) (c : Cluster) (p : Progress) (id : Int64) (base : Record)
    (target : List Row) :
    (judge P c p id base target).1.Carries P ∧ P.Appends c (judge P c p id base target).2.2 := by
  unfold judge afterJudged
  repeat' split
  all_goals first
    | exact ⟨trivial, .refl P c⟩
    | exact ⟨(notify_appends ‹_›).2 _ rfl, (notify_appends ‹_›).1⟩
    | exact ⟨trivial, (notify_appends ‹_›).1⟩

/-- One action of the base-to-target leg appends only messages of the plan and keeps its
waiting send carrying one. -/
theorem Forward.step_appends {P : Plan} {f : Forward} (hf : f.Carries P) (cancelled : Bool)
    (c : Cluster) (p : Progress) :
    (Forward.step P cancelled c (f, p)).1.Carries P ∧
      P.Appends c (Forward.step P cancelled c (f, p)).2.2 := by
  cases f with
  | head =>
    simp only [Forward.step]
    split
    · exact ⟨trivial, .refl P c⟩
    · split
      · rename_i c₁ h₁
        exact ⟨carries_resume P _, lookupWithin_appends P h₁⟩
      · rename_i c₁ h₁
        exact ⟨trivial, lookupWithin_appends P h₁⟩
      · rename_i c₁ h₁
        exact ⟨carries_resume P _, lookupWithin_appends P h₁⟩
      · rename_i row rest c₁ h₁
        have happ₁ := lookupWithin_appends P h₁
        split
        · exact ⟨trivial, happ₁⟩
        · split
          · rename_i c₂ h₂
            exact ⟨trivial, happ₁.trans (lookupWithin_appends P h₂)⟩
          · rename_i rs c₂ h₂
            obtain ⟨hcarries, happ⟩ := judge_appends P c₂ _ row.id _ rs
            exact ⟨hcarries, happ₁.trans ((lookupWithin_appends P h₂).trans happ)⟩
          · rename_i t c₂ h₂
            exact ⟨trivial, happ₁.trans (lookupWithin_appends P h₂)⟩
  | lookup id base readyAt deadline =>
    simp only [Forward.step]
    split
    · exact judge_appends P c p id base _
    · exact ⟨trivial, .refl P c⟩
  | sending w => exact ⟨trivial, settleReport_appends hf c p⟩
  | pausing wakeAt => exact ⟨by simp only [Forward.step]; split <;> trivial, .refl P c⟩
  | done => exact ⟨trivial, .refl P c⟩

/-- One action of the target-to-base leg appends only messages of the plan and keeps its
waiting send carrying one. -/
theorem Backward.step_appends {P : Plan} {b : Backward} (hb : b.Carries P) (cancelled : Bool)
    (c : Cluster) (p : Progress) :
    (Backward.step P cancelled c (b, p)).1.Carries P ∧
      P.Appends c (Backward.step P cancelled c (b, p)).2.2 := by
  cases b with
  | head =>
    simp only [Backward.step]
    split
    · exact ⟨trivial, .refl P c⟩
    · split
      · rename_i c₁ h₁
        exact ⟨carries_resume P _, lookupWithin_appends P h₁⟩
      · rename_i c₁ h₁
        exact ⟨trivial, lookupWithin_appends P h₁⟩
      · rename_i c₁ h₁
        exact ⟨carries_resume P _, lookupWithin_appends P h₁⟩
      · rename_i batch c₁ _ h₁
        have happ₁ := lookupWithin_appends P h₁
        split
        · rename_i found c₂ h₂
          exact ⟨trivial, happ₁.trans (lookupWithin_appends P h₂)⟩
        · rename_i r c₂ _ h₂
          exact ⟨trivial, happ₁.trans (lookupWithin_appends P h₂)⟩
  | publish missing n =>
    cases missing with
    | nil =>
      simp only [Backward.step]
      split
      · exact ⟨carries_resume P _, .refl P c⟩
      · exact ⟨trivial, .refl P c⟩
    | cons id rest =>
      simp only [Backward.step]
      split
      · exact ⟨(notify_appends ‹_›).2 _ rfl, (notify_appends ‹_›).1⟩
      · exact ⟨trivial, (notify_appends ‹_›).1⟩
  | sending w missing n => exact ⟨trivial, settleReport_appends hb c p⟩
  | pausing wakeAt => exact ⟨by simp only [Backward.step]; split <;> trivial, .refl P c⟩
  | done => exact ⟨trivial, .refl P c⟩

/-- Running the base-to-target leg while it is ready appends only messages of the plan. -/
theorem runForward_appends {P : Plan} (cancelled : Bool) :
    ∀ (fuel : Nat) (f : Forward) (p : Progress) (c : Cluster), f.Carries P →
      (ScanRun.runForward P cancelled fuel (f, p) c).1.1.Carries P ∧
        P.Appends c (ScanRun.runForward P cancelled fuel (f, p) c).2
  | 0, f, p, c, hf => ⟨hf, .refl P c⟩
  | fuel + 1, f, p, c, hf => by
    unfold ScanRun.runForward
    split
    · obtain ⟨hstep, happ⟩ := Forward.step_appends hf cancelled c p
      rcases heq : Forward.step P cancelled c (f, p) with ⟨f', p', c'⟩
      rw [heq] at hstep happ
      obtain ⟨hrun, happ'⟩ := runForward_appends cancelled fuel f' p' c' hstep
      exact ⟨hrun, happ.trans happ'⟩
    · exact ⟨hf, .refl P c⟩

/-- Running the target-to-base leg while it is ready appends only messages of the plan. -/
theorem runBackward_appends {P : Plan} (cancelled : Bool) :
    ∀ (fuel : Nat) (b : Backward) (p : Progress) (c : Cluster), b.Carries P →
      (ScanRun.runBackward P cancelled fuel (b, p) c).1.1.Carries P ∧
        P.Appends c (ScanRun.runBackward P cancelled fuel (b, p) c).2
  | 0, b, p, c, hb => ⟨hb, .refl P c⟩
  | fuel + 1, b, p, c, hb => by
    unfold ScanRun.runBackward
    split
    · obtain ⟨hstep, happ⟩ := Backward.step_appends hb cancelled c p
      rcases heq : Backward.step P cancelled c (b, p) with ⟨b', p', c'⟩
      rw [heq] at hstep happ
      obtain ⟨hrun, happ'⟩ := runBackward_appends cancelled fuel b' p' c' hstep
      exact ⟨hrun, happ.trans happ'⟩
    · exact ⟨hb, .refl P c⟩

/-! ## The run -/

namespace ScanRun

/-- One poll: the two legs take their turns, base to target first on an even poll and target to
base first on an odd one, the second in the cluster the first left; then the poll is counted, and
the report is made once both legs are done. -/
theorem poll_turns (r : ScanRun) (b : Bool) (c : Cluster) :
    ∃ (sf : Forward × Progress) (sb : Backward × Progress) (c₁ c₂ : Cluster),
      (runForward r.plan b pollBudget (r.forward, r.forwardProgress) c = (sf, c₁) ∧
          runBackward r.plan b pollBudget (r.backward, r.backwardProgress) c₁ = (sb, c₂) ∨
        runBackward r.plan b pollBudget (r.backward, r.backwardProgress) c = (sb, c₁) ∧
          runForward r.plan b pollBudget (r.forward, r.forwardProgress) c₁ = (sf, c₂)) ∧
      r.poll b c =
        if ScanRun.legsDone { r with forward := sf.1, backward := sb.1 } then
          ({ r with
              forward := sf.1
              forwardProgress := sf.2
              backward := sb.1
              backwardProgress := sb.2
              polls := r.polls + 1
              report := some { sf.2.report.merge sb.2.report with cancelled := b } }, c₂)
        else
          ({ r with
              forward := sf.1
              forwardProgress := sf.2
              backward := sb.1
              backwardProgress := sb.2
              polls := r.polls + 1 }, c₂) := by
  by_cases hpar : (r.polls % 2 == 0) = true
  · obtain ⟨⟨sf, c₁⟩, h₁⟩ : ∃ x, runForward r.plan b pollBudget (r.forward, r.forwardProgress) c = x :=
      ⟨_, rfl⟩
    obtain ⟨⟨sb, c₂⟩, h₂⟩ :
        ∃ x, runBackward r.plan b pollBudget (r.backward, r.backwardProgress) c₁ = x := ⟨_, rfl⟩
    refine ⟨sf, sb, c₁, c₂, .inl ⟨h₁, h₂⟩, ?_⟩
    simp only [ScanRun.poll, hpar, if_true, h₁, h₂]
    rfl
  · obtain ⟨⟨sb, c₁⟩, h₁⟩ :
        ∃ x, runBackward r.plan b pollBudget (r.backward, r.backwardProgress) c = x := ⟨_, rfl⟩
    obtain ⟨⟨sf, c₂⟩, h₂⟩ : ∃ x, runForward r.plan b pollBudget (r.forward, r.forwardProgress) c₁ = x :=
      ⟨_, rfl⟩
    refine ⟨sf, sb, c₁, c₂, .inr ⟨h₁, h₂⟩, ?_⟩
    simp only [ScanRun.poll, hpar, Bool.false_eq_true, if_false, h₁, h₂]
    rfl

/-- The sends both legs of a run wait on carry messages of its plan. -/
def Carries (r : ScanRun) : Prop := r.forward.Carries r.plan ∧ r.backward.Carries r.plan

theorem carries_start (P : Plan) : (start P).Carries := ⟨trivial, trivial⟩

/-- A poll of a run keeps its plan, appends to the bus queue only messages of its plan, and
keeps the sends its legs wait on carrying such messages. -/
theorem poll_appends {r r' : ScanRun} {c c' : Cluster} (hr : r.Carries) {cancelled : Bool}
    (hout : r.poll cancelled c = (r', c')) :
    r'.plan = r.plan ∧ r'.Carries ∧ r.plan.Appends c c' := by
  obtain ⟨hf, hb⟩ := hr
  obtain ⟨sf, sb, c₁, c₂, hturns, hpoll⟩ := r.poll_turns cancelled c
  -- each leg's turn keeps its sends carrying the plan's messages and appends only such messages
  obtain ⟨hf', hb', happ⟩ :
      sf.1.Carries r.plan ∧ sb.1.Carries r.plan ∧ r.plan.Appends c c₂ := by
    rcases hturns with ⟨h₁, h₂⟩ | ⟨h₁, h₂⟩
    · obtain ⟨hf', happ₁⟩ := runForward_appends cancelled pollBudget _ _ c hf
      obtain ⟨hb', happ₂⟩ := runBackward_appends cancelled pollBudget _ _ c₁ hb
      rw [h₁] at hf' happ₁
      rw [h₂] at hb' happ₂
      exact ⟨hf', hb', happ₁.trans happ₂⟩
    · obtain ⟨hb', happ₁⟩ := runBackward_appends cancelled pollBudget _ _ c hb
      obtain ⟨hf', happ₂⟩ := runForward_appends cancelled pollBudget _ _ c₁ hf
      rw [h₁] at hb' happ₁
      rw [h₂] at hf' happ₂
      exact ⟨hf', hb', happ₁.trans happ₂⟩
  rw [hpoll] at hout
  split at hout <;> simp only [Prod.mk.injEq] at hout <;> obtain ⟨rfl, rfl⟩ := hout <;>
    exact ⟨rfl, ⟨hf', hb'⟩, happ⟩

end ScanRun

end TableMigration.Validation
