import TableMigration.Proofs.DualWrite

/-!
# Proofs.Routing

Where a double-write pool sends each call, and which failures it passes on.

Each statement says what a call through a pool does in terms of calls through one side's own
path (`Link.guarded`, `beginGuarded`) or of one leg of a transaction: the pool calls the
authoritative side first and answers with its answer, calls the shadow side only after the
authoritative side went through, and never lets the shadow side's answer through. The main
statement is `World.pool_routing`.
-/

namespace TableMigration

open TableMigration.Access TableMigration.Store

namespace World

/-! ## Calls through a pool -/

/-- A write through a pool is the authoritative side's write, then, when that went through and
the pattern has a shadow, the shadow side's write, whose answer is dropped. -/
theorem exec_routed {w : World} {link : Link} {p : Pattern} (hp : w.routeOf link = some p)
    (stmt : Statement) :
    w.exec link stmt =
      match w.exec (.guarded p.authoritative) stmt with
      | (.error f, w₁) => (.error f, w₁)
      | (.ok k, w₁) =>
        match p.shadow with
        | none => (.ok k, w₁)
        | some s => (.ok k, (w₁.exec (.guarded s) stmt).2) := by
  rw [exec_of_route hp]
  simp only [exec]
  cases w.cluster.write p.authoritative stmt with
  | mk r c =>
    cases r with
    | error f => rfl
    | ok k => cases p.shadow <;> rfl

/-- A read through a pool is a read through the authoritative side's own path. -/
theorem query_routed {w : World} {link : Link} {p : Pattern} (hp : w.routeOf link = some p)
    (q : Query) : w.query link q = w.query (.guarded p.authoritative) q := by
  rw [query_of_route hp]
  rfl

/-- A pool refuses to prepare a statement and touches nothing. -/
theorem prepare_routed {w : World} {link : Link} {p : Pattern} (hp : w.routeOf link = some p)
    (stmt : Statement) : w.prepare link stmt = (.error (.unsupportedInDoubleWrite "prepare"), w) := by
  cases link <;> simp [routeOf] at hp <;> rfl


/-! ## Opening a transaction -/

/-- A begin through a pool begins on the authoritative side's path first; its refusal is the
answer and the shadow side is not asked. Otherwise the transaction gets the authoritative leg
and, when the pattern has a shadow, a shadow leg if the shadow side's begin went through and
none if it was refused. -/
theorem begin_routed {w : World} {link : Link} {p : Pattern} (hp : w.routeOf link = some p) :
    w.begin link =
      match beginGuarded w.cluster p.authoritative with
      | (.error f, c) => (.error f, w.setCluster c)
      | (.ok l, c) =>
        (.ok w.handles.size,
          { w.setCluster (p.shadow.elim c fun s => (beginGuarded c s).2) with
            handles := w.handles.push (some
              { primary := l
                secondary := p.shadow.bind fun s => (beginGuarded c s).1.toOption }) }) := by
  rw [begin_of_route hp]
  cases hb : beginGuarded w.cluster p.authoritative with
  | mk r c =>
    cases r with
    | error f => rfl
    | ok l =>
      simp only
      cases p.shadow with
      | none => rfl
      | some s =>
        rcases hs : beginGuarded c s with ⟨_ | _, c₂⟩ <;> simp [hs, keep, setCluster, Except.toOption]

/-! ## Inside a transaction -/

/-- A write in a transaction is the primary leg's write; when that is refused nothing changes,
otherwise the shadow leg takes the statement too if its own check lets it, and stays as it was
if not. -/
theorem txExec_routed {w : World} {n : Nat} {h : Handle} (hn : w.handle n = .ok h)
    (stmt : Statement) :
    w.txExec n stmt = .ok (match h.primary.write w.cluster stmt with
      | .error f => (.error f, w)
      | .ok (k, l) => (.ok k, { w with handles := w.handles.set! n (some
          { primary := l
            secondary := h.secondary.map fun l₂ =>
              ((l₂.write w.cluster stmt).toOption.map (·.2)).getD l₂ }) })) := by
  simp only [txExec, hn, bind, Except.bind, pure, Except.pure, Handle.exec]
  cases h.primary.write w.cluster stmt with
  | error f => rfl
  | ok kl =>
    cases h.secondary with
    | none => rfl
    | some l₂ => rcases hw : l₂.write w.cluster stmt with _ | ⟨_, _⟩ <;> simp [hw, Except.toOption]

/-- A read in a transaction is the primary leg's read. -/
theorem txQuery_routed {w : World} {n : Nat} {h : Handle} (hn : w.handle n = .ok h) (q : Query) :
    w.txQuery n q = .ok (h.primary.query w.cluster q) := by
  simp [txQuery, hn, bind, Except.bind, pure, Except.pure, Handle.query]

/-- A commit finishes the transaction. When the primary leg's commit is refused that is the
answer and neither store changes, the shadow leg's statements dropped with it; otherwise the
commit succeeds and the shadow leg commits after it if its own check lets it. -/
theorem commit_routed {w : World} {n : Nat} {h : Handle} (hn : w.handle n = .ok h) :
    w.commit n = .ok (match h.primary.commit w.cluster with
      | .error f => (.error f, { w with handles := w.handles.set! n none })
      | .ok c => (.ok (), ({ w with handles := w.handles.set! n none } : World).setCluster
          (h.secondary.elim c fun l₂ => (l₂.commit c).toOption.getD c))) := by
  simp only [commit, hn, bind, Except.bind, pure, Except.pure, Handle.commit, cluster_withHandles]
  cases h.primary.commit w.cluster with
  | error f => rfl
  | ok c =>
    cases h.secondary with
    | none => rfl
    | some l₂ => cases hl : l₂.commit c <;> simp [hl, Except.toOption]

/-! ## The main statement -/

/-- Routing and failure taxonomy of a double-write pool under the pattern `p` it reads at the
call. A write goes to the authoritative side's path first: its refusal is the answer and the
shadow side is not called; otherwise its answer is the answer, and the shadow side is written
after it exactly when the pattern has one, whatever that write answers. Reads (and so `query_row`,
the first row of a read) go to the authoritative side's path alone. A begin refused on the
authoritative side is the answer and the shadow side is not asked; a refused shadow begin
leaves the transaction without a shadow leg. Preparing is refused and touches nothing. Every
open transaction writes through its primary leg first, skipping the shadow leg when the primary
refuses and ignoring the shadow leg's refusal; it reads through its primary leg alone; its
commit answers the primary leg's commit, drops the shadow leg with nothing written when that
fails, and otherwise commits the shadow leg after it whatever that answers. -/
theorem pool_routing {w : World} {link : Link} {p : Pattern} (hp : w.routeOf link = some p) :
    (∀ stmt, w.exec link stmt =
      match w.exec (.guarded p.authoritative) stmt with
      | (.error f, w₁) => (.error f, w₁)
      | (.ok k, w₁) =>
        match p.shadow with
        | none => (.ok k, w₁)
        | some s => (.ok k, (w₁.exec (.guarded s) stmt).2)) ∧
    (∀ q, w.query link q = w.query (.guarded p.authoritative) q) ∧
    (w.begin link =
      match beginGuarded w.cluster p.authoritative with
      | (.error f, c) => (.error f, w.setCluster c)
      | (.ok l, c) =>
        (.ok w.handles.size,
          { w.setCluster (p.shadow.elim c fun s => (beginGuarded c s).2) with
            handles := w.handles.push (some
              { primary := l
                secondary := p.shadow.bind fun s => (beginGuarded c s).1.toOption }) })) ∧
    (∀ stmt, w.prepare link stmt = (.error (.unsupportedInDoubleWrite "prepare"), w)) ∧
    (∀ n h, w.handle n = .ok h →
      (∀ stmt, w.txExec n stmt = .ok (match h.primary.write w.cluster stmt with
        | .error f => (.error f, w)
        | .ok (k, l) => (.ok k, { w with handles := w.handles.set! n (some
            { primary := l
              secondary := h.secondary.map fun l₂ =>
                ((l₂.write w.cluster stmt).toOption.map (·.2)).getD l₂ }) }))) ∧
      (∀ q, w.txQuery n q = .ok (h.primary.query w.cluster q)) ∧
      w.commit n = .ok (match h.primary.commit w.cluster with
        | .error f => (.error f, { w with handles := w.handles.set! n none })
        | .ok c => (.ok (), ({ w with handles := w.handles.set! n none } : World).setCluster
            (h.secondary.elim c fun l₂ => (l₂.commit c).toOption.getD c)))) :=
  ⟨exec_routed hp, query_routed hp, begin_routed hp, prepare_routed hp,
    fun _ _ hn => ⟨txExec_routed hn, txQuery_routed hn, commit_routed hn⟩⟩

/-- Two pools at the source-first pattern. When the destination path refuses writes and begins,
a write through the pool is answered by the source and lands there alone, the refused shadow
write counted on the destination's path; a begin opens a transaction with no shadow leg, and a
write through it goes to the source's leg. When the source path refuses writes, the pool
answers its refusal and never calls the destination. Preparing is refused. -/
theorem pool_routing_shadow_refused :
    let stmt : Statement := .upsert "records" (rowOf (.new 1 5))
    let pool (src dst : Faults) : World := { (World.create {} 0).setCluster
        { src := { side := .src, faults := src }, dst := { side := .dst, faults := dst } } with
      cell := ⟨.srcFirst, .operatorTrusted⟩ }
    let w := pool {} { failWrites := true, failBegin := true }
    let w₂ := pool { failWrites := true } {}
    w.routeOf .pool = some .srcFirst ∧ w₂.routeOf .pool = some .srcFirst ∧
      (w.exec .pool stmt).1 = .ok 1 ∧
      ((w.exec .pool stmt).2.cluster.src.contents.get? "records" 1).isSome ∧
      ((w.exec .pool stmt).2.cluster.dst.contents.get? "records" 1).isNone ∧
      (w.exec .pool stmt).2.cluster.dst.faults.execs = 1 ∧
      (w₂.exec .pool stmt).1 = .error (.unavailable "src rejected write") ∧
      (w₂.exec .pool stmt).2.cluster.dst.faults.execs = 0 ∧
      (w.begin .pool).1 = .ok 0 ∧
      ((w.begin .pool).2.handle 0).map (·.secondary.isNone) = .ok true ∧
      ((w.begin .pool).2.txExec 0 stmt).map (·.1) = .ok (.ok 1) ∧
      (w.prepare .pool stmt).1 = .error (.unsupportedInDoubleWrite "prepare") := by
  intro stmt pool w w₂
  have hp : w.routeOf .pool = some .srcFirst := rfl
  have hp₂ : w₂.routeOf .pool = some .srcFirst := rfl
  obtain ⟨hexec, -, hbegin, hprepare, -⟩ := pool_routing hp
  have hexec₂ := (pool_routing hp₂).1 stmt
  refine ⟨hp, hp₂, ?_, ?_, ?_, ?_, ?_, ?_, ?_, ?_, ?_, by rw [hprepare stmt]⟩
  -- the write with a refused shadow
  · rw [hexec stmt]; decide +kernel
  · rw [hexec stmt]; decide +kernel
  · rw [hexec stmt]; decide +kernel
  · rw [hexec stmt]; decide +kernel
  -- the write the source refuses
  · rw [hexec₂]; decide +kernel
  · rw [hexec₂]; decide +kernel
  -- the begin with a refused shadow, and a write through its transaction
  · rw [hbegin]; decide +kernel
  · rw [hbegin]; decide +kernel
  · rw [hbegin]; decide +kernel

end World

end TableMigration

