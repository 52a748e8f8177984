import TableMigration.Proofs.Scheduler

/-!
# Proofs.ControlSurface

What a request to the control surface does to the scheduler when it is refused, when it
switches the pattern, and when it stops a slot that holds no run.

Every route but two only reads the system or answers success. The two that can refuse are the
pattern switch, refused by a forward-only cell (`Cell.Refuses`), and the start of the tail,
refused for its content type, its body or a zero interval (`HttpRequest.RefusesTail`); each
refuses before it touches anything (`switchTo_of_refuses`, `startTail_of_refuses`). Requests
the router cannot route or serve for their method are answered with no body and no change.
So every answer but a success leaves the system as it was (`World.serve_unchanged`), and the
bad requests are exactly the refused switches and starts (`World.serve_badRequest_iff`).

The main statement is `World.refused_requests_untouched`.
-/

namespace TableMigration

open TableMigration.Json TableMigration.Control

/-! ## Paths and refusals -/

/-- The path that switches the pattern to `p`. -/
def Pattern.switchPath : Pattern → String
  | .srcOnly => "/migrator/src_only"
  | .srcFirst => "/migrator/src_first"
  | .dstFirst => "/migrator/dst_first"
  | .dstOnly => "/migrator/dst_only"

/-- The path that stops the run of a kind. -/
def RunKind.stopPath : RunKind → String
  | .full => "/migrator/full/stop"
  | .incremental => "/migrator/incr/stop"

namespace Cell

/-- Whether the cell refuses a switch: a forward-only cell asked for a pattern that is neither
the current one nor the next. -/
def Refuses (c : Cell) (p : Pattern) : Prop :=
  c.policy = .forwardOnly ∧ Pattern.isForwardStep c.current p = false

/-- A refused switch is an illegal transition. -/
theorem store_of_refuses {c : Cell} {p : Pattern} (h : c.Refuses p) :
    c.store p = .error (.illegalTransition c.current p) := by
  simp [store, h.1, h.2]

/-- A switch the cell does not refuse moves it to the pattern asked for. -/
theorem store_of_not_refuses {c : Cell} {p : Pattern} (h : ¬ c.Refuses p) :
    c.store p = .ok (c.current, { c with current := p }) := by
  unfold Refuses at h
  unfold store
  split
  · rename_i hc
    exact absurd ⟨hc.1, by simpa using hc.2⟩ h
  · rfl

end Cell

namespace HttpRequest

/-- The request can be sent and is a `POST` to `path`. -/
def Posts (req : HttpRequest) (path : String) : Prop :=
  req.problem? = none ∧ routedPath req.target = .ok path ∧ req.method = "POST"

/-- Whether a request to start tailing is refused before anything starts: its body is not
sent as JSON, is not a tail request, or asks for a zero interval. -/
def RefusesTail (req : HttpRequest) : Prop :=
  namesJson req.contentType = false ∨ (∃ e, TailRequest.parse req.body = .error e) ∨
    ∃ r, TailRequest.parse req.body = .ok r ∧ r.interval = 0

end HttpRequest

/-! ## The handlers -/

@[simp] theorem okBody_status (data : Value) : (okBody data).status = 200 := rfl

@[simp] theorem errorBody_badRequest_status (msg : String) :
    (errorBody (.badRequest msg)).status = 400 := rfl

namespace World

/-- A refused switch answers the cell's refusal and changes nothing. -/
theorem switchTo_of_refuses {w : World} {p : Pattern} (h : w.cell.Refuses p) :
    w.switchTo p =
      (errorBody (.badRequest (PatternError.illegalTransition w.cell.current p).message), w) := by
  simp [switchTo, Cell.store_of_refuses h, ControlError.ofPatternError]

/-- A switch the cell takes answers the pattern before and the one asked for. -/
theorem switchTo_of_not_refuses {w : World} {p : Pattern} (h : ¬ w.cell.Refuses p) :
    w.switchTo p = (okBody (jsonObject [("previous", .string w.cell.current.name),
      ("current", .string p.name)]), { w with cell := { w.cell with current := p } }) := by
  simp [switchTo, Cell.store_of_not_refuses h]

/-- A refused start of the tail is a bad request and starts nothing. -/
theorem startTail_of_refuses {w : World} {req : HttpRequest} (h : req.RefusesTail) :
    ∃ msg, w.startTail req = (errorBody (.badRequest msg), w) := by
  unfold startTail
  rcases h with hj | ⟨e, he⟩ | ⟨r, hr, hi⟩
  · simp only [hj]
    exact ⟨_, rfl⟩
  · cases namesJson req.contentType <;> simp only [he] <;> exact ⟨_, rfl⟩
  · cases namesJson req.contentType <;> simp [hr, hi] <;> exact ⟨_, rfl⟩

/-- A start of the tail that is not refused succeeds. -/
theorem startTail_of_not_refuses {w : World} {req : HttpRequest} (h : ¬ req.RefusesTail) :
    (w.startTail req).1.status = 200 := by
  simp only [HttpRequest.RefusesTail, not_or, not_exists, not_and] at h
  obtain ⟨hj, he, hi⟩ := h
  unfold startTail
  cases hp : TailRequest.parse req.body with
  | error e => exact absurd hp (he e)
  | ok r => simp [hj, hi r hp]



/-- A switch that does not succeed leaves the system as it was. -/
theorem switchTo_unchanged {w : World} {p : Pattern} (hs : (w.switchTo p).1.status ≠ 200) :
    (w.switchTo p).2 = w := by
  by_cases h : w.cell.Refuses p
  · rw [switchTo_of_refuses h]
  · rw [switchTo_of_not_refuses h] at hs
    exact absurd rfl hs

/-- A start of the tail that does not succeed leaves the system as it was. -/
theorem startTail_unchanged {w : World} {req : HttpRequest} (hs : (w.startTail req).1.status ≠ 200) :
    (w.startTail req).2 = w := by
  by_cases h : req.RefusesTail
  · obtain ⟨msg, hm⟩ := startTail_of_refuses (w := w) h
    rw [hm]
  · exact absurd (startTail_of_not_refuses h) hs


/-- A switch that does not succeed was refused by the cell. -/
theorem refuses_of_switchTo {w : World} {p : Pattern} (hs : (w.switchTo p).1.status ≠ 200) :
    w.cell.Refuses p := by
  by_contra h
  rw [switchTo_of_not_refuses h] at hs
  exact hs rfl

/-- A start of the tail that does not succeed was refused. -/
theorem refusesTail_of_startTail {w : World} {req : HttpRequest}
    (hs : (w.startTail req).1.status ≠ 200) : req.RefusesTail := by
  by_contra h
  exact hs (startTail_of_not_refuses h)

/-- An answer that is not a success, read off the route. -/
private theorem route_answer_of_eq {x : HttpResponse × World} {r : HttpResponse} {w w' : World}
    (h : x = (r, w')) (hs : r.status ≠ 200) (hx : x.1.status ≠ 200 → x.2 = w) :
    x.1.status ≠ 200 ∧ w' = w := by
  subst h
  exact ⟨hs, hx hs⟩

/-- A route that does not succeed is a refused switch or a refused start of the tail, and
leaves the system as it was. -/
theorem route_refused {w w' : World} {req : HttpRequest} {path : String} {r : HttpResponse}
    (h : w.route req path = some (r, w')) (hs : r.status ≠ 200) :
    ((∃ p, path = p.switchPath ∧ w.cell.Refuses p) ∨
      (path = "/migrator/incr/start" ∧ req.RefusesTail)) ∧ w' = w := by
  unfold route at h
  split at h <;> simp only [Option.some.injEq, Prod.mk.injEq, reduceCtorEq] at h
  · exact absurd (h.1 ▸ rfl) hs
  · obtain ⟨hs', rfl⟩ := route_answer_of_eq h hs switchTo_unchanged
    exact ⟨.inl ⟨.srcOnly, rfl, refuses_of_switchTo hs'⟩, rfl⟩
  · obtain ⟨hs', rfl⟩ := route_answer_of_eq h hs switchTo_unchanged
    exact ⟨.inl ⟨.srcFirst, rfl, refuses_of_switchTo hs'⟩, rfl⟩
  · obtain ⟨hs', rfl⟩ := route_answer_of_eq h hs switchTo_unchanged
    exact ⟨.inl ⟨.dstFirst, rfl, refuses_of_switchTo hs'⟩, rfl⟩
  · obtain ⟨hs', rfl⟩ := route_answer_of_eq h hs switchTo_unchanged
    exact ⟨.inl ⟨.dstOnly, rfl, refuses_of_switchTo hs'⟩, rfl⟩
  · exact absurd (h.1 ▸ okBody_status _) hs
  · exact absurd (h.1 ▸ okBody_status _) hs
  · obtain ⟨hs', rfl⟩ := route_answer_of_eq h hs startTail_unchanged
    exact ⟨.inr ⟨rfl, refusesTail_of_startTail hs'⟩, rfl⟩
  · exact absurd (h.1 ▸ okBody_status _) hs
  · exact absurd (h.1 ▸ okBody_status _) hs


/-! ## Serving a request -/

@[simp] theorem routeMethod_switchPath (p : Pattern) : routeMethod p.switchPath = some "POST" := by
  cases p <;> rfl

@[simp] theorem route_switchPath (w : World) (req : HttpRequest) (p : Pattern) :
    w.route req p.switchPath = some (w.switchTo p) := by
  cases p <;> rfl

/-- A `POST` to a path served for `POST` is answered by its route. -/
theorem serve_of_posts {w : World} {req : HttpRequest} {path : String} (h : req.Posts path)
    (hm : routeMethod path = some "POST") :
    w.serve req = (w.route req path).getD (⟨404, none⟩, w) := by
  obtain ⟨hp, ht, hpost⟩ := h
  simp only [serve, hp, ht, servePath, hm, hpost]
  cases w.route req path <;> rfl

/-- A path is served either without touching the system or by its route, whose status the
answer keeps. -/
theorem servePath_routed (w : World) (req : HttpRequest) (path : String) :
    (w.servePath req path).2 = w ∨ ∃ r w', w.route req path = some (r, w') ∧
      (w.servePath req path).1.status = r.status ∧ (w.servePath req path).2 = w' := by
  unfold servePath
  cases routeMethod path with
  | none => exact .inl rfl
  | some m =>
    simp only
    split
    · exact .inl rfl
    · cases hr : w.route req path with
      | none => exact .inl rfl
      | some rw =>
        obtain ⟨r, w'⟩ := rw
        refine .inr ⟨r, w', rfl, ?_, rfl⟩
        dsimp only
        split <;> rfl

/-- A request is served by the path it routes to, or refused untouched when it cannot be sent. -/
theorem serve_routed (w : World) (req : HttpRequest) :
    w.serve req = (⟨400, none⟩, w) ∨ ∃ path, req.problem? = none ∧ routedPath req.target = .ok path ∧
      w.serve req = w.servePath req path := by
  unfold serve
  split
  · rename_i path hp ht
    exact .inr ⟨path, hp, ht, rfl⟩
  · exact .inl rfl

/-- Every answer but a success leaves the system as it was. -/
theorem serve_unchanged {w : World} {req : HttpRequest} (hs : (w.serve req).1.status ≠ 200) :
    (w.serve req).2 = w := by
  rcases serve_routed w req with h | ⟨path, -, -, hserve⟩
  · rw [h]
  · rw [hserve] at hs ⊢
    rcases servePath_routed w req path with h | ⟨r, w', hr, hst, hw⟩
    · exact h
    · rw [hw]
      exact (route_refused hr (hst ▸ hs)).2

/-- An answer with a body that a path gives comes from its route, for the method the path is
served for. -/
theorem servePath_of_body {w : World} {req : HttpRequest} {path : String}
    (hb : (w.servePath req path).1.body ≠ none) :
    ∃ r w', routeMethod path = some req.method ∧ w.route req path = some (r, w') ∧
      w.servePath req path = (r, w') := by
  unfold servePath at hb ⊢
  cases hm : routeMethod path with
  | none => simp [hm] at hb
  | some m =>
    simp only [hm] at hb ⊢
    by_cases hhead : (m == "GET" && req.method == "HEAD") = true
    · cases hr : w.route req path <;> simp [hhead, hr] at hb
    · have hmeth : req.method = m := by
        by_contra hne
        simp [hhead, hne] at hb
      have hpass : (req.method != m && !(m == "GET" && req.method == "HEAD")) = false := by
        simp [hmeth]
      simp only [hpass, Bool.false_eq_true, if_false] at hb ⊢
      cases hr : w.route req path with
      | none => simp [hr] at hb
      | some rw =>
        refine ⟨rw.1, rw.2, by rw [hmeth], rfl, ?_⟩
        simp [hhead]

/-- The requests the control surface answers as bad requests: a switch the forward-only policy
refuses, and a start of the tail that is not sent as JSON, has no readable tail request as its
body, or asks for a zero interval. -/
def Refuses (w : World) (req : HttpRequest) : Prop :=
  (∃ p, req.Posts p.switchPath ∧ w.cell.Refuses p) ∨
    (req.Posts "/migrator/incr/start" ∧ req.RefusesTail)

/-- The control surface answers a bad request exactly for the requests it refuses. -/
theorem serve_badRequest_iff (w : World) (req : HttpRequest) :
    (∃ msg, (w.serve req).1 = errorBody (.badRequest msg)) ↔ w.Refuses req := by
  constructor
  · rintro ⟨msg, hmsg⟩
    rcases serve_routed w req with h | ⟨path, hp, ht, hserve⟩
    · rw [h] at hmsg
      cases hmsg
    · rw [hserve] at hmsg
      obtain ⟨r, w', hm, hr, hsp⟩ := servePath_of_body (by rw [hmsg]; exact Option.some_ne_none _)
      rw [hsp] at hmsg
      subst hmsg
      rcases (route_refused hr (by simp)).1 with ⟨p, rfl, hc⟩ | ⟨rfl, htail⟩
      · exact .inl ⟨p, ⟨hp, ht, by simpa using hm.symm⟩, hc⟩
      · exact .inr ⟨⟨hp, ht, by simpa [routeMethod] using hm.symm⟩, htail⟩
  · rintro (⟨p, hpost, hc⟩ | ⟨hpost, htail⟩)
    · rw [serve_of_posts hpost (routeMethod_switchPath p), route_switchPath,
        Option.getD_some, switchTo_of_refuses hc]
      exact ⟨_, rfl⟩
    · rw [serve_of_posts hpost rfl]
      obtain ⟨msg, hm⟩ := startTail_of_refuses (w := w) htail
      exact ⟨msg, by simp [route, hm]⟩

/-- A switch that succeeds answers the pattern before and the one asked for, and moves only
the pattern. -/
theorem serve_switch {w : World} {req : HttpRequest} {p : Pattern} (hpost : req.Posts p.switchPath)
    (hs : (w.serve req).1.status = 200) :
    w.serve req = (okBody (jsonObject [("previous", .string w.cell.current.name),
      ("current", .string p.name)]), { w with cell := { w.cell with current := p } }) := by
  rw [serve_of_posts hpost (routeMethod_switchPath p), route_switchPath, Option.getD_some] at hs ⊢
  have hc : ¬ w.cell.Refuses p := fun hc => by
    rw [switchTo_of_refuses hc] at hs
    cases hs
  exact switchTo_of_not_refuses hc

/-! ## Stops and the main statement -/

/-- The summary of a stop that found no run: not running, every counter zero. -/
def idleSummary : Value :=
  jsonObject [("was_running", .bool false), ("base_scanned", jsonNat 0),
    ("target_scanned", jsonNat 0), ("events", jsonNat 0), ("lookup_failures", jsonNat 0),
    ("notify_failures", jsonNat 0), ("aborted", .bool false), ("cancelled", .bool false)]

@[simp] theorem routeMethod_stopPath (k : RunKind) : routeMethod k.stopPath = some "POST" := by
  cases k <;> rfl

/-- A stop whose slot is empty answers the idle summary and changes nothing. -/
theorem serve_stop_idle {w : World} {req : HttpRequest} {k : RunKind} (hpost : req.Posts k.stopPath)
    (hk : w.slot k = none) : w.serve req = (okBody idleSummary, w) := by
  rw [serve_of_posts hpost (routeMethod_stopPath k)]
  cases k with
  | full =>
    simp only [slot] at hk
    simp [RunKind.stopPath, route, stopFull, hk, summaryJson, idleSummary, Validation.Report.events]
  | incremental =>
    simp only [slot] at hk
    simp [RunKind.stopPath, route, stopIncremental, hk, summaryJson, idleSummary,
      Validation.Report.events]

/-- Refused control requests leave the scheduler untouched. Every answer but a success leaves
the system as it was, pattern and both run slots included. The bad requests (status 400, body
`{"code": 4, "msg": …}`) are exactly a switch the forward-only policy refuses and a start of the
tail that is not sent as JSON, has no readable tail request as its body or asks for a zero
interval. A switch that succeeds answers the pattern before it and the one asked for, which the
status reports after it, and moves no run. A stop that finds its slot empty answers that nothing
was running with every counter zero, and changes nothing. -/
theorem refused_requests_untouched (w : World) (req : HttpRequest) :
    ((w.serve req).1.status ≠ 200 → (w.serve req).2 = w) ∧
    ((∃ msg, (w.serve req).1 = errorBody (.badRequest msg)) ↔ w.Refuses req) ∧
    (∀ p, req.Posts p.switchPath → (w.serve req).1.status = 200 →
      (w.serve req).1 = okBody (jsonObject [("previous", .string w.cell.current.name),
        ("current", .string p.name)]) ∧
      (w.serve req).2.status.pattern = p ∧ (w.serve req).2.full = w.full ∧
      (w.serve req).2.incremental = w.incremental) ∧
    (∀ k, req.Posts k.stopPath → w.slot k = none → w.serve req = (okBody idleSummary, w)) := by
  refine ⟨serve_unchanged, serve_badRequest_iff w req, fun p hpost hs => ?_,
    fun k hpost hk => serve_stop_idle hpost hk⟩
  rw [serve_switch hpost hs]
  exact ⟨rfl, rfl, rfl, rfl⟩

end World

end TableMigration