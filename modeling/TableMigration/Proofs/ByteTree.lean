import TableMigration.Store.Tree

/-!
# Proofs.ByteTree

What the ordered byte map holds after a write, and what a range read gives.

The keys of an ordered map are apart, so the value at a key is the value of the one entry with
that key (`Tree.get?_eq_some_iff`). Setting or clearing a key changes the value at that key only
(`Tree.get?_write`), and after it every entry is the one written or an old one
(`Tree.mem_write`). A range read gives exactly the entries between its bounds, in key order
(`Tree.mem_range`, `Tree.ordered_range`).
-/

namespace TableMigration.Store

/-- A lookup past the removal of one key finds nothing at it and the rest as before. -/
theorem lookup_filter_key {α β : Type} [BEq α] [LawfulBEq α] [DecidableEq α] (l : List (α × β))
    (k k' : α) :
    (l.filter (·.1 != k')).lookup k = if k = k' then none else l.lookup k := by
  induction l with
  | nil => simp
  | cons e rest ih =>
    obtain ⟨a, b⟩ := e
    by_cases ha : a = k'
    · subst ha
      rw [List.filter_cons_of_neg (by simp), ih]
      by_cases hk : k = a
      · simp [hk]
      · rw [if_neg hk, if_neg hk, List.lookup_cons, beq_false_of_ne hk]
    · rw [List.filter_cons_of_pos (by simpa using ha), List.lookup_cons, List.lookup_cons, ih]
      by_cases hk : k = a
      · subst hk
        simp [ha]
      · simp [beq_false_of_ne hk]

/-- In entries in strict key order, a key's value is the value of its entry. -/
theorem lookup_eq_some_iff {k v : List UInt8} :
    ∀ {es : List (List UInt8 × List UInt8)}, es.Pairwise (·.1 < ·.1) →
      (es.lookup k = some v ↔ (k, v) ∈ es)
  | [], _ => by simp
  | (a, b) :: es, h => by
    rw [List.pairwise_cons] at h
    rw [List.lookup_cons, List.mem_cons]
    by_cases hk : k = a
    · -- the first entry holds the key, and no later one can
      subst hk
      have hlater : (k, v) ∉ es := fun hmem => List.lt_irrefl _ (h.1 (k, v) hmem)
      simp only [beq_self_eq_true, Option.some.injEq, Prod.mk.injEq, true_and, hlater, or_false]
      exact ⟨Eq.symm, Eq.symm⟩
    · have hne : (k, v) ≠ (a, b) := fun he => hk (Prod.mk.inj he).1
      simp [beq_false_of_ne hk, hne, lookup_eq_some_iff h.2]

theorem lookup_insertEntry (k v k' : List UInt8) :
    ∀ es : List (List UInt8 × List UInt8),
      (insertEntry k v es).lookup k' = if k' = k then some v else es.lookup k'
  | [] => by by_cases h : k' = k <;> simp [insertEntry, List.lookup_cons, h, beq_false_of_ne]
  | (a, b) :: es => by
    unfold insertEntry
    dsimp only
    by_cases hlt : k < a
    · rw [if_pos hlt]
      by_cases h : k' = k
      · simp [h]
      · rw [List.lookup_cons, beq_false_of_ne h, if_neg h]
    · rw [if_neg hlt]
      by_cases heq : k = a
      · -- the new value replaces the key's old one
        subst heq
        rw [if_pos rfl]
        by_cases h : k' = k
        · simp [h]
        · rw [List.lookup_cons, List.lookup_cons, beq_false_of_ne h, if_neg h]
      · rw [if_neg heq, List.lookup_cons, List.lookup_cons, lookup_insertEntry k v k' es]
        by_cases ha : k' = a
        · subst ha
          have hk : k' ≠ k := fun h => heq h.symm
          simp [hk]
        · simp [beq_false_of_ne ha]

namespace Tree

variable (t : Tree)

/-- The value at a key is the value of the one entry with that key. -/
theorem get?_eq_some_iff {k v : List UInt8} : t.get? k = some v ↔ (k, v) ∈ t.entries :=
  lookup_eq_some_iff t.ordered

/-- Setting or clearing a key changes the value at that key only. -/
theorem get?_write (k : List UInt8) (v : Option (List UInt8)) (k' : List UInt8) :
    (t.write k v).get? k' = if k' = k then v else t.get? k' := by
  cases v with
  | some v => exact lookup_insertEntry k v k' t.entries
  | none => exact lookup_filter_key t.entries k' k

/-- After a write every entry is the one written or an old one. -/
theorem mem_write {k : List UInt8} {v : Option (List UInt8)} {e : List UInt8 × List UInt8}
    (h : e ∈ (t.write k v).entries) : (e.1 = k ∧ v = some e.2) ∨ e ∈ t.entries := by
  cases v with
  | some v =>
    rcases mem_insertEntry h with rfl | h
    · exact .inl ⟨rfl, rfl⟩
    · exact .inr h
  | none => exact .inr (List.mem_filter.mp h).1

/-- Clearing a key gives the value it had. -/
theorem remove_fst (k : List UInt8) : (t.remove k).1 = t.get? k := rfl

/-- A batch leaves at each key its last write, and the value there before where none wrote it. -/
theorem get?_applyBatch (batch : List (List UInt8 × Option (List UInt8))) (k : List UInt8) :
    (t.applyBatch batch).get? k =
      ((batch.reverse.find? (·.1 == k)).map (·.2)).getD (t.get? k) := by
  induction batch generalizing t with
  | nil => rfl
  | cons e rest ih =>
    show ((t.write e.1 e.2).applyBatch rest).get? k = _
    rw [ih, get?_write]
    simp only [List.reverse_cons, List.find?_append, List.find?_singleton]
    cases rest.reverse.find? (·.1 == k) with
    | some _ => rfl
    | none => by_cases hk : k = e.1 <;> simp [hk, beq_false_of_ne, Ne.symm]

/-- A range read gives exactly the entries between its bounds. -/
theorem mem_range (lo : Bound) (hi : List UInt8) (e : List UInt8 × List UInt8) :
    e ∈ t.range lo hi ↔ e ∈ t.entries ∧ lo.admits e.1 = true ∧ e.1 ≤ hi := by
  simp [range]

/-- A range read gives its entries in key order. -/
theorem ordered_range (lo : Bound) (hi : List UInt8) : (t.range lo hi).Pairwise (·.1 < ·.1) :=
  t.ordered.filter _

end Tree

end TableMigration.Store
