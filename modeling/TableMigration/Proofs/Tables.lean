import Mathlib.Data.List.Sort
import TableMigration.Store.Table

/-!
# Proofs.Tables

The order a store keeps its tables in, and what keyset reads return from an ordered table.

A table is `Sorted` when its ids strictly increase; a store is `Ordered` when all its tables
are. Every statement keeps a store ordered (`Contents.ordered_apply`), so every store built
from the empty one by statements is ordered.

On an ordered table the keyset cursor behaves as a position: the rows after the id of the
`i`-th row are exactly the rows from position `i` on (`Table.after_cursor`). This is what
lets a scan that remembers only the last id it saw walk a table row by row or batch by
batch, whatever the ids are.
-/

namespace TableMigration.Store

/-! ## Sorted tables -/

namespace Table

/-- Ids strictly increase along the table. -/
def Sorted (t : Table) : Prop := t.Pairwise (·.id < ·.id)

/-- The keyset cursor after the first `i` rows: the id of the last of them. -/
def cursor (t : Table) (i : Nat) : Option Int64 := (t.take i).getLast?.map (·.id)

@[simp] theorem sorted_nil : Sorted [] := List.Pairwise.nil

theorem Sorted.of_cons {r : Row} {t : Table} (h : Sorted (r :: t)) : Sorted t :=
  List.Pairwise.of_cons h

theorem Sorted.sublist {s t : Table} (hst : s.Sublist t) (h : Sorted t) : Sorted s :=
  List.Pairwise.sublist hst h

@[simp] theorem cursor_zero (t : Table) : cursor t 0 = none := by
  simp [cursor]

/-- The cursor after a row is that row's id. -/
theorem cursor_succ {t : Table} {i : Nat} (hi : i < t.length) : cursor t (i + 1) = some t[i].id := by
  rw [cursor, List.take_add_one, List.getElem?_eq_getElem hi, Option.toList_some,
    List.getLast?_concat, Option.map_some]

/-- Every row of an upsert is the new row or an old one. -/
theorem mem_upsert {row x : Row} {t : Table} (h : x ∈ upsert row t) : x = row ∨ x ∈ t := by
  induction t with
  | nil => simpa [upsert] using h
  | cons r rs ih =>
    simp only [upsert] at h
    split at h
    · simpa using h
    · split at h
      · rcases List.mem_cons.mp h with h | h
        · exact .inl h
        · exact .inr (List.mem_cons_of_mem _ h)
      · rcases List.mem_cons.mp h with h | h
        · exact .inr (h ▸ List.mem_cons_self)
        · rcases ih h with h | h
          · exact .inl h
          · exact .inr (List.mem_cons_of_mem _ h)

/-- Upserting into a sorted table keeps it sorted. -/
theorem sorted_upsert (row : Row) {t : Table} (h : Sorted t) : Sorted (upsert row t) := by
  induction t with
  | nil => simp [upsert, Sorted]
  | cons r rs ih =>
    have hr : ∀ x ∈ rs, r.id < x.id := (List.pairwise_cons.mp h).1
    have hrs : Sorted rs := h.of_cons
    simp only [upsert]
    split
    · next hlt =>
      refine List.Pairwise.cons (fun x hx => ?_) h
      rcases List.mem_cons.mp hx with rfl | hx
      · exact hlt
      · have := hr x hx; grind
    · split
      · next _ heq =>
        exact List.Pairwise.cons (fun x hx => heq ▸ hr x hx) hrs
      · next hge hne =>
        refine List.Pairwise.cons (fun x hx => ?_) (ih hrs)
        rcases mem_upsert hx with rfl | hx
        · grind
        · exact hr x hx

/-- Erasing an id keeps a table sorted. -/
theorem sorted_erase (id : Int64) {t : Table} (h : Sorted t) : Sorted (erase id t) :=
  List.Pairwise.filter _ h

/-- The row a lookup finds carries the id looked for and is in the table. -/
theorem find?_some {id : Int64} {t : Table} {r : Row} (h : find? id t = some r) :
    r ∈ t ∧ r.id = id := by
  simp only [find?] at h
  exact ⟨List.mem_of_find?_eq_some h, by simpa using List.find?_some h⟩

/-- A lookup finds nothing exactly when no row has the id. -/
theorem find?_eq_none {id : Int64} {t : Table} : find? id t = none ↔ ∀ r ∈ t, r.id ≠ id := by
  simp [find?]

/-- In a table whose ids are distinct, a row is found by its own id. -/
theorem find?_of_mem {t : Table} (h : Sorted t) {r : Row} (hr : r ∈ t) : find? r.id t = some r := by
  induction t with
  | nil => simp at hr
  | cons x xs ih =>
    have hx : ∀ y ∈ xs, x.id < y.id := (List.pairwise_cons.mp h).1
    rcases List.mem_cons.mp hr with rfl | hr
    · simp [find?]
    · have hne : x.id ≠ r.id := by have := hx r hr; grind
      simpa [find?, hne] using ih h.of_cons hr

/-- After an upsert, the new row is found by its id and every other id finds what it found. -/
theorem find?_upsert (row : Row) (t : Table) (j : Int64) :
    find? j (upsert row t) = if row.id = j then some row else find? j t := by
  induction t with
  | nil => by_cases h : row.id = j <;> simp [upsert, find?, h]
  | cons r rs ih =>
    simp only [upsert]
    split
    · by_cases h : row.id = j <;> simp [find?, h]
    · split
      · next _ heq => by_cases h : row.id = j <;> simp_all [find?]
      · next hlt hne =>
        by_cases hr : r.id = j
        · have : row.id ≠ j := fun h => hne (h.trans hr.symm)
          simp [find?, hr, this]
        · have hrj : (r.id == j) = false := by simpa using hr
          simp only [find?, List.find?_cons, hrj] at ih ⊢
          exact ih

/-- After an erase, the id finds nothing and every other id finds what it found. -/
theorem find?_erase (id : Int64) (t : Table) (j : Int64) :
    find? j (erase id t) = if id = j then none else find? j t := by
  induction t with
  | nil => simp [erase, find?]
  | cons r rs ih =>
    simp only [erase, find?] at ih ⊢
    by_cases hr : r.id = id
    · by_cases hj : id = j
      · simp [hr, hj]
      · simp [hr, ih, hj]
    · by_cases hj : r.id = j
      · have hji : j ≠ id := fun h => hr (hj.trans h)
        have hij : id ≠ j := fun h => hji h.symm
        simp [hj, hji, hij]
      · simp [hr, hj, ih]

/-- An id is found exactly when some row carries it. -/
theorem isSome_find?_iff {id : Int64} {t : Table} : (find? id t).isSome ↔ id ∈ t.map (·.id) := by
  simp [find?, List.find?_isSome]

/-- Two strictly increasing lists of ids holding the same ids are equal. -/
private theorem eq_of_increasing : ∀ (l₁ l₂ : List Int64), l₁.Pairwise (· < ·) → l₂.Pairwise (· < ·) →
    (∀ x, x ∈ l₁ ↔ x ∈ l₂) → l₁ = l₂
  | [], [], _, _, _ => rfl
  | [], b :: _, _, _, h => absurd ((h b).mpr List.mem_cons_self) (by simp)
  | a :: _, [], _, _, h => absurd ((h a).mp List.mem_cons_self) (by simp)
  | a :: as, b :: bs, h₁, h₂, h => by
    have ha := List.pairwise_cons.mp h₁
    have hb := List.pairwise_cons.mp h₂
    -- each head is the least id of both lists, so the heads agree
    have hab : a = b := by
      rcases List.mem_cons.mp ((h a).mp List.mem_cons_self) with hab | hab
      · exact hab
      · rcases List.mem_cons.mp ((h b).mpr List.mem_cons_self) with hba | hba
        · exact hba.symm
        · have h1 := Int64.lt_iff_toInt_lt.mp (hb.1 a hab)
          have h2 := Int64.lt_iff_toInt_lt.mp (ha.1 b hba)
          omega
    subst hab
    have hne : ∀ {x : Int64} {l : List Int64}, (∀ y ∈ l, a < y) → x ∈ l → x ≠ a := fun hl hx hxa => by
      have := Int64.lt_iff_toInt_lt.mp (hl _ hx)
      rw [hxa] at this
      omega
    rw [eq_of_increasing as bs ha.2 hb.2 fun x => ⟨fun hx => ?_, fun hx => ?_⟩]
    · exact (List.mem_cons.mp ((h x).mp (List.mem_cons_of_mem _ hx))).resolve_left (hne ha.1 hx)
    · exact (List.mem_cons.mp ((h x).mpr (List.mem_cons_of_mem _ hx))).resolve_left (hne hb.1 hx)

/-- Two sorted tables in which the same ids are found hold the same ids in the same order. -/
theorem ids_eq_of_find? {s t : Table} (hs : s.Sorted) (ht : t.Sorted)
    (h : ∀ id, (find? id s).isSome = (find? id t).isSome) : s.map (·.id) = t.map (·.id) :=
  eq_of_increasing _ _ (List.pairwise_map.mpr hs) (List.pairwise_map.mpr ht) fun x => by
    rw [← isSome_find?_iff, ← isSome_find?_iff, h x]

/-- The rows past the id of the row at position `j` of a sorted table are the rows after it. -/
theorem filter_lt_id {t : Table} (h : Sorted t) {j : Nat} (hj : j < t.length) :
    t.filter (fun r => decide (t[j].id < r.id)) = t.drop (j + 1) := by
  induction t generalizing j with
  | nil => simp at hj
  | cons x xs ih =>
    have hx : ∀ y ∈ xs, x.id < y.id := (List.pairwise_cons.mp h).1
    cases j with
    | zero =>
      have hself : decide (x.id < x.id) = false := decide_eq_false (by grind)
      rw [List.getElem_cons_zero, List.filter_cons, hself, if_neg Bool.false_ne_true,
        List.drop_one, List.tail_cons]
      exact List.filter_eq_self.mpr fun y hy => decide_eq_true (hx y hy)
    | succ j =>
      have hj' : j < xs.length := by simpa using hj
      have hlt : x.id < xs[j].id := hx _ (List.getElem_mem hj')
      have hnot : decide (xs[j].id < x.id) = false := decide_eq_false (by grind)
      rw [List.getElem_cons_succ, List.filter_cons, hnot, if_neg Bool.false_ne_true,
        List.drop_succ_cons]
      exact ih (List.Pairwise.of_cons h) hj'

/-- Past the cursor of the first `i` rows of a sorted table lie exactly the rows from
position `i` on. -/
theorem after_cursor {t : Table} (h : Sorted t) (i : Nat) : after (cursor t i) t = t.drop i := by
  rcases Nat.eq_zero_or_pos i with rfl | hpos
  · simp [after, cursor]
  rcases Nat.lt_or_ge t.length i with hlong | hle
  · -- past the end: the cursor stays on the last row and nothing lies after it
    have hcur : cursor t i = cursor t t.length := by
      simp [cursor, List.take_of_length_le hlong.le]
    rw [hcur, List.drop_of_length_le hlong.le]
    rcases Nat.eq_zero_or_pos t.length with hnil | hne
    · simp [List.length_eq_zero_iff.mp hnil, after]
    · obtain ⟨j, hj⟩ : ∃ j, t.length = j + 1 := ⟨t.length - 1, by omega⟩
      have hj' : j < t.length := by omega
      rw [hj, cursor_succ hj', after]
      simp only [Option.all_some]
      rw [filter_lt_id h hj', ← hj, List.drop_length]
  · obtain ⟨j, rfl⟩ : ∃ j, i = j + 1 := ⟨i - 1, by omega⟩
    rw [cursor_succ (by omega), after]
    simp only [Option.all_some]
    exact filter_lt_id h _

end Table

/-- Pages read without a watermark keep every row past the cursor, up to the limit. -/
theorem page_none (rows : List Row) (after : Option Int64) (limit : Nat) :
    page rows none after limit = (Table.after after rows).take limit := by
  simp [page, Table.after]

/-! ## Ordered stores -/

namespace Contents

/-- Every table of the store is sorted. -/
def Ordered (s : Contents) : Prop := ∀ name, (s.table name).Sorted

private theorem lookup_map_replace (n m : String) (t : Table) (l : List (String × Table)) :
    (l.map fun x => if x.1 == n then (x.1, t) else (x.1, x.2)).lookup m =
      if m = n ∧ l.any (·.1 == n) then some t else l.lookup m := by
  induction l with
  | nil => simp
  | cons p ps ih =>
    obtain ⟨k, v⟩ := p
    by_cases hk : k = n <;> by_cases hm : m = k <;> simp_all [List.lookup_cons] <;> grind

private theorem lookup_append_absent (n m : String) (t : Table) (l : List (String × Table))
    (hany : ¬ l.any (·.1 == n) = true) :
    (l ++ [(n, t)]).lookup m = if m = n then some t else l.lookup m := by
  have habsent : l.lookup n = none := by
    simp only [List.any_eq_true, not_exists, not_and, beq_iff_eq] at hany
    simp only [List.lookup_eq_none_iff, bne_iff_ne, ne_eq]
    exact fun p hp h => hany p hp h.symm
  rw [List.lookup_append, List.lookup_cons, List.lookup_nil]
  by_cases hm : m = n
  · subst hm
    rw [habsent, beq_self_eq_true, if_pos rfl]
    rfl
  · have hmn : (m == n) = false := by simpa using hm
    rw [if_neg hm, hmn]
    cases l.lookup m <;> rfl

/-- Replacing a table changes that table only. -/
theorem table_setTable (s : Contents) (n m : String) (t : Table) :
    (s.setTable n t).table m = if m = n then t else s.table m := by
  obtain ⟨l⟩ := s
  simp only [setTable, table]
  split
  · next hany =>
    rw [lookup_map_replace]
    by_cases hm : m = n <;> simp [hm, hany]
  · next hany =>
    rw [lookup_append_absent n m t l hany]
    by_cases hm : m = n <;> simp [hm]

/-- An upsert changes the rows of its own table only. -/
theorem table_apply_upsert (s : Contents) (t : String) (row : Row) (n : String) :
    ((s.apply (.upsert t row)).2).table n = if n = t then Table.upsert row (s.table t) else s.table n := by
  simp only [apply, table_setTable]

/-- A delete erases the id from its own table only; when no row has the id, erasing it changes
nothing. -/
theorem table_apply_delete (s : Contents) (t : String) (id : Int64) (n : String) :
    ((s.apply (.delete t id)).2).table n = if n = t then Table.erase id (s.table t) else s.table n := by
  simp only [apply]
  split
  · simp only [table_setTable]
  · next hnone =>
    have hkeep : Table.erase id (s.table t) = s.table t := by
      apply List.filter_eq_self.mpr
      intro r hr
      simpa using Table.find?_eq_none.mp hnone r hr
    by_cases hn : n = t
    · rw [if_pos hn, hkeep, hn]
    · rw [if_neg hn]

/-- Every statement keeps a sorted table sorted. -/
theorem sorted_table_apply {s : Contents} {n : String} (h : (s.table n).Sorted) (stmt : Statement) :
    ((s.apply stmt).2.table n).Sorted := by
  cases stmt with
  | upsert t row =>
    rw [table_apply_upsert]
    split
    · next hn => subst hn; exact Table.sorted_upsert row h
    · exact h
  | delete t id =>
    rw [table_apply_delete]
    split
    · next hn => subst hn; exact Table.sorted_erase id h
    · exact h

/-- Statements applied in order keep a sorted table sorted. -/
theorem sorted_table_applyAll {s : Contents} {n : String} (h : (s.table n).Sorted) (stmts : List Statement) :
    ((s.applyAll stmts).table n).Sorted := by
  induction stmts generalizing s with
  | nil => exact h
  | cons stmt rest ih => exact ih (sorted_table_apply h stmt)

/-- The empty store is ordered. -/
theorem ordered_empty : empty.Ordered := fun _ => by simp [empty, table]

/-- Every statement keeps a store ordered. -/
theorem ordered_apply {s : Contents} (h : s.Ordered) (stmt : Statement) : (s.apply stmt).2.Ordered := by
  intro name
  cases stmt with
  | upsert table row =>
    simp only [apply, table_setTable]
    split
    · exact Table.sorted_upsert row (h table)
    · exact h name
  | delete table id =>
    simp only [apply]
    split
    · simp only [table_setTable]
      split
      · exact Table.sorted_erase id (h table)
      · exact h name
    · exact h name

/-- Statements applied in order keep a store ordered. -/
theorem ordered_applyAll {s : Contents} (h : s.Ordered) (stmts : List Statement) :
    (s.applyAll stmts).Ordered := by
  induction stmts generalizing s with
  | nil => exact h
  | cons stmt rest ih => exact ih (ordered_apply h stmt)

/-- The ids a batch lookup answers: those asked for that the table holds. -/
theorem mem_select_byIds (s : Contents) (table : String) (ids : List Int64) (id : Int64) :
    id ∈ (s.select (.byIds table ids)).map (·.id) ↔ id ∈ ids ∧ (s.get? table id).isSome := by
  simp only [select, List.mem_map, List.mem_filterMap, List.mem_eraseDups,
    (List.mergeSort_perm ids _).mem_iff]
  constructor
  · rintro ⟨r, ⟨x, hx, hget⟩, rfl⟩
    have hid := (Table.find?_some hget).2
    subst hid
    exact ⟨hx, by rw [hget]; rfl⟩
  · rintro ⟨hid, hget⟩
    obtain ⟨r, hr⟩ := Option.isSome_iff_exists.mp hget
    exact ⟨r, ⟨id, hid, hr⟩, (Table.find?_some hr).2⟩

end Contents

end TableMigration.Store
