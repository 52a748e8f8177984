/-!
# Store.Tree

An ordered map from byte strings to byte strings, as the storage engine keeps it: its entries in
increasing order of their keys, each key once. Byte strings compare lexicographically, and a
string comes before every longer string it begins.

A write sets a key to a value or clears it; a batch writes its keys in order, so the last write
of a key wins. A range read gives the entries from a lower bound, which holds its key or lies
just past it, up to an upper key, in key order.
-/

namespace TableMigration.Store

/-- Byte strings are totally ordered: of two different strings, one comes first. -/
theorem bytes_lt_of_not_lt {a b : List UInt8} (h : ¬ a < b) (hne : a ≠ b) : b < a := by
  have hba : b ≤ a := List.not_lt.mp h
  by_cases hab : b < a
  · exact hab
  · exact absurd (List.le_antisymm (List.not_lt.mp hab) hba) hne

/-- Put a value at its key's place in entries ordered by key, replacing the key's value. -/
def insertEntry (k v : List UInt8) :
    List (List UInt8 × List UInt8) → List (List UInt8 × List UInt8)
  | [] => [(k, v)]
  | e :: es =>
    if k < e.1 then (k, v) :: e :: es
    else if k = e.1 then (k, v) :: es
    else e :: insertEntry k v es

theorem mem_insertEntry {k v : List UInt8} {e : List UInt8 × List UInt8} :
    ∀ {es : List (List UInt8 × List UInt8)}, e ∈ insertEntry k v es → e = (k, v) ∨ e ∈ es
  | [], h => by simpa [insertEntry] using h
  | x :: es, h => by
    unfold insertEntry at h
    split at h
    · simpa using h
    · split at h
      · rcases List.mem_cons.mp h with h | h
        · exact .inl h
        · exact .inr (List.mem_cons_of_mem _ h)
      · rcases List.mem_cons.mp h with h | h
        · exact .inr (h ▸ List.mem_cons_self)
        · exact (mem_insertEntry h).imp_right (List.mem_cons_of_mem _)

/-- Inserting keeps the entries in strict key order. -/
theorem ordered_insertEntry (k v : List UInt8) :
    ∀ {es : List (List UInt8 × List UInt8)}, es.Pairwise (·.1 < ·.1) →
      (insertEntry k v es).Pairwise (·.1 < ·.1)
  | [], _ => List.pairwise_singleton _ _
  | e :: es, h => by
    rw [List.pairwise_cons] at h
    unfold insertEntry
    split
    · -- the new key comes first, before `e` and so before all after it
      rename_i hlt
      refine List.pairwise_cons.mpr ⟨fun x hx => ?_, List.pairwise_cons.mpr h⟩
      rcases List.mem_cons.mp hx with rfl | hx
      · exact hlt
      · exact List.lt_trans hlt (h.1 x hx)
    · split
      · -- the new key replaces `e`'s
        rename_i heq
        exact List.pairwise_cons.mpr ⟨fun x hx => heq ▸ h.1 x hx, h.2⟩
      · -- the new key lies past `e`
        rename_i hnlt hne
        refine List.pairwise_cons.mpr ⟨fun x hx => ?_, ordered_insertEntry k v h.2⟩
        rcases mem_insertEntry hx with rfl | hx
        · exact bytes_lt_of_not_lt hnlt hne
        · exact h.1 x hx

/-- An ordered byte map: its entries in strictly increasing key order. -/
structure Tree where
  entries : List (List UInt8 × List UInt8) := []
  ordered : entries.Pairwise (·.1 < ·.1) := by decide

/-- Where a range read starts: at a key, or just past it. -/
inductive Bound where
  | included (k : List UInt8)
  | excluded (k : List UInt8)

/-- Whether a key lies at or past a lower bound. -/
def Bound.admits : Bound → List UInt8 → Bool
  | .included lo, k => decide (lo ≤ k)
  | .excluded lo, k => decide (lo < k)

namespace Tree

/-- The value at a key. -/
def get? (t : Tree) (k : List UInt8) : Option (List UInt8) := t.entries.lookup k

/-- Set a key to a value. -/
def insert (t : Tree) (k v : List UInt8) : Tree :=
  ⟨insertEntry k v t.entries, ordered_insertEntry k v t.ordered⟩

/-- Clear a key, giving the value it had. -/
def remove (t : Tree) (k : List UInt8) : Option (List UInt8) × Tree :=
  (t.get? k, ⟨t.entries.filter (·.1 != k), t.ordered.filter _⟩)

/-- Set a key to a value, or clear it. -/
def write (t : Tree) (k : List UInt8) : Option (List UInt8) → Tree
  | some v => t.insert k v
  | none => (t.remove k).2

/-- Write a batch of keys in order. -/
def applyBatch (t : Tree) (batch : List (List UInt8 × Option (List UInt8))) : Tree :=
  batch.foldl (fun t e => t.write e.1 e.2) t

/-- The entries from a lower bound up to an upper key, in key order. -/
def range (t : Tree) (lo : Bound) (hi : List UInt8) : List (List UInt8 × List UInt8) :=
  t.entries.filter fun e => lo.admits e.1 && decide (e.1 ≤ hi)

end Tree

end TableMigration.Store
