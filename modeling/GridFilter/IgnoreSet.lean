/-
Cells that are kept out of matching: by column, by tag, or by the host's own
mark on the cell.

The columns form a set. It is kept as an ascending list, so that two equal sets
are equal values and listing one is reading it.
-/
import GridFilter.Grid

set_option autoImplicit false

namespace GridFilter

/-! ## Sets of columns -/

/-- Puts a number where it belongs in an ascending list, unless it is there. -/
def insertAscending (n : UInt64) : List UInt64 → List UInt64
  | [] => [n]
  | m :: ms =>
    if n < m then n :: m :: ms
    else if n = m then m :: ms
    else m :: insertAscending n ms

theorem mem_insertAscending {n k : UInt64} {ms : List UInt64} :
    k ∈ insertAscending n ms ↔ k = n ∨ k ∈ ms := by
  induction ms with
  | nil => simp [insertAscending]
  | cons m ms ih =>
    unfold insertAscending
    split
    · simp
    · split
      · rename_i h; subst h; simp
      · simp only [List.mem_cons, ih]
        exact ⟨fun h => h.elim (fun h => .inr (.inl h)) fun h => h.imp id .inr,
          fun h => h.elim (fun h => .inr (.inl h)) fun h => h.imp id .inr⟩

theorem pairwise_insertAscending (n : UInt64) {ms : List UInt64} (h : ms.Pairwise (· < ·)) :
    (insertAscending n ms).Pairwise (· < ·) := by
  induction ms with
  | nil => simp [insertAscending]
  | cons m ms ih =>
    rw [List.pairwise_cons] at h
    unfold insertAscending
    split
    · rename_i hlt
      refine List.pairwise_cons.2 ⟨fun k hk => ?_, List.pairwise_cons.2 h⟩
      rcases List.mem_cons.1 hk with rfl | hk
      · exact hlt
      · exact UInt64.lt_trans hlt (h.1 k hk)
    · split
      · exact List.pairwise_cons.2 h
      · rename_i hnlt hne
        refine List.pairwise_cons.2 ⟨fun k hk => ?_, ih h.2⟩
        rcases mem_insertAscending.1 hk with rfl | hk
        · exact UInt64.lt_of_le_of_ne (UInt64.not_lt.1 hnlt) (fun h => hne h.symm)
        · exact h.1 k hk

/-- A set of column numbers. -/
structure ColumnSet where
  toList : List UInt64
  ascending : toList.Pairwise (· < ·)
  deriving DecidableEq

namespace ColumnSet

/-- The set without columns. -/
def empty : ColumnSet := ⟨[], .nil⟩

/-- Adds a column. -/
def insert (s : ColumnSet) (n : UInt64) : ColumnSet :=
  ⟨insertAscending n s.toList, pairwise_insertAscending n s.ascending⟩

/-- Adds all columns of a list. -/
def insertAll (s : ColumnSet) (ns : List UInt64) : ColumnSet := ns.foldl insert s

theorem mem_insert {s : ColumnSet} {n k : UInt64} :
    k ∈ (s.insert n).toList ↔ k = n ∨ k ∈ s.toList :=
  mem_insertAscending

theorem mem_insertAll {s : ColumnSet} {ns : List UInt64} {k : UInt64} :
    k ∈ (s.insertAll ns).toList ↔ k ∈ ns ∨ k ∈ s.toList := by
  induction ns generalizing s with
  | nil => simp [insertAll]
  | cons n ns ih =>
    rw [insertAll, List.foldl_cons, ← insertAll, ih, mem_insert, List.mem_cons]
    exact ⟨fun h => h.elim (fun h => .inl (.inr h)) fun h => h.imp .inl id,
      fun h => h.elim (fun h => h.elim (fun h => .inr (.inl h)) .inl) fun h => .inr (.inr h)⟩

/-- A set is known by its members. -/
theorem ext_mem {s t : ColumnSet} (h : ∀ k, k ∈ s.toList ↔ k ∈ t.toList) : s = t := by
  obtain ⟨xs, hxs⟩ := s
  obtain ⟨ys, hys⟩ := t
  have hlist : xs = ys := by
    simp only at h
    induction xs generalizing ys with
    | nil =>
      cases ys with
      | nil => rfl
      | cons y ys => exact absurd ((h y).2 List.mem_cons_self) List.not_mem_nil
    | cons x xs ih =>
      cases ys with
      | nil => exact absurd ((h x).1 List.mem_cons_self) List.not_mem_nil
      | cons y ys =>
        rw [List.pairwise_cons] at hxs hys
        have hxy : x = y := by
          rcases List.mem_cons.1 ((h x).1 List.mem_cons_self) with rfl | hx
          · rfl
          · rcases List.mem_cons.1 ((h y).2 List.mem_cons_self) with rfl | hy
            · rfl
            · exact absurd (UInt64.lt_trans (hys.1 x hx) (hxs.1 y hy)) (UInt64.lt_irrefl _)
        subst hxy
        congr 1
        refine ih hxs.2 ys hys.2 fun k => ?_
        have hk := h k
        rw [List.mem_cons, List.mem_cons] at hk
        constructor
        · intro hmem
          rcases hk.1 (.inr hmem) with rfl | hmem'
          · exact absurd (hxs.1 _ hmem) (UInt64.lt_irrefl _)
          · exact hmem'
        · intro hmem
          rcases hk.2 (.inr hmem) with rfl | hmem'
          · exact absurd (hys.1 _ hmem) (UInt64.lt_irrefl _)
          · exact hmem'
  subst hlist
  rfl

/-- Whether there is no column in the set. -/
def isEmpty (s : ColumnSet) : Bool := s.toList.isEmpty

/-- Whether a column is in the set. -/
def contains (s : ColumnSet) (n : UInt64) : Bool := s.toList.contains n

end ColumnSet

/-! ## Ignored cells -/

/-- Which cells are kept out of matching. -/
structure IgnoreSet where
  columns : ColumnSet := .empty
  /-- Cells with this tag; the empty text is a tag like any other. -/
  tag : Option Text := none
  deriving DecidableEq

namespace IgnoreSet

/-- Whether columns are named at all. -/
def hasColumns (s : IgnoreSet) : Bool := !s.columns.isEmpty

/-- Whether a cell in the given column is kept out of matching. -/
def contains (s : IgnoreSet) (column : Nat) (c : Cell) : Bool :=
  c.ignored || s.columns.toList.any (·.toNat == column) || s.tag.any c.tags.contains

end IgnoreSet

end GridFilter
