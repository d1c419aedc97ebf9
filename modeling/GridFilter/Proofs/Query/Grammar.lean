/-
The grammar of queries.

`Query.terms` looks at the first piece of a query and at the others in two
different ways. The grammar numbers the pieces instead and says, for a piece and
its number, which term it is read as (`ReadsAs`): a sign in front decides the term
whatever the number is, and only a piece without one asks whether it is number
zero. Lone signs are read as no term, but they are numbered like all other pieces,
so a piece behind a lone sign is never number zero.

The main statement is that reading and grammar agree in both directions
(`terms_eq_iff_readsAs`): the terms of a query are the readings of its runs in
order, one for each that is no lone sign, and no other list is. Beside it stand the
equations that later arguments about queries use instead of opening `terms`: it
sees a text only through its pieces (`terms_congr`), and what is appended to a
query that has pieces is read as standing behind them (`terms_append`).
-/
import GridFilter.Proofs.Text.Pieces
import GridFilter.Query
import Mathlib.Data.List.Forall2

set_option autoImplicit false

namespace GridFilter

namespace Query

/-! ## The grammar -/

/-- A sign with nothing behind it. -/
def isLoneSign (piece : Text) : Bool := piece == ['+'] || piece == ['-']

/-- The piece begins with a sign. -/
def IsSigned (piece : Text) : Prop := piece.head? = some '+' ∨ piece.head? = some '-'

/-- What a piece is read as. The number says how many pieces stand before it. -/
inductive ReadsAs : Text × Nat → Term → Prop where
  | plus (fragment : Text) (i : Nat) : ReadsAs ('+' :: fragment, i) ⟨.reveal, fragment⟩
  | minus (fragment : Text) (i : Nat) : ReadsAs ('-' :: fragment, i) ⟨.hide, fragment⟩
  | first {piece : Text} (h : ¬ IsSigned piece) : ReadsAs (piece, 0) ⟨.reveal, piece⟩
  | later {piece : Text} (h : ¬ IsSigned piece) (i : Nat) :
      ReadsAs (piece, i + 1) ⟨.narrow, piece⟩

/-- The pieces that are read as terms, each with its number. -/
def numbered (pieces : List Text) : List (Text × Nat) :=
  pieces.zipIdx.filter fun p => !isLoneSign p.1

theorem isLoneSign_eq_true_iff {piece : Text} :
    isLoneSign piece = true ↔ piece = ['+'] ∨ piece = ['-'] := by
  simp [isLoneSign]

/-- With a fragment behind it a sign is not alone. -/
theorem isLoneSign_plus_eq_false_iff {fragment : Text} :
    isLoneSign ('+' :: fragment) = false ↔ fragment ≠ [] := by
  simp [isLoneSign]

theorem isLoneSign_minus_eq_false_iff {fragment : Text} :
    isLoneSign ('-' :: fragment) = false ↔ fragment ≠ [] := by
  simp [isLoneSign]

theorem isLoneSign_of_not_isSigned {piece : Text} (h : ¬ IsSigned piece) :
    isLoneSign piece = false := by
  rw [← Bool.not_eq_true, isLoneSign_eq_true_iff]
  rintro (rfl | rfl) <;> exact h (by simp [IsSigned])

/-- Every piece is of one of four kinds. -/
theorem piece_cases {piece : Text} (ne : piece ≠ []) :
    isLoneSign piece = true ∨
    (∃ fragment, fragment ≠ [] ∧ piece = '+' :: fragment) ∨
    (∃ fragment, fragment ≠ [] ∧ piece = '-' :: fragment) ∨
    ¬ IsSigned piece := by
  by_cases signed : IsSigned piece
  · cases piece with
    | nil => exact absurd rfl ne
    | cons c rest =>
      have sign : c = '+' ∨ c = '-' := by simpa [IsSigned] using signed
      by_cases alone : rest = []
      · subst alone
        exact .inl (isLoneSign_eq_true_iff.2 (by simpa using sign))
      · rcases sign with rfl | rfl
        · exact .inr (.inl ⟨rest, alone, rfl⟩)
        · exact .inr (.inr (.inl ⟨rest, alone, rfl⟩))
  · exact .inr (.inr (.inr signed))

end Query

/-- The sign that is given to a piece without one: only the very first reveals. -/
def Sign.unsignedAt (i : Nat) : Sign := if i = 0 then .reveal else .narrow

open Query

/-! ## One piece -/

namespace Term

variable {unsigned : Sign} {piece fragment : Text}

theorem ofPiece?_plus (h : fragment ≠ []) :
    ofPiece? unsigned ('+' :: fragment) = some ⟨.reveal, fragment⟩ := by
  simp [ofPiece?, h]

theorem ofPiece?_minus (h : fragment ≠ []) :
    ofPiece? unsigned ('-' :: fragment) = some ⟨.hide, fragment⟩ := by
  simp [ofPiece?, h]

theorem ofPiece?_of_isLoneSign (h : isLoneSign piece = true) : ofPiece? unsigned piece = none := by
  rcases isLoneSign_eq_true_iff.1 h with rfl | rfl <;> rfl

/-- Without a sign of its own the piece takes the one that is given. -/
theorem ofPiece?_of_not_isSigned (h : ¬ IsSigned piece) (ne : piece ≠ []) :
    ofPiece? unsigned piece = some ⟨unsigned, piece⟩ := by
  cases piece with
  | nil => exact absurd rfl ne
  | cons c rest =>
    obtain ⟨hplus, hminus⟩ : c ≠ '+' ∧ c ≠ '-' := by simpa [IsSigned] using h
    simp [ofPiece?, hplus, hminus]

/-- **Reading one piece is what the grammar says.** -/
theorem ofPiece?_eq_some_iff {i : Nat} {t : Term} (ne : piece ≠ []) :
    ofPiece? (.unsignedAt i) piece = some t ↔
      isLoneSign piece = false ∧ ReadsAs (piece, i) t := by
  constructor
  · intro h
    rcases piece_cases ne with alone | ⟨fragment, hf, rfl⟩ | ⟨fragment, hf, rfl⟩ | plain
    · rw [ofPiece?_of_isLoneSign alone] at h
      exact absurd h (by simp)
    · rw [ofPiece?_plus hf, Option.some.injEq] at h
      exact ⟨isLoneSign_plus_eq_false_iff.2 hf, h ▸ .plus fragment i⟩
    · rw [ofPiece?_minus hf, Option.some.injEq] at h
      exact ⟨isLoneSign_minus_eq_false_iff.2 hf, h ▸ .minus fragment i⟩
    · rw [ofPiece?_of_not_isSigned plain ne, Option.some.injEq] at h
      refine ⟨isLoneSign_of_not_isSigned plain, h ▸ ?_⟩
      cases i with
      | zero => exact .first plain
      | succ i => exact .later plain i
  · rintro ⟨several, h⟩
    -- Behind a sign there is a fragment, or the piece would be that sign alone.
    cases h with
    | plus fragment i => exact ofPiece?_plus (isLoneSign_plus_eq_false_iff.1 several)
    | minus fragment i => exact ofPiece?_minus (isLoneSign_minus_eq_false_iff.1 several)
    | first plain => exact ofPiece?_of_not_isSigned plain ne
    | later plain i => exact ofPiece?_of_not_isSigned plain ne

theorem isLoneSign_of_ofPiece?_eq_none (ne : piece ≠ []) (h : ofPiece? unsigned piece = none) :
    isLoneSign piece = true := by
  rcases piece_cases ne with alone | ⟨fragment, hf, rfl⟩ | ⟨fragment, hf, rfl⟩ | plain
  · exact alone
  · exact absurd h (by simp [ofPiece?_plus hf])
  · exact absurd h (by simp [ofPiece?_minus hf])
  · exact absurd h (by simp [ofPiece?_of_not_isSigned plain ne])

end Term

/-! ## All pieces -/

/-- Behind number zero every piece is read in the same way. -/
private theorem filterMap_zipIdx_later (pieces : List Text) (i : Nat) :
    ((pieces.zipIdx (i + 1)).filterMap fun p => Term.ofPiece? (.unsignedAt p.2) p.1) =
      pieces.filterMap (Term.ofPiece? .narrow) := by
  induction pieces generalizing i with
  | nil => rfl
  | cons piece rest ih =>
    rw [List.zipIdx_cons, List.filterMap_cons, List.filterMap_cons, ih (i + 1)]
    rfl

/-- A reading that answers exactly on what is kept, and answers as `R` says, lists
what `R` relates to the kept elements one by one. -/
private theorem forall₂_filter_iff {α β : Type} {R : α → β → Prop} {f : α → Option β}
    {keep : α → Bool} {xs : List α} (kept : ∀ x ∈ xs, ∀ y, f x = some y ↔ keep x = true ∧ R x y)
    (dropped : ∀ x ∈ xs, f x = none → keep x = false) (ys : List β) :
    List.Forall₂ R (xs.filter keep) ys ↔ xs.filterMap f = ys := by
  induction xs generalizing ys with
  | nil => simp [eq_comm]
  | cons x xs ih =>
    obtain ⟨hx, hxs⟩ := List.forall_mem_cons.1 kept
    obtain ⟨hd, hds⟩ := List.forall_mem_cons.1 dropped
    cases hf : f x with
    | none =>
      rw [List.filter_cons_of_neg (by simp [hd hf]), List.filterMap_cons_none hf, ih hxs hds]
    | some y =>
      obtain ⟨hk, hr⟩ := (hx y).1 hf
      -- `f` has one answer only, so whatever `R` relates to `x` is `y`.
      have unique : ∀ z, R x z → z = y := fun z hz =>
        Option.some.inj (((hx z).2 ⟨hk, hz⟩).symm.trans hf)
      rw [List.filter_cons_of_pos hk, List.filterMap_cons_some hf, List.forall₂_cons_left_iff]
      constructor
      · rintro ⟨z, zs, hz, hzs, rfl⟩
        rw [unique z hz, (ih hxs hds zs).1 hzs]
      · rintro rfl
        exact ⟨y, _, hr, (ih hxs hds _).2 rfl, rfl⟩

namespace Query

theorem terms_of_pieces_eq_nil {raw : Text} (h : raw.pieces = []) : terms raw = [] := by
  rw [terms, h]

theorem terms_of_pieces_eq_cons {raw first : Text} {rest : List Text}
    (h : raw.pieces = first :: rest) :
    terms raw =
      (Term.ofPiece? .reveal first).toList ++ rest.filterMap (Term.ofPiece? .narrow) := by
  rw [terms, h]

theorem terms_eq_filterMap_zipIdx (raw : Text) :
    terms raw =
      raw.pieces.zipIdx.filterMap fun p => Term.ofPiece? (.unsignedAt p.2) p.1 := by
  cases h : raw.pieces with
  | nil => exact terms_of_pieces_eq_nil h
  | cons piece rest =>
    rw [terms_of_pieces_eq_cons h, List.zipIdx_cons, List.filterMap_cons, filterMap_zipIdx_later]
    cases hp : Term.ofPiece? .reveal piece <;> simp [Sign.unsignedAt, hp]

/-- **Reading a query recognises exactly the grammar.** Every query has one list of
runs, and a list of terms is what the query is read as exactly when it goes with
the runs that are no lone signs, one by one and in order, each term being the one
that the grammar gives for its run. -/
theorem terms_eq_iff_readsAs (raw : Text) :
    ∃ runs, (∀ rs, raw.Runs rs ↔ rs = runs) ∧
      ∀ ts, terms raw = ts ↔ List.Forall₂ ReadsAs (numbered runs) ts := by
  refine ⟨raw.pieces, fun rs => ?_, fun ts => ?_⟩
  · rw [Text.runs_iff, eq_comm]
  · -- On the empty text the two would differ, but no piece is empty.
    have present : ∀ p ∈ raw.pieces.zipIdx, p.1 ≠ [] := fun p hp =>
      (Text.isPiece_of_mem_pieces (List.fst_mem_of_mem_zipIdx hp)).ne_nil
    rw [terms_eq_filterMap_zipIdx, numbered, forall₂_filter_iff]
    · intro p hp t
      rw [Bool.not_eq_true']
      exact Term.ofPiece?_eq_some_iff (present p hp)
    · intro p hp h
      rw [Bool.not_eq_false']
      exact Term.isLoneSign_of_ofPiece?_eq_none (present p hp) h

/-- A lone sign gives no term and still is the first piece; of two signs one is read. -/
example : terms "+ a,,--x".toList = [⟨.narrow, ['a']⟩, ⟨.hide, ['-', 'x']⟩] := by decide

/-! ## Queries by their pieces -/

variable {a b : Text}

/-- Two queries with the same pieces are read alike. -/
theorem terms_congr (h : a.pieces = b.pieces) : terms a = terms b := by
  rw [terms, terms, h]

/-- **What stands behind other pieces is read as standing there.** The query `c` has
the pieces of `a`, of which there are some, and then those of `b`. -/
theorem terms_append {c : Text} (h : c.pieces = a.pieces ++ b.pieces) (ne : a.pieces ≠ []) :
    terms c = terms a ++ b.pieces.filterMap (Term.ofPiece? .narrow) := by
  cases ha : a.pieces with
  | nil => exact absurd ha ne
  | cons first rest =>
    rw [ha, List.cons_append] at h
    rw [terms_of_pieces_eq_cons h, terms_of_pieces_eq_cons ha, List.filterMap_append,
      List.append_assoc]

end Query

end GridFilter
