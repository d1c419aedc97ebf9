/-
What lower-casing leaves alone.

The marks and digits that stand before the letters are in a text exactly when they are
in its lower-case form (`mem_lowercase_iff`): they are mapped to themselves, and no
letter is mapped to one of them. For most letters that is a fact about the table of
lower-case letters, all of whose images come after the capital letters.

The table is a long literal. Asked for its characters, the kernel decodes the bytes of
the literal one after the other and keeps all that is in between, which takes more
room than there is. It is therefore given the characters, and only compares them with
the literal (`all_of_ofPacked`).
-/
import GridFilter.Text.Lowercase

set_option autoImplicit false

namespace GridFilter

namespace Unicode

/-! ## The table of lower-case letters -/

/-- The numbers among the characters of a packed table. -/
def numbersAmong (cs : List Char) : List Nat :=
  let close (cur : Option Nat) (done : List Nat) : List Nat :=
    match cur with
    | some n => n :: done
    | none => done
  let (cur, done) := cs.foldl (fun (cur, done) c =>
    if c.isDigit then (some (cur.getD 0 * 10 + (c.toNat - '0'.toNat)), done)
    else (none, close cur done)) (none, [])
  (close cur done).reverse

theorem unpackNumbers_ofList (cs : List Char) :
    unpackNumbers (String.ofList cs) = numbersAmong cs := by
  have unpack : ∀ s : String, unpackNumbers s = numbersAmong s.toList := fun _ => rfl
  rw [unpack, String.toList_ofList]

/-- What is true of the runs that the characters stand for is true of those that the
literal stands for. -/
theorem all_of_ofPacked {packed : String} {p : CaseRun → Bool} (cs : List Char)
    (chars : packed = String.ofList cs) (holds : (CaseRun.ofPacked.go (numbersAmong cs)).all p) :
    ∀ r ∈ CaseRun.ofPacked packed, p r = true := by
  rw [chars, CaseRun.ofPacked, unpackNumbers_ofList]
  exact List.all_eq_true.1 holds

/-- No letter has its lower-case letter before `a`. -/
theorem le_image_of_mem_lowerings {r : CaseRun} (h : r ∈ lowerings ++ loweringsAdded) :
    97 ≤ r.image := by
  have table : ∀ r ∈ lowerings, decide (97 ≤ r.image) = true := by
    unfold lowerings
    refine all_of_ofPacked ?cs ?chars ?holds
    case chars => with_reducible exact Eq.refl _
    case holds => decide +kernel
  have added : ∀ r ∈ loweringsAdded, decide (97 ≤ r.image) = true := by decide
  rcases List.mem_append.1 h with h | h
  · exact of_decide_eq_true (table r h)
  · exact of_decide_eq_true (added r h)

theorem CaseRun.image_le_of_image?_eq_some {r : CaseRun} {n m : Nat} (h : r.image? n = some m) :
    r.image ≤ m := by
  rw [image?] at h
  split at h
  · exact Option.some.inj h ▸ Nat.le_add_right r.image _
  · exact absurd h (by simp)

/-! ## One character -/

variable {c d : Char}

theorem ne_of_le_toNat (below : d.toNat < 'A'.toNat) (letter : 'A'.toNat ≤ c.toNat) : c ≠ d := by
  rintro rfl
  exact Nat.not_lt.2 letter below

/-- ASCII letters are mapped to ASCII letters, and the other characters to themselves. -/
theorem toLower_eq_iff (below : d.toNat < 'A'.toNat) : c.toLower = d ↔ c = d := by
  by_cases capital : 'A'.val ≤ c.val ∧ c.val ≤ 'Z'.val
  · have first : 65 ≤ c.toNat := UInt32.le_iff_toNat_le.1 capital.1
    have last : c.toNat ≤ 90 := UInt32.le_iff_toNat_le.1 capital.2
    have bound : d.toNat < 65 := below
    have small : c.toLower = _ := dif_pos capital
    refine iff_of_false (fun e => ?_) (ne_of_le_toNat below first)
    have code : (c.toNat + 32) % 2 ^ 32 = d.toNat := congrArg Char.toNat (small.symm.trans e)
    omega
  · have kept : c.toLower = c := dif_neg capital
    rw [kept]

/-- A code point that is no character stands for the null character. -/
theorem toNat_eq_of_ofNat_eq {n : Nat} (some_mark : d ≠ '\x00') (h : Char.ofNat n = d) :
    d.toNat = n := by
  by_cases valid : n.isValidChar
  · have made : Char.ofNat n = Char.ofNatAux n valid := dif_pos valid
    rw [← h, made]
    rfl
  · have null : Char.ofNat n = '\x00' := dif_neg valid
    exact absurd (h.symm.trans null) some_mark

/-- Only a mark itself is mapped to the mark. -/
theorem lowerLetter_eq_iff (some_mark : d ≠ '\x00') (below : d.toNat < 'A'.toNat) :
    lowerLetter c = d ↔ c = d := by
  rw [lowerLetter]
  split
  · exact toLower_eq_iff below
  · rename_i wide
    have ne : c ≠ d := ne_of_le_toNat below (Nat.le_trans (by decide) (Nat.not_lt.1 wide))
    cases image : (lowerings ++ loweringsAdded).findSome? (·.image? c.toNat) with
    | none => rw [Option.getD_none, Char.ofNat_toNat]
    | some m =>
      obtain ⟨r, hr, hm⟩ := List.exists_of_findSome?_eq_some image
      have late : 97 ≤ m :=
        Nat.le_trans (le_image_of_mem_lowerings hr) (r.image_le_of_image?_eq_some hm)
      have bound : d.toNat < 65 := below
      refine iff_of_false (fun e => ?_) ne
      have code : d.toNat = m := toNat_eq_of_ofNat_eq some_mark e
      omega

end Unicode

namespace Text

open Unicode

variable {c d : Char}

theorem mem_lowerChar_iff (some_mark : d ≠ '\x00') (below : d.toNat < 'A'.toNat) :
    d ∈ lowerChar c ↔ c = d := by
  rw [lowerChar]
  split
  · rename_i dotted
    rw [eq_of_beq dotted]
    refine iff_of_false (fun mem => ?_) (ne_of_le_toNat below (by decide))
    rcases List.mem_cons.1 mem with e | mem
    · exact ne_of_le_toNat below (by decide) e.symm
    · exact ne_of_le_toNat below (by decide) (List.mem_singleton.1 mem).symm
  · rw [List.mem_singleton, eq_comm, lowerLetter_eq_iff some_mark below]

/-- Both lower-case forms of the sigma are letters. -/
theorem lowerSigma_ne (below : d.toNat < 'A'.toNat) (before after : Text) :
    lowerSigma before after ≠ d := by
  rw [lowerSigma]
  split
  · exact ne_of_le_toNat below (by decide)
  · exact ne_of_le_toNat below (by decide)

/-- **Lower-casing neither adds nor takes away a mark that stands before the letters.** -/
theorem mem_lowercase_iff (some_mark : d ≠ '\x00') (below : d.toNat < 'A'.toNat) {t : Text} :
    d ∈ t.lowercase ↔ d ∈ t := by
  have one : ∀ p : Char × Nat, (d ∈ if p.1 == 'Σ' then
      [lowerSigma (t.take p.2).reverse (t.drop (p.2 + 1))] else lowerChar p.1) ↔ p.1 = d := by
    intro p
    split
    · rename_i sigma
      rw [eq_of_beq sigma, List.mem_singleton]
      exact iff_of_false (lowerSigma_ne below _ _).symm (ne_of_le_toNat below (by decide))
    · exact mem_lowerChar_iff some_mark below
  calc d ∈ t.lowercase ↔ ∃ p ∈ t.zipIdx, p.1 = d := by
        rw [lowercase, List.mem_flatMap]
        exact exists_congr fun p => and_congr_right fun _ => one p
    _ ↔ d ∈ t.zipIdx.map Prod.fst := List.mem_map.symm
    _ ↔ d ∈ t := by rw [List.zipIdx_map_fst]

end Text

end GridFilter
