/-
Decimal numbers in settings and arguments.

Limits and column numbers are 64-bit words. They are written in decimal without
a sign; reading also takes leading zeros and one plus sign, and refuses what does
not fit.
-/
import GridFilter.Text.Basic

set_option autoImplicit false

namespace GridFilter.Text

/-- The decimal digits of a number. -/
def ofNat (n : Nat) : Text := Nat.toDigits 10 n

/-- The decimal digits of a number, behind a minus sign if it is negative. -/
def ofInt (n : Int) : Text := if n < 0 then '-' :: ofNat n.natAbs else ofNat n.natAbs

/-- The number that a text of decimal digits stands for; a text with anything
else in it, or with nothing, stands for none. -/
def readNat? (t : Text) : Option Nat :=
  if t.isEmpty || !t.all Char.isDigit then none
  else some (Nat.ofDigitChars 10 t 0)

theorem readNat?_ofNat (n : Nat) : readNat? (ofNat n) = some n := by
  have hne : (ofNat n).isEmpty = false := by simp [ofNat, Nat.toDigits_ne_nil]
  have hall : (ofNat n).all Char.isDigit = true :=
    List.all_eq_true.2 fun c hc => Nat.isDigit_of_mem_toDigits (by decide) (by decide) hc
  rw [readNat?, hne, hall]
  simp [ofNat, Nat.ofDigitChars_toDigits]

/-- A text without a plus sign in front. -/
def dropPlus : Text → Text
  | '+' :: rest => rest
  | t => t

/-- The word that a text stands for. -/
def readWord? (t : Text) : Option UInt64 := do
  let n ← readNat? (dropPlus t)
  if h : n < UInt64.size then some (UInt64.ofNatLT n h) else none

/-- The decimal digits of a word. -/
def ofWord (w : UInt64) : Text := ofNat w.toNat

/-- Digits have no plus sign in front. -/
theorem dropPlus_eq_self {t : Text} (digits : ∀ c ∈ t, c.isDigit = true) : dropPlus t = t := by
  unfold dropPlus
  split
  · exact absurd (digits '+' List.mem_cons_self) (by decide)
  · rfl

theorem dropPlus_ofNat (n : Nat) : dropPlus (ofNat n) = ofNat n :=
  dropPlus_eq_self fun _ hc => Nat.isDigit_of_mem_toDigits (by decide) (by decide) hc

/-- Every word is read back from its digits. -/
theorem readWord?_ofWord (w : UInt64) : readWord? (ofWord w) = some w := by
  simp [readWord?, ofWord, dropPlus_ofNat, readNat?_ofNat, UInt64.toNat_lt_size]

end GridFilter.Text
