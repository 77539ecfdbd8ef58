import Dust.Number.Layout
import Dust.Number.Reader

/-!
# Reading numbers that are written

The text of a natural number is a row of digits that spells it. So positions and integers are read
back from their texts, as far as they fit into their types.
-/

namespace Dust.Number

/-- The text of a natural number holds digits alone. -/
theorem isDigit_of_mem_natText {n : Nat} {c : Char} (mem : c ∈ natText n) : c.isDigit = true :=
  Nat.isDigit_of_mem_toDigits (by decide) (by decide) mem

/-- The text of a natural number begins with a digit, and goes on with digits. -/
theorem natText_eq_cons (n : Nat) :
    ∃ first rest, natText n = first :: rest ∧ first.isDigit = true ∧
      ∀ c ∈ rest, c.isDigit = true := by
  have digits := @isDigit_of_mem_natText n
  cases written : natText n with
  | nil => exact absurd written Nat.toDigits_ne_nil
  | cons first rest =>
    rw [written] at digits
    exact ⟨first, rest, rfl, digits List.mem_cons_self,
      fun c mem => digits (List.mem_cons_of_mem _ mem)⟩

/-- The text of a number from ten on is that of its tenth with the last digit behind it. -/
theorem natText_of_ten_le {n : Nat} (large : 10 ≤ n) :
    natText n = natText (n / 10) ++ [(n % 10).digitChar] :=
  Nat.toDigits_of_base_le (by decide) large

/-- The text of a positive number does not begin with zero. -/
theorem natText_ne_zero_cons {n : Nat} (positive : 0 < n) (rest : List Char) :
    natText n ≠ '0' :: rest := by
  induction n using Nat.strongRecOn generalizing rest with
  | ind n induction =>
    rcases Nat.lt_or_ge n 10 with small | large
    · have digits : ∀ n : Fin 10, 0 < n.val → Nat.digitChar n.val ≠ '0' := by decide
      rw [natText, Nat.toDigits_of_lt_base small]
      intro same
      exact digits ⟨n, small⟩ positive (List.cons.inj same).1
    · rw [natText_of_ten_le large]
      obtain ⟨first, more, written, -⟩ := natText_eq_cons (n / 10)
      rw [written]
      intro same
      obtain ⟨rfl, -⟩ := List.cons.inj same
      exact induction (n / 10) (by omega) (by omega) more written

/-- The text of a natural number begins with zero only if it is zero. -/
theorem eq_nil_of_natText_eq_zero_cons {n : Nat} {rest : List Char}
    (written : natText n = '0' :: rest) : rest = [] := by
  rcases Nat.eq_zero_or_pos n with rfl | positive
  · exact (List.cons.inj written).2.symm
  · exact absurd written (natText_ne_zero_cons positive rest)

/-- The digits of a number spell it. -/
theorem ofDigits_natText (n : Nat) : ofDigits (natText n) = n := by
  have read := Nat.ofDigitChars_ten_toDigits (n := n)
  rw [Nat.ofDigitChars_eq_foldl] at read
  exact read

/-- A natural number is read from its text. -/
theorem readDigits?_natText (n : Nat) : readDigits? (natText n) = some n := by
  have all : (natText n).all Char.isDigit = true :=
    List.all_eq_true.mpr fun _ => isDigit_of_mem_natText
  rw [readDigits?, if_pos ⟨Nat.toDigits_ne_nil, all⟩, ofDigits_natText]

/-- A position is read from its text. -/
theorem readIndex?_natText {n : Nat} (bounded : n < indexBound) :
    readIndex? (natText n) = some n := by
  obtain ⟨first, rest, written, digit, _⟩ := natText_eq_cons n
  unfold readIndex?
  split
  · rename_i same
    rw [written] at same
    cases same
    cases digit
  · simp [readDigits?_natText, bounded]

/-- The text of a natural number has no sign. -/
theorem splitSign_natText (n : Nat) : splitSign (natText n) = (false, natText n) := by
  obtain ⟨first, rest, written, digit, _⟩ := natText_eq_cons n
  rw [written]
  unfold splitSign
  split
  · rename_i same
    cases same
    cases digit
  · rename_i same
    cases same
    cases digit
  · rfl

/-- Every integer of 64 bits is in range. -/
theorem int64?_toInt (n : Int64) : int64? n.toInt = some n := by
  have least : leastInteger ≤ n.toInt := n.le_toInt
  have less := n.toInt_lt
  have greatest : n.toInt ≤ greatestInteger := by
    unfold greatestInteger
    omega
  rw [int64?, if_pos ⟨least, greatest⟩, Int64.ofInt_toInt]

/-- An integer of 64 bits is read from its text. -/
theorem readInt64?_intText (n : Int64) : readInt64? (intText n.toInt) = some n := by
  have whole := int64?_toInt n
  cases value : n.toInt with
  | ofNat magnitude =>
    rw [value] at whole
    simp only [readInt64?, intText, splitSign_natText, readDigits?_natText, Binary64.signed]
    exact whole
  | negSucc magnitude =>
    rw [value] at whole
    have opposite : -((magnitude + 1 : Nat) : Int) = .negSucc magnitude := rfl
    simp only [readInt64?, intText, splitSign, readDigits?_natText, Binary64.signed, bind,
      Option.bind, ↓reduceIte, opposite]
    exact whole

end Dust.Number
