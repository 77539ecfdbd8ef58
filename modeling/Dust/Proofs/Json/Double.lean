import Dust.Proofs.Json.Reading
import Dust.Proofs.Json.Scaling
import Dust.Proofs.Number.Shortest

/-!
# Doubles as numbers of JSON

The text of a finite double in JSON is written from proper parts: all digits before and after the
point, or the first digit, the others and the exponent of the first one.
-/

namespace Dust

open Number

namespace Json.Written

/-- Digits with as many zeros in front that one of them stands before some places. -/
def padded (places : Nat) (digits : List Char) : List Char :=
  zeros (places + 1 - digits.length) ++ digits

/-- The parts of a decimal in positional form. -/
def positional (negative : Bool) (decimal : Decimal) : Written :=
  let digits := natText decimal.digits
  if 0 ≤ decimal.exponent then
    ⟨negative, digits ++ zeros decimal.exponent.toNat, ['0'], false, none⟩
  else
    let places := (-decimal.exponent).toNat
    let digits := padded places digits
    ⟨negative, digits.take (digits.length - places), digits.drop (digits.length - places),
      false, none⟩

/-- The parts of a decimal in scientific form, given the power of ten of its first digit. -/
def scientific (negative : Bool) (leading : Int) (decimal : Decimal) : Written :=
  ⟨negative, (natText decimal.digits).take 1, (natText decimal.digits).drop 1,
    decide (leading < 0), some (natText leading.natAbs)⟩

/-- The parts of a finite double. -/
def ofBinary (negative : Bool) (significand : Nat) (exponent : Int) : Written :=
  if significand = 0 then ⟨negative, ['0'], ['0'], false, none⟩
  else
    let decimal := Decimal.shortest .even significand exponent
    let leading := decimal.exponent + Decimal.digitCount decimal.digits - 1
    if Layout.json.positional leading then positional negative decimal
    else scientific negative leading decimal

/-- A number without exponent is its sign, the digits before the point, and the point with the
digits after it. -/
theorem text_of_point (negative : Bool) (whole : List Char) {fraction : List Char}
    (nonempty : fraction ≠ []) :
    text ⟨negative, whole, fraction, false, none⟩ =
      Layout.text.signText negative ++ (whole ++ '.' :: fraction) := by
  cases fraction with
  | nil => contradiction
  | cons digit rest => simp [text, fractionText, exponentText, Layout.text.signText]

/-- One of the padded digits stands before the places. -/
theorem lt_length_padded (places : Nat) (digits : List Char) :
    places < (padded places digits).length := by
  simp only [padded, zeros, List.length_append, List.length_replicate]
  omega

/-- The places hold digits. -/
theorem drop_padded_ne_nil {places : Nat} (positive : 0 < places) (digits : List Char) :
    (padded places digits).drop ((padded places digits).length - places) ≠ [] := by
  have longer := lt_length_padded places digits
  intro nothing
  have length := congrArg List.length nothing
  simp only [List.length_drop, List.length_nil] at length
  omega

/-- A sign and the other parts in positional form. -/
theorem text_positional (negative : Bool) (decimal : Decimal) :
    (positional negative decimal).text =
      Layout.text.signText negative ++ positionalText ['.', '0'] decimal := by
  unfold positional positionalText
  simp only
  split
  · rw [text_of_point _ _ (by simp), List.append_assoc]
  · rw [text_of_point _ _ (drop_padded_ne_nil (by omega) _)]
    rfl

/-- A sign and the other parts in scientific form. -/
theorem text_scientific (negative : Bool) (leading : Int) (decimal : Decimal) :
    (scientific negative leading decimal).text =
      Layout.text.signText negative ++ scientificText leading decimal := by
  obtain ⟨first, rest, written, -⟩ := natText_eq_cons decimal.digits
  cases rest <;>
    simp [scientific, scientificText, written, text, fractionText, exponentText,
      Layout.text.signText]

/-- The text of a finite double in JSON is written from its parts. -/
theorem text_ofBinary {x : Float} {negative : Bool} {significand : Nat} {exponent : Int}
    (finite : Binary64.ofFloat x = .finite negative significand exponent) :
    (ofBinary negative significand exponent).text = Layout.json.text x := by
  unfold Layout.text
  rw [finite]
  unfold ofBinary
  simp only
  split
  · simp [text, fractionText, exponentText, Layout.text.signText, Layout.json]
  · have tie : Layout.json.tie = .even := rfl
    rw [tie]
    split
    · exact text_positional _ _
    · exact text_scientific _ _ _

/-- Zeros are digits. -/
theorem isDigit_of_mem_zeros {count : Nat} {c : Char} (mem : c ∈ zeros count) :
    c.isDigit = true := by
  rw [List.eq_of_mem_replicate mem]
  rfl

/-- Padded digits are digits. -/
theorem isDigit_of_mem_padded {places n : Nat} {c : Char} (mem : c ∈ padded places (natText n)) :
    c.isDigit = true :=
  (List.mem_append.mp mem).elim isDigit_of_mem_zeros isDigit_of_mem_natText

/-- Before the places stands zero alone, or a number that is not zero. -/
theorem take_padded_leading {places n : Nat} (positive : 0 < n) {rest : List Char}
    (written : (padded places (natText n)).take ((padded places (natText n)).length - places) =
      '0' :: rest) : rest = [] := by
  by_cases longer : places < (natText n).length
  · -- no zeros are put in front, so the text of the number would begin with zero
    have same : padded places (natText n) = natText n := by
      rw [padded, show places + 1 - (natText n).length = 0 by omega]
      rfl
    rw [same] at written
    have whole := List.take_append_drop ((natText n).length - places) (natText n)
    rw [written] at whole
    exact absurd whole.symm (natText_ne_zero_cons positive _)
  · -- zeros are put in front up to one digit before the places
    have length : (padded places (natText n)).length - places = 1 := by
      simp only [padded, zeros, List.length_append, List.length_replicate]
      omega
    rw [length] at written
    have short := congrArg List.length written
    simp only [List.length_take, List.length_cons] at short
    exact List.eq_nil_of_length_eq_zero (by omega)

/-- The parts of a decimal in positional form are proper. -/
theorem positional_isProper (negative : Bool) {decimal : Decimal}
    (zero : decimal.digits = 0 → decimal.exponent = 0) :
    (positional negative decimal).IsProper := by
  unfold positional
  simp only
  split
  · exact
      { whole_ne_nil := by simp [natText, Nat.toDigits_ne_nil]
        whole := fun c mem =>
          (List.mem_append.mp mem).elim isDigit_of_mem_natText isDigit_of_mem_zeros
        leading := by
          intro rest written
          rcases Nat.eq_zero_or_pos decimal.digits with none | positive
          · simp only [none, zero none] at written
            exact (List.cons.inj written).2.symm
          · obtain ⟨first, more, digits, -⟩ := natText_eq_cons decimal.digits
            simp only [digits, List.cons_append] at written
            obtain ⟨rfl, -⟩ := List.cons.inj written
            exact absurd digits (natText_ne_zero_cons positive _)
        fraction := by simp
        exponent_ne_nil := by simp
        exponent := by simp
        exponentNegative := fun _ => rfl }
  · have positive : 0 < decimal.digits := by
      rcases Nat.eq_zero_or_pos decimal.digits with none | positive
      · have := zero none
        omega
      · exact positive
    have longer := lt_length_padded (-decimal.exponent).toNat (natText decimal.digits)
    exact
      { whole_ne_nil := by
          intro nothing
          have length := congrArg List.length nothing
          simp only [List.length_take, List.length_nil] at length
          omega
        whole := fun c mem => isDigit_of_mem_padded (List.mem_of_mem_take mem)
        leading := fun _ => take_padded_leading positive
        fraction := fun c mem => isDigit_of_mem_padded (List.mem_of_mem_drop mem)
        exponent_ne_nil := by simp
        exponent := by simp
        exponentNegative := fun _ => rfl }

/-- The parts of a decimal in scientific form are proper. -/
theorem scientific_isProper (negative : Bool) (leading : Int) (decimal : Decimal) :
    (scientific negative leading decimal).IsProper := by
  obtain ⟨first, rest, written, digit, digits⟩ := natText_eq_cons decimal.digits
  unfold scientific
  rw [written]
  exact
    { whole_ne_nil := List.cons_ne_nil _ _
      whole := by simpa using digit
      leading := by rintro rest same; exact (List.cons.inj same).2.symm
      fraction := digits
      exponent_ne_nil := by simp [natText, Nat.toDigits_ne_nil]
      exponent := by rintro _ same; cases same; exact fun _ => isDigit_of_mem_natText
      exponentNegative := nofun }

/-- The parts of a finite double are proper. -/
theorem ofBinary_isProper (negative : Bool) (significand : Nat) (exponent : Int) :
    (ofBinary negative significand exponent).IsProper := by
  unfold ofBinary
  simp only
  split
  · constructor <;> simp
  · split
    · exact positional_isProper negative Decimal.shortest_exponent
    · exact scientific_isProper negative _ _

/-! ### The magnitude of a double -/

/-- The number that digits spell after a number. -/
def spelled (head : Nat) (digits : List Char) : Nat :=
  digits.foldl (fun value c => 10 * value + digitValue c) head

/-- Digits spell at least the number before them with as many zeros. -/
theorem mul_pow_le_spelled (head : Nat) (digits : List Char) :
    head * 10 ^ digits.length ≤ spelled head digits := by
  induction digits generalizing head with
  | nil => simp [spelled]
  | cons c rest induction =>
    refine Nat.le_trans ?_ (induction (10 * head + digitValue c))
    rw [List.length_cons, Nat.pow_succ, Nat.mul_comm (10 ^ rest.length), ← Nat.mul_assoc]
    exact Nat.mul_le_mul_right _ (by omega)

/-- The digits that are kept fit, and with zeros for those that are left they do not spell more. -/
theorem appendDigits_le {head : Nat} (small : head < unsignedBound) (digits : List Char) :
    (appendDigits head digits).1 < unsignedBound ∧ head ≤ (appendDigits head digits).1 ∧
      (appendDigits head digits).2.length ≤ digits.length ∧
      (appendDigits head digits).1 * 10 ^ (appendDigits head digits).2.length ≤
        spelled head digits := by
  induction digits generalizing head with
  | nil => simp [appendDigits, small, spelled]
  | cons c rest induction =>
    unfold appendDigits
    simp only
    split
    · rename_i fits
      obtain ⟨kept, least, shorter, value⟩ := induction fits
      exact ⟨kept, by omega, Nat.le_succ_of_le shorter, value⟩
    · exact ⟨small, Nat.le_refl _, Nat.le_refl _, mul_pow_le_spelled head (c :: rest)⟩

/-- A digit is less than ten. -/
theorem digitValue_lt {c : Char} (digit : c.isDigit = true) : digitValue c < 10 := by
  have range := toNat_of_isDigit digit
  have zero : '0'.toNat = 48 := rfl
  rw [digitValue, zero]
  omega

/-- Few digits are all kept. -/
theorem appendDigits_eq {head : Nat} {digits : List Char}
    (all : ∀ c ∈ digits, c.isDigit = true)
    (small : (head + 1) * 10 ^ digits.length ≤ unsignedBound) :
    (appendDigits head digits).2 = [] ∧
      (appendDigits head digits).1 < (head + 1) * 10 ^ digits.length := by
  induction digits generalizing head with
  | nil => simp [appendDigits]
  | cons c rest induction =>
    have digit := digitValue_lt (all c List.mem_cons_self)
    have next : (10 * head + digitValue c + 1) * 10 ^ rest.length ≤
        (head + 1) * 10 ^ (c :: rest).length := by
      rw [List.length_cons, Nat.pow_succ, Nat.mul_comm (10 ^ rest.length), ← Nat.mul_assoc]
      exact Nat.mul_le_mul_right _ (by omega)
    have positive : 0 < 10 ^ rest.length := Nat.pow_pos (by decide)
    have fits : 10 * head + digitValue c < unsignedBound := by
      have := Nat.le_mul_of_pos_right (10 * head + digitValue c + 1) positive
      omega
    unfold appendDigits
    simp only [if_pos fits]
    obtain ⟨left, value⟩ := induction (fun d mem => all d (List.mem_cons_of_mem _ mem))
      (Nat.le_trans next small)
    exact ⟨left, by omega⟩

/-- A number has a value if few digits stand before the point and some after it. -/
theorem magnitude?_of_point (negative : Bool) {whole fraction : List Char}
    (isWhole : ∀ c ∈ whole, c.isDigit = true) (isFraction : ∀ c ∈ fraction, c.isDigit = true)
    (few : whole.length ≤ 16) (nonempty : fraction ≠ []) :
    (magnitude? ⟨negative, whole, fraction, false, none⟩).isSome = true := by
  have power : 10 ^ whole.length ≤ 10 ^ 16 := Nat.pow_le_pow_right (by decide) few
  obtain ⟨left, value⟩ := @appendDigits_eq 0 _ isWhole (by
    rw [Nat.zero_add, Nat.one_mul]
    exact Nat.le_trans power (by decide))
  cases fraction with
  | nil => exact absurd rfl nonempty
  | cons c rest =>
    have digit := digitValue_lt (isFraction c List.mem_cons_self)
    have fits : 10 * (appendDigits 0 whole).1 + digitValue c < unsignedBound := by
      simp only [unsignedBound]
      omega
    obtain ⟨small, -, shorter, -⟩ := appendDigits_le fits rest
    unfold magnitude?
    simp only [left]
    rw [appendDigits, if_pos fits]
    exact scaled?_isSome small fun nonneg => by
      simp only [List.length_nil, List.length_cons] at nonneg
      omega

/-- The digits of a number that is not zero are counted. -/
theorem digitCount_eq {n : Nat} (nonzero : n ≠ 0) :
    Decimal.digitCount n = (natText n).length := by
  rw [Decimal.digitCount, if_neg nonzero]
  rfl

/-- A decimal in positional form has a value. -/
theorem magnitude?_positional (negative : Bool) {decimal : Decimal}
    (zero : decimal.digits = 0 → decimal.exponent = 0)
    (short : decimal.exponent + Decimal.digitCount decimal.digits - 1 < 16) :
    (positional negative decimal).magnitude?.isSome = true := by
  have proper := positional_isProper negative zero
  unfold positional at proper ⊢
  simp only at proper ⊢
  split at proper
  · rename_i whole
    rw [if_pos whole]
    refine magnitude?_of_point negative proper.whole proper.fraction ?_ (by simp)
    simp only [List.length_append, zeros, List.length_replicate]
    by_cases none : decimal.digits = 0
    · have single : (natText 0).length = 1 := rfl
      rw [none, single, zero none]
      decide
    · rw [digitCount_eq none] at short
      omega
  · rename_i below
    rw [if_neg below]
    have nonzero : decimal.digits ≠ 0 := fun none => by
      have := zero none
      omega
    refine magnitude?_of_point negative proper.whole proper.fraction ?_
      (drop_padded_ne_nil (by omega) _)
    rw [digitCount_eq nonzero] at short
    simp only [List.length_take, padded, zeros, List.length_append, List.length_replicate]
    omega

/-- The first digit of a number that is not zero is not zero. -/
theorem digitValue_pos {n : Nat} {first : Char} {rest : List Char} (nonzero : n ≠ 0)
    (written : natText n = first :: rest) (digit : first.isDigit = true) :
    0 < digitValue first := by
  rcases Nat.eq_zero_or_pos (digitValue first) with none | positive
  · have range := toNat_of_isDigit digit
    have zero : '0'.toNat = 48 := rfl
    rw [digitValue, zero] at none
    have same : first = '0' := Char.toNat_inj.mp (by rw [zero]; omega)
    exact absurd (same ▸ written) (natText_ne_zero_cons (by omega) rest)
  · exact positive

/-- An integer is its magnitude with its sign. -/
theorem signed_natAbs (n : Int) : Binary64.signed (decide (n < 0)) n.natAbs = n := by
  simp only [Binary64.signed, decide_eq_true_eq]
  split <;> omega

/-- A decimal in scientific form has a value up to the middle between the two greatest doubles. -/
theorem magnitude?_scientific (negative : Bool) {decimal : Decimal}
    (nonzero : decimal.digits ≠ 0) (atMost : decimal.AtMost greatestMiddle) :
    (scientific negative (decimal.exponent + Decimal.digitCount decimal.digits - 1)
      decimal).magnitude?.isSome = true := by
  obtain ⟨first, rest, written, digit, digits⟩ := natText_eq_cons decimal.digits
  have spells : spelled (digitValue first) rest = decimal.digits := by
    have value := ofDigits_natText decimal.digits
    rw [← value, written]
    simp [ofDigits, spelled]
  have leading : decimal.exponent + Decimal.digitCount decimal.digits - 1 =
      decimal.exponent + rest.length := by
    rw [digitCount_eq nonzero, written, List.length_cons]
    omega
  have small := digitValue_lt digit
  have positive := digitValue_pos nonzero written digit
  have one : appendDigits 0 [first] = (digitValue first, []) := by
    rw [appendDigits, if_pos (by simp only [unsignedBound]; omega)]
    simp [appendDigits]
  obtain ⟨kept, least, shorter, below⟩ := @appendDigits_le
    (digitValue first) (by simp only [unsignedBound]; omega) rest
  rw [spells] at below
  unfold magnitude? scientific
  rw [leading]
  simp only [written, List.take_succ_cons, List.take_zero, List.drop_succ_cons, List.drop_zero,
    one, ofDigits_natText, signed_natAbs]
  split
  · refine scaled?_isSome kept fun nonneg => ⟨by omega, ?_⟩
    simp only [List.length_nil] at nonneg ⊢
    have exponents : ((0 : Nat) : Int) -
        (rest.length - (appendDigits (digitValue first) rest).2.length : Nat) +
          (decimal.exponent + rest.length) =
        decimal.exponent + (appendDigits (digitValue first) rest).2.length := by omega
    rw [exponents] at nonneg ⊢
    exact atMost.leading below nonneg
  · -- a power of ten as great as that would be above the middle
    rename_i great
    have isNegative : decimal.exponent + rest.length < 0 := by
      rcases Int.lt_or_le (decimal.exponent + rest.length) 0 with isNegative | nonneg
      · exact isNegative
      · have head := mul_pow_le_spelled (digitValue first) rest
        rw [spells] at head
        have few := le_maxPower positive (atMost.leading head nonneg)
        simp only [exponentBound, maxPower] at great few
        omega
    rw [if_neg (by simp [isNegative])]
    rfl

/-- The numbers that read back to a double are at most the middle between the two greatest doubles,
unless it is the greatest one. -/
theorem high_le_greatestMiddle {significand : Nat} {exponent : Int}
    (small : significand < 2 ^ 53) (bounded : exponent ≤ 971)
    (notGreatest : ¬ (significand = 2 ^ 53 - 1 ∧ exponent = 971)) :
    (Decimal.Interval.ofBinary significand exponent).high ≤
      greatestMiddle * (Decimal.Interval.ofBinary significand exponent).denominator := by
  obtain ⟨top, topIs, middle⟩ : ∃ top, top = 970 ∧ greatestMiddle = (2 ^ 54 - 3) * 2 ^ top :=
    ⟨970, rfl, rfl⟩
  have scaled : (4 * significand + 2) * 2 ^ exponent.toNat ≤ greatestMiddle * 4 := by
    rw [middle, Nat.mul_right_comm]
    rcases Int.lt_or_le exponent 971 with less | last
    · exact Nat.mul_le_mul (by omega) (Nat.pow_le_pow_right (by decide) (by omega))
    · rw [show exponent.toNat = top + 1 by omega, Nat.pow_succ, Nat.mul_comm (2 ^ top),
        ← Nat.mul_assoc]
      exact Nat.mul_le_mul_right _ (by omega)
  calc (4 * significand + 2) * 2 ^ exponent.toNat ≤ greatestMiddle * 4 := scaled
    _ ≤ greatestMiddle * 4 * 2 ^ (-exponent).toNat :=
        Nat.le_mul_of_pos_right _ (Nat.two_pow_pos _)
    _ = greatestMiddle * (4 * 2 ^ (-exponent).toNat) := Nat.mul_assoc _ _ _

/-- The greatest double has a value. -/
theorem magnitude?_greatest : ∀ negative,
    (ofBinary negative (2 ^ 53 - 1) 971).magnitude?.isSome = true := by
  decide +kernel

/-- A finite double has a value as it is written. -/
theorem magnitude?_ofBinary (negative : Bool) {significand : Nat} {exponent : Int}
    (small : significand < 2 ^ 53) (bounded : exponent ≤ 971) :
    (ofBinary negative significand exponent).magnitude?.isSome = true := by
  by_cases greatest : significand = 2 ^ 53 - 1 ∧ exponent = 971
  · obtain ⟨rfl, rfl⟩ := greatest
    exact magnitude?_greatest negative
  · have atMost := @Decimal.shortest_atMost .even _ _ _
      (high_le_greatestMiddle small bounded greatest)
    have zero := @Decimal.shortest_exponent .even significand exponent
    unfold ofBinary
    simp only
    split
    · exact magnitude?_of_point negative (by simp) (by simp) (by decide) (by simp)
    · generalize Decimal.shortest .even significand exponent = decimal at atMost zero
      split
      · rename_i positional
        simp only [Layout.json, Bool.and_eq_true, decide_eq_true_eq] at positional
        exact magnitude?_positional negative zero positional.2
      · rename_i notPositional
        refine magnitude?_scientific negative (fun none => notPositional ?_) atMost
        rw [none, zero none]
        rfl

end Json.Written

namespace Json

open Written

/-- The text of a finite double is written from proper parts, which have a value. -/
theorem exists_written {x : Float} (isFinite : x.isFinite = true) :
    ∃ parts : Written, parts.IsProper ∧ parts.text = Layout.json.text x ∧
      parts.magnitude?.isSome = true := by
  obtain ⟨negative, significand, exponent, same, small, bounded⟩ :=
    Binary64.exists_finite isFinite
  exact ⟨ofBinary negative significand exponent, ofBinary_isProper _ _ _, text_ofBinary same,
    magnitude?_ofBinary negative small bounded⟩

/-- A double is written as a number or as `null`. -/
@[simp]
theorem ofFloat_isWritten (x : Float) : (ofFloat x).IsWritten := by
  unfold ofFloat
  split
  · rename_i isFinite
    obtain ⟨parts, proper, same, -⟩ := exists_written isFinite
    exact ⟨parts, proper, same⟩
  · trivial

end Json

end Dust
