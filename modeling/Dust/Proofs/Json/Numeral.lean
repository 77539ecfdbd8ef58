import Dust.Json.Reader
import Dust.Proofs.Number.Digits
import Dust.Proofs.Text.Class
import Dust.Value.Json

/-!
# Reading written numbers

A number is written as a sign, digits, a point with digits and an exponent. Whatever proper parts it
is written from, it is read as far as it goes, and these are the parts that are found in it. So an
integer is read back as long as it fits 64 bits.
-/

namespace Dust.Json

/-! ### Numbers in parts -/

namespace Written

/-- The point of a number with the digits after it. -/
def fractionText (written : Written) : List Char :=
  match written.fraction with
  | [] => []
  | digits => '.' :: digits

/-- The exponent of a number with its mark. -/
def exponentText (written : Written) : List Char :=
  match written.exponent with
  | none => []
  | some digits => 'e' :: (if written.exponentNegative then '-' else '+') :: digits

/-- The text of a number. -/
def text (written : Written) : List Char :=
  (if written.negative then ['-'] else []) ++ written.whole ++ written.fractionText ++
    written.exponentText

/-- The parts of a number are those of a text in JSON. -/
structure IsProper (written : Written) : Prop where
  /-- There is a digit before the point. -/
  whole_ne_nil : written.whole ≠ []
  /-- Before the point are digits. -/
  whole : ∀ c ∈ written.whole, c.isDigit = true
  /-- No other digits follow a zero in front. -/
  leading : ∀ rest, written.whole = '0' :: rest → rest = []
  /-- After the point are digits. -/
  fraction : ∀ c ∈ written.fraction, c.isDigit = true
  /-- The exponent has a digit. -/
  exponent_ne_nil : written.exponent ≠ some []
  /-- The exponent is made of digits. -/
  exponent : ∀ digits, written.exponent = some digits → ∀ c ∈ digits, c.isDigit = true
  /-- Without exponent it has no sign. -/
  exponentNegative : written.exponent = none → written.exponentNegative = false

/-- The class of the characters that a number may go on with. -/
def goesOn (c : Char) : Bool :=
  c.isDigit || c = '.' || c = 'e' || c = 'E'

/-- What does not go on with a number does not go on with its digits. -/
theorem stops_isDigit {later : List Char} (stops : Stops goesOn later) :
    Stops Char.isDigit later := by
  intro c mem
  have stop := stops c mem
  simp only [goesOn, Bool.or_eq_false_iff] at stop
  exact stop.1.1.1

/-- A point stops digits. -/
theorem stops_point (later : List Char) : Stops Char.isDigit ('.' :: later) :=
  .cons rfl

/-- The mark of an exponent stops digits. -/
theorem stops_mark (later : List Char) : Stops Char.isDigit ('e' :: later) :=
  .cons rfl

/-- Digits after the ones before the point stop at the point, at the exponent or at the end. -/
theorem stops_afterWhole (written : Written) {later : List Char} (stops : Stops goesOn later) :
    Stops Char.isDigit (written.fractionText ++ (written.exponentText ++ later)) := by
  unfold fractionText exponentText
  cases written.fraction with
  | cons digit rest => exact stops_point _
  | nil =>
    cases written.exponent with
    | some digits => exact stops_mark _
    | none => exact stops_isDigit stops

/-- Digits after the point stop at the exponent or at the end. -/
theorem stops_afterFraction (written : Written) {later : List Char} (stops : Stops goesOn later) :
    Stops Char.isDigit (written.exponentText ++ later) := by
  unfold exponentText
  cases written.exponent with
  | some digits => exact stops_mark _
  | none => exact stops_isDigit stops

/-- Digits are read as far as they go. -/
theorem readSomeDigits_append {digits later : List Char} (nonempty : digits ≠ [])
    (all : ∀ c ∈ digits, c.isDigit = true) (stops : Stops Char.isDigit later) :
    readSomeDigits (digits ++ later) = some (digits, later) := by
  unfold readSomeDigits
  rw [takeWhile_append_of_stops all stops, dropWhile_append_of_stops all stops]
  cases digits with
  | nil => exact absurd rfl nonempty
  | cons digit rest => rfl

variable {written : Written}

/-- The digits before the point are read. -/
theorem readWhole_append (proper : written.IsProper) {later : List Char}
    (stops : Stops Char.isDigit later) :
    readWhole (written.whole ++ later) = some (written.whole, later) := by
  unfold readWhole
  split
  · rename_i rest same
    cases whole : written.whole with
    | nil => exact absurd whole proper.whole_ne_nil
    | cons digit more =>
      rw [whole] at same
      obtain ⟨rfl, rfl⟩ : digit = '0' ∧ more ++ later = rest := List.cons.inj same
      obtain rfl := proper.leading more whole
      cases later with
      | nil => rfl
      | cons c after =>
        have stop : c.isDigit = false := stops c rfl
        simp [stop]
  · exact readSomeDigits_append proper.whole_ne_nil proper.whole stops

/-- The digits after the point are read. -/
theorem readFraction_append (proper : written.IsProper) {later : List Char}
    (stops : Stops goesOn later) :
    readFraction (written.fractionText ++ (written.exponentText ++ later)) =
      some (written.fractionText, written.exponentText ++ later) := by
  have noPoint : ∀ rest, written.exponentText ++ later ≠ '.' :: rest := by
    intro rest same
    unfold exponentText at same
    cases found : written.exponent with
    | some digits => rw [found] at same; cases same
    | none =>
      rw [found] at same
      have stop := stops '.' (by rw [List.nil_append] at same; rw [same]; rfl)
      cases stop
  unfold fractionText
  cases found : written.fraction with
  | nil =>
    unfold readFraction
    split
    · rename_i rest same
      exact absurd same (noPoint rest)
    · rfl
  | cons digit rest =>
    have read := readSomeDigits_append (List.cons_ne_nil digit rest)
      (fun c mem => proper.fraction c (found ▸ mem)) (written.stops_afterFraction stops)
    simp only [List.cons_append, readFraction, Option.bind_eq_bind]
    rw [← List.cons_append, read]
    rfl

/-- The exponent is read. -/
theorem readExponent_append (proper : written.IsProper) {later : List Char}
    (stops : Stops goesOn later) :
    readExponent (written.exponentText ++ later) = some (written.exponentText, later) := by
  unfold exponentText
  cases found : written.exponent with
  | none =>
    cases later with
    | nil => rfl
    | cons c rest =>
      have stop := stops c rfl
      have noMark : ¬ (c = 'e' ∨ c = 'E') := by
        rintro (rfl | rfl) <;> cases stop
      simp [readExponent, noMark]
  | some digits =>
    have nonempty : digits ≠ [] := fun empty => proper.exponent_ne_nil (empty ▸ found)
    have read := readSomeDigits_append nonempty (proper.exponent digits found)
      (stops_isDigit stops)
    cases written.exponentNegative <;> simp [readExponent, read]

/-- What begins with the digits before the point has no sign. -/
theorem splitSign_whole (proper : written.IsProper) (later : List Char) :
    Number.splitSign (written.whole ++ later) = (false, written.whole ++ later) := by
  cases found : written.whole with
  | nil => exact absurd found proper.whole_ne_nil
  | cons digit more =>
    have isDigit := proper.whole digit (found ▸ List.mem_cons_self)
    unfold Number.splitSign
    split
    · rename_i same
      cases same
      cases isDigit
    · rename_i same
      cases same
      cases isDigit
    · rfl

/-- A number is read as far as it goes. -/
theorem readNumber_text (proper : written.IsProper) {later : List Char}
    (stops : Stops goesOn later) :
    readNumber (written.text ++ later) = some (written.text, later) := by
  have whole := readWhole_append proper (written.stops_afterWhole stops)
  have fraction := readFraction_append proper stops
  have exponent := readExponent_append proper stops
  unfold readNumber text
  cases negative : written.negative with
  | true =>
    simp only [if_true, List.cons_append, List.nil_append, List.append_assoc, whole, fraction,
      exponent, Option.bind_eq_bind, Option.bind_some]
  | false =>
    have noSign : ∀ rest, written.whole ++
        (written.fractionText ++ (written.exponentText ++ later)) ≠ '-' :: rest := by
      intro rest same
      cases found : written.whole with
      | nil => exact proper.whole_ne_nil found
      | cons digit more =>
        rw [found] at same
        obtain ⟨rfl, -⟩ := List.cons.inj same
        cases proper.whole '-' (found ▸ List.mem_cons_self)
    simp only [Bool.false_eq_true, if_false, List.nil_append, List.append_assoc, whole, fraction,
      exponent, Option.bind_eq_bind, Option.bind_some]

/-- The parts that are found in the text of a number are those it is written from. -/
theorem ofText_text (proper : written.IsProper) : ofText written.text = written := by
  have ends : Stops goesOn [] := fun c mem => by cases mem
  have stopsWhole := written.stops_afterWhole ends
  have stopsFraction := written.stops_afterFraction ends
  simp only [List.append_nil] at stopsWhole stopsFraction
  have signed : Number.splitSign written.text =
      (written.negative, written.whole ++ (written.fractionText ++ written.exponentText)) := by
    unfold text
    cases written.negative with
    | true => simp [Number.splitSign]
    | false =>
      simp only [Bool.false_eq_true, if_false, List.nil_append, List.append_assoc]
      exact splitSign_whole proper _
  have pointed := takeWhile_append_of_stops proper.fraction stopsFraction
  have afterPoint := dropWhile_append_of_stops proper.fraction stopsFraction
  have plus := proper.exponentNegative
  unfold ofText
  rw [signed]
  simp only [takeWhile_append_of_stops proper.whole stopsWhole,
    dropWhile_append_of_stops proper.whole stopsWhole]
  obtain ⟨negative, whole, fraction, exponentNegative, exponent⟩ := written
  -- What stands behind the digits begins with a point only if there is a fraction.
  cases fraction with
  | nil =>
    cases exponent with
    | none =>
      obtain rfl : exponentNegative = false := plus rfl
      rfl
    | some digits => cases exponentNegative <;> rfl
  | cons digit rest =>
    simp only [fractionText, List.cons_append] at pointed afterPoint ⊢
    simp only [pointed, afterPoint]
    cases exponent with
    | none =>
      obtain rfl : exponentNegative = false := plus rfl
      rfl
    | some digits => cases exponentNegative <;> rfl

/-- The parts of an integer. -/
def ofInt (n : Int) : Written :=
  ⟨decide (n < 0), Number.natText n.natAbs, [], false, none⟩

/-- An integer has proper parts. -/
theorem ofInt_isProper (n : Int) : (ofInt n).IsProper where
  whole_ne_nil := Nat.toDigits_ne_nil
  whole := fun _ => Number.isDigit_of_mem_natText
  leading := fun _ => Number.eq_nil_of_natText_eq_zero_cons
  fraction := fun _ mem => by cases mem
  exponent_ne_nil := by simp [ofInt]
  exponent := fun digits found => by cases found
  exponentNegative := fun _ => rfl

/-- An integer is written from its parts. -/
theorem text_ofInt (n : Int) : (ofInt n).text = Number.intText n := by
  cases n with
  | ofNat n => simp [ofInt, text, fractionText, exponentText, Number.intText]
  | negSucc n => simp [ofInt, text, fractionText, exponentText, Number.intText]

/-- The integer of an integer that fits. -/
theorem integer?_ofInt {n : Int} (least : Number.leastInteger ≤ n) (bounded : n < unsignedBound) :
    (ofInt n).integer? = some n := by
  unfold integer? ofInt
  rw [if_pos ⟨rfl, rfl⟩]
  simp only [Number.ofDigits_natText, decide_eq_true_eq]
  by_cases negative : n < 0
  · have magnitude : -(n.natAbs : Int) = n := by omega
    rw [if_pos negative, magnitude, if_pos ⟨by omega, least⟩]
  · have magnitude : (n.natAbs : Int) = n := by omega
    rw [if_neg (by omega), if_pos (by omega), magnitude]

/-- There is no integer for a count that does not fit. -/
theorem integer?_ofCount {n : Nat} (large : unsignedBound ≤ n) : (ofInt n).integer? = none := by
  unfold integer? ofInt
  rw [if_pos ⟨rfl, rfl⟩]
  simp only [Number.ofDigits_natText, decide_eq_true_eq, Int.natAbs_natCast]
  rw [if_neg (by omega), if_neg (by omega)]

end Written

/-! ### Integers -/

/-- The parts of a number that is written. -/
theorem ofText_intText (n : Int) : Written.ofText (Number.intText n) = .ofInt n := by
  rw [← Written.text_ofInt, Written.ofText_text (Written.ofInt_isProper n)]

/-- An integer that fits is read as it is written. -/
theorem numeral?_intText {n : Int} (least : Number.leastInteger ≤ n)
    (bounded : n < unsignedBound) : numeral? (Number.intText n) = some (.integer n) := by
  simp only [numeral?, ofText_intText, Written.integer?_ofInt least bounded]

/-- A count that does not fit is read as a double, if at all. -/
theorem numeral?_intText_large {n : Nat} (large : unsignedBound ≤ n) (m : Int) :
    numeral? (Number.intText n) ≠ some (.integer m) := by
  simp only [numeral?, ofText_intText, Written.integer?_ofCount large]
  cases (Written.ofInt n).magnitude? <;> simp

end Dust.Json
