import FleetTraffic.Calendar.InstantText
import FleetTraffic.Proofs.Text.Written

/-!
# Written instants are read back

Reading takes each part of a written instant to its end: the parts of two digits because no more are taken,
the year and the fraction because no digit follows them. A leap second is written as second 60, which is
read as the fraction of a second or more on top of second 59 that it was.
-/

namespace FleetTraffic.Instant

open Text

/-! ## Parts -/

/-- A digit is not blank. -/
theorem isBlank_of_isDigit {c : Char} (digit : Text.isDigit c = true) : isBlank c = false := by
  simp only [Text.isDigit, Char.isDigit, Bool.and_eq_true, decide_eq_true_eq, UInt32.le_iff_toNat_le] at digit
  have least : 48 ≤ c.toNat := digit.1
  have most : c.toNat ≤ 57 := digit.2
  simp only [isBlank, Bool.or_eq_false_iff, Bool.and_eq_false_iff, decide_eq_false_iff_not,
    beq_eq_false_iff_ne]
  omega

/-- Nothing is trimmed in front of a character that is not blank. -/
theorem trimStart_cons {c : Char} (visible : isBlank c = false) (rest : List Char) :
    trimStart (c :: rest) = c :: rest := by
  rw [trimStart, List.dropWhile_cons_of_neg (by simp [visible])]

/-- Nothing is trimmed in front of a padded number. -/
theorem trimStart_paddedDigits {width : Nat} (positive : 0 < width) (value : Nat) (rest : List Char) :
    trimStart (paddedDigits width value ++ rest) = paddedDigits width value ++ rest := by
  obtain ⟨first, others, shown, digit⟩ := exists_cons_paddedDigits positive value
  rw [shown, List.cons_append, trimStart_cons (isBlank_of_isDigit digit)]

/-- A padded number that is taken to its end is read. -/
theorem readNumber_paddedDigits {limit width value : Nat} {rest : List Char} (positive : 0 < width)
    (taken : takeDigits limit (paddedDigits width value ++ rest) = (paddedDigits width value, rest)) :
    readNumber limit (paddedDigits width value ++ rest) = some (value, rest) := by
  obtain ⟨first, others, shown, _⟩ := exists_cons_paddedDigits positive value
  rw [readNumber, taken]
  split
  next empty =>
    rw [Prod.mk.injEq, shown] at empty
    exact nomatch empty.1
  next same =>
    cases same
    rw [number_paddedDigits]

/-- A number of just the digits that may be taken is read, whatever follows. -/
theorem readNumber_of_fits {width value : Nat} (positive : 0 < width) (fits : value < 10 ^ width)
    (rest : List Char) : readNumber width (paddedDigits width value ++ rest) = some (value, rest) := by
  refine readNumber_paddedDigits positive ?_
  have taken := takeDigits_append_of_length
    (fun c (member : c ∈ paddedDigits width value) => isDigit_of_mem_paddedDigits member) rest
  rwa [length_paddedDigits positive fits] at taken

/-- A part of two digits is read, whatever follows. -/
theorem readPart_paddedDigits {most value : Nat} (bound : value ≤ most) (fits : value < 100)
    (rest : List Char) : readPart most (paddedDigits 2 value ++ rest) = some (value, rest) := by
  have read := readNumber_of_fits (by decide : 0 < 2) fits rest
  simp [readPart, trimStart_paddedDigits, read, bound]

/-- A mark is read. -/
theorem readMark_cons {mark : Char} (visible : isBlank mark = false) (rest : List Char) :
    readMark mark (mark :: rest) = some rest := by
  simp [readMark, trimStart_cons visible]

/-! ## Dates -/

/-- A number with a sign is read to the dash behind it. -/
theorem readNumber_signed (value : Nat) (rest : List Char) :
    readNumber (paddedDigits 4 value ++ '-' :: rest).length (paddedDigits 4 value ++ '-' :: rest) =
      some (value, '-' :: rest) := by
  have ends : NoDigitFirst ('-' :: rest) := by
    rintro c ⟨⟩
    rfl
  refine readNumber_paddedDigits (by decide) (takeDigits_append ?_ ends ?_)
  · exact fun c member => isDigit_of_mem_paddedDigits member
  · rw [List.length_append]
    omega

/-- A year is read to the dash behind it. -/
theorem readYear_yearText (year : Int) (rest : List Char) :
    readYear (yearText year ++ '-' :: rest) = some (year, '-' :: rest) := by
  rw [yearText]
  split
  next usual =>
    have read := readNumber_of_fits (by decide : 0 < 4) (by omega : year.toNat < 10 ^ 4) ('-' :: rest)
    obtain ⟨first, others, shown, digit⟩ := exists_cons_paddedDigits (by decide : 0 < 4) year.toNat
    have noMinus : first ≠ '-' := by
      rintro rfl
      cases digit
    have noPlus : first ≠ '+' := by
      rintro rfl
      cases digit
    rw [readYear, trimStart_paddedDigits (by decide)]
    rw [shown, List.cons_append] at read ⊢
    simp [noMinus, noPlus, read, usual.1]
  next =>
    split
    next before =>
      rw [readYear, List.cons_append, trimStart_cons (by decide)]
      simp only [readNumber_signed, Option.map_some, Option.some.injEq, Prod.mk.injEq, and_true]
      omega
    next after =>
      rw [readYear, List.cons_append, trimStart_cons (by decide)]
      simp only [readNumber_signed, Option.map_some, Option.some.injEq, Prod.mk.injEq, and_true]
      omega

/-- A date is read back. -/
theorem readDate_text (date : Date) (rest : List Char) :
    readDate (yearText date.year ++ '-' :: (paddedDigits 2 date.month ++ '-' ::
      (paddedDigits 2 date.day ++ rest))) = some (date, rest) := by
  have short : daysInMonth date.year date.month ≤ 31 := by
    unfold daysInMonth
    split
    next => split <;> omega
    next => split <;> omega
  have months := date.month_bounds
  have days := date.day_bounds
  have month := readPart_paddedDigits months.2 (by omega)
    ('-' :: (paddedDigits 2 date.day ++ rest))
  have day := readPart_paddedDigits (days.2.trans short) (by omega) rest
  have dash (rest : List Char) : readMark '-' ('-' :: rest) = some rest := readMark_cons (by decide) rest
  simp [readDate, readYear_yearText, dash, month, day, Date.of?_parts]

/-! ## Times -/

/-- The digits of a fraction are read to the end of the text, and stand for nanoseconds by their number. -/
theorem readFraction_paddedDigits {width value : Nat} (positive : 0 < width) (short : width ≤ 9)
    (fits : value < 10 ^ width) :
    readFraction ('.' :: (paddedDigits width value ++ ['Z'])) =
      some (value * Nat.pow 10 (9 - width), ['Z']) := by
  have length := length_paddedDigits positive fits
  have ends : NoDigitFirst ['Z'] := by
    rintro c ⟨⟩
    rfl
  have taken : takeDigits 9 (paddedDigits width value ++ ['Z']) = (paddedDigits width value, ['Z']) :=
    takeDigits_append (fun c member => isDigit_of_mem_paddedDigits member) ends (length.le.trans short)
  rw [readFraction, taken]
  split
  next empty =>
    rw [Prod.mk.injEq] at empty
    rw [empty.1] at length
    exact absurd length (Nat.ne_of_lt positive)
  next same =>
    cases same
    rw [number_paddedDigits, length]
    rfl

/-- A fraction is read to the end of the text. -/
theorem readFraction_fractionText {nanos : Nat} (bound : nanos < nanosPerSecond) :
    readFraction (fractionText nanos ++ ['Z']) = some (nanos, ['Z']) := by
  rw [nanosPerSecond] at bound
  rw [fractionText]
  split
  next zero =>
    rw [zero]
    rfl
  next =>
    split
    next millis =>
      rw [List.cons_append, readFraction_paddedDigits (by decide) (by decide) (by omega), Option.some.injEq,
        Prod.mk.injEq]
      exact ⟨Nat.div_mul_cancel (Nat.dvd_of_mod_eq_zero millis), rfl⟩
    next =>
      split
      next micros =>
        rw [List.cons_append, readFraction_paddedDigits (by decide) (by decide) (by omega),
          Option.some.injEq, Prod.mk.injEq]
        exact ⟨Nat.div_mul_cancel (Nat.dvd_of_mod_eq_zero micros), rfl⟩
      next =>
        rw [List.cons_append, readFraction_paddedDigits (by decide) (by decide) bound]
        exact congrArg (fun nanos => some (nanos, ['Z'])) (Nat.mul_one nanos)

/-- A time of day is read back, a leap second as the fraction on top of second 59. -/
theorem readTime_text (instant : Instant) :
    let leap := if nanosPerSecond ≤ instant.nano then 1 else 0
    readTime (paddedDigits 2 (instant.second / 3600) ++ ':' ::
        (paddedDigits 2 (instant.second / 60 % 60) ++ ':' ::
          (paddedDigits 2 (instant.second % 60 + leap) ++
            (fractionText (instant.nano % nanosPerSecond) ++ ['Z'])))) =
      some ((instant.second, instant.nano), ['Z']) := by
  intro leap
  have inDay := instant.second_bound
  have inSecond := instant.nano_bound
  have place := instant.leap_place
  rw [secondsPerDay] at inDay
  have colon (rest : List Char) : readMark ':' (':' :: rest) = some rest := readMark_cons (by decide) rest
  have hour (rest : List Char) :=
    readPart_paddedDigits (by omega : instant.second / 3600 ≤ 23) (by omega) rest
  have minute (rest : List Char) :=
    readPart_paddedDigits (by omega : instant.second / 60 % 60 ≤ 59) (by omega) rest
  have single : leap ≤ 1 := by
    simp only [leap]
    split <;> decide
  have second (rest : List Char) :=
    readPart_paddedDigits (by omega : instant.second % 60 + leap ≤ 60) (by omega) rest
  have fraction := readFraction_fractionText (Nat.mod_lt instant.nano (by decide : 0 < nanosPerSecond))
  simp only [readTime, hour, colon, minute, second, fraction, bind, Option.bind, pure]
  by_cases late : nanosPerSecond ≤ instant.nano
  · have one : leap = 1 := if_pos late
    have last := place late
    rw [one, last, if_pos rfl]
    simp only [Option.some.injEq, Prod.mk.injEq, and_true]
    constructor
    · omega
    · rw [Nat.mod_eq_sub_mod late, Nat.mod_eq_of_lt (by omega)]
      omega
  · have none : leap = 0 := if_neg late
    rw [none, Nat.add_zero, if_neg (by omega)]
    simp only [Option.some.injEq, Prod.mk.injEq, and_true]
    constructor
    · omega
    · exact Nat.mod_eq_of_lt (by omega)

/-! ## Instants -/

/-- An instant is not moved by no time. -/
theorem shiftBack?_zero (instant : Instant) : instant.shiftBack? 0 = some instant := by
  have inDay := instant.second_bound
  have later : ¬(instant.second : Int) < 0 := by omega
  have within : (instant.second : Int) < secondsPerDay := by omega
  simp only [shiftBack?, sub_zero, later, within, if_true, if_false, Int.toNat_natCast]
  exact of?_parts instant

/-- A written instant is read back. -/
theorem ofText?_text (instant : Instant) : ofText? instant.text = some instant := by
  have date := readDate_text instant.date
  have time := readTime_text instant
  have shape : instant.text = yearText instant.date.year ++ '-' ::
      (paddedDigits 2 instant.date.month ++ '-' :: (paddedDigits 2 instant.date.day ++ 'T' ::
        (paddedDigits 2 (instant.second / 3600) ++ ':' ::
          (paddedDigits 2 (instant.second / 60 % 60) ++ ':' ::
            (paddedDigits 2 (instant.second % 60 + if nanosPerSecond ≤ instant.nano then 1 else 0) ++
              (fractionText (instant.nano % nanosPerSecond) ++ ['Z'])))))) := by
    simp [text]
  have offset : readOffset (trimStart ['Z']) = some (0, []) := rfl
  have ends : isAllBlank [] = true := rfl
  rw [shape]
  simp only [ofText?, date, time, offset, ends, of?_parts, bind, Option.bind, if_true]
  exact shiftBack?_zero instant

end FleetTraffic.Instant
