import FleetTraffic.Text.Digits
import FleetTraffic.Text.Source
import Mathlib

/-!
# Text that was written

A text that was encoded as UTF-8 is received without damage. A run of digits that was written in front of
something that begins with no digit is read to its end and no further, and the digits of a number have no zero
in front unless they are just this zero.
-/

namespace FleetTraffic.Text

namespace Source

/-- Bytes that hold the encoding of a text after other bytes are read as this text from there on. -/
theorem ofBytesFrom_utf8Encode (before : ByteArray) (text : List Char) :
    ofBytesFrom (before ++ text.utf8Encode) before.size = ofChars text := by
  induction text generalizing before with
  | nil =>
    rw [ofBytesFrom, if_neg (by simp)]
    rfl
  | cons c rest induction =>
    have size : [c].utf8Encode.size = c.utf8Size := by simp [List.utf8Encode, String.length_utf8EncodeChar]
    have split : before ++ (c :: rest).utf8Encode = before ++ [c].utf8Encode ++ rest.utf8Encode := by
      rw [List.utf8Encode_cons, ByteArray.append_assoc]
    have positive := Char.utf8Size_pos c
    have inside : before.size < (before ++ (c :: rest).utf8Encode).size := by
      rw [split, ByteArray.size_append, ByteArray.size_append, size]
      omega
    have decoded : (before ++ (c :: rest).utf8Encode).utf8DecodeChar? before.size = some c := by
      rw [ByteArray.utf8DecodeChar?_eq_utf8DecodeChar?_extract,
        ByteArray.extract_append_eq_right rfl ByteArray.size_append]
      exact List.utf8DecodeChar?_utf8Encode_cons
    rw [ofBytesFrom, if_pos inside, decoded]
    have onward := induction (before ++ [c].utf8Encode)
    rw [ByteArray.size_append, size, ← split] at onward
    exact congrArg (some c :: ·) onward

/-- A text that is sent as UTF-8 is received as it is. -/
theorem ofBytes_toUTF8 (text : String) : ofBytes text.toUTF8 = ofChars text.toList := by
  have encoded : text.toUTF8 = ByteArray.empty ++ text.toList.utf8Encode := by
    rw [String.utf8Encode_toList, ByteArray.empty_append]
    rfl
  rw [ofBytes, encoded]
  exact ofBytesFrom_utf8Encode .empty text.toList

end Source

/-! ## Digits -/

/-- A number is written in digits. -/
theorem isDigit_of_mem_digits {value : Nat} {c : Char} (member : c ∈ digits value) : isDigit c = true :=
  Nat.isDigit_of_mem_toDigits (by decide) (by decide) member

/-- At least one digit is written. -/
theorem digits_ne_nil (value : Nat) : digits value ≠ [] := Nat.toDigits_ne_nil

/-- What is written of a number begins with a digit. -/
theorem exists_cons_digits (value : Nat) :
    ∃ first others, digits value = first :: others ∧ isDigit first = true := by
  obtain ⟨first, others, shown⟩ := List.exists_cons_of_ne_nil (digits_ne_nil value)
  exact ⟨first, others, shown, isDigit_of_mem_digits (shown ▸ List.mem_cons_self)⟩

/-- Only zero is written with a zero in front. -/
theorem digits_zero_iff (value : Nat) : (digits value).head? = some '0' ↔ value = 0 := by
  induction value using Nat.strongRecOn with
  | ind value induction =>
    rw [digits, Nat.toDigits_eq_if (by decide)]
    split
    next small => simp
    next great =>
      have whole := induction (value / 10) (by omega)
      change (digits (value / 10) ++ [(value % 10).digitChar]).head? = some '0' ↔ value = 0
      rw [List.head?_append_of_ne_nil _ (digits_ne_nil (value / 10)), whole]
      omega

/-- A padded number is written in digits. -/
theorem isDigit_of_mem_paddedDigits {width value : Nat} {c : Char} (member : c ∈ paddedDigits width value) :
    isDigit c = true := by
  rcases List.mem_append.mp member with zero | digit
  · rw [(List.mem_replicate.mp zero).2]
    rfl
  · exact isDigit_of_mem_digits digit

/-- A padded number has at least the given width. -/
theorem width_le_length_paddedDigits (width value : Nat) : width ≤ (paddedDigits width value).length := by
  rw [paddedDigits, List.length_append, List.length_replicate]
  omega

/-- What is written of a padded number begins with a digit. -/
theorem exists_cons_paddedDigits {width : Nat} (positive : 0 < width) (value : Nat) :
    ∃ first others, paddedDigits width value = first :: others ∧ isDigit first = true := by
  have long := width_le_length_paddedDigits width value
  obtain ⟨first, others, shown⟩ := List.exists_cons_of_length_pos (Nat.lt_of_lt_of_le positive long)
  exact ⟨first, others, shown, isDigit_of_mem_paddedDigits (shown ▸ List.mem_cons_self)⟩

/-- A padded number has just the given width if the number fits in. -/
theorem length_paddedDigits {width value : Nat} (positive : 0 < width) (fits : value < 10 ^ width) :
    (paddedDigits width value).length = width := by
  have short : (digits value).length ≤ width := (Nat.length_toDigits_le_iff (by decide) positive).mpr fits
  rw [paddedDigits, List.length_append, List.length_replicate]
  omega

/-! ## Runs of digits -/

/-- No digit stands in front of a text. -/
def NoDigitFirst (text : List Char) : Prop := ∀ c ∈ text.head?, isDigit c = false

/-- A run of digits is taken to its end, if it is not longer than what may be taken. -/
theorem takeDigits_append {run rest : List Char} (all : ∀ c ∈ run, isDigit c = true)
    (ends : NoDigitFirst rest) {limit : Nat} (fits : run.length ≤ limit) :
    takeDigits limit (run ++ rest) = (run, rest) := by
  induction run generalizing limit with
  | nil =>
    cases limit with
    | zero => rfl
    | succ limit =>
      cases rest with
      | nil => rfl
      | cons c rest => simp [takeDigits, ends c rfl]
  | cons digit run induction =>
    obtain ⟨limit, rfl⟩ : ∃ less, limit = less + 1 := ⟨limit - 1, by simp at fits; omega⟩
    have taken := induction (fun c member => all c (List.mem_cons_of_mem digit member))
      (Nat.le_of_succ_le_succ fits)
    simp only [List.cons_append, takeDigits, all digit List.mem_cons_self, if_true, taken]

/-- A run of digits that is as long as what may be taken is taken, whatever follows. -/
theorem takeDigits_append_of_length {run : List Char} (all : ∀ c ∈ run, isDigit c = true)
    (rest : List Char) : takeDigits run.length (run ++ rest) = (run, rest) := by
  induction run with
  | nil => rfl
  | cons digit run induction =>
    have taken := induction fun c member => all c (List.mem_cons_of_mem digit member)
    simp only [List.length_cons, List.cons_append, takeDigits, all digit List.mem_cons_self, if_true,
      taken]

end FleetTraffic.Text
