import FleetTraffic.Text.Blank
import FleetTraffic.Text.Digits

/-!
# Tables of characters

Properties of characters hold for runs of character codes. A table of them is written as words, each
of which names a run by its first and its last code in hexadecimal digits, or by its only code, and may
add a note on the run: `41-5A>61` is the run from 41 to 5A with the note `>61`. The runs ascend and do
not overlap, so a code is found by halving.
-/

namespace FleetTraffic.Text

/-- The words of a text, which are set apart by blanks. -/
def wordsOf (text : List Char) : List (List Char) :=
  let step : Char → List Char × List (List Char) → List Char × List (List Char) :=
    fun c (word, words) =>
      if isBlank c then ([], if word = [] then words else word :: words) else (c :: word, words)
  let (word, words) := text.foldr step ([], [])
  if word = [] then words else word :: words

/-- The number that hexadecimal digits stand for. Other characters count as zero. -/
def hexNumber (digits : List Char) : Nat :=
  digits.foldl (fun value c => 16 * value + (hexDigit? c).getD 0) 0

/-- The numbers that are written with dots between them in hexadecimal digits. -/
def hexNumbers (text : List Char) : List Nat :=
  let words := wordsOf (text.map fun c => if c = '.' then ' ' else c)
  words.map hexNumber

/-- A run of character codes, and what a table says of it. -/
structure CodeRun where
  first : Nat
  last : Nat
  note : List Char

namespace CodeRun

/-- The run that a word names. -/
def ofWord (word : List Char) : CodeRun :=
  let first := word.takeWhile isHexDigit
  match word.dropWhile isHexDigit with
  | '-' :: rest =>
    { first := hexNumber first
      last := hexNumber (rest.takeWhile isHexDigit)
      note := rest.dropWhile isHexDigit }
  | note => { first := hexNumber first, last := hexNumber first, note }

end CodeRun

/-- A table of runs of character codes. -/
structure CodeTable where
  runs : Array CodeRun

namespace CodeTable

/-- The table that words make up. -/
def ofText (written : String) : CodeTable :=
  ⟨((wordsOf written.toList).map CodeRun.ofWord).toArray⟩

/-- The run with a code among those between two places of a table. -/
def between? (table : CodeTable) (code low high : Nat) : Option CodeRun :=
  if low < high then
    let middle := (low + high) / 2
    match table.runs[middle]? with
    | none => none
    | some run =>
      if code < run.first then table.between? code low middle
      else if run.last < code then table.between? code (middle + 1) high
      else some run
  else none
  termination_by high - low

/-- The run that a character is in. -/
def run? (table : CodeTable) (c : Char) : Option CodeRun :=
  table.between? c.toNat 0 table.runs.size

/-- Whether a character is in a run. -/
def contains (table : CodeTable) (c : Char) : Bool := (table.run? c).isSome

/-- The run that a character is found in has its code. -/
theorem between?_bounds {table : CodeTable} {code low high : Nat} {run : CodeRun}
    (found : table.between? code low high = some run) : run.first ≤ code ∧ code ≤ run.last := by
  fun_induction table.between? code low high with
  | case1 => simp at found
  | case2 low high _ middle run' at_ before ih => exact ih found
  | case3 low high _ middle run' at_ notBefore after ih => exact ih found
  | case4 low high _ middle run' at_ notBefore notAfter =>
    cases found
    omega
  | case5 => simp at found

end CodeTable

end FleetTraffic.Text
