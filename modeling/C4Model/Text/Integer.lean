import C4Model.Text.Blank
import C4Model.Text.Digits

/-! Integers as users write them: with a sign or without, with underscores between digits, with blanks
around them. -/

namespace C4Model.Text

/-- The information separators are blanks, but none that may surround an integer. -/
def surroundsInteger (c : Char) : Bool :=
  isBlank c && !(0x1C ≤ c.toNat && c.toNat ≤ 0x1F)

/-- The digits without the underscores between them; `none` if an underscore is elsewhere. -/
def joinDigits? : List Char → Option (List Char)
  | [] => none
  | [c] => if c = '_' then none else some [c]
  | c :: '_' :: rest => if c = '_' then none else (joinDigits? rest).map (c :: ·)
  | c :: rest => if c = '_' then none else (joinDigits? rest).map (c :: ·)

/-- Integers with more digits are refused. -/
def digitLimit : Nat := 4300

def naturalNumber? (cs : List Char) : Option Nat := do
  let digits ← joinDigits? cs
  if digitLimit < digits.length then none else decimalNumber? digits

/-- The integer that a text writes. -/
def integer? (text : String) : Option Int :=
  let trimmed := ((text.toList.dropWhile surroundsInteger).reverse.dropWhile surroundsInteger).reverse
  match trimmed with
  | '-' :: digits => (naturalNumber? digits).map fun n => -(n : Int)
  | '+' :: digits => (naturalNumber? digits).map Int.ofNat
  | digits => (naturalNumber? digits).map Int.ofNat

end C4Model.Text
