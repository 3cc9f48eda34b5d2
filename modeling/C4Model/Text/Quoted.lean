import C4Model.Text.Printable

/-! A text as messages show it: between single quotes, or double quotes if it holds a single quote and
no double one, with everything that is not printable written as an escape. -/

namespace C4Model.Text

/-- The lower-case hexadecimal numeral of `n` with at least `width` digits. -/
def hexDigits (width n : Nat) : List Char :=
  let digits := Nat.toDigits 16 n
  List.replicate (width - digits.length) '0' ++ digits

/-- The escape of a character by its number, with as few digits as its size admits. -/
def numericEscape (codePoint : Nat) : List Char :=
  if codePoint < 0x100 then '\\' :: 'x' :: hexDigits 2 codePoint
  else if codePoint < 0x10000 then '\\' :: 'u' :: hexDigits 4 codePoint
  else '\\' :: 'U' :: hexDigits 8 codePoint

/-- The quote that surrounds the text. -/
def quoteMark (cs : List Char) : Char :=
  if cs.contains '\'' && !cs.contains '"' then '"' else '\''

section Escapes

variable (codePoint : Char → Nat)

def quotedChar (quote c : Char) : List Char :=
  if c = quote || c = '\\' then ['\\', c]
  else if c = '\n' then ['\\', 'n']
  else if c = '\r' then ['\\', 'r']
  else if c = '\t' then ['\\', 't']
  else if isPrintable c then [c]
  else numericEscape (codePoint c)

/-- The text between quotes, where the characters have the numbers that `codePoint` tells. -/
def quotedBy (text : String) : String :=
  let cs := text.toList
  let quote := quoteMark cs
  String.ofList (quote :: cs.flatMap (quotedChar codePoint quote) ++ [quote])

end Escapes

def quoted (text : String) : String :=
  quotedBy Char.toNat text

end C4Model.Text
