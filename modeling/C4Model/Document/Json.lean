import C4Model.Document.Value
import C4Model.Text.Numeral
import C4Model.Text.Surrogate

/-! Reading documents in JSON. Beyond the standard the words `NaN`, `Infinity` and `-Infinity` are
numbers, and a surrogate may be named without its partner. A number with a point or an exponent is a
floating point number, any other an integer. Of entries with one key the last gives the value and the first
the place. A reader takes characters from the front and returns what it read with the rest. -/

namespace C4Model.Json

/-- Why a text holds no value. -/
inductive Fault where
  | malformed
  | numeral (error : NumeralError)

def orMalformed {α : Type} : Option α → Except Fault α
  | some value => .ok value
  | none => .error .malformed

def isSpace (c : Char) : Bool :=
  c == ' ' || c == '\t' || c == '\n' || c == '\r'

def skipSpace (cs : List Char) : List Char :=
  cs.dropWhile isSpace

def hexValue? (c : Char) : Option Nat :=
  if '0' ≤ c ∧ c ≤ '9' then some (c.toNat - '0'.toNat)
  else if 'a' ≤ c ∧ c ≤ 'f' then some (c.toNat - 'a'.toNat + 10)
  else if 'A' ≤ c ∧ c ≤ 'F' then some (c.toNat - 'A'.toNat + 10)
  else none

/-- The value of exactly four hexadecimal digits. -/
def readHex4? : List Char → Option (Nat × List Char)
  | a :: b :: c :: d :: rest => do
      let digits ← [a, b, c, d].mapM hexValue?
      return (digits.foldl (16 * · + ·) 0, rest)
  | _ => none

def simpleEscape? : Char → Option Char
  | '"' => some '"'
  | '\\' => some '\\'
  | '/' => some '/'
  | 'b' => some '\x08'
  | 'f' => some '\x0c'
  | 'n' => some '\n'
  | 'r' => some '\r'
  | 't' => some '\t'
  | _ => none

/-- The surrogate with a code point, if one has it. -/
def surrogate? (codePoint : Nat) : Option Surrogate :=
  if h : 0xD800 ≤ codePoint ∧ codePoint - 0xD800 < 0x800 then some ⟨codePoint - 0xD800, h.2⟩ else none

section Strings

variable (surrogates : Surrogates)

/-- A character from one or two escapes of sixteen bits each. A high surrogate takes the low surrogate
after it; a surrogate without its partner stays one. -/
def readUnicodeEscape? (cs : List Char) : Option (Char × List Char) := do
  let (first, rest) ← readHex4? cs
  match surrogate? first with
  | none => return (Char.ofNat first, rest)
  | some surrogate =>
      let alone := (surrogates.standIn surrogate, rest)
      if 0xDC00 ≤ first then return alone
      match rest with
      | '\\' :: 'u' :: more =>
          match readHex4? more with
          | some (low, after) =>
              if 0xDC00 ≤ low ∧ low < 0xE000 then
                return (Char.ofNat (0x10000 + (first - 0xD800) * 0x400 + (low - 0xDC00)), after)
              else return alone
          | none => return alone
      | _ => return alone

/-- The inside of a string up to its closing quote. `done` holds what was read, last character first;
the number bounds the number of characters. -/
def readStringFrom : Nat → List Char → List Char → Option (String × List Char)
  | 0, _, _ => none
  | bound + 1, done, cs =>
      match cs with
      | [] => none
      | '"' :: rest => some (String.ofList done.reverse, rest)
      | '\\' :: 'u' :: rest => do
          let (c, after) ← readUnicodeEscape? surrogates rest
          readStringFrom bound (c :: done) after
      | '\\' :: e :: rest => do
          let c ← simpleEscape? e
          readStringFrom bound (c :: done) rest
      | c :: rest => if c.toNat < 32 then none else readStringFrom bound (c :: done) rest

/-- The inside of a string up to its closing quote. -/
def readString (cs : List Char) : Except Fault (String × List Char) :=
  orMalformed (readStringFrom surrogates (cs.length + 1) [] cs)

end Strings

/-- The longest run of digits at the front. -/
def takeDigits (cs : List Char) : List Char × List Char :=
  cs.span Char.isDigit

def digitsValue (digits : List Char) : Nat :=
  digits.foldl (fun n c => 10 * n + (c.toNat - '0'.toNat)) 0

/-- The digits after a point, if the text begins with a point and a digit. -/
def readFraction (cs : List Char) : Option (List Char) × List Char :=
  match cs with
  | '.' :: rest =>
      match takeDigits rest with
      | ([], _) => (none, cs)
      | (digits, after) => (some digits, after)
  | _ => (none, cs)

/-- The exponent, if the text begins with a whole one. -/
def readExponent (cs : List Char) : Option Int × List Char :=
  match cs with
  | e :: rest =>
      if e = 'e' ∨ e = 'E' then
        let (negative, digitsFrom) :=
          match rest with
          | '-' :: more => (true, more)
          | '+' :: more => (false, more)
          | _ => (false, rest)
        match takeDigits digitsFrom with
        | ([], _) => (none, cs)
        | (digits, after) =>
            let size : Int := digitsValue digits
            (some (if negative then -size else size), after)
      else (none, cs)
  | [] => (none, cs)

/-- A number without its sign. A zero takes no digits after it. -/
def readUnsigned (negative : Bool) (cs : List Char) : Except Fault (Value × List Char) :=
  let (whole, rest) :=
    match cs with
    | '0' :: rest => (['0'], rest)
    | _ => takeDigits cs
  if whole.isEmpty then .error .malformed
  else
    let (fraction, rest) := readFraction rest
    let (exponent, rest) := readExponent rest
    if fraction.isNone && exponent.isNone then
      if numeralLimit < whole.length then .error (.numeral (.tooLong whole.length))
      else
        let size : Int := digitsValue whole
        .ok (.int (if negative then -size else size), rest)
    else
      let places := fraction.getD []
      let size := Number.Decimal.toFloat
        ⟨digitsValue (whole ++ places), exponent.getD 0 - places.length⟩
      .ok (.float (if negative then -size else size), rest)

/-- The words that stand for values. -/
def words : List (String × Value) :=
  [("null", .null), ("true", .bool true), ("false", .bool false), ("NaN", .float (0.0 / 0.0)),
    ("Infinity", .float (1.0 / 0.0)), ("-Infinity", .float (-1.0 / 0.0))]

/-- A word or a number. -/
def readScalar (cs : List Char) : Except Fault (Value × List Char) :=
  match words.find? fun entry => entry.1.toList.isPrefixOf cs with
  | some (word, value) => .ok (value, cs.drop word.length)
  | none =>
      match cs with
      | '-' :: rest => readUnsigned true rest
      | _ => readUnsigned false cs

section Values

variable (surrogates : Surrogates)

mutual

/-- A value; blanks before it have been skipped. The number bounds the steps. -/
def readValue : Nat → List Char → Except Fault (Value × List Char)
  | 0, _ => .error .malformed
  | bound + 1, cs =>
      match cs with
      | '"' :: rest => (readString surrogates rest).map fun (text, after) => (.string text, after)
      | '[' :: rest =>
          match skipSpace rest with
          | ']' :: after => .ok (.array [], after)
          | items => readItems bound [] items
      | '{' :: rest =>
          match skipSpace rest with
          | '}' :: after => .ok (.table [], after)
          | entries => readEntries bound [] entries
      | _ => readScalar cs

/-- The items of an array up to its end, `done` holding those read, last first. -/
def readItems : Nat → List Value → List Char → Except Fault (Value × List Char)
  | 0, _, _ => .error .malformed
  | bound + 1, done, cs => do
      let (item, rest) ← readValue bound cs
      match skipSpace rest with
      | ',' :: more => readItems bound (item :: done) (skipSpace more)
      | ']' :: after => .ok (.array (item :: done).reverse, after)
      | _ => .error .malformed

/-- The entries of a table up to its end, `done` holding those read. -/
def readEntries : Nat → Table → List Char → Except Fault (Value × List Char)
  | 0, _, _ => .error .malformed
  | bound + 1, done, cs =>
      match cs with
      | '"' :: keyFrom => do
          let (key, rest) ← readString surrogates keyFrom
          match skipSpace rest with
          | ':' :: valueFrom =>
              let (value, rest) ← readValue bound (skipSpace valueFrom)
              let entries := done.insert key value
              match skipSpace rest with
              | ',' :: more => readEntries bound entries (skipSpace more)
              | '}' :: after => .ok (.table entries, after)
              | _ => .error .malformed
          | _ => .error .malformed
      | _ => .error .malformed

end

/-- The value that a whole text holds. A numeral that is too long is found before what is malformed behind
it. -/
def read (text : String) : Except Fault Value := do
  let cs := text.toList
  let (value, rest) ← readValue surrogates (2 * cs.length + 2) (skipSpace cs)
  if (skipSpace rest).isEmpty then .ok value else .error .malformed

end Values

end C4Model.Json
