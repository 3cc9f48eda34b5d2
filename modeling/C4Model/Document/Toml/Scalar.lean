import C4Model.Document.Json

/-! The scalars of TOML: strings in four forms, numbers, dates and times. A reader takes characters from
the front and returns what it read with the rest, or nothing if the text is malformed. -/

namespace C4Model.Toml

def isSpace (c : Char) : Bool :=
  c == ' ' || c == '\t'

def skipSpace (cs : List Char) : List Char :=
  cs.dropWhile isSpace

/-- Whether a control character that may not stand in a string or a comment; a tab may. -/
def isForbidden (c : Char) : Bool :=
  (c.toNat < 32 && c != '\t') || c.toNat == 127

def isBareKeyChar (c : Char) : Bool :=
  c.isAlphanum || c == '-' || c == '_'

def hexNumber? (digits : List Char) : Option Nat :=
  (digits.mapM Json.hexValue?).map fun values => values.foldl (16 * · + ·) 0

/-- The character of a number written with exactly `count` hexadecimal digits. -/
def readCodePoint? (count : Nat) (cs : List Char) : Option (Char × List Char) := do
  let digits := cs.take count
  if digits.length < count then none
  else
    let n ← hexNumber? digits
    if n.isValidChar then some (Char.ofNat n, cs.drop count) else none

def simpleEscape? : Char → Option Char
  | 'b' => some '\x08'
  | 't' => some '\t'
  | 'n' => some '\n'
  | 'f' => some '\x0c'
  | 'r' => some '\r'
  | '"' => some '"'
  | '\\' => some '\\'
  | _ => none

/-- The character of an escape, from after its backslash. -/
def readEscape? : List Char → Option (Char × List Char)
  | 'u' :: rest => readCodePoint? 4 rest
  | 'U' :: rest => readCodePoint? 8 rest
  | c :: rest => (simpleEscape? c).map (·, rest)
  | [] => none

/-- The inside of a string in double quotes on one line, `done` holding what was read, last character
first. The first argument bounds the steps. -/
def readBasicFrom : Nat → List Char → List Char → Option (String × List Char)
  | 0, _, _ => none
  | bound + 1, done, cs =>
      match cs with
      | [] => none
      | '"' :: rest => some (String.ofList done.reverse, rest)
      | '\\' :: rest => do
          let (c, after) ← readEscape? rest
          readBasicFrom bound (c :: done) after
      | c :: rest => if isForbidden c then none else readBasicFrom bound (c :: done) rest

/-- The inside of a string in single quotes on one line. -/
def readLiteralFrom (done : List Char) : List Char → Option (String × List Char)
  | [] => none
  | '\'' :: rest => some (String.ofList done.reverse, rest)
  | c :: rest => if isForbidden c then none else readLiteralFrom (c :: done) rest

/-- Up to two quotes before the closing three belong to the string. -/
def closeLong (quote : Char) (done rest : List Char) : String × List Char :=
  match rest with
  | a :: b :: more =>
      if a = quote ∧ b = quote then (String.ofList (quote :: quote :: done).reverse, more)
      else if a = quote then (String.ofList (quote :: done).reverse, b :: more)
      else (String.ofList done.reverse, rest)
  | [a] =>
      if a = quote then (String.ofList (quote :: done).reverse, [])
      else (String.ofList done.reverse, rest)
  | [] => (String.ofList done.reverse, [])

/-- What follows a backslash at the end of a line: all blanks and line ends are skipped. -/
def skipContinuation? (cs : List Char) : Option (List Char) :=
  match skipSpace cs with
  | '\n' :: rest => some (rest.dropWhile fun c => isSpace c || c == '\n')
  | [] => if cs.isEmpty then none else some []
  | _ => none

/-- The inside of a string in three double quotes, `done` holding what was read, last character first.
The first argument bounds the steps. -/
def readLongBasicFrom : Nat → List Char → List Char → Option (String × List Char)
  | 0, _, _ => none
  | bound + 1, done, cs =>
      match cs with
      | [] => none
      | '"' :: '"' :: '"' :: rest => some (closeLong '"' done rest)
      | '\\' :: rest =>
          match rest with
          | [] => none
          | c :: _ =>
              if isSpace c || c == '\n' then do
                readLongBasicFrom bound done (← skipContinuation? rest)
              else do
                let (c, after) ← readEscape? rest
                readLongBasicFrom bound (c :: done) after
      | c :: rest =>
          if isForbidden c && c != '\n' then none else readLongBasicFrom bound (c :: done) rest

/-- The inside of a string in three single quotes. -/
def readLongLiteralFrom (done : List Char) : List Char → Option (String × List Char)
  | [] => none
  | '\'' :: '\'' :: '\'' :: rest => some (closeLong '\'' done rest)
  | c :: rest =>
      if isForbidden c && c != '\n' then none else readLongLiteralFrom (c :: done) rest

/-- A line end right after the opening quotes of a long string does not count. -/
def dropFirstLineEnd : List Char → List Char
  | '\n' :: rest => rest
  | cs => cs

/-- A string that may stand as a key, on one line. -/
def readShortString? : List Char → Option (String × List Char)
  | '"' :: rest => readBasicFrom (rest.length + 1) [] rest
  | '\'' :: rest => readLiteralFrom [] rest
  | _ => none

def readString? : List Char → Option (String × List Char)
  | '"' :: '"' :: '"' :: rest =>
      readLongBasicFrom (rest.length + 1) [] (dropFirstLineEnd rest)
  | '\'' :: '\'' :: '\'' :: rest => readLongLiteralFrom [] (dropFirstLineEnd rest)
  | cs => readShortString? cs

/-- Digits from after a first one. Single underscores may stand between digits. -/
def moreDigits (isDigit : Char → Bool) : List Char → List Char × List Char
  | '_' :: c :: rest =>
      if isDigit c then
        let (digits, after) := moreDigits isDigit rest
        (c :: digits, after)
      else ([], '_' :: c :: rest)
  | c :: rest =>
      if isDigit c then
        let (digits, after) := moreDigits isDigit rest
        (c :: digits, after)
      else ([], c :: rest)
  | [] => ([], [])

/-- The digits at the front, none if the first character is none. -/
def digitRun (isDigit : Char → Bool) : List Char → List Char × List Char
  | c :: rest =>
      if isDigit c then
        let (digits, after) := moreDigits isDigit rest
        (c :: digits, after)
      else ([], c :: rest)
  | [] => ([], [])

/-- The value of digits in a base. -/
def valueIn (base : Nat) (digits : List Char) : Nat :=
  digits.foldl (fun n c => base * n + (Json.hexValue? c).getD 0) 0

/-- An integer with the mark of its base. -/
def readMarked? (base : Nat) (cs : List Char) : Option (Value × List Char) :=
  let isDigit := fun c => (Json.hexValue? c).any (· < base)
  match digitRun isDigit cs with
  | ([], _) => none
  | (digits, rest) => some (.int (valueIn base digits), rest)

/-- The digits after a point, if a point and a digit are next. -/
def readPlaces (cs : List Char) : Option (List Char) × List Char :=
  match cs with
  | '.' :: rest =>
      match digitRun Char.isDigit rest with
      | ([], _) => (none, cs)
      | (digits, after) => (some digits, after)
  | _ => (none, cs)

/-- The exponent, if a whole one is next. -/
def readPower (cs : List Char) : Option Int × List Char :=
  match cs with
  | e :: rest =>
      if e = 'e' ∨ e = 'E' then
        let (negative, digitsFrom) :=
          match rest with
          | '-' :: more => (true, more)
          | '+' :: more => (false, more)
          | _ => (false, rest)
        match digitRun Char.isDigit digitsFrom with
        | ([], _) => (none, cs)
        | (digits, after) =>
            let size : Int := valueIn 10 digits
            (some (if negative then -size else size), after)
      else (none, cs)
  | [] => (none, cs)

/-- A decimal number without its sign. A zero takes no digits after it. An integer whose numeral is too long
is read as if it had a point, and is infinite then. -/
def readDecimal? (negative : Bool) (cs : List Char) : Option (Value × List Char) :=
  let (whole, rest) :=
    match cs with
    | '0' :: rest => (['0'], rest)
    | _ => digitRun Char.isDigit cs
  if whole.isEmpty then none
  else
    let (places, rest) := readPlaces rest
    let (power, rest) := readPower rest
    if places.isNone && power.isNone && whole.length ≤ numeralLimit then
      let size : Int := valueIn 10 whole
      some (.int (if negative then -size else size), rest)
    else
      let digits := places.getD []
      let size := Number.Decimal.toFloat
        ⟨valueIn 10 (whole ++ digits), power.getD 0 - digits.length⟩
      some (.float (if negative then -size else size), rest)

/-- A number after its sign. -/
def readSigned? (negative : Bool) : List Char → Option (Value × List Char)
  | 'i' :: 'n' :: 'f' :: rest =>
      some (.float (if negative then -1.0 / 0.0 else 1.0 / 0.0), rest)
  | 'n' :: 'a' :: 'n' :: rest => some (.float (0.0 / 0.0), rest)
  | cs => readDecimal? negative cs

def readNumber? (cs : List Char) : Option (Value × List Char) :=
  let marked :=
    match cs with
    | '0' :: 'x' :: rest => readMarked? 16 rest
    | '0' :: 'b' :: rest => readMarked? 2 rest
    | '0' :: 'o' :: rest => readMarked? 8 rest
    | _ => none
  match marked, cs with
  | some read, _ => some read
  | none, '+' :: rest => readSigned? false rest
  | none, '-' :: rest => readSigned? true rest
  | none, _ => readSigned? false cs

/-- A number of exactly `count` decimal digits. -/
def readFixed? (count : Nat) (cs : List Char) : Option (Nat × List Char) :=
  let digits := cs.take count
  if digits.length = count ∧ digits.all Char.isDigit then
    some (Json.digitsValue digits, cs.drop count)
  else none

def expect? (c : Char) : List Char → Option (List Char)
  | d :: rest => if d = c then some rest else none
  | [] => none

def isLeapYear (year : Nat) : Bool :=
  year % 4 == 0 && (year % 100 != 0 || year % 400 == 0)

def daysIn (year month : Nat) : Nat :=
  match month with
  | 2 => if isLeapYear year then 29 else 28
  | 4 | 6 | 9 | 11 => 30
  | _ => 31

/-- Whether the date is one of the calendar; there is no year zero. -/
def isCalendarDate (d : Date) : Bool :=
  1 ≤ d.year && 1 ≤ d.month && d.month ≤ 12 && 1 ≤ d.day && d.day ≤ daysIn d.year d.month

def readDate? (cs : List Char) : Option (Date × List Char) := do
  let (year, cs) ← readFixed? 4 cs
  let (month, cs) ← readFixed? 2 (← expect? '-' cs)
  let (day, cs) ← readFixed? 2 (← expect? '-' cs)
  return (⟨year, month, day⟩, cs)

/-- The microseconds of the digits after a point; digits beyond the sixth do not count. -/
def readMicroseconds (cs : List Char) : Nat × List Char :=
  match cs with
  | '.' :: rest =>
      match Json.takeDigits rest with
      | ([], _) => (0, cs)
      | (digits, after) =>
          let six := (digits ++ List.replicate 6 '0').take 6
          (Json.digitsValue six, after)
  | _ => (0, cs)

def readTime? (cs : List Char) : Option (TimeOfDay × List Char) := do
  let (hour, cs) ← readFixed? 2 cs
  let (minute, cs) ← readFixed? 2 (← expect? ':' cs)
  let (second, cs) ← readFixed? 2 (← expect? ':' cs)
  if 23 < hour ∨ 59 < minute ∨ 59 < second then none
  else
    let (microsecond, cs) := readMicroseconds cs
    return (⟨hour, minute, second, microsecond⟩, cs)

/-- The hours and minutes of an offset after its sign. -/
def readOffsetSize? (cs : List Char) : Option ((Nat × Nat) × List Char) := do
  let (hours, cs) ← readFixed? 2 cs
  let (minutes, cs) ← readFixed? 2 (← expect? ':' cs)
  if 23 < hours ∨ 59 < minutes then none else some ((hours, minutes), cs)

/-- The offset of a time, if a whole one is next. -/
def readOffset (cs : List Char) : Option UtcOffset × List Char :=
  match cs with
  | 'Z' :: rest => (some .universal, rest)
  | 'z' :: rest => (some .universal, rest)
  | '+' :: rest =>
      match readOffsetSize? rest with
      | some ((hours, minutes), after) => (some (.ahead hours minutes), after)
      | none => (none, cs)
  | '-' :: rest =>
      match readOffsetSize? rest with
      | some ((hours, minutes), after) => (some (.behind hours minutes), after)
      | none => (none, cs)
  | _ => (none, cs)

/-- The time after a date, if a whole one is next. -/
def readTimeAfterDate (cs : List Char) : Option TimeOfDay × List Char :=
  match cs with
  | c :: rest =>
      if c = 'T' ∨ c = 't' ∨ c = ' ' then
        match readTime? rest with
        | some (time, after) => (some time, after)
        | none => (none, cs)
      else (none, cs)
  | [] => (none, cs)

/-- A date, with a time and an offset if they are next. -/
def readDateTime? (cs : List Char) : Option (Value × List Char) := do
  let (date, cs) ← readDate? cs
  if isCalendarDate date then
    match readTimeAfterDate cs with
    | (none, cs) => return (.date date, cs)
    | (some time, cs) =>
        let (offset, cs) := readOffset cs
        return (.dateTime date time offset, cs)
  else none

/-- A number, a date or a time. -/
def readQuantity? (cs : List Char) : Option (Value × List Char) :=
  match readDateTime? cs with
  | some read => some read
  | none =>
      match readTime? cs with
      | some (time, rest) => some (.time time, rest)
      | none => readNumber? cs

end C4Model.Toml
