import C4Model.Document.Value
import C4Model.Text.Numeral

/-! The texts of values: the standard form of dates and times, and the form in which a message shows
any value. -/

namespace C4Model

/-- The decimal numeral of `n` with at least `width` digits. -/
def padded (width n : Nat) : String :=
  let digits := toString n
  String.ofList (List.replicate (width - digits.length) '0') ++ digits

def Date.isoText (d : Date) : String :=
  padded 4 d.year ++ "-" ++ padded 2 d.month ++ "-" ++ padded 2 d.day

def TimeOfDay.isoText (t : TimeOfDay) : String :=
  padded 2 t.hour ++ ":" ++ padded 2 t.minute ++ ":" ++ padded 2 t.second
    ++ if t.microsecond = 0 then "" else "." ++ padded 6 t.microsecond

def UtcOffset.isoText : UtcOffset → String
  | .universal => "+00:00"
  | .ahead hours minutes => "+" ++ padded 2 hours ++ ":" ++ padded 2 minutes
  | .behind hours minutes =>
      (if hours = 0 ∧ minutes = 0 then "+" else "-") ++ padded 2 hours ++ ":" ++ padded 2 minutes

def dateTimeIsoText (d : Date) (t : TimeOfDay) (offset : Option UtcOffset) : String :=
  d.isoText ++ "T" ++ t.isoText ++ (offset.map UtcOffset.isoText).getD ""

/-- Stands where a message could say what makes a text malformed; readers do not tell. -/
def malformedText : String := "the text is malformed"

namespace Value

def commaList (parts : List String) : String :=
  String.intercalate ", " parts

/-- Seconds and microseconds are shown only as far as they are not zero. -/
def timeFields (t : TimeOfDay) : List String :=
  let fields := if t.microsecond ≠ 0 then [t.hour, t.minute, t.second, t.microsecond]
    else if t.second ≠ 0 then [t.hour, t.minute, t.second]
    else [t.hour, t.minute]
  fields.map toString

def shownSpan (negative : Bool) (hours minutes : Nat) : String :=
  let seconds := hours * 3600 + minutes * 60
  if seconds = 0 then "datetime.timedelta(0)"
  else if negative then
    "datetime.timedelta(days=-1, seconds=" ++ toString (86400 - seconds) ++ ")"
  else "datetime.timedelta(seconds=" ++ toString seconds ++ ")"

def shownOffset : UtcOffset → String
  | .universal => "datetime.timezone.utc"
  | .ahead hours minutes =>
      "datetime.timezone(" ++ shownSpan false hours minutes ++ ", '+" ++ padded 2 hours ++ ":"
        ++ padded 2 minutes ++ "')"
  | .behind hours minutes =>
      "datetime.timezone(" ++ shownSpan true hours minutes ++ ", '-" ++ padded 2 hours ++ ":"
        ++ padded 2 minutes ++ "')"

def shownBool (b : Bool) : String :=
  if b then "True" else "False"

section Shown

variable (codePoint : Char → Nat)

mutual

/-- The value as a message shows it, where the characters have the numbers that `codePoint` tells. -/
def shownBy : Value → String
  | .null => "None"
  | .bool b => shownBool b
  | .int n => toString n
  | .float x => Number.floatText x
  | .string s => Text.quotedBy codePoint s
  | .date d => "datetime.date(" ++ commaList ([d.year, d.month, d.day].map toString) ++ ")"
  | .time t => "datetime.time(" ++ commaList (timeFields t) ++ ")"
  | .dateTime d t offset =>
      let zone := (offset.map fun o => "tzinfo=" ++ shownOffset o).toList
      "datetime.datetime(" ++
        commaList ([d.year, d.month, d.day].map toString ++ timeFields t ++ zone) ++ ")"
  | .array items => "[" ++ commaList (shownItems items) ++ "]"
  | .table entries => "\x7b" ++ commaList (shownEntries entries) ++ "\x7d"

def shownItems : List Value → List String
  | [] => []
  | item :: rest => item.shownBy :: shownItems rest

def shownEntries : List (String × Value) → List String
  | [] => []
  | entry :: rest => shownEntry entry :: shownEntries rest

def shownEntry : String × Value → String
  | (key, value) => Text.quotedBy codePoint key ++ ": " ++ value.shownBy

end

end Shown

/-- The value as a message shows it. -/
def shown (value : Value) : String :=
  value.shownBy Char.toNat

mutual

/-- Whether every number in the value has a numeral that may be written. Only then can a message show the
value. -/
def writable : Value → Bool
  | .int n => n.natAbs < leastBeyond numeralLimit
  | .array items => writableItems items
  | .table entries => writableEntries entries
  | _ => true

def writableItems : List Value → Bool
  | [] => true
  | item :: rest => item.writable && writableItems rest

def writableEntries : List (String × Value) → Bool
  | [] => true
  | entry :: rest => writableEntry entry && writableEntries rest

def writableEntry : String × Value → Bool
  | (_, value) => value.writable

end

theorem writable_int_iff {n : Int} :
    (Value.int n).writable = true ↔ n.natAbs < leastBeyond numeralLimit := by
  rw [writable, decide_eq_true_eq]

/-- The text of a value that stands for itself: a string bare, anything else as messages show it. -/
def plainText : Value → String
  | .string s => s
  | value => value.shown

end Value

end C4Model
