import C4Model.Number.FloatText
import C4Model.Text.Quoted

/-! The values that a document holds. A document is written in one of two formats; both are read into
these values, and all that follows looks at the values alone. -/

namespace C4Model

structure Date where
  year : Nat
  month : Nat
  day : Nat
  deriving DecidableEq

structure TimeOfDay where
  hour : Nat
  minute : Nat
  second : Nat
  microsecond : Nat
  deriving DecidableEq

/-- How far local time is from universal time. Universal time itself may be written as a letter or as
an offset of zero. -/
inductive UtcOffset where
  | universal
  | ahead (hours minutes : Nat)
  | behind (hours minutes : Nat)
  deriving DecidableEq

inductive Value where
  | null
  | bool (value : Bool)
  | int (value : Int)
  | float (value : Float)
  | string (value : String)
  | date (value : Date)
  | time (value : TimeOfDay)
  | dateTime (date : Date) (time : TimeOfDay) (offset : Option UtcOffset)
  | array (items : List Value)
  | table (entries : List (String × Value))
  deriving Inhabited

/-- The entries of a table in order. No reader gives two entries one key. -/
abbrev Table := List (String × Value)

namespace Table

/-- The value under a key. -/
def get? (table : Table) (key : String) : Option Value :=
  table.lookup key

def hasKey (table : Table) (key : String) : Bool :=
  table.any (·.1 == key)

/-- Puts a value under a key: in place if the key is there, and at the end if it is not. -/
def insert (key : String) (value : Value) : Table → Table
  | [] => [(key, value)]
  | entry :: rest => if entry.1 = key then (key, value) :: rest else entry :: insert key value rest

end Table

end C4Model
