import C4Model.Text.Digits
import C4Model.Text.Quoted

/-! Numerals are not of any length. One of too many digits is not read, and a number that would need one is
not written. -/

namespace C4Model

/-- Why a text of digits is no number, or a number has no text. -/
inductive NumeralError where
  | notDecimal (text : String)
  | tooLong (digits : Nat)
  | tooLarge

/-- Numerals with more digits are neither read nor written. -/
def numeralLimit : Nat := 4300

/-- The least number with more than so many digits. -/
def leastBeyond (digits : Nat) : Nat := Nat.pow 10 digits

theorem lt_leastBeyond (digits : Nat) : digits < leastBeyond digits :=
  Nat.lt_pow_self (by decide)

def NumeralError.message : NumeralError → String
  | .notDecimal text =>
      "invalid literal for int() with base 10: "
        ++ String.ofList ((Text.quoted text).toList.take 200)
  | .tooLong digits =>
      "Exceeds the limit (" ++ toString numeralLimit
        ++ " digits) for integer string conversion: value has " ++ toString digits
        ++ " digits; use sys.set_int_max_str_digits() to increase the limit"
  | .tooLarge =>
      "Exceeds the limit (" ++ toString numeralLimit
        ++ " digits) for integer string conversion; use sys.set_int_max_str_digits() to increase the limit"

/-- The number that a text of digits stands for. -/
def readNumeral (text : String) : Except NumeralError Int :=
  let leading := (text.toList.takeWhile fun c => (Text.decimalValue? c).isSome).length
  if numeralLimit < leading then .error (.tooLong leading)
  else
    match Text.decimalNumber? text.toList with
    | some n => .ok n
    | none => .error (.notDecimal text)

/-- The numeral of a number. -/
def writeNumeral (n : Int) : Except NumeralError String :=
  if n.natAbs < leastBeyond numeralLimit then .ok (toString n) else .error .tooLarge

theorem writeNumeral_eq_error {n : Int} {error : NumeralError} (h : writeNumeral n = .error error) :
    error = .tooLarge ∧ ¬n.natAbs < leastBeyond numeralLimit := by
  rw [writeNumeral] at h
  split at h
  case isTrue => cases h
  case isFalse hlarge => exact ⟨(Except.error.inj h).symm, hlarge⟩

/-- Whether a text is made of digits and is not empty. -/
def isDigitText (text : String) : Bool :=
  !text.isEmpty && text.toList.all Text.isDigitLike

end C4Model
