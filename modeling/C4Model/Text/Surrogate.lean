import C4Model.Text.Printable
import C4Model.Text.Quoted

/-! Surrogates. A pair of them is a way to write a character, but one alone is none, so no text holds it; a
document in JSON can name one all the same. A character for private use stands for it in the texts that are
read then: neither is a letter, a digit, a blank or a sign, nor is it printable. A text that names a surrogate is
not written in UTF-8, and a message shows it by its own number. -/

namespace C4Model

/-- The surrogates by their numbers, counted from the first. -/
abbrev Surrogate := Fin 0x800

def Surrogate.codePoint (surrogate : Surrogate) : Nat :=
  0xD800 + surrogate.val

/-- A text that is not written in UTF-8: the surrogates in a row that come first in it, and their place. -/
structure EncodeError where
  place : Nat
  row : List Surrogate

/-- The escape of a surrogate, as messages show it. -/
def Surrogate.escape (surrogate : Surrogate) : List Char :=
  Text.numericEscape surrogate.codePoint

def EncodeError.message (error : EncodeError) : String :=
  let what := match error.row with
    | [surrogate] => "character '" ++ String.ofList surrogate.escape ++ "' in position " ++ toString error.place
    | row => "characters in position " ++ toString error.place ++ "-"
        ++ toString (error.place + row.length - 1)
  "'utf-8' codec can't encode " ++ what ++ ": surrogates not allowed"

/-- Whether a character is set aside for private use. -/
def Text.IsPrivate (c : Char) : Prop :=
  0xE000 ≤ c.toNat ∧ c.toNat < 0xF900 ∨ 0xF0000 ≤ c.toNat ∧ c.toNat < 0x10FFFE

/-- The characters that stand for surrogates. Which they are makes no difference to texts that hold none of
them otherwise. -/
structure Surrogates where
  standIn : Surrogate → Char
  ofChar? : Char → Option Surrogate
  ofChar?_eq_some_iff : ∀ c surrogate, ofChar? c = some surrogate ↔ standIn surrogate = c
  standIn_private : ∀ surrogate, Text.IsPrivate (standIn surrogate)

namespace Surrogates

variable (surrogates : Surrogates)

/-- Whether a character stands for itself. -/
def isPlain (c : Char) : Bool :=
  (surrogates.ofChar? c).isNone

/-- The number of a character, or that of the surrogate that it stands for. -/
def codePoint (c : Char) : Nat :=
  ((surrogates.ofChar? c).map Surrogate.codePoint).getD c.toNat

/-- A text as messages show it. -/
def quoted (text : String) : String :=
  Text.quotedBy surrogates.codePoint text

/-- The text with the escapes of the surrogates in it. -/
def escaped (text : String) : String :=
  String.ofList (text.toList.flatMap fun c => ((surrogates.ofChar? c).map Surrogate.escape).getD [c])

/-- The text in UTF-8. -/
def encode (text : String) : Except EncodeError ByteArray :=
  if text.toList.all surrogates.isPlain then .ok text.toUTF8
  else
    let rest := text.toList.dropWhile surrogates.isPlain
    let row := rest.takeWhile fun c => !surrogates.isPlain c
    .error ⟨text.length - rest.length, row.filterMap surrogates.ofChar?⟩

variable {surrogates}

/-- A text is written in UTF-8 if every character in it stands for itself. -/
theorem encode_eq_ok_iff {text : String} {content : ByteArray} :
    surrogates.encode text = .ok content ↔
      (∀ c ∈ text.toList, surrogates.isPlain c = true) ∧ text.toUTF8 = content := by
  rw [encode, ← List.all_eq_true]
  split <;> simp [*]

/-- The first of the stand-ins that are in a row. -/
def firstOfRow : Nat := 0x10F000

theorem toNat_ofNat_row (surrogate : Surrogate) :
    (Char.ofNat (firstOfRow + surrogate.val)).toNat = firstOfRow + surrogate.val := by
  have hvalid : Nat.isValidChar (firstOfRow + surrogate.val) := by
    rw [firstOfRow]
    exact Or.inr ⟨by omega, by omega⟩
  rw [Char.ofNat, dif_pos hvalid]
  rfl

/-- Characters in a row at the end of all, in the order of the surrogates. -/
def inRow : Surrogates where
  standIn surrogate := Char.ofNat (firstOfRow + surrogate.val)
  ofChar? c :=
    if h : firstOfRow ≤ c.toNat ∧ c.toNat - firstOfRow < 0x800 then some ⟨c.toNat - firstOfRow, h.2⟩ else none
  ofChar?_eq_some_iff c surrogate := by
    rw [← Char.toNat_inj, toNat_ofNat_row, Option.dite_none_right_eq_some]
    simp only [Option.some.injEq, Fin.ext_iff]
    constructor
    · rintro ⟨⟨hfirst, -⟩, hplace⟩
      omega
    · intro hplace
      exact ⟨⟨by omega, by omega⟩, by omega⟩
  standIn_private surrogate := by
    rw [Text.IsPrivate, toNat_ofNat_row, firstOfRow]
    omega

instance : Inhabited Surrogates := ⟨inRow⟩

end Surrogates

end C4Model
