import C4Model.Document.ValueText
import C4Model.Text.Blank
import C4Model.Text.Lines

/-! Looking up entries of a table as what they are expected to be. An entry that is missing and one of
the wrong shape are the same to most of these; a few shapes are turned into what is expected. -/

namespace C4Model

namespace Table

/-- The text under a key. Numbers and truth values are written out, be their numerals as long as they
may. -/
def string? (table : Table) (key : String) : Option String :=
  match table.get? key with
  | some (.string text) => some text
  | some (.int n) => some (toString n)
  | some (.float x) => some (Number.floatText x)
  | some (.bool b) => some (Value.shownBool b)
  | _ => none

/-- The text under a key as it is read: the one that `string?` has, unless it is the numeral of too large
a number. -/
def text? (table : Table) (key : String) : Except NumeralError (Option String) :=
  match table.get? key with
  | some (.int n) => (writeNumeral n).map some
  | _ => .ok (table.string? key)

theorem text?_eq_ok_iff {table : Table} {key : String} {result : Option String} :
    table.text? key = .ok result ↔
      (∀ n, table.get? key = some (.int n) → (Value.int n).writable = true) ∧
        table.string? key = result := by
  rw [text?]
  split
  case h_1 n hraw =>
    rw [string?, hraw, writeNumeral]
    simp only [Option.some.injEq, Value.writable_int_iff]
    split <;> simp [*, Except.map]
  case h_2 hraw =>
    rw [Except.ok.injEq, iff_and_self]
    exact fun _ n hn => (hraw n hn).elim

theorem text?_eq_error {table : Table} {key : String} {error : NumeralError}
    (h : table.text? key = .error error) :
    error = .tooLarge ∧ ∃ n, table.get? key = some (.int n) ∧ (Value.int n).writable = false := by
  rw [text?] at h
  split at h
  case h_1 n hraw =>
    cases hwritten : writeNumeral n with
    | ok text =>
        rw [hwritten] at h
        cases h
    | error cause =>
        rw [hwritten] at h
        obtain rfl := Except.error.inj h
        obtain ⟨hcause, hlarge⟩ := writeNumeral_eq_error hwritten
        rw [← Value.writable_int_iff, Bool.not_eq_true] at hlarge
        exact ⟨hcause, n, hraw, hlarge⟩
  case h_2 => cases h

/-- The integer under a key. A text of digits counts as the number it writes, and one whose digits
cannot be read is an error. -/
def int? (table : Table) (key : String) : Except NumeralError (Option Int) :=
  match table.get? key with
  | some (.int n) => .ok (some n)
  | some (.string text) =>
      let stripped := Text.strip text
      if isDigitText stripped then (readNumeral stripped).map some else .ok none
  | _ => .ok none

/-- The truth value under a key. An integer counts as true if it is not zero. -/
def bool? (table : Table) (key : String) : Option Bool :=
  match table.get? key with
  | some (.bool b) => some b
  | some (.int n) => some (n ≠ 0)
  | _ => none

/-- The items under a key; none if there is no array. -/
def items (table : Table) (key : String) : List Value :=
  match table.get? key with
  | some (.array items) => items
  | _ => []

/-- The table under a key; an empty one if there is none. -/
def subtable (table : Table) (key : String) : Table :=
  match table.get? key with
  | some (.table entries) => entries
  | _ => []

/-- The table at the end of a path of keys. -/
def atPath? (table : Table) : List String → Option Table
  | [] => some table
  | key :: path =>
      match table.get? key with
      | some (.table entries) => atPath? entries path
      | _ => none

/-- The table put at the end of a path of keys. -/
def nestAt (table : Table) : List String → Table
  | [] => table
  | key :: path => [(key, .table (nestAt table path))]

/-- The table in a section, whose name is a path joined by points. -/
def section? (table : Table) (name : String) : Option Table :=
  atPath? table (Text.splitOnChar '.' name)

def nestUnder (table : Table) (name : String) : Table :=
  nestAt table (Text.splitOnChar '.' name)

end Table

end C4Model
