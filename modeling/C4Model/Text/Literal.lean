/-! String literals of the output. Between its quotes a literal holds a text with a backslash before
every quote and every backslash, so that a scanner finds where the literal ends and what it holds. -/

namespace C4Model.Literal

/-- The text with others in place of all occurrences of a character. -/
def replace (old : Char) (new text : List Char) : List Char :=
  text.flatMap fun c => if c = old then new else [c]

/-- The text as it stands between the quotes of a literal. The backslashes of the text come first, so that
the one put before a quote is not doubled. -/
def escape (text : String) : String :=
  String.ofList (replace '"' ['\\', '"'] (replace '\\' ['\\', '\\'] text.toList))

/-- Both replacements in one go: a backslash before every quote and every backslash. -/
def escapeChars : List Char → List Char
  | [] => []
  | c :: rest =>
      if c = '\\' ∨ c = '"' then '\\' :: c :: escapeChars rest else c :: escapeChars rest

/-- Reads from just after an opening quote to the closing one: the text held and what follows. A
backslash takes the next character as it is. -/
def scan : List Char → Option (List Char × List Char)
  | [] => none
  | '"' :: rest => some ([], rest)
  | '\\' :: c :: rest => (scan rest).map fun (text, after) => (c :: text, after)
  | c :: rest => if c = '\\' then none else (scan rest).map fun (text, after) => (c :: text, after)

theorem escapeChars_eq_flatMap (text : List Char) :
    escapeChars text = text.flatMap fun c => if c = '\\' ∨ c = '"' then ['\\', c] else [c] := by
  induction text with
  | nil => rfl
  | cons c rest ih =>
    rw [escapeChars, List.flatMap_cons, ih]
    split <;> rfl

/-- Escaping puts in nothing but backslashes. -/
theorem eq_or_mem_of_mem_escapeChars {c : Char} {text : List Char} (h : c ∈ escapeChars text) :
    c = '\\' ∨ c ∈ text := by
  rw [escapeChars_eq_flatMap] at h
  obtain ⟨d, hd, hc⟩ := List.mem_flatMap.mp h
  split at hc
  · rcases List.mem_cons.mp hc with hc | hc
    · exact Or.inl hc
    · exact Or.inr (List.mem_singleton.mp hc ▸ hd)
  · exact Or.inr (List.mem_singleton.mp hc ▸ hd)

/-- The second replacement passes over the backslashes that the first one puts in, so both come to one pass
over the text. -/
theorem replace_replace (text : List Char) :
    replace '"' ['\\', '"'] (replace '\\' ['\\', '\\'] text) = escapeChars text := by
  have hchar : ∀ c, replace '"' ['\\', '"'] (if c = '\\' then ['\\', '\\'] else [c]) =
      if c = '\\' ∨ c = '"' then ['\\', c] else [c] := by
    intro c
    by_cases hbackslash : c = '\\'
    · rw [if_pos hbackslash, if_pos (Or.inl hbackslash), hbackslash]
      rfl
    · rw [if_neg hbackslash, replace, List.flatMap_singleton]
      by_cases hquote : c = '"'
      · rw [if_pos hquote, if_pos (Or.inr hquote), hquote]
      · rw [if_neg hquote, if_neg (not_or.mpr ⟨hbackslash, hquote⟩)]
  rw [escapeChars_eq_flatMap]
  calc replace '"' ['\\', '"'] (replace '\\' ['\\', '\\'] text)
      = text.flatMap fun c =>
          replace '"' ['\\', '"'] (if c = '\\' then ['\\', '\\'] else [c]) := List.flatMap_assoc
    _ = text.flatMap fun c => if c = '\\' ∨ c = '"' then ['\\', c] else [c] := by
        rw [funext hchar]

theorem escape_eq (text : String) : escape text = String.ofList (escapeChars text.toList) := by
  rw [escape, replace_replace]

@[simp] theorem toList_escape (text : String) : (escape text).toList = escapeChars text.toList := by
  rw [escape_eq, String.toList_ofList]

theorem scan_escapeChars (text rest : List Char) :
    scan (escapeChars text ++ '"' :: rest) = some (text, rest) := by
  induction text with
  | nil => simp [escapeChars, scan]
  | cons c text ih =>
    rw [escapeChars]
    split
    · simp [scan, ih]
    · rename_i h
      rw [not_or] at h
      rw [List.cons_append, scan.eq_4 c _ (fun hc => h.2 hc) (fun _ _ hc _ => h.1 hc), ih]
      simp [h.1]

end C4Model.Literal
