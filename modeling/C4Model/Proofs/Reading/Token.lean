import C4Model.Proofs.Layout.Line
import C4Model.Proofs.Naming.Identifier
import C4Model.Layout.Item

/-! Documents as tokens. A token is a brace, a literal, or a longest run of characters that are none of the
others; blanks and line ends only keep words apart. What a text gives up to the end of a literal does not
depend on what comes after it, so lines can be read one by one, at whatever depth they stand. -/

namespace C4Model.Reading

open Layout

inductive Token where
  | word (text : String)
  | equals
  | arrow
  | literal (text : String)
  | opening
  | closing
  /-- A literal that does not end. -/
  | unclosed
  deriving DecidableEq

def isSpace (c : Char) : Bool :=
  c = ' ' || c = '\n'

def isWordChar (c : Char) : Bool :=
  !(isSpace c || c = '\x7b' || c = '\x7d' || c = '"')

def Token.ofWord (chars : List Char) : Token :=
  if chars = ['='] then .equals else if chars = ['-', '>'] then .arrow
  else .word (String.ofList chars)

theorem length_scan {cs text after : List Char} (h : Literal.scan cs = some (text, after)) :
    after.length < cs.length := by
  fun_induction Literal.scan cs generalizing text with
  | case1 => cases h
  | case2 rest =>
      obtain ⟨rfl, rfl⟩ := Prod.mk.inj (Option.some.inj h)
      simp
  | case3 c rest ih =>
      obtain ⟨⟨text', after'⟩, hscan, heq⟩ := Option.map_eq_some_iff.mp h
      obtain ⟨rfl, rfl⟩ := Prod.mk.inj heq
      exact Nat.lt_succ_of_lt (Nat.lt_succ_of_lt (ih hscan))
  | case4 => cases h
  | case5 c rest _ _ _ ih =>
      obtain ⟨⟨text', after'⟩, hscan, heq⟩ := Option.map_eq_some_iff.mp h
      obtain ⟨rfl, rfl⟩ := Prod.mk.inj heq
      exact Nat.lt_succ_of_lt (ih hscan)

def tokens : List Char → List Token
  | [] => []
  | c :: rest =>
      if isSpace c then tokens rest
      else if c = '\x7b' then .opening :: tokens rest
      else if c = '\x7d' then .closing :: tokens rest
      else if c = '"' then
        match _h : Literal.scan rest with
        | some (text, after) => .literal (String.ofList text) :: tokens after
        | none => [.unclosed]
      else .ofWord (c :: rest.takeWhile isWordChar) :: tokens (rest.dropWhile isWordChar)
termination_by cs => cs.length
decreasing_by
  · simp
  · simp
  · simp
  · exact Nat.lt_trans (length_scan _h) (by simp)
  · exact Nat.lt_succ_of_le (List.dropWhile_suffix _).length_le

theorem tokens_space {c : Char} (hc : isSpace c = true) (rest : List Char) :
    tokens (c :: rest) = tokens rest := by
  rw [tokens, if_pos hc]

theorem tokens_spaces (count : Nat) (rest : List Char) :
    tokens (List.replicate count ' ' ++ rest) = tokens rest := by
  induction count with
  | zero => rfl
  | succ count ih => rw [List.replicate_succ, List.cons_append, tokens_space rfl, ih]

theorem tokens_margin (width : Int) (depth : Nat) (rest : List Char) :
    tokens ((margin width depth).toList ++ rest) = tokens rest := by
  rw [margin, String.toList_ofList, tokens_spaces]

theorem tokens_opening (rest : List Char) : tokens ('\x7b' :: rest) = .opening :: tokens rest := by
  rw [tokens, if_neg (by decide), if_pos rfl]

theorem tokens_closing (rest : List Char) : tokens ('\x7d' :: rest) = .closing :: tokens rest := by
  rw [tokens, if_neg (by decide), if_neg (by decide), if_pos rfl]

theorem tokens_quote (text : String) (rest : List Char) :
    tokens ((Statement.quote text).toList ++ rest) = .literal text :: tokens rest := by
  have hchars : (Statement.quote text).toList ++ rest =
      '"' :: (Literal.escapeChars text.toList ++ '"' :: rest) := by
    simp [Statement.quote]
  rw [hchars, tokens, if_neg (by decide), if_neg (by decide), if_neg (by decide), if_pos rfl]
  split
  · rename_i scanned after hscan
    rw [Literal.scan_escapeChars] at hscan
    obtain ⟨rfl, rfl⟩ := Prod.mk.inj (Option.some.inj hscan)
    rw [String.ofList_toList]
  · rename_i hscan
    rw [Literal.scan_escapeChars] at hscan
    cases hscan

/-- A text that is one token, whatever else than a word follows it. -/
def IsWord (text : String) : Prop :=
  text.toList ≠ [] ∧ text.toList.all isWordChar = true

instance (text : String) : Decidable (IsWord text) :=
  inferInstanceAs (Decidable (_ ∧ _))

theorem tokens_ofWord {text : String} (htext : IsWord text) {c : Char} (hc : isWordChar c = false)
    (rest : List Char) :
    tokens (text.toList ++ c :: rest) = .ofWord text.toList :: tokens (c :: rest) := by
  obtain ⟨hne, hall⟩ := htext
  rw [List.all_eq_true] at hall
  generalize text.toList = chars at hne hall
  cases chars with
  | nil => exact absurd rfl hne
  | cons first chars =>
      have hfirst := hall first List.mem_cons_self
      have hchars : ∀ d ∈ chars, isWordChar d = true :=
        fun d hd => hall d (List.mem_cons_of_mem _ hd)
      simp only [isWordChar, Bool.not_eq_true', Bool.or_eq_false_iff, decide_eq_false_iff_not]
        at hfirst
      obtain ⟨⟨⟨hspace, hopening⟩, hclosing⟩, hquote⟩ := hfirst
      rw [List.cons_append, tokens, if_neg (by simp [hspace]), if_neg hopening, if_neg hclosing,
        if_neg hquote, List.takeWhile_append_of_pos hchars, List.dropWhile_append_of_pos hchars,
        List.takeWhile_cons_of_neg (by simp [hc]), List.dropWhile_cons_of_neg (by simp [hc]),
        List.append_nil]

/-- A word that is no sign of its own. -/
def IsName (text : String) : Prop :=
  IsWord text ∧ text.toList ≠ ['='] ∧ text.toList ≠ ['-', '>']

instance (text : String) : Decidable (IsName text) :=
  inferInstanceAs (Decidable (_ ∧ _))

theorem tokens_name {text : String} (htext : IsName text) {c : Char} (hc : isWordChar c = false)
    (rest : List Char) :
    tokens (text.toList ++ c :: rest) = .word text :: tokens (c :: rest) := by
  obtain ⟨hword, hequals, harrow⟩ := htext
  rw [tokens_ofWord hword hc, Token.ofWord, if_neg hequals, if_neg harrow, String.ofList_toList]

theorem isWordChar_of_isIdentifierChar {c : Char} (hc : Naming.IsIdentifierChar c) :
    isWordChar c = true := by
  have hne : ∀ d, ¬ Naming.IsIdentifierChar d → c ≠ d := by
    rintro d hd rfl
    exact hd hc
  simp [isWordChar, isSpace, hne ' ' (by decide), hne '\n' (by decide), hne '\x7b' (by decide),
    hne '\x7d' (by decide), hne '"' (by decide)]

theorem mem_joinPath {segments : List String} {c : Char}
    (hc : c ∈ (Naming.joinPath segments).toList) :
    c = '.' ∨ ∃ segment ∈ segments, c ∈ segment.toList := by
  induction segments with
  | nil => simp [Naming.joinPath] at hc
  | cons segment rest ih =>
      by_cases hrest : rest = []
      · subst hrest
        exact Or.inr ⟨segment, List.mem_cons_self, by simpa [Naming.joinPath] using hc⟩
      · rw [Naming.joinPath, String.intercalate_cons_of_ne_nil hrest, String.toList_append,
          String.toList_append, List.mem_append, List.mem_append] at hc
        rcases hc with (hc | hc) | hc
        · exact Or.inr ⟨segment, List.mem_cons_self, hc⟩
        · exact Or.inl (by simpa [Naming.pathSeparator] using hc)
        · rcases ih hc with hc | ⟨other, hother, hc⟩
          · exact Or.inl hc
          · exact Or.inr ⟨other, List.mem_cons_of_mem _ hother, hc⟩

theorem isName_of_isReference {text : String} (h : Naming.IsReference text) : IsName text := by
  obtain ⟨segments, hne, hall, rfl⟩ := h
  have hchars : ∀ c ∈ (Naming.joinPath segments).toList, c = '.' ∨ Naming.IsIdentifierChar c := by
    intro c hc
    rcases mem_joinPath hc with hc | ⟨segment, hsegment, hc⟩
    · exact Or.inl hc
    · exact Or.inr ((hall segment hsegment).isIdentifierChar hc)
  have hsign : ∀ c rest, c ≠ '.' → ¬ Naming.IsIdentifierChar c →
      (Naming.joinPath segments).toList ≠ c :: rest := by
    intro c rest hpoint hc heq
    exact (hchars c (heq ▸ List.mem_cons_self)).elim hpoint hc
  refine ⟨⟨?_, ?_⟩, hsign _ _ (by decide) (by decide), hsign _ _ (by decide) (by decide)⟩
  · obtain ⟨segment, rest, rfl⟩ := List.exists_cons_of_ne_nil hne
    have hsegment := (hall segment List.mem_cons_self).ne_empty
    by_cases hrest : rest = []
    · simpa [hrest, Naming.joinPath] using hsegment
    · rw [Naming.joinPath, String.intercalate_cons_of_ne_nil hrest]
      simp [Naming.pathSeparator]
  · rw [List.all_eq_true]
    intro c hc
    rcases hchars c hc with rfl | hc
    · rfl
    · exact isWordChar_of_isIdentifierChar hc

theorem isName_of_isIdentifier {text : String} (h : Naming.IsIdentifier text) : IsName text :=
  isName_of_isReference (Naming.isReference_of_isIdentifier h)

end C4Model.Reading
