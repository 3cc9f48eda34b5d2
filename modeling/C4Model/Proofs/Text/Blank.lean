import C4Model.Proofs.Naming.Identifier
import C4Model.Text.Lines
import Mathlib.Data.List.TakeWhile

/-! Blanks around a text. Stripping takes off blanks at both ends and nothing else, so a text that neither
begins nor ends with a blank is found again behind any margin. No character of an identifier is a blank,
and every line break is one. -/

namespace C4Model.Text

def AllBlank (cs : List Char) : Prop :=
  ∀ c ∈ cs, isBlank c = true

/-- The first character is no blank. -/
def BeginsInked (cs : List Char) : Prop :=
  ∃ c rest, cs = c :: rest ∧ isBlank c = false

/-- The last character is no blank. -/
def EndsInked (cs : List Char) : Prop :=
  ∃ front c, cs = front ++ [c] ∧ isBlank c = false

theorem isBlank_of_isLineBreak {c : Char} (h : isLineBreak c = true) : isBlank c = true := by
  simp only [isLineBreak, Bool.or_eq_true, beq_iff_eq] at h
  rcases h with ((((((((rfl | rfl) | rfl) | rfl) | rfl) | rfl) | rfl) | rfl) | rfl) | rfl <;> rfl

theorem allBlank_replicate (count : Nat) : AllBlank (List.replicate count ' ') := by
  intro c hc
  rw [List.eq_of_mem_replicate hc]
  rfl

theorem isBlankText_iff {text : String} : isBlankText text = true ↔ AllBlank text.toList := by
  rw [isBlankText, List.all_eq_true]
  rfl

theorem BeginsInked.append {cs : List Char} (h : BeginsInked cs) (more : List Char) :
    BeginsInked (cs ++ more) := by
  obtain ⟨c, rest, rfl, hc⟩ := h
  exact ⟨c, rest ++ more, rfl, hc⟩

theorem EndsInked.append {cs : List Char} (h : EndsInked cs) (before : List Char) :
    EndsInked (before ++ cs) := by
  obtain ⟨front, c, rfl, hc⟩ := h
  exact ⟨before ++ front, c, by rw [List.append_assoc], hc⟩

theorem BeginsInked.not_allBlank {cs : List Char} (h : BeginsInked cs) : ¬ AllBlank cs := by
  obtain ⟨c, rest, rfl, hc⟩ := h
  intro hblank
  rw [hblank c List.mem_cons_self] at hc
  cases hc

theorem EndsInked.ne_nil {cs : List Char} (h : EndsInked cs) : cs ≠ [] := by
  obtain ⟨front, c, rfl, -⟩ := h
  simp

/-- What stripping takes off are blanks. -/
theorem exists_blanks_around (cs : List Char) :
    ∃ before after, AllBlank before ∧ AllBlank after ∧ cs = before ++ (stripBlanks cs ++ after) := by
  refine ⟨cs.takeWhile isBlank, ((cs.dropWhile isBlank).reverse.takeWhile isBlank).reverse, ?_, ?_, ?_⟩
  · exact fun c hc => List.mem_takeWhile_imp hc
  · exact fun c hc => List.mem_takeWhile_imp (List.mem_reverse.mp hc)
  · rw [stripBlanks, stripRight, ← List.reverse_append, List.takeWhile_append_dropWhile,
      List.reverse_reverse, List.takeWhile_append_dropWhile]

theorem mem_of_mem_stripBlanks {cs : List Char} {c : Char} (h : c ∈ stripBlanks cs) : c ∈ cs := by
  obtain ⟨before, after, -, -, hcs⟩ := exists_blanks_around cs
  rw [hcs]
  exact List.mem_append_right _ (List.mem_append_left _ h)

theorem allBlank_of_stripBlanks_eq_nil {cs : List Char} (h : stripBlanks cs = []) : AllBlank cs := by
  obtain ⟨before, after, hbefore, hafter, hcs⟩ := exists_blanks_around cs
  rw [h, List.nil_append] at hcs
  rw [hcs]
  exact fun c hc => (List.mem_append.mp hc).elim (hbefore c) (hafter c)

theorem endsInked_stripBlanks {cs : List Char} (h : stripBlanks cs ≠ []) :
    EndsInked (stripBlanks cs) := by
  rw [stripBlanks, stripRight] at h ⊢
  cases hrest : (cs.dropWhile isBlank).reverse.dropWhile isBlank with
  | nil =>
      rw [hrest] at h
      exact absurd List.reverse_nil h
  | cons c rest =>
      have hne : (cs.dropWhile isBlank).reverse.dropWhile isBlank ≠ [] := by simp [hrest]
      have hc := List.head_dropWhile_not isBlank hne
      simp only [hrest, List.head_cons] at hc
      exact ⟨rest.reverse, c, List.reverse_cons, hc⟩

theorem stripBlanks_of_allBlank {cs : List Char} (h : AllBlank cs) : stripBlanks cs = [] := by
  rw [stripBlanks, List.dropWhile_eq_nil_iff.mpr h]
  rfl

/-- Blanks around a text make no difference. -/
theorem stripBlanks_between {before after : List Char} (hbefore : AllBlank before)
    (hafter : AllBlank after) (cs : List Char) :
    stripBlanks (before ++ (cs ++ after)) = stripBlanks cs := by
  have hrear : AllBlank after.reverse := fun c hc => hafter c (List.mem_reverse.mp hc)
  rw [stripBlanks, List.dropWhile_append_of_pos hbefore, List.dropWhile_append]
  split
  · rename_i hempty
    rw [List.dropWhile_eq_nil_iff.mpr hafter, stripBlanks, List.isEmpty_iff.mp hempty]
  · rw [stripRight, List.reverse_append, List.dropWhile_append_of_pos hrear]
    rfl

theorem stripBlanks_stripBlanks (cs : List Char) : stripBlanks (stripBlanks cs) = stripBlanks cs := by
  obtain ⟨before, after, hbefore, hafter, hcs⟩ := exists_blanks_around cs
  have hbetween := stripBlanks_between hbefore hafter (stripBlanks cs)
  rwa [← hcs, eq_comm] at hbetween

theorem isBlankText_strip (text : String) : isBlankText (strip text) = isBlankText text := by
  rw [Bool.eq_iff_iff, isBlankText_iff, isBlankText_iff, strip, String.toList_ofList]
  refine ⟨fun h => allBlank_of_stripBlanks_eq_nil ?_, fun h c hc => h c (mem_of_mem_stripBlanks hc)⟩
  rw [← stripBlanks_stripBlanks, stripBlanks_of_allBlank h]

theorem exists_dropWhile_isBlank {cs : List Char} (h : BeginsInked cs) (before : List Char) :
    ∃ kept, (before ++ cs).dropWhile isBlank = kept ++ cs := by
  rw [List.dropWhile_append]
  split
  · obtain ⟨c, rest, rfl, hc⟩ := h
    exact ⟨[], List.dropWhile_cons_of_neg (by simp [hc])⟩
  · exact ⟨_, rfl⟩

/-- Stripping leaves alone what neither begins nor ends with a blank, wherever it stands. -/
theorem infix_stripBlanks {part cs : List Char} (h : part <:+: cs) (hbegins : BeginsInked part)
    (hends : EndsInked part) : part <:+: stripBlanks cs := by
  obtain ⟨before, after, rfl⟩ := h
  obtain ⟨front, last, hlast, hinked⟩ := hends
  have hrear : BeginsInked part.reverse := ⟨last, front.reverse, by simp [hlast], hinked⟩
  obtain ⟨left, hleft⟩ := exists_dropWhile_isBlank (hbegins.append after) before
  obtain ⟨right, hright⟩ := exists_dropWhile_isBlank (hrear.append left.reverse) after.reverse
  have hstripped : stripBlanks (before ++ part ++ after) = left ++ (part ++ right.reverse) := by
    rw [stripBlanks, stripRight, List.append_assoc, hleft, List.reverse_append, List.reverse_append,
      List.append_assoc, hright]
    simp
  rw [hstripped]
  exact ⟨left, right.reverse, by simp⟩

/-- A text without blanks at its ends is found again behind a margin. -/
theorem stripBlanks_of_inked {before cs : List Char} (hbefore : AllBlank before)
    (hbegins : BeginsInked cs) (hends : EndsInked cs) : stripBlanks (before ++ cs) = cs := by
  obtain ⟨c, rest, hcons, hc⟩ := hbegins
  obtain ⟨front, last, hconcat, hlast⟩ := hends
  have hfront : (before ++ cs).dropWhile isBlank = cs := by
    rw [List.dropWhile_append_of_pos hbefore, hcons, List.dropWhile_cons_of_neg (by simp [hc])]
  rw [stripBlanks, hfront, stripRight, hconcat, List.reverse_append, List.reverse_singleton,
    List.singleton_append, List.dropWhile_cons_of_neg (by simp [hlast]), List.reverse_cons,
    List.reverse_reverse]

end C4Model.Text

namespace C4Model.Naming

open Text

/-- No interval of blanks meets an interval of letters and digits. -/
theorem blanks_apart : ∀ blank ∈ blanks.intervals, ∀ other ∈ alphanumericBeyondAscii.intervals,
    blank.2 < other.1 ∨ other.2 < blank.1 := by
  decide +kernel

theorem toNat_of_isAsciiAlphanumeric {c : Char} (h : isAsciiAlphanumeric c = true) :
    0x30 ≤ c.toNat := by
  have hranges : (decide ('A'.val ≤ c.val ∧ c.val ≤ 'Z'.val) ||
      (decide ('a'.val ≤ c.val) && decide (c.val ≤ 'z'.val)) ||
        (decide ('0'.val ≤ c.val) && decide (c.val ≤ '9'.val))) = true := h
  simp only [Bool.or_eq_true, Bool.and_eq_true, decide_eq_true_eq, UInt32.le_iff_toNat_le] at hranges
  rcases hranges with (hupper | hlower) | hdigit
  · exact Nat.le_trans (by decide) hupper.1
  · exact Nat.le_trans (by decide) hlower.1
  · exact hdigit.1

theorem not_isBlank_of_isIdentifierChar {c : Char} (h : IsIdentifierChar c) : isBlank c = false := by
  rw [Bool.eq_false_iff]
  intro hblank
  obtain ⟨interval, hmem, hfrom, hto⟩ := CodePoints.contains_iff.mp hblank
  rcases h with h | rfl
  · rw [isAlphanumeric] at h
    split at h
    · have hascii : ∀ blank ∈ blanks.intervals, blank.2 ≤ 0x20 ∨ 0x80 ≤ blank.1 := by decide
      have hsmall := hascii interval hmem
      have hlarge := toNat_of_isAsciiAlphanumeric h
      omega
    · obtain ⟨other, hother, hfrom', hto'⟩ := CodePoints.contains_iff.mp h
      have hapart := blanks_apart interval hmem other hother
      omega
  · revert hblank
    decide

end C4Model.Naming
