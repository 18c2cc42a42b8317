import AutomationIndex.Text.Utf8
import Mathlib.Data.List.Infix
import Mathlib.Data.List.TakeWhile

/-! Unified line ends: what of a text stays as it is. -/

namespace AutomationIndex.Text

variable {c : Char} {chars rest word : List Char} {p : Char → Bool}

/-- No characters stay none. -/
@[simp] theorem unifyLineEnds_nil : unifyLineEnds [] = [] := rfl

/-- A character that is no carriage return stays. -/
theorem unifyLineEnds_cons (kept : c ≠ '\r') :
    unifyLineEnds (c :: rest) = c :: unifyLineEnds rest := by
  rw [unifyLineEnds]
  · rintro _ rfl
    exact absurd rfl kept
  · exact kept

/-- A carriage return becomes a line feed, with the line feed after it if there is one. -/
theorem unifyLineEnds_return (rest : List Char) :
    ∃ after, (rest = '\n' :: after ∨ rest = after) ∧
      unifyLineEnds ('\r' :: rest) = '\n' :: unifyLineEnds after := by
  -- A return takes the line end behind it along, if there is one.
  by_cases paired : ∃ after, rest = '\n' :: after
  · obtain ⟨after, rfl⟩ := paired
    exact ⟨after, .inl rfl, rfl⟩
  · refine ⟨rest, .inr rfl, ?_⟩
    rw [unifyLineEnds]
    rintro after rfl
    exact paired ⟨after, rfl⟩

/-- A beginning without carriage returns stays. -/
theorem unifyLineEnds_append (kept : '\r' ∉ word) :
    unifyLineEnds (word ++ rest) = word ++ unifyLineEnds rest := by
  induction word with
  | nil => rfl
  | cons c word ih =>
    rw [List.cons_append, unifyLineEnds_cons (List.ne_of_not_mem_cons kept).symm,
      ih (List.not_mem_of_not_mem_cons kept), List.cons_append]

/-- What follows a beginning without carriage returns is unified on its own. -/
theorem drop_unifyLineEnds (begins : word <+: chars) (kept : '\r' ∉ word) :
    (unifyLineEnds chars).drop word.length = unifyLineEnds (chars.drop word.length) := by
  obtain ⟨rest, rfl⟩ := begins
  rw [unifyLineEnds_append kept, List.drop_left, List.drop_left]

/-- A text without carriage returns stays. -/
theorem unifyLineEnds_eq_self (kept : '\r' ∉ chars) : unifyLineEnds chars = chars := by
  have whole : unifyLineEnds (chars ++ []) = chars ++ unifyLineEnds [] := unifyLineEnds_append kept
  rwa [List.append_nil, unifyLineEnds_nil, List.append_nil] at whole

/-- A character that ends no line stood there before. -/
theorem exists_of_unifyLineEnds_eq_cons (plain : c ≠ '\n')
    (unified : unifyLineEnds chars = c :: rest) :
    ∃ before, chars = c :: before ∧ rest = unifyLineEnds before := by
  -- Only a return changes its character, and it gives a line end, which `c` is not.
  cases chars with
  | nil => cases unified
  | cons first others =>
    by_cases kept : first = '\r'
    · obtain ⟨after, -, line⟩ := unifyLineEnds_return others
      rw [kept, line] at unified
      exact absurd (List.cons.inj unified).1.symm plain
    · rw [unifyLineEnds_cons kept] at unified
      cases unified
      exact ⟨others, rfl, rfl⟩

/-- A mark that ends no line begins both texts or neither. -/
theorem unifyLineEnds_mark (mark : Char) (kept : mark ≠ '\r') (plain : mark ≠ '\n')
    (chars : List Char) :
    (∃ after, chars = mark :: after ∧ unifyLineEnds chars = mark :: unifyLineEnds after) ∨
      (∀ after, chars ≠ mark :: after) ∧ ∀ after, unifyLineEnds chars ≠ mark :: after := by
  -- A mark is kept where it stands and never made from anything else.
  by_cases marked : ∃ after, chars = mark :: after
  · obtain ⟨after, rfl⟩ := marked
    exact .inl ⟨after, rfl, unifyLineEnds_cons kept⟩
  · have other := not_exists.mp marked
    refine .inr ⟨other, fun after line => ?_⟩
    obtain ⟨before, held, -⟩ := exists_of_unifyLineEnds_eq_cons plain line
    exact other before held

/-- A word within a line stood there before. -/
theorem exists_of_unifyLineEnds_eq_append (word : List Char) (plain : '\n' ∉ word)
    (unified : unifyLineEnds chars = word ++ rest) :
    ∃ before, chars = word ++ before ∧ rest = unifyLineEnds before := by
  -- None of the word's characters is a line end, so each one stands for itself.
  induction word generalizing chars with
  | nil => exact ⟨chars, rfl, unified.symm⟩
  | cons c word ih =>
    obtain ⟨others, rfl, line⟩ :=
      exists_of_unifyLineEnds_eq_cons (List.ne_of_not_mem_cons plain).symm unified
    obtain ⟨before, rfl, left⟩ := ih (List.not_mem_of_not_mem_cons plain) line.symm
    exact ⟨before, rfl, left⟩

/-- Words within a line begin the same texts. -/
theorem prefix_unifyLineEnds_iff (kept : '\r' ∉ word) (plain : '\n' ∉ word) :
    word <+: unifyLineEnds chars ↔ word <+: chars := by
  constructor
  · rintro ⟨rest, line⟩
    obtain ⟨before, rfl, -⟩ := exists_of_unifyLineEnds_eq_append word plain line.symm
    exact List.prefix_append word before
  · rintro ⟨rest, rfl⟩
    rw [unifyLineEnds_append kept]
    exact List.prefix_append word _

/-- Only the empty text becomes empty. -/
theorem unifyLineEnds_eq_nil_iff : unifyLineEnds chars = [] ↔ chars = [] := by
  fun_cases unifyLineEnds chars <;> simp

/-- A text does not become longer. -/
theorem length_unifyLineEnds_le (chars : List Char) :
    (unifyLineEnds chars).length ≤ chars.length := by
  fun_induction unifyLineEnds chars <;> simp <;> omega

/-- A text does not become shorter by a character before it. -/
theorem length_unifyLineEnds_le_cons (c : Char) (rest : List Char) :
    (unifyLineEnds rest).length ≤ (unifyLineEnds (c :: rest)).length := by
  by_cases kept : c = '\r'
  · -- A line feed that is taken along has counted as one character already.
    subst kept
    obtain ⟨after, rfl | rfl, line⟩ := unifyLineEnds_return rest
    · rw [line, unifyLineEnds_cons (by decide)]
    · rw [line, List.length_cons]
      exact Nat.le_succ _
  · rw [unifyLineEnds_cons kept, List.length_cons]
    exact Nat.le_succ _

/-- An ending of a text does not become longer than the text does. -/
theorem length_unifyLineEnds_le_of_suffix {ending : List Char} (within : ending <:+ chars) :
    (unifyLineEnds ending).length ≤ (unifyLineEnds chars).length := by
  obtain ⟨before, rfl⟩ := within
  induction before with
  | nil => exact le_rfl
  | cons c before ih => exact ih.trans (length_unifyLineEnds_le_cons c _)

/-- Skipping characters, among them all or none that end lines, skips the same ones. -/
theorem dropWhile_unifyLineEnds (alike : p '\r' = p '\n') (chars : List Char) :
    (unifyLineEnds chars).dropWhile p = unifyLineEnds (chars.dropWhile p) := by
  -- A pair, a single return and any other character are the cases of the definition.
  fun_induction unifyLineEnds chars with
  | case1 rest ih =>
    cases ends : p '\n' <;> simp [List.dropWhile, alike, ends, ih, unifyLineEnds]
  | case2 rest single ih =>
    cases ends : p '\n' <;> simp [List.dropWhile, alike, ends, ih, unifyLineEnds]
  | case3 c rest paired single ih =>
    cases skipped : p c <;> simp [List.dropWhile, skipped, ih, unifyLineEnds_cons single]
  | case4 => rfl

/-- The characters before the first other one are the same, where none of them ends a line. -/
theorem takeWhile_unifyLineEnds (line : p '\n' = false) (alike : p '\r' = false)
    (chars : List Char) : (unifyLineEnds chars).takeWhile p = chars.takeWhile p := by
  fun_induction unifyLineEnds chars with
  | case1 rest ih => simp [line, alike]
  | case2 rest single ih => simp [line, alike]
  | case3 c rest paired single ih => simp [List.takeWhile_cons, ih]
  | case4 => rfl

end AutomationIndex.Text
