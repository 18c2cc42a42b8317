import AutomationIndex.Proofs.Location.Written
import AutomationIndex.Proofs.Text.Case

/-! The words of a text, one after the other, with blanks between and around them. -/

namespace AutomationIndex.Text

variable {c : Char} {word rest : List Char}

/-- A blank is no letter, and it does not belong to numbers. -/
theorem isBlank_apart (blank : isBlank c = true) :
    c.isAlpha = false ∧ (c.isDigit || c == '.') = false := by
  -- Blanks lie outside the range of the letters and digits, and a dot is none of them.
  have codes : c.toNat ≤ 0x20 ∨ 0x85 ≤ c.toNat := by
    unfold isBlank at blank
    simp only [Bool.or_eq_true, Bool.and_eq_true, decide_eq_true_eq, beq_iff_eq] at blank
    omega
  have dot : c ≠ '.' := by
    rintro rfl
    revert blank
    decide
  refine ⟨?_, ?_⟩
  · rw [Bool.eq_false_iff, ne_eq, isAlpha_iff_range]
    omega
  · rw [Bool.or_eq_false_iff, beq_eq_false_iff_ne]
    refine ⟨Bool.eq_false_iff.mpr fun digit => ?_, dot⟩
    have range := isDigit_range digit
    omega

/-- No character is a blank if the test of all of them finds none. -/
theorem visible_of_all {chars : List Char} (all : chars.all (!isBlank ·) = true) :
    ∀ c ∈ chars, isBlank c = false := by
  simpa using all

/-- What begins a text and has no blanks in it lies before the first blank. -/
theorem prefix_of_visible {begun : List Char} (visible : ∀ c ∈ begun, isBlank c = false)
    (ends : ∀ c ∈ rest.head?, isBlank c = true) (begins : begun <+: word ++ rest) :
    begun <+: word := by
  have starts : word <+: word ++ rest := List.prefix_append word rest
  rcases List.prefix_or_prefix_of_prefix begins starts with within | ⟨more, whole⟩
  · exact within
  · -- What would go on after the word begins with the blank there.
    subst whole
    cases more with
    | nil => simp
    | cons c more =>
      obtain ⟨after, rfl⟩ := (List.prefix_append_right_inj word).mp begins
      have blank := ends c rfl
      simp [visible c (by simp)] at blank

/-- The runs of characters between blanks, empty runs left out. -/
def visibleRuns (chars : List Char) : List (List Char) :=
  (runsBetween isBlank chars).filter (!·.isEmpty)

/-- A blank before a text belongs to no word. -/
theorem visibleRuns_blank (blank : isBlank c = true) :
    visibleRuns (c :: rest) = visibleRuns rest := by
  have divided := runsBetween_divided [] blank rest
  rw [List.nil_append] at divided
  rw [visibleRuns, divided]
  rfl

/-- What blanks do not interrupt is a word, if the text ends after it or goes on with a blank. -/
theorem visibleRuns_word (some : word ≠ []) (visible : ∀ c ∈ word, isBlank c = false)
    (ends : ∀ c ∈ rest.head?, isBlank c = true) :
    visibleRuns (word ++ rest) = word :: visibleRuns rest := by
  -- The word ends at the first blank or at the end of the text.
  cases rest with
  | nil =>
    rw [List.append_nil, visibleRuns, runsBetween_whole visible]
    simp [visibleRuns, runsBetween, some]
  | cons c rest =>
    have blank := ends c rfl
    rw [visibleRuns_blank blank, visibleRuns, runsBetween_divided word blank,
      runsBetween_whole visible]
    simp [visibleRuns, some]

/-- Whether a text is made of words, with blanks between and around them. -/
inductive MadeOf : List Char → List (List Char) → Prop
  | nil : MadeOf [] []
  | blank {c : Char} {rest : List Char} {words : List (List Char)} (isBlank : isBlank c = true)
      (made : MadeOf rest words) : MadeOf (c :: rest) words
  | word {word rest : List Char} {words : List (List Char)}
      (visible : ∀ c ∈ word, Text.isBlank c = false)
      (ends : ∀ c ∈ rest.head?, Text.isBlank c = true) (made : MadeOf rest words) :
      MadeOf (word ++ rest) (word :: words)

/-- Every text is made of its words. -/
theorem madeOf_visibleRuns (chars : List Char) : MadeOf chars (visibleRuns chars) := by
  -- A text begins with a blank or with a word, and what follows is shorter.
  induction length : chars.length using Nat.strong_induction_on generalizing chars with
  | _ n ih =>
  subst length
  cases chars with
  | nil => exact .nil
  | cons c rest =>
    by_cases blank : isBlank c = true
    · rw [visibleRuns_blank blank]
      exact .blank blank (ih _ (by simp) rest rfl)
    · let word := (c :: rest).takeWhile (!isBlank ·)
      let after := (c :: rest).dropWhile (!isBlank ·)
      have whole : word ++ after = c :: rest := List.takeWhile_append_dropWhile
      have begins : word = c :: rest.takeWhile (!isBlank ·) :=
        List.takeWhile_cons_of_pos (by simpa using blank)
      have visible : ∀ c ∈ word, isBlank c = false := by
        intro d member
        simpa using List.mem_takeWhile_imp member
      have ends : ∀ c ∈ after.head?, isBlank c = true := by
        intro d first
        have stopped := List.head?_dropWhile_not (!isBlank ·) (c :: rest)
        rw [show (c :: rest).dropWhile (!isBlank ·) = after from rfl, first] at stopped
        simpa using stopped
      have shorter : after.length < (c :: rest).length := by
        rw [← whole, begins, List.length_append, List.length_cons]
        omega
      rw [← whole, visibleRuns_word (by simp [begins]) visible ends]
      exact .word visible ends (ih _ shorter after rfl)

/-- A text is made of its words, as they are written. -/
theorem madeOf_words (text : String) : MadeOf text.toList ((words text).map String.toList) := by
  have runs : (words text).map String.toList = visibleRuns text.toList := by
    simp [words, visibleRuns, Function.comp_def]
  rw [runs]
  exact madeOf_visibleRuns _

/-- Words with a blank before each begin with a blank. -/
theorem spaced_begins (words : List (List Char)) :
    ∀ c ∈ (words.flatMap (' ' :: ·)).head?, isBlank c = true := by
  cases words <;> simp [isBlank]

/-- Words with a blank before each make a text. -/
theorem madeOf_spaced {words : List (List Char)}
    (visible : ∀ word ∈ words, ∀ c ∈ word, isBlank c = false) :
    MadeOf (words.flatMap (' ' :: ·)) words := by
  -- Each word stands behind one blank and ends where the next blank begins.
  induction words with
  | nil => exact .nil
  | cons word words ih =>
    obtain ⟨here, later⟩ := List.forall_mem_cons.mp visible
    exact .blank (by decide) (.word here (spaced_begins words) (ih later))

end AutomationIndex.Text
