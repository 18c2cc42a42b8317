import AutomationIndex.Wildcard
import Mathlib.Data.List.Forall2
import Mathlib.Data.List.Infix

/-! What file name patterns stand for: the rows of the matcher hold the answers for all endings. -/

namespace AutomationIndex.Wildcard

/-- Whether a text is one that a pattern stands for, piece by piece. -/
inductive Matches : Pattern → List Char → Prop where
  | done : Matches [] []
  | run (skipped : List Char) {rest : Pattern} {text : List Char} (later : Matches rest text) :
      Matches (.anyRun :: rest) (skipped ++ text)
  | one {piece : Piece} {c : Char} {rest : Pattern} {text : List Char}
      (here : piece.accepts c = true) (later : Matches rest text) :
      Matches (piece :: rest) (c :: text)

variable {rest : Pattern} {piece : Piece} {c : Char} {text : List Char}

/-- No pieces stand for the empty text only. -/
theorem matches_nil_iff : Matches [] text ↔ text = [] := by
  constructor
  · rintro ⟨⟩
    rfl
  · rintro rfl
    exact Matches.done

/-- A piece for one character stands for no empty text. -/
theorem not_matches_nil (single : piece ≠ .anyRun) : ¬ Matches (piece :: rest) [] := by
  generalize empty : ([] : List Char) = text
  intro matched
  cases matched with
  | run skipped later => exact single rfl
  | one here later => cases empty

/-- A piece for one character stands for the first one. -/
theorem matches_cons_iff (single : piece ≠ .anyRun) :
    Matches (piece :: rest) (c :: text) ↔ piece.accepts c = true ∧ Matches rest text := by
  -- A piece that is no run is used up by one character.
  constructor
  · generalize whole : c :: text = chars
    intro matched
    cases matched with
    | run skipped later => exact absurd rfl single
    | one here later =>
      cases whole
      exact ⟨here, later⟩
  · rintro ⟨here, later⟩
    exact Matches.one here later

/-- A run stands for any beginning of a text. -/
theorem matches_run_iff :
    Matches (.anyRun :: rest) text ↔ ∃ ending, ending <:+ text ∧ Matches rest ending := by
  constructor
  · intro matched
    cases matched with
    | run skipped later => exact ⟨_, List.suffix_append _ _, later⟩
    -- A run is no piece for a single character.
    | one here later => simp [Piece.accepts] at here
  · rintro ⟨ending, ⟨skipped, rfl⟩, later⟩
    exact Matches.run skipped later

/-- Whether a row answers for every ending of a text, longest first. -/
abbrev Answers (pattern : Pattern) : List (List Char) → List Bool → Prop :=
  List.Forall₂ fun ending flag => flag = true ↔ Matches pattern ending

/-- The first row answers for the pattern without pieces. -/
theorem answers_start (text : List Char) :
    Answers [] text.tails (text.map (fun _ => false) ++ [true]) := by
  induction text with
  | nil => exact List.Forall₂.cons (by simp [matches_nil_iff]) List.Forall₂.nil
  | cons c rest ih =>
    rw [List.tails_cons]
    exact List.Forall₂.cons (by simp [matches_nil_iff]) ih

/-- The first answer of a row is the one for the whole text. -/
theorem answers_head {pattern : Pattern} {row : List Bool}
    (answered : Answers pattern text.tails row) :
    row.headD false = true ↔ Matches pattern text := by
  cases text with
  | nil =>
    -- Endings come longest first, and the longest one is the text.
    rcases answered with _ | ⟨here, _⟩
    exact here
  | cons c text =>
    rw [List.tails_cons] at answered
    rcases answered with _ | ⟨here, _⟩
    exact here

/-- A run in front of a pattern is answered for by looking at all later answers. -/
theorem answers_run {row : List Bool} (answered : Answers rest text.tails row) :
    Answers (.anyRun :: rest) text.tails (extendRow text .anyRun row) := by
  -- An ending matches where it does without the run, or where a shorter one does with it.
  simp only [extendRow]
  -- The row is built from the end of the text, one answer for each character.
  induction text generalizing row with
  | nil =>
    rcases answered with _ | ⟨here, ⟨⟩⟩
    refine List.Forall₂.cons ?_ List.Forall₂.nil
    simp [here, matches_run_iff]
  | cons c text ih =>
    rw [List.tails_cons] at answered ⊢
    rcases answered with _ | ⟨here, later⟩
    have shorter := ih later
    refine List.Forall₂.cons ?_ shorter
    rw [Bool.or_eq_true, here, answers_head shorter, matches_run_iff, matches_run_iff]
    simp only [List.suffix_cons_iff, or_and_right, exists_or, exists_eq_left]

/-- A piece for one character is answered for by the next answer of the row. -/
theorem answers_one (single : piece ≠ .anyRun) {row : List Bool}
    (answered : Answers rest text.tails row) :
    Answers (piece :: rest) text.tails (extendRow text piece row) := by
  -- All pieces for one character extend a row in the same way.
  have shape : extendRow text piece row =
      (text.zip row.tail).map (fun pair => piece.accepts pair.1 && pair.2) ++ [false] := by
    cases piece with
    | anyRun => exact absurd rfl single
    | anyOne => rfl
    | literal d => rfl
    | oneOf negated ranges => rfl
  rw [shape]
  clear shape
  induction text generalizing row with
  | nil => exact List.Forall₂.cons (by simp [not_matches_nil single]) List.Forall₂.nil
  | cons c text ih =>
    rw [List.tails_cons] at answered ⊢
    rcases answered with _ | ⟨here, later⟩
    rename_i flag row
    -- The next answer is about the text without its first character.
    have head := answers_head later
    cases row with
    | nil =>
      cases text <;> cases later
    | cons next more =>
      refine List.Forall₂.cons ?_ (ih later)
      rw [matches_cons_iff single, Bool.and_eq_true]
      exact and_congr_right fun _ => head

/-- The row of a pattern answers for every ending of the text. -/
theorem matchRow_answers (text : List Char) (pattern : Pattern) :
    Answers pattern text.tails (matchRow text pattern) := by
  -- Each piece turns the row of the rest of the pattern into its own row.
  induction pattern with
  | nil => exact answers_start text
  | cons piece rest ih =>
    by_cases run : piece = .anyRun
    · subst run
      exact answers_run ih
    · exact answers_one run ih

/-- A name fits a written pattern exactly if it is one that the pattern's pieces stand for. -/
theorem fits_iff {name written : String} :
    fits name written = true ↔ Matches (piecesOf written.toList) name.toList :=
  answers_head (matchRow_answers name.toList _)

/-- Given characters stand for themselves. -/
theorem matches_literals_iff {chars : List Char} :
    Matches (chars.map .literal) text ↔ text = chars := by
  -- Literals accept one character each, so both lists are used up together.
  induction chars generalizing text with
  | nil => exact matches_nil_iff
  | cons d chars ih =>
    rw [List.map_cons]
    cases text with
    | nil => simpa using not_matches_nil (by simp)
    | cons c text =>
      rw [matches_cons_iff (by simp), ih]
      simp only [Piece.accepts, beq_iff_eq, List.cons.injEq]
      exact and_congr_left fun _ => eq_comm

/-- A run before given characters stands for any text that ends with them. -/
theorem fits_ending_iff {name written : String} {chars : List Char}
    (pieces : piecesOf written.toList = .anyRun :: chars.map .literal) :
    fits name written = true ↔ chars <:+ name.toList := by
  rw [fits_iff, pieces, matches_run_iff]
  simp [matches_literals_iff]

/-- Every name fits a star. -/
theorem fits_star (name : String) : fits name "*" = true := by
  have ending : fits name "*" = true ↔ [] <:+ name.toList := fits_ending_iff (by decide +kernel)
  exact ending.mpr List.nil_suffix

end AutomationIndex.Wildcard
