import AutomationIndex.Text.Blank
import AutomationIndex.Text.Case
import Mathlib.Data.List.DropRight
import Mathlib.Data.List.Forall2

/-! Texts up to blanks at their ends and up to the case of letters: what stripping takes off, and
which characters have a given small form. -/

namespace AutomationIndex.Text

/-- Stripping what is stripped already changes nothing. -/
theorem stripChars_stripChars (chars : List Char) :
    stripChars (stripChars chars) = stripChars chars := by
  -- Stripping keeps the first character that is not blank, if there is any.
  let inner := chars.dropWhile isBlank
  have ends : stripChars chars = inner.rdropWhile isBlank := rfl
  have begins : (inner.rdropWhile isBlank).dropWhile isBlank = inner.rdropWhile isBlank := by
    obtain ⟨dropped, whole⟩ : inner.rdropWhile isBlank <+: inner := List.rdropWhile_prefix isBlank inner
    cases kept : inner.rdropWhile isBlank with
    | nil => rfl
    | cons c rest =>
      rw [kept] at whole
      have visible : inner.dropWhile isBlank = inner := List.dropWhile_idempotent isBlank chars
      rw [← whole, List.dropWhile_eq_self_iff] at visible
      exact List.dropWhile_cons_of_neg (visible (by simp))
  change ((stripChars chars).dropWhile isBlank).rdropWhile isBlank = stripChars chars
  rw [ends, begins]
  exact List.rdropWhile_idempotent isBlank inner

/-- Stripping takes blanks off both ends. -/
theorem stripChars_split (chars : List Char) : ∃ before after,
    chars = before ++ stripChars chars ++ after ∧ (∀ c ∈ before, isBlank c = true) ∧
      ∀ c ∈ after, isBlank c = true := by
  let inner := chars.dropWhile isBlank
  have ends : stripChars chars = inner.rdropWhile isBlank := rfl
  -- What is dropped at each end is what is taken there while it is blank.
  refine ⟨chars.takeWhile isBlank, inner.rtakeWhile isBlank, ?_, fun c => List.mem_takeWhile_imp,
    fun c => List.mem_rtakeWhile_imp⟩
  rw [ends, List.append_assoc, List.rdropWhile_append_rtakeWhile, List.takeWhile_append_dropWhile]

/-- What has no blanks in it is left when blanks around it are stripped. -/
theorem stripChars_of_visible {before word after : List Char}
    (first : ∀ c ∈ before, isBlank c = true) (visible : ∀ c ∈ word, isBlank c = false)
    (last : ∀ c ∈ after, isBlank c = true) : stripChars (before ++ word ++ after) = word := by
  have reversed : (word.reverse).dropWhile isBlank = word.reverse :=
    List.dropWhile_eq_self_iff.mpr fun some => by simp [visible]
  have ended : dropEndWhile isBlank (word ++ after) = word := by
    rw [dropEndWhile, List.reverse_append, List.dropWhile_append_of_pos (by simpa using last),
      reversed, List.reverse_reverse]
  rw [stripChars, List.append_assoc, List.dropWhile_append_of_pos first]
  -- Without a word in between, the blanks after it are dropped from the front as well.
  cases word with
  | nil =>
    have blank : after.dropWhile isBlank = [] := List.dropWhile_eq_nil_iff.mpr last
    rw [List.nil_append, blank]
    rfl
  | cons c rest =>
    have shown : ¬ isBlank c = true := by simp [visible]
    rw [List.cons_append, List.dropWhile_cons_of_neg shown, ← List.cons_append, ended]

/-- Stripping leaves nothing exactly of what is all blank. -/
theorem strip_eq_empty_iff {text : String} :
    strip text = "" ↔ ∀ c ∈ text.toList, isBlank c = true := by
  rw [strip, ← String.toList_inj, String.toList_ofList, String.toList_empty]
  constructor
  -- Nothing is left in the middle, so the text is what was taken from its two ends.
  · intro none
    obtain ⟨before, after, split, first, last⟩ := stripChars_split text.toList
    rw [none, List.append_nil] at split
    rw [split]
    exact List.forall_mem_append.mpr ⟨first, last⟩
  · intro blank
    simpa using stripChars_of_visible blank (List.forall_mem_nil _) (List.forall_mem_nil _)

/-- The letters of the word that sets a flag. -/
def trueLetters : List Char :=
  ['t', 'r', 'u', 'e']

/-- Of the characters with another small form, only capitals have one of these letters for it. -/
theorem smallRuns_trueLetters : ∀ run ∈ smallRuns, ∀ letter ∈ trueLetters,
    (run.first : Int) ≤ letter.toNat - run.shift → (letter.toNat - run.shift : Int) ≤ run.last →
      run.shift = 32 := by
  -- Runs and letters are few, where all characters are many.
  have checked : (smallRuns.all fun run => trueLetters.all fun letter =>
      decide ((run.first : Int) ≤ letter.toNat - run.shift →
        (letter.toNat - run.shift : Int) ≤ run.last → run.shift = 32)) = true := by decide
  simpa only [List.all_eq_true, decide_eq_true_eq] using checked

/-- A character has one character for its small form, or the two of a dotted capital. -/
theorem smallForm_cases (c : Char) :
    (∃ d, smallForm c = [d]) ∨ smallForm c = [Char.ofNat 0x69, Char.ofNat 0x307] := by
  simp only [smallForm]
  -- Only one character has a small form of two.
  split
  · exact .inl ⟨c, rfl⟩
  · split
    · exact .inr rfl
    · split <;> exact .inl ⟨_, rfl⟩

/-- The codes of the ASCII letters. -/
theorem isAlpha_iff_range {c : Char} :
    c.isAlpha = true ↔ 65 ≤ c.toNat ∧ c.toNat ≤ 90 ∨ 97 ≤ c.toNat ∧ c.toNat ≤ 122 := by
  -- A letter is a capital or a small one, and each kind is one range of ASCII.
  have capital : c.isUpper = true ↔ 65 ≤ c.toNat ∧ c.toNat ≤ 90 := decide_eq_true_iff
  have small : c.isLower = true ↔ 97 ≤ c.toNat ∧ c.toNat ≤ 122 := by
    change (decide (97 ≤ c.toNat) && decide (c.toNat ≤ 122)) = true ↔ _
    simp
  have either : c.isAlpha = (c.isUpper || c.isLower) := rfl
  rw [either, Bool.or_eq_true, capital, small]

/-- The codes of the digits. -/
theorem isDigit_range {c : Char} (digit : c.isDigit = true) : 48 ≤ c.toNat ∧ c.toNat ≤ 57 := by
  simp only [Char.isDigit, ge_iff_le, UInt32.le_iff_toNat_le, Bool.and_eq_true,
    decide_eq_true_eq] at digit
  exact digit

/-- The code of a character other than the null character is the number that it was made of. -/
theorem toNat_of_ofNat_eq {n : Nat} {c : Char} (visible : 0 < c.toNat) (made : Char.ofNat n = c) :
    n = c.toNat := by
  unfold Char.ofNat at made
  -- A number that stands for no character gives the null character, which is not visible.
  by_cases valid : n.isValidChar
  · rw [dif_pos valid] at made
    rw [← made]
    rfl
  · rw [dif_neg valid] at made
    rw [← made] at visible
    exact absurd visible (by decide)

/-- One of these letters is the small form of itself and of its capital only. -/
theorem smallForm_eq_iff {c letter : Char} (among : letter ∈ trueLetters) :
    smallForm c = [letter] ↔ c = letter ∨ c = letter.toUpper := by
  have capitals : ∀ letter ∈ trueLetters, letter.toUpper.toNat + 32 = letter.toNat :=
    List.forall_iff_forall_mem.mp (by decide)
  have forms : ∀ letter ∈ trueLetters,
      smallForm letter = [letter] ∧ smallForm letter.toUpper = [letter] :=
    List.forall_iff_forall_mem.mp (by decide)
  constructor
  · intro same
    simp only [smallForm] at same
    split at same
    · exact .inl (List.singleton_inj.mp same)
    · split at same
      · simp at same
      · split at same
        · rename_i run found
          have lies := List.find?_some found
          simp only [Bool.and_eq_true, decide_eq_true_eq, beq_iff_eq] at lies
          -- The small form lies at the distance of the run, which is that of the capitals.
          have capital := capitals letter among
          have code : ((c.toNat : Int) + run.shift).toNat = letter.toNat :=
            toNat_of_ofNat_eq (by omega) (List.singleton_inj.mp same)
          have distance := smallRuns_trueLetters run (List.mem_of_find?_eq_some found) letter among
            (by omega) (by omega)
          exact .inr (Char.toNat_inj.mp (by omega))
        · exact .inl (List.singleton_inj.mp same)
  · rintro (rfl | rfl)
    · exact (forms _ among).1
    · exact (forms _ among).2

/-- In any place, the small form of a character begins with one of these letters exactly if the
character is the letter or its capital, and then nothing else belongs to it. -/
theorem smallFormsAfter_cons (before : List Char) (c : Char) (rest : List Char) : ∃ d more,
    smallFormsAfter before (c :: rest) = d :: more ++ smallFormsAfter (c :: before) rest ∧
      ∀ letter ∈ trueLetters,
        (d = letter ↔ c = letter ∨ c = letter.toUpper) ∧ (d = letter → more = []) := by
  rw [smallFormsAfter]
  by_cases sigma : c.toNat = 0x3A3
  · -- A sigma has one of two small forms, none of which is among these letters.
    have same : c = Char.ofNat 0x3A3 := Char.toNat_inj.mp sigma
    have foreign : ∀ letter ∈ trueLetters, smallForm (Char.ofNat 0x3A3) ≠ [letter] ∧
        Char.ofNat 0x3C2 ≠ letter ∧ Char.ofNat 0x3C3 ≠ letter :=
      List.forall_iff_forall_mem.mp (by decide)
    refine ⟨_, [], by simp [sigma]; rfl, fun letter among => ⟨?_, fun _ => rfl⟩⟩
    obtain ⟨other, final, inner⟩ := foreign letter among
    rw [← smallForm_eq_iff among, same]
    refine iff_of_false ?_ other
    split
    · exact final
    · exact inner
  · rcases smallForm_cases c with ⟨d, form⟩ | form
    · refine ⟨d, [], by simp [sigma, form], fun letter among => ⟨?_, fun _ => rfl⟩⟩
      rw [← smallForm_eq_iff among, form, List.singleton_inj]
    · refine ⟨_, [Char.ofNat 0x307], by simp [sigma, form]; rfl, fun letter among => ?_⟩
      have foreign : ∀ letter ∈ trueLetters, Char.ofNat 0x69 ≠ letter :=
        List.forall_iff_forall_mem.mp (by decide)
      refine ⟨iff_of_false (foreign letter among) ?_, fun same => absurd same (foreign letter among)⟩
      rw [← smallForm_eq_iff among, form]
      simp

/-- Small forms make the letters of the word exactly from these, in any case. -/
theorem smallFormsAfter_eq_iff {letters : List Char} (among : ∀ letter ∈ letters, letter ∈ trueLetters)
    (before chars : List Char) : smallFormsAfter before chars = letters ↔
      List.Forall₂ (fun c letter => c = letter ∨ c = letter.toUpper) chars letters := by
  -- The induction is on the characters, each of which gives one letter or makes the lists differ.
  induction chars generalizing before letters with
  | nil => cases letters <;> simp [smallFormsAfter]
  | cons c rest ih =>
    obtain ⟨d, more, forms, exact⟩ := smallFormsAfter_cons before c rest
    rw [forms]
    cases letters with
    | nil => simp
    | cons letter letters =>
      obtain ⟨here, later⟩ := List.forall_mem_cons.mp among
      obtain ⟨same, alone⟩ := exact letter here
      rw [List.forall₂_cons, ← same, ← ih later, List.cons_append, List.cons.injEq]
      exact and_congr_right fun begins => by rw [alone begins, List.nil_append]

/-- A text in small letters is the word exactly if it spells the word in any case. -/
theorem toSmall_true_iff {text : String} : toSmall text = "true" ↔
    List.Forall₂ (fun c letter => c = letter ∨ c = letter.toUpper) text.toList trueLetters := by
  rw [toSmall, ← String.toList_inj, String.toList_ofList]
  exact smallFormsAfter_eq_iff (fun _ => id) _ _

/-- A word of these letters, in any case, has no blanks in it. -/
theorem visible_of_trueLetters {word letters : List Char}
    (spelled : List.Forall₂ (fun c letter => c = letter ∨ c = letter.toUpper) word letters)
    (among : ∀ letter ∈ letters, letter ∈ trueLetters) : ∀ c ∈ word, isBlank c = false := by
  -- The letters of the constant are few, so both their forms are looked at.
  have visible : ∀ letter ∈ trueLetters,
      isBlank letter = false ∧ isBlank letter.toUpper = false :=
    List.forall_iff_forall_mem.mp (by decide)
  induction spelled with
  | nil => exact List.forall_mem_nil _
  | cons same _ ih =>
    obtain ⟨here, later⟩ := List.forall_mem_cons.mp among
    refine List.forall_mem_cons.mpr ⟨?_, ih later⟩
    rcases same with rfl | rfl
    · exact (visible _ here).1
    · exact (visible _ here).2

end AutomationIndex.Text
