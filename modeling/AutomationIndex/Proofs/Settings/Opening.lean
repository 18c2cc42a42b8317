import AutomationIndex.Proofs.Json.LineEnds
import AutomationIndex.Proofs.Logged
import AutomationIndex.Proofs.Text.Case
import AutomationIndex.Settings.Source

/-! How the texts of settings begin: a JSON object with a brace, TOML with a bracket, a comment or a
key. -/

namespace AutomationIndex

/-- Dropping some of the leading elements that are dropped anyway changes nothing. -/
theorem dropWhile_dropWhile_of_imp {α : Type} {p q : α → Bool}
    (fewer : ∀ a, q a = true → p a = true) (elements : List α) :
    (elements.dropWhile q).dropWhile p = elements.dropWhile p := by
  induction elements with
  | nil => rfl
  -- What the weaker test drops the stronger one drops too, so the two drops are one.
  | cons a rest ih =>
    by_cases dropped : q a = true
    · rw [List.dropWhile_cons_of_pos dropped, List.dropWhile_cons_of_pos (fewer a dropped), ih]
    · rw [List.dropWhile_cons_of_neg dropped]

namespace Json

variable {chars rest : List Char} {value : Json} {fields : List (String × Json)}

/-- No number is an object. -/
theorem readNumber?_ne_object (read : readNumber? chars = some (.ok (value, rest))) :
    value ≠ object fields := by
  -- A number is an integer or a real one in each branch that succeeds.
  simp only [readNumber?] at read
  split at read
  · cases read
  · split at read
    · split at read
      · cases read
      · cases read
        simp
    · cases read
      simp

/-- No value without others in it is an object. -/
theorem readScalar_ne_object (read : readScalar chars = .ok (value, rest)) :
    value ≠ object fields := by
  -- A scalar is a constant, a text or a number, and none of them is an object.
  have words : ∀ constant ∈ constants, ∀ fields, constant.2 ≠ object fields := by
    simp [constants]
  unfold readScalar at read
  split at read
  · next word found =>
    cases read
    exact words _ (List.mem_of_find?_eq_some found) fields
  · split at read
    · obtain ⟨codes, -, made⟩ := exceptBind_ok_iff.mp read
      cases made
      unfold stringValue
      split <;> simp
    · cases number : readNumber? chars with
      | none =>
        rw [number] at read
        cases read
      | some result =>
        rw [number] at read
        cases read
        exact readNumber?_ne_object number

/-- No list is an object. -/
theorem readItems_ne_object {steps : Nat} {found : List Json}
    (read : readItems steps found chars = .ok (value, rest)) : value ≠ object fields := by
  -- The induction is on the steps left; the list is closed at some item or goes on to the next.
  induction steps generalizing found chars with
  | zero => cases read
  | succ steps ih =>
    rw [readItems] at read
    obtain ⟨first, -, read⟩ := exceptBind_ok_iff.mp read
    obtain ⟨⟨closed, left⟩, -, read⟩ := exceptBind_ok_iff.mp read
    cases closed with
    | true =>
      cases read
      simp
    | false => exact ih read

/-- An object begins with a brace. -/
theorem readValue_object {steps : Nat} (read : readValue steps chars = .ok (object fields, rest)) :
    ∃ after, chars = '{' :: after := by
  -- Without a brace the value is a list or a scalar, and neither gives an object.
  by_cases brace : ∃ after, chars = '{' :: after
  · exact brace
  · cases steps with
    | zero => cases read
    | succ steps =>
    exfalso
    by_cases bracket : ∃ after, chars = '[' :: after
    · obtain ⟨after, rfl⟩ := bracket
      rw [readValue] at read
      split at read
      · cases read
      · exact readItems_ne_object read rfl
    · rw [readValue_scalar (not_exists.mp brace) (not_exists.mp bracket)] at read
      exact readScalar_ne_object read rfl

/-- A text that is an object begins with a brace after space. -/
theorem read_object (read : Json.read chars = .ok (object fields)) :
    ∃ after, skipSpace chars = '{' :: after := by
  -- The whole text is one value with blanks around it, so the value begins at the first mark.
  unfold Json.read at read
  split at read
  · cases read
  · split at read
    · cases read
    · next value rest found =>
      split at read
      · cases read
        exact readValue_object found
      · cases read

end Json

namespace Toml

variable {draft out : Draft} {c : Char} {chars rest : List Char}

/-- A character that may begin a key is not blank. -/
theorem not_isBlank_of_startsKey (starts : startsKey c = true) : Text.isBlank c = false := by
  -- The characters that begin a key are visible characters of ASCII.
  have ascii : 34 ≤ c.toNat ∧ c.toNat < 127 := by
    simp only [startsKey, isBare, Char.isAlphanum, Text.isAlpha_iff_range, Char.isDigit,
      Bool.or_eq_true, Bool.and_eq_true, decide_eq_true_eq, beq_iff_eq, ge_iff_le,
      UInt32.le_iff_toNat_le] at starts
    rcases starts with ((((letter | digit) | rfl) | rfl) | rfl) | rfl
    · omega
    · obtain ⟨low, high⟩ : 48 ≤ c.toNat ∧ c.toNat ≤ 57 := digit
      omega
    all_goals decide
  simp only [Text.isBlank, Bool.or_eq_false_iff, Bool.and_eq_false_iff, decide_eq_false_iff_not,
    beq_eq_false_iff_ne]
  omega

/-- A statement begins with a bracket, a comment or a key. -/
theorem readStatement_begins {after : Draft × List Char}
    (read : readStatement draft (c :: rest) = .ok after) :
    c = '[' ∨ c = '#' ∨ startsKey c = true := by
  -- A statement opens a table, is a comment or begins a key; anything else is refused.
  by_cases bracket : c = '['
  · exact .inl bracket
  by_cases comment : c = '#'
  · exact .inr (.inl comment)
  by_cases key : startsKey c = true
  · exact .inr (.inr key)
  rw [readStatement, if_neg key] at read
  · cases read
  all_goals simp_all

/-- The first character of lines that is not blank begins a statement. -/
theorem readLines_begins {steps : Nat} (enough : chars.length < steps)
    (read : readLines steps draft chars = .ok out)
    (first : (chars.dropWhile Text.isBlank).head? = some c) :
    c = '[' ∨ c = '#' ∨ startsKey c = true := by
  have blank : ∀ c, isSpace c = true → Text.isBlank c = true := by
    intro c space
    simp only [isSpace, Bool.or_eq_true, beq_iff_eq] at space
    obtain rfl | rfl := space <;> rfl
  induction steps generalizing chars draft with
  | zero => omega
  | succ steps ih =>
    have shorter := (List.dropWhile_suffix isSpace (l := chars)).length_le
    rw [← dropWhile_dropWhile_of_imp blank] at first
    rw [readLines, skipSpace] at read
    generalize chars.dropWhile isSpace = line at shorter first read
    cases line with
    | nil => cases first
    | cons d rest =>
      rw [List.length_cons] at shorter
      by_cases ended : d = '\n'
      · -- A line that is empty leaves the question to the next one.
        subst ended
        exact ih (by omega) read first
      · split at read
        · cases ‹d :: rest = []›
        · cases ‹d :: rest = '\n' :: _›
          exact absurd rfl ended
        · obtain ⟨statement, begun, -⟩ := exceptBind_ok_iff.mp read
          have begins := readStatement_begins begun
          have shown : Text.isBlank d = false := by
            obtain rfl | rfl | key := begins
            · rfl
            · rfl
            · exact not_isBlank_of_startsKey key
          rw [List.dropWhile_cons_of_neg (by simp [shown])] at first
          cases first
          exact begins

/-- A text without carriage returns ends its lines with line feeds already. -/
theorem unifyLineEnds_eq_self (kept : '\r' ∉ chars) : unifyLineEnds chars = chars := by
  induction chars with
  | nil => rfl
  | cons c rest ih =>
    rw [unifyLineEnds, ih (List.not_mem_of_not_mem_cons kept)]
    rintro _ rfl -
    exact absurd List.mem_cons_self kept

/-- The first character of a document that is not blank begins a statement. -/
theorem read_begins {text : String} {entries : Entries} (kept : '\r' ∉ text.toList)
    (read : Toml.read text = .ok entries)
    (first : (text.toList.dropWhile Text.isBlank).head? = some c) :
    c = '[' ∨ c = '#' ∨ startsKey c = true := by
  -- Line ends are unified before reading, which changes nothing here.
  unfold Toml.read at read
  rw [unifyLineEnds_eq_self kept] at read
  dsimp only at read
  split at read
  · next found => exact readLines_begins (Nat.lt_succ_self _) found first
  · cases read

end Toml

end AutomationIndex
