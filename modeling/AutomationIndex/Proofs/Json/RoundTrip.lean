import AutomationIndex.Json.Writer
import AutomationIndex.Proofs.Json.LineEnds
import Mathlib.Algebra.Group.Nat.Defs

/-! Values that are read back from their text: what a string, a number and a bracket are written as
is read as what they were, whatever follows. -/

namespace AutomationIndex.Json

/-- A value that its text tells in full: no real number and no broken string is in it, no whole
number is too long to be read, and no object has a key twice. -/
inductive IsTold : Json → Prop where
  | null : IsTold null
  | bool (value : Bool) : IsTold (bool value)
  | int {n : Int} (short : n.natAbs < 10 ^ digitLimit) : IsTold (int n)
  | text (value : String) : IsTold (text value)
  | list {items : List Json} (told : ∀ item ∈ items, IsTold item) : IsTold (list items)
  | object {fields : List (String × Json)} (distinct : (fields.map (·.1)).Nodup)
      (told : ∀ field ∈ fields, IsTold field.2) : IsTold (object fields)

/-- A list of texts is told in full. -/
theorem IsTold.texts (items : List String) : IsTold (.texts items) := by
  refine .list fun item member => ?_
  obtain ⟨text, -, rfl⟩ := List.mem_map.mp member
  exact .text text

/-- An optional text is told in full. -/
theorem IsTold.optionalText (value : Option String) : IsTold (.optionalText value) := by
  cases value with
  | none => exact .null
  | some value => exact .text value

/-- Whether characters are white space. -/
def IsBlank (chars : List Char) : Prop :=
  ∀ c ∈ chars, Text.isSpace c = true

/-- Whether a text is a mark with white space around it. -/
def IsMark (mark : Char) (text : String) : Prop :=
  ∃ before after, text.toList = before ++ mark :: after ∧ IsBlank before ∧ IsBlank after

/-- A layout that puts nothing but white space around the marks. -/
structure Layout.IsSpaced (layout : Layout) : Prop where
  lineBreak (depth : Nat) : IsBlank (layout.lineBreak depth).toList
  comma : IsMark ',' layout.comma
  colon : IsMark ':' layout.colon

/-- Whether no number goes on in what follows it. -/
def EndsNumber (rest : List Char) : Prop :=
  ∀ c ∈ rest.head?, c.isDigit = false ∧ c ≠ '.' ∧ c ≠ 'e' ∧ c ≠ 'E'

/-- Whether the text of a value may begin with a character. -/
def opensValue (c : Char) : Bool :=
  c.isDigit || ['n', 't', 'f', '"', '-', '[', '{'].contains c

variable {layout : Layout} {chars rest space : List Char} {c : Char} {n : Nat}

section Strings

/-- A hexadecimal digit is read as what it was written for. -/
theorem hexDigit?_hexCharacter : ∀ n < 16, Text.hexDigit? (hexCharacter n) = some n := by
  decide

/-- The four digits of a unit are read as the unit. -/
theorem hexQuad?_escaped (bounded : n < 0x10000) (rest : List Char) :
    hexQuad? (hexCharacter (n / 4096 % 16) :: hexCharacter (n / 256 % 16) ::
      hexCharacter (n / 16 % 16) :: hexCharacter (n % 16) :: rest) = some (n, rest) := by
  have digit := fun m => hexDigit?_hexCharacter (m % 16) (Nat.mod_lt m (by decide))
  simp only [hexQuad?, digit, Option.some.injEq, Prod.mk.injEq, and_true]
  omega

/-- The unit of an escape is read, if something follows. -/
theorem readUnit_escaped (bounded : n < 0x10000) (rest : List Char) (more : rest ≠ []) :
    readUnit (hexCharacter (n / 4096 % 16) :: hexCharacter (n / 256 % 16) ::
      hexCharacter (n / 16 % 16) :: hexCharacter (n % 16) :: rest) = .ok (n, rest) := by
  obtain ⟨c, others, rfl⟩ := List.exists_cons_of_ne_nil more
  simp only [readUnit, hexQuad?_escaped bounded]

/-- The low half of a pair is read after the high one, if something follows. -/
theorem readPair_escaped {high : Nat} (low : 0xDC00 ≤ n ∧ n ≤ 0xDFFF) (more : rest ≠ []) :
    readPair high (escapedUnit n ++ rest) =
      .ok (0x10000 + (high - 0xD800) * 0x400 + (n - 0xDC00), rest) := by
  -- The four digits are not the end of the text, as the reader wants them to be.
  obtain ⟨c, others, rfl⟩ := List.exists_cons_of_ne_nil more
  have quad := hexQuad?_escaped (n := n) (by omega) (c :: others)
  simp only [escapedUnit, List.cons_append, List.nil_append, readPair, quad, low, decide_true,
    Bool.and_self, if_true]
  rw [if_neg (by simp)]

/-- A character is no half of a pair. -/
theorem toNat_cases (c : Char) :
    c.toNat < 0xD800 ∨ 0xDFFF < c.toNat ∧ c.toNat < 0x110000 :=
  c.valid

/-- How a character is written: as an escape of its own, as itself, as the escape of a unit or as
those of two halves. -/
theorem escapedChar_cases (c : Char) :
    (∃ mark, mark ≠ 'u' ∧ simpleEscape? mark = some c ∧ escapedChar c = ['\\', mark]) ∨
      (c ≠ '"' ∧ c ≠ '\\' ∧ 0x1F < c.toNat ∧ escapedChar c = [c]) ∨
      (c.toNat < 0x10000 ∧ escapedChar c = escapedUnit c.toNat) ∨
      (0x10000 ≤ c.toNat ∧ escapedChar c = escapedUnit (0xD800 + (c.toNat - 0x10000) / 0x400) ++
        escapedUnit (0xDC00 + (c.toNat - 0x10000) % 0x400)) := by
  -- Seven characters have escapes of their own; the others are told apart by their numbers.
  by_cases simple : c ∈ ['"', '\\', '\n', '\r', '\t', Char.ofNat 8, Char.ofNat 12]
  · refine .inl ?_
    simp only [List.mem_cons, List.not_mem_nil, or_false] at simple
    rcases simple with rfl | rfl | rfl | rfl | rfl | rfl | rfl
    · exact ⟨'"', by decide, rfl, rfl⟩
    · exact ⟨'\\', by decide, rfl, rfl⟩
    · exact ⟨'n', by decide, rfl, rfl⟩
    · exact ⟨'r', by decide, rfl, rfl⟩
    · exact ⟨'t', by decide, rfl, rfl⟩
    · exact ⟨'b', by decide, rfl, rfl⟩
    · exact ⟨'f', by decide, rfl, rfl⟩
  · have sized : ∀ n, Char.ofNat n ≠ c → c.toNat ≠ n := by
      rintro n other rfl
      exact other (Char.ofNat_toNat c)
    simp only [List.mem_cons, List.not_mem_nil, or_false, not_or] at simple
    obtain ⟨quote, backslash, line, carriage, tab, back, feed⟩ := simple
    have back := sized 8 (Ne.symm back)
    have feed := sized 12 (Ne.symm feed)
    refine .inr ?_
    simp only [escapedChar, beq_iff_eq, quote, backslash, line, carriage, tab, back, feed, if_false]
    by_cases plain : 0x20 ≤ c.toNat ∧ c.toNat ≤ 0x7E
    · refine .inl ⟨quote, backslash, by omega, ?_⟩
      simp [plain]
    · refine .inr ?_
      rw [if_neg (by simpa using plain)]
      by_cases single : c.toNat < 0x10000
      · exact .inl ⟨single, if_pos single⟩
      · exact .inr ⟨by omega, if_neg single⟩

variable (opening steps : Nat) (found : List Nat)

/-- The escape of a unit that is no half of a pair is read as the unit. -/
theorem readString_escapedUnit (single : n < 0xD800 ∨ 0xDFFF < n) (bounded : n < 0x10000)
    (more : rest ≠ []) : readString opening (steps + 1) found (escapedUnit n ++ rest) =
      readString opening steps (n :: found) rest := by
  have lone : ¬ (0xD800 ≤ n ∧ n ≤ 0xDBFF) := by omega
  simp only [escapedUnit, List.cons_append, List.nil_append, readString_unit,
    readUnit_escaped bounded rest more, Bind.bind, Except.bind, Bool.and_eq_true, decide_eq_true_eq,
    if_neg lone]

/-- The escapes of two halves are read as the code point that they make together. -/
theorem readString_escapedPair {high low : Nat} (isHigh : 0xD800 ≤ high ∧ high ≤ 0xDBFF)
    (isLow : 0xDC00 ≤ low ∧ low ≤ 0xDFFF) (more : rest ≠ []) :
    readString opening (steps + 1) found (escapedUnit high ++ (escapedUnit low ++ rest)) =
      readString opening steps
        ((0x10000 + (high - 0xD800) * 0x400 + (low - 0xDC00)) :: found) rest := by
  -- The first unit asks for a second one, and together they make one number.
  have unit := readUnit_escaped (n := high) (by omega) (escapedUnit low ++ rest) (by simp [more])
  rw [escapedUnit]
  simp only [List.cons_append, List.nil_append, readString_unit, unit, Bind.bind, Except.bind,
    Bool.and_eq_true, decide_eq_true_eq, if_pos isHigh, readPair_escaped isLow more]

/-- A character of a string is read as what it was written for. -/
theorem readString_escapedChar (c : Char) (more : rest ≠ []) :
    readString opening (steps + 1) found (escapedChar c ++ rest) =
      readString opening steps (c.toNat :: found) rest := by
  -- Each of the four forms of an escaped character is read in one step.
  have valid := toNat_cases c
  obtain ⟨mark, other, means, line⟩ | ⟨quote, backslash, visible, line⟩ | ⟨single, line⟩ |
    ⟨wide, line⟩ := escapedChar_cases c
  · rw [line, List.cons_append, List.cons_append, List.nil_append,
      readString_escape opening steps found rest other, means]
  · rw [line, List.cons_append, List.nil_append,
      readString_cons opening steps found rest quote backslash, if_neg (by omega)]
  · rw [line, readString_escapedUnit opening steps found (by omega) single more]
  -- Split into two units and joined again, the number is the same.
  · have whole : 0x10000 + (0xD800 + (c.toNat - 0x10000) / 0x400 - 0xD800) * 0x400 +
        (0xDC00 + (c.toNat - 0x10000) % 0x400 - 0xDC00) = c.toNat := by omega
    rw [line, List.append_assoc,
      readString_escapedPair opening steps found (by omega) (by omega) more, whole]

/-- The characters of a string are read up to its closing quote. -/
theorem readString_escaped (value rest : List Char) (enough : value.length < steps) :
    readString opening steps found (value.flatMap escapedChar ++ '"' :: rest) =
      .ok (found.reverse ++ value.map Char.toNat, rest) := by
  -- Every character takes one step, and the quote the last one.
  induction value generalizing steps found with
  | nil =>
    obtain ⟨fewer, rfl⟩ : ∃ fewer, steps = fewer + 1 := ⟨steps - 1, by simp at enough; omega⟩
    rw [List.flatMap_nil, List.nil_append, readString_quote]
    simp
  | cons c value ih =>
    rw [List.length_cons] at enough
    obtain ⟨fewer, rfl⟩ : ∃ fewer, steps = fewer + 1 := ⟨steps - 1, by omega⟩
    rw [List.flatMap_cons, List.append_assoc, readString_escapedChar _ _ _ _ (by simp),
      ih fewer _ (by omega)]
    simp

/-- A written string is read up to its closing quote. -/
theorem readStringAfterQuote_quoted (value : String) (rest : List Char) :
    readStringAfterQuote (value.toList.flatMap escapedChar ++ '"' :: rest) =
      .ok (value.toList.map Char.toNat, rest) := by
  -- Every character takes at least one step, so the length of the text is enough of them.
  have longer : ∀ chars : List Char, chars.length ≤ (chars.flatMap escapedChar).length := by
    intro chars
    have longer : ∀ c, 1 ≤ (escapedChar c).length := by
      intro c
      obtain ⟨_, _, _, line⟩ | ⟨_, _, _, line⟩ | ⟨_, line⟩ | ⟨_, line⟩ := escapedChar_cases c <;>
        rw [line] <;> simp [escapedUnit]
    induction chars with
    | nil => rfl
    | cons c chars ih =>
      rw [List.flatMap_cons, List.length_append, List.length_cons]
      have := longer c
      omega
  have enough := longer value.toList
  rw [readStringAfterQuote, readString_escaped]
  · rfl
  · rw [List.length_append, List.length_cons]
    omega

/-- The code points of a text make the text. -/
theorem textOf_toNat (value : String) : textOf (value.toList.map Char.toNat) = value := by
  have whole : ∀ c : Char, ¬ (0xD800 ≤ c.toNat ∧ c.toNat ≤ 0xDFFF) := by
    intro c
    have := toNat_cases c
    omega
  simp [textOf, whole, Function.comp_def, Char.ofNat_toNat]

/-- The code points of a text are the value that the text is. -/
theorem stringValue_toNat (value : String) :
    stringValue (value.toList.map Char.toNat) = text value := by
  -- Characters are no halves of surrogate pairs, so the numbers make a text.
  have whole : ∀ c ∈ value.toList, ¬ (0xD800 ≤ c.toNat ∧ c.toNat ≤ 0xDFFF) := by
    intro c _
    have := toNat_cases c
    omega
  rw [stringValue, if_neg, textOf_toNat]
  simpa using whole

end Strings

section Numbers

/-- The digits of a number begin with a zero only if it is zero. -/
theorem toDigits_zero (n : Nat) (begins : '0' ∈ (Nat.toDigits 10 n).head?) : n = 0 := by
  induction n using Nat.strongRecOn with
  | ind n ih =>
    rw [Nat.toDigits_eq_if (by decide)] at begins
    split at begins
    · next small =>
      revert begins
      have single : ∀ n < 10, '0' ∈ [n.digitChar].head? → n = 0 := by decide
      exact single n small
    · next large =>
      -- The first digit is that of the tenth part, which is no zero.
      rw [List.head?_append_of_ne_nil _ Nat.toDigits_ne_nil] at begins
      have := ih (n / 10) (by omega) begins
      omega

/-- The digits of a number are read as the whole part of a number, if no number goes on. -/
theorem wholeDigits_toDigits (n : Nat) (ends : EndsNumber rest) :
    wholeDigits (Nat.toDigits 10 n ++ rest) = Nat.toDigits 10 n := by
  -- The digits end where what follows the number is no digit.
  have digits : ∀ c ∈ Nat.toDigits 10 n, c.isDigit = true := fun c member =>
    Nat.isDigit_of_mem_toDigits (by decide) (by decide) member
  have taken : (Nat.toDigits 10 n ++ rest).takeWhile (·.isDigit) = Nat.toDigits 10 n := by
    rw [List.takeWhile_append_of_pos digits]
    cases rest with
    | nil => simp
    | cons c others => simp [(ends c rfl).1]
  unfold wholeDigits
  split
  · next others begins =>
    -- Only zero is written with a leading zero, and then there is nothing after it.
    have zero : n = 0 := by
      refine toDigits_zero n ?_
      rw [← List.head?_append_of_ne_nil _ Nat.toDigits_ne_nil, begins]
      rfl
    rw [zero]
    rfl
  · exact taken

/-- The digits of a number have its value. -/
theorem decimalValue_toDigits (n : Nat) : decimalValue (Nat.toDigits 10 n) = n := by
  have value := Nat.ofDigitChars_toDigits (b := 10) (n := n) (by decide) (by decide)
  simp only [Nat.ofDigitChars, Nat.mul_comm] at value
  exact value

/-- Where no number goes on there are no decimals. -/
theorem readDecimals_none (ends : EndsNumber rest) : readDecimals rest = ([], rest) := by
  unfold readDecimals
  split
  · exact absurd rfl (ends '.' rfl).2.1
  · rfl

/-- Where no number goes on there is no exponent. -/
theorem readPower?_none (ends : EndsNumber rest) : readPower? rest = none := by
  unfold readPower?
  split
  · exact absurd rfl (ends 'e' rfl).2.2.1
  · exact absurd rfl (ends 'E' rfl).2.2.2
  · rfl

/-- A number with or without a minus sign is read from its digits. -/
theorem readNumber?_toDigits (negative : Bool) (chars : List Char) (short : n < 10 ^ digitLimit)
    (signed : readSign chars = (negative, Nat.toDigits 10 n ++ rest)) (ends : EndsNumber rest) :
    readNumber? chars = some (.ok (int (if negative then -(n : Int) else n), rest)) := by
  -- The number is short enough for the limit on digits, and neither decimals nor exponent follow.
  have few : ¬ (Nat.toDigits 10 n).length > digitLimit :=
    not_lt.mpr ((Nat.length_toDigits_le_iff (by decide) (by decide)).mpr short)
  have some : (Nat.toDigits 10 n).isEmpty = false := by simp
  simp only [readNumber?, signed, wholeDigits_toDigits n ends, some, List.drop_left,
    readDecimals_none ends, readPower?_none ends, few, decimalValue_toDigits, Bool.false_eq_true,
    if_false]

/-- The text of a whole number is its digits, after a minus sign if it is negative. -/
theorem toString_int (n : Int) :
    (0 ≤ n ∧ (toString n).toList = Nat.toDigits 10 n.natAbs) ∨
      (n < 0 ∧ (toString n).toList = '-' :: Nat.toDigits 10 n.natAbs) := by
  -- The sign decides which of the two forms is written.
  rw [Int.toString_eq_repr, Int.repr_eq_if]
  split
  · next natural =>
    have size : n.toNat = n.natAbs := by omega
    exact .inl ⟨natural, by rw [Nat.toList_repr, size]⟩
  · next negative =>
    have size : (-n).toNat = n.natAbs := by omega
    exact .inr ⟨by omega, by rw [String.toList_append, Nat.toList_repr, size]; rfl⟩

end Numbers

section Marks

/-- No characters are white space. -/
theorem isBlank_nil : IsBlank [] :=
  List.forall_mem_nil _

/-- White space is skipped up to a character that is none. -/
theorem skipSpace_blank (blank : IsBlank space) (mark : Text.isSpace c = false) (rest : List Char) :
    skipSpace (space ++ c :: rest) = c :: rest := by
  rw [skipSpace, List.dropWhile_append_of_pos blank, List.dropWhile_cons_of_neg (by simp [mark])]

/-- A closing bracket after white space is read as such. -/
theorem readSeparator_closing {closing : Char} (blank : IsBlank space)
    (mark : Text.isSpace closing = false) (rest : List Char) :
    readSeparator closing (space ++ closing :: rest) = .ok (true, rest) := by
  simp [readSeparator, skipSpace_blank blank mark]

/-- A comma with white space around it is read as such. -/
theorem readSeparator_comma {closing : Char} {comma : String} (isComma : IsMark ',' comma)
    (blank : IsBlank space) (other : closing ≠ ',') (mark : Text.isSpace c = false) (rest : List Char) :
    readSeparator closing (comma.toList ++ (space ++ c :: rest)) = .ok (false, c :: rest) := by
  obtain ⟨before, after, line, blankBefore, blankAfter⟩ := isComma
  -- The blanks after the comma are those of the mark and those that follow it.
  have blanks : IsBlank (after ++ space) := by
    intro c member
    rcases List.mem_append.mp member with first | second
    · exact blankAfter c first
    · exact blank c second
  have skipped := skipSpace_blank blanks mark rest
  rw [List.append_assoc] at skipped
  rw [line, List.append_assoc, List.cons_append, readSeparator,
    skipSpace_blank blankBefore (by decide)]
  simp [other.symm, skipped]

/-- No number goes on in white space or what follows it, if it does not in that. -/
theorem endsNumber_blank (blank : IsBlank space) (ends : EndsNumber rest) :
    EndsNumber (space ++ rest) := by
  -- A blank is no part of a number; without blanks what follows is looked at.
  cases space with
  | nil => exact ends
  | cons c others =>
    rintro _ ⟨⟩
    have space := blank c (by simp)
    simp only [Text.isSpace, Bool.or_eq_true, beq_iff_eq] at space
    rcases space with ((rfl | rfl) | rfl) | rfl <;> decide

/-- No number goes on in a mark with white space around it. -/
theorem endsNumber_mark {mark : Char} {text : String} (isMark : IsMark mark text)
    (ends : EndsNumber [mark]) (rest : List Char) : EndsNumber (text.toList ++ rest) := by
  obtain ⟨before, after, line, blank, -⟩ := isMark
  rw [line, List.append_assoc, List.cons_append]
  exact endsNumber_blank blank ends

/-- What a value begins with is no white space, closes no list and marks no byte order. -/
theorem opensValue_other (opens : opensValue c = true) :
    Text.isSpace c = false ∧ c ≠ ']' ∧ c ≠ Char.ofNat 0xFEFF := by
  rw [opensValue, Bool.or_eq_true, List.contains_iff_mem] at opens
  -- A digit differs from all the marks, and the other first characters are looked at one by one.
  rcases opens with digit | mark
  · have different : ∀ other : Char, other.isDigit = false → c ≠ other := by
      rintro other none rfl
      rw [digit] at none
      cases none
    simp [Text.isSpace, different]
  · simp only [List.mem_cons, List.not_mem_nil, or_false] at mark
    rcases mark with rfl | rfl | rfl | rfl | rfl | rfl | rfl <;> decide

end Marks

/-- Line breaks with blanks after them, and a blank after a colon, are white space. -/
theorem indented_isSpaced : indented.IsSpaced where
  lineBreak depth := by
    intro c member
    rw [indented, String.toList_ofList, List.mem_cons, List.mem_replicate] at member
    rcases member with rfl | ⟨-, rfl⟩ <;> rfl
  comma := ⟨[], [], rfl, isBlank_nil, isBlank_nil⟩
  colon := ⟨[], [' '], rfl, isBlank_nil, by simp [IsBlank, Text.isSpace]⟩

section Values

/-- Whether a value is read back from its text at every depth, whatever follows it and ends a
number. Every step takes at least one character. -/
structure ReadsBack (layout : Layout) (value : Json) : Prop where
  begins (depth : Nat) :
    ∃ c after, (write layout depth value).toList = c :: after ∧ opensValue c = true
  reads (depth steps : Nat) (rest : List Char) (ends : EndsNumber rest)
    (enough : (write layout depth value).toList.length ≤ steps) :
    readValue steps ((write layout depth value).toList ++ rest) = .ok (value, rest)

/-- A value that holds no others is read back, if it is from its text as such a value. -/
theorem readsBack_scalar {value : Json} (c : Char) (chars : List Char)
    (line : ∀ depth, (write layout depth value).toList = c :: chars)
    (opens : opensValue c = true) (single : c ≠ '[' ∧ c ≠ '{')
    (reads : ∀ rest, EndsNumber rest → readScalar (c :: chars ++ rest) = .ok (value, rest)) :
    ReadsBack layout value where
  begins depth := ⟨c, chars, line depth, opens⟩
  reads depth steps rest ends enough := by
    -- A scalar takes one step, whatever its length.
    rw [line, List.length_cons] at enough
    obtain ⟨fewer, rfl⟩ : ∃ fewer, steps = fewer + 1 := ⟨steps - 1, by omega⟩
    rw [line, readValue_scalar]
    · exact reads rest ends
    · rintro after ⟨⟩
      exact single.2 rfl
    · rintro after ⟨⟩
      exact single.1 rfl

/-- The words that stand for values, character by character. -/
theorem constants_chars : constants.map (·.1) =
    [['n', 'u', 'l', 'l'], ['t', 'r', 'u', 'e'], ['f', 'a', 'l', 's', 'e'], ['N', 'a', 'N'],
      ['I', 'n', 'f', 'i', 'n', 'i', 't', 'y'],
      ['-', 'I', 'n', 'f', 'i', 'n', 'i', 't', 'y']] :=
  rfl

/-- What begins like none of the words that stand for values is none of them. -/
theorem findConstant_none (other : c ∉ ['n', 't', 'f', 'N', 'I'])
    (signed : c = '-' → 'I' ∉ chars.head?) :
    constants.find? (fun constant => constant.1.isPrefixOf (c :: chars)) = none := by
  -- No constant begins with such a character; the last one begins with a sign.
  rw [List.find?_eq_none]
  intro constant member begins
  have word := List.mem_map_of_mem (f := (·.1)) member
  rw [constants_chars] at word
  simp only [List.mem_cons, List.not_mem_nil, or_false, not_or] at other word
  obtain ⟨rest, line⟩ := List.isPrefixOf_iff_prefix.mp begins
  rcases word with same | same | same | same | same | same <;> rw [same] at line <;>
    simp only [List.cons_append, List.cons.injEq] at line
  · exact other.1 line.1.symm
  · exact other.2.1 line.1.symm
  · exact other.2.2.1 line.1.symm
  · exact other.2.2.2.1 line.1.symm
  · exact other.2.2.2.2 line.1.symm
  · refine signed line.1.symm ?_
    rw [← line.2]
    rfl

/-- What begins with a quote is read as a string. -/
theorem readScalar_quote (chars : List Char) : readScalar ('"' :: chars) = (do
    let (codes, rest) ← readStringAfterQuote chars
    .ok (stringValue codes, rest)) := by
  unfold readScalar
  rw [findConstant_none (by decide) fun same => absurd same (by decide)]
  rfl

/-- What is neither a word nor a string is read as a number. -/
theorem readScalar_number {found : Json} (other : c ∉ ['n', 't', 'f', 'N', 'I', '"'])
    (signed : c = '-' → 'I' ∉ chars.head?)
    (read : readNumber? (c :: chars) = some (.ok (found, rest))) :
    readScalar (c :: chars) = .ok (found, rest) := by
  -- A number begins neither like a constant nor with a quote.
  have none : c ∉ ['n', 't', 'f', 'N', 'I'] := by
    simp_all
  unfold readScalar
  rw [findConstant_none none signed, read]
  dsimp only
  split
  · next same =>
    cases same
    exact absurd (by decide) other
  · rfl

/-- A whole number that is not too long is read back. -/
theorem readsBack_int {k : Int} (short : k.natAbs < 10 ^ digitLimit) :
    ReadsBack layout (int k) := by
  -- A number begins with a digit, and a negative one with a sign before it.
  obtain ⟨d, digits, split⟩ := List.exists_cons_of_ne_nil
    (Nat.toDigits_ne_nil (n := k.natAbs) (b := 10))
  have digit : d.isDigit = true :=
    Nat.isDigit_of_mem_toDigits (b := 10) (n := k.natAbs) (by decide) (by decide) (by simp [split])
  have different : ∀ other : Char, other.isDigit = false → d ≠ other := by
    rintro other none rfl
    rw [digit] at none
    cases none
  obtain ⟨natural, line⟩ | ⟨negative, line⟩ := toString_int k
  · rw [split] at line
    refine readsBack_scalar _ _ (fun depth => by rw [write, line]) (by simp [opensValue, digit])
      ⟨different _ rfl, different _ rfl⟩ fun rest ends => ?_
    have unsigned : readSign (d :: (digits ++ rest)) =
        (false, Nat.toDigits 10 k.natAbs ++ rest) := by
      rw [split, List.cons_append, readSign]
      exact fun _ same => different '-' rfl (by cases same; rfl)
    have read := readNumber?_toDigits false _ short unsigned ends
    have whole : (k.natAbs : Int) = k := by omega
    rw [if_neg (by decide), whole] at read
    exact readScalar_number (by simp [different]) (fun same => absurd same (different '-' rfl)) read
  · refine readsBack_scalar _ _ (fun depth => by rw [write, line]) rfl ⟨by decide, by decide⟩
      fun rest ends => ?_
    have read := readNumber?_toDigits true ('-' :: (Nat.toDigits 10 k.natAbs ++ rest)) short rfl
      ends
    have whole : -(k.natAbs : Int) = k := by omega
    rw [if_pos rfl, whole] at read
    refine readScalar_number (by decide) (fun _ => ?_) read
    simpa [split] using different 'I' rfl

/-- A text is read back. -/
theorem readsBack_text (value : String) : ReadsBack layout (text value) := by
  refine readsBack_scalar '"' (value.toList.flatMap escapedChar ++ ['"'])
    (fun depth => ?_) rfl ⟨by decide, by decide⟩ fun rest ends => ?_
  · rw [write, quoted, String.toList_ofList, List.cons_append]
  · rw [List.cons_append, readScalar_quote, List.append_assoc, List.cons_append, List.nil_append,
      readStringAfterQuote_quoted]
    simp only [Bind.bind, Except.bind, stringValue_toNat]

/-- The words for nothing and for truth values are read back. -/
theorem readsBack_word {value : Json} {word : String}
    (line : ∀ depth, write layout depth value = word)
    (among : (word.toList, value) ∈ constants.take 3) : ReadsBack layout value := by
  -- The three words are the first of the constants that are looked for.
  simp only [constants, List.take, List.mem_cons, Prod.mk.injEq, List.not_mem_nil,
    or_false] at among
  rcases among with ⟨same, rfl⟩ | ⟨same, rfl⟩ | ⟨same, rfl⟩
  all_goals
    exact readsBack_scalar _ _ (fun depth => by rw [line, same]; rfl) rfl ⟨by decide, by decide⟩
      fun rest ends => rfl

/-- The texts of items, one by one. -/
theorem writeItems_eq_map (layout : Layout) (depth : Nat) (items : List Json) :
    writeItems layout depth items = items.map (write layout depth) := by
  induction items with
  | nil => rfl
  | cons item items ih => rw [writeItems, ih, List.map_cons]

/-- The text of a field. -/
def writeField (layout : Layout) (depth : Nat) (field : String × Json) : String :=
  quoted field.1 ++ layout.colon ++ write layout depth field.2

/-- The texts of fields, one by one. -/
theorem writeFields_eq_map (layout : Layout) (depth : Nat) (fields : List (String × Json)) :
    writeFields layout depth fields = fields.map (writeField layout depth) := by
  induction fields with
  | nil => rfl
  | cons field fields ih => rw [writeFields, ih, List.map_cons, writeField]

/-- Texts with a comma and a line break between them. -/
def separated (layout : Layout) (depth : Nat) (texts : List String) : List Char :=
  ((layout.comma ++ layout.lineBreak depth).intercalate texts).toList

/-- One text alone has nothing put between. -/
theorem separated_singleton (layout : Layout) (depth : Nat) (text : String) :
    separated layout depth [text] = text.toList := by
  rw [separated, String.intercalate_singleton]

/-- The first of several texts comes before a comma and a line break. -/
theorem separated_cons (layout : Layout) (depth : Nat) (first second : String)
    (others : List String) :
    separated layout depth (first :: second :: others) =
      first.toList ++ (layout.comma.toList ++ ((layout.lineBreak depth).toList ++
        separated layout depth (second :: others))) := by
  rw [separated, String.intercalate_cons_cons]
  simp only [String.toList_append, List.append_assoc, separated]

/-- Separated texts begin as the first one does. -/
theorem separated_begins {first : String} (depth : Nat) (others : List String)
    (begins : first.toList = c :: chars) :
    ∃ after, separated layout depth (first :: others) = c :: after := by
  cases others with
  | nil => exact ⟨chars, by rw [separated_singleton, begins]⟩
  | cons second others => exact ⟨_, by rw [separated_cons, begins, List.cons_append]⟩

/-- Brackets with nothing between them. -/
theorem bracketed_nil (layout : Layout) (depth : Nat) (opening closing : String) :
    bracketed layout depth opening closing [] = opening ++ closing := by
  simp [bracketed]

/-- The text between brackets, where there is some. -/
theorem bracketed_cons (layout : Layout) (depth : Nat) (opening closing first : String)
    (others : List String) :
    (bracketed layout depth opening closing (first :: others)).toList =
      opening.toList ++ ((layout.lineBreak (depth + 1)).toList ++
        (separated layout (depth + 1) (first :: others) ++
          ((layout.lineBreak depth).toList ++ closing.toList))) := by
  simp [bracketed, separated, String.toList_append, List.append_assoc]

/-- A mark with white space around it is not empty. -/
theorem IsMark.length_pos {mark : Char} {text : String} (isMark : IsMark mark text) :
    0 < text.toList.length := by
  obtain ⟨before, after, line, -, -⟩ := isMark
  rw [line, List.length_append, List.length_cons]
  omega

/-- An item that is read back is read, and then what closes the list or separates it. -/
theorem readItems_item {item : Json} (back : ReadsBack layout item) {depth steps : Nat}
    (found : List Json) (ends : EndsNumber rest)
    (enough : (write layout depth item).toList.length ≤ steps) :
    readItems (steps + 1) found ((write layout depth item).toList ++ rest) = (do
      let (closed, rest) ← readSeparator ']' rest
      if closed then .ok (list (item :: found).reverse, rest)
      else readItems steps (item :: found) rest) := by
  -- The item is read back first; the separator after it decides how to go on.
  rw [readItems, back.reads depth steps rest ends enough]
  rfl

/-- A new key goes to the end of the fields. -/
theorem setField_new {key : String} {value : Json} {fields : List (String × Json)}
    (new : key ∉ fields.map (·.1)) : setField key value fields = fields ++ [(key, value)] := by
  induction fields with
  | nil => rfl
  | cons field fields ih =>
    rw [List.map_cons, List.mem_cons, not_or] at new
    rw [setField, if_neg (by simpa using Ne.symm new.1), ih new.2, List.cons_append]

/-- The text of a field is a key, a colon and a value. -/
theorem writeField_chars (layout : Layout) (depth : Nat) (field : String × Json) :
    (writeField layout depth field).toList =
      '"' :: (field.1.toList.flatMap escapedChar ++ '"' :: (layout.colon.toList ++
        (write layout depth field.2).toList)) := by
  simp [writeField, quoted, String.toList_append]

variable (spaced : layout.IsSpaced)

include spaced

/-- A field that is read back is read, and then what closes the object or separates it. -/
theorem readFields_field {field : String × Json} (back : ReadsBack layout field.2)
    {depth steps : Nat} (found : List (String × Json)) (ends : EndsNumber rest)
    (enough : (writeField layout depth field).toList.length ≤ steps) :
    readFields (steps + 1) found ((writeField layout depth field).toList ++ rest) = (do
      let (closed, rest) ← readSeparator '}' rest
      if closed then .ok (object (setField field.1 field.2 found), rest)
      else readFields steps (setField field.1 field.2 found) rest) := by
  obtain ⟨c, value, begins, opens⟩ := back.begins depth
  obtain ⟨before, after, colon, blankBefore, blankAfter⟩ := spaced.colon
  -- The steps suffice for the value, which is shorter than the field.
  rw [writeField_chars, List.length_cons, List.length_append, List.length_cons, List.length_append]
    at enough
  have read := back.reads depth steps rest ends (by omega)
  have skipped := skipSpace_blank blankAfter (opensValue_other opens).1 (value ++ rest)
  rw [begins, List.cons_append] at read
  rw [writeField_chars, List.cons_append, readFields, List.append_assoc, List.cons_append,
    readStringAfterQuote_quoted, colon, begins]
  simp only [Bind.bind, Except.bind, List.append_assoc, List.cons_append,
    skipSpace_blank blankBefore (c := ':') (by decide), skipped, read, textOf_toNat]

/-- A comma and a line break are read before a text that is not blank. -/
theorem readSeparator_separated {closing : Char} (other : closing ≠ ',') (depth : Nat)
    (mark : Text.isSpace c = false) (rest : List Char) :
    readSeparator closing (layout.comma.toList ++ ((layout.lineBreak depth).toList ++ c :: rest)) =
      .ok (false, c :: rest) :=
  readSeparator_comma spaced.comma (spaced.lineBreak depth) other mark rest

/-- No number goes on in a comma. -/
theorem endsNumber_comma (rest : List Char) : EndsNumber (layout.comma.toList ++ rest) :=
  endsNumber_mark spaced.comma (by rintro _ ⟨⟩; decide) rest

/-- Items that are read back one by one are read back as the items of a list. -/
theorem readItems_written {depth : Nat} {first : Json} (items found : List Json) (steps : Nat)
    (back : ∀ item ∈ first :: items, ReadsBack layout item) (blank : IsBlank space)
    (rest : List Char)
    (enough : (separated layout depth ((first :: items).map (write layout depth))).length < steps) :
    readItems steps found (separated layout depth ((first :: items).map (write layout depth)) ++
      (space ++ ']' :: rest)) = .ok (list (found.reverse ++ first :: items), rest) := by
  -- Every item takes one step, and its text at least one character.
  obtain ⟨fewer, rfl⟩ : ∃ fewer, steps = fewer + 1 := ⟨steps - 1, by omega⟩
  induction items generalizing first found fewer with
  | nil =>
    rw [List.map_singleton, separated_singleton] at enough ⊢
    have ends : EndsNumber (space ++ ']' :: rest) := endsNumber_blank blank (by rintro _ ⟨⟩; decide)
    rw [readItems_item (back first List.mem_cons_self) found ends (by omega),
      readSeparator_closing blank (by decide)]
    simp [Bind.bind, Except.bind]
  | cons second others ih =>
    obtain ⟨c, _, begins, opens⟩ := (back second (by simp)).begins depth
    obtain ⟨after, next⟩ : ∃ after, separated layout depth
        ((second :: others).map (write layout depth)) = c :: after :=
      separated_begins depth _ begins
    have comma := spaced.comma.length_pos
    rw [List.map_cons, List.map_cons, separated_cons, ← List.map_cons] at enough ⊢
    simp only [List.length_append] at enough
    obtain ⟨fewer, rfl⟩ : ∃ fewest, fewer = fewest + 1 := ⟨fewer - 1, by omega⟩
    have later := ih (first :: found)
      (fun item member => back item (List.mem_cons_of_mem _ member)) fewer (by omega)
    rw [next, List.cons_append] at later
    simp only [List.append_assoc, next, List.cons_append]
    rw [readItems_item (back first List.mem_cons_self) found (endsNumber_comma spaced _) (by omega),
      readSeparator_separated spaced (by decide) depth (opensValue_other opens).1]
    simp only [Bind.bind, Except.bind, Bool.false_eq_true, if_false]
    rw [later, List.reverse_cons, List.append_assoc, List.singleton_append]

/-- Fields that are read back one by one are read back as the fields of an object. -/
theorem readFields_written {depth : Nat} {first : String × Json}
    (fields found : List (String × Json)) (steps : Nat)
    (back : ∀ field ∈ first :: fields, ReadsBack layout field.2)
    (distinct : ((found ++ first :: fields).map (·.1)).Nodup) (blank : IsBlank space)
    (rest : List Char)
    (enough : (separated layout depth
      ((first :: fields).map (writeField layout depth))).length < steps) :
    readFields steps found (separated layout depth
      ((first :: fields).map (writeField layout depth)) ++ (space ++ '}' :: rest)) =
        .ok (object (found ++ first :: fields), rest) := by
  obtain ⟨fewer, rfl⟩ : ∃ fewer, steps = fewer + 1 := ⟨steps - 1, by omega⟩
  -- The next key is none of those that were found before it.
  have new : ∀ {found others : List (String × Json)} {field : String × Json},
      ((found ++ field :: others).map (·.1)).Nodup → field.1 ∉ found.map (·.1) := by
    intro found others field distinct among
    rw [List.map_append, List.map_cons, List.nodup_append] at distinct
    exact distinct.2.2 _ among _ List.mem_cons_self rfl
  induction fields generalizing first found fewer with
  | nil =>
    rw [List.map_singleton, separated_singleton] at enough ⊢
    have ends : EndsNumber (space ++ '}' :: rest) := endsNumber_blank blank (by rintro _ ⟨⟩; decide)
    rw [readFields_field spaced (back first List.mem_cons_self) found ends (by omega),
      readSeparator_closing blank (by decide), setField_new (new distinct)]
    simp [Bind.bind, Except.bind]
  | cons second others ih =>
    obtain ⟨after, next⟩ : ∃ after, separated layout depth
        ((second :: others).map (writeField layout depth)) = '"' :: after :=
      separated_begins depth _ (writeField_chars layout depth second)
    have comma := spaced.comma.length_pos
    rw [List.map_cons, List.map_cons, separated_cons, ← List.map_cons] at enough ⊢
    simp only [List.length_append] at enough
    obtain ⟨fewer, rfl⟩ : ∃ fewest, fewer = fewest + 1 := ⟨fewer - 1, by omega⟩
    have later := ih (found ++ [first])
      (fun field member => back field (List.mem_cons_of_mem _ member)) (by simpa using distinct)
      fewer (by omega)
    rw [next, List.cons_append] at later
    simp only [List.append_assoc, next, List.cons_append]
    rw [readFields_field spaced (back first List.mem_cons_self) found (endsNumber_comma spaced _)
      (by omega), readSeparator_separated spaced (by decide) depth (by decide),
      setField_new (new distinct)]
    simp only [Bind.bind, Except.bind, Bool.false_eq_true, if_false]
    rw [later, List.append_assoc, List.singleton_append]

/-- A list whose items are read back is read back. -/
theorem readsBack_list {items : List Json} (back : ∀ item ∈ items, ReadsBack layout item) :
    ReadsBack layout (list items) := by
  -- An empty list is closed at once; otherwise the opening bracket is followed by the first item.
  cases items with
  | nil =>
    have line : ∀ depth, (write layout depth (list [])).toList = ['[', ']'] := by
      intro depth
      rw [write, writeItems, bracketed_nil]
      rfl
    refine ⟨fun depth => ⟨_, _, line depth, rfl⟩, fun depth steps rest ends enough => ?_⟩
    rw [line] at enough ⊢
    rw [List.length_cons] at enough
    obtain ⟨fewer, rfl⟩ : ∃ fewer, steps = fewer + 1 := ⟨steps - 1, by omega⟩
    rfl
  | cons first items =>
    have line : ∀ depth, (write layout depth (list (first :: items))).toList =
        '[' :: ((layout.lineBreak (depth + 1)).toList ++
          (separated layout (depth + 1) ((first :: items).map (write layout (depth + 1))) ++
            ((layout.lineBreak depth).toList ++ [']']))) := by
      intro depth
      rw [write, writeItems_eq_map, List.map_cons, bracketed_cons]
      rfl
    refine ⟨fun depth => ⟨_, _, line depth, rfl⟩, fun depth steps rest ends enough => ?_⟩
    -- What begins a value does not close the list.
    obtain ⟨c, _, begins, opens⟩ := (back first List.mem_cons_self).begins (depth + 1)
    obtain ⟨space, closes, opened⟩ := opensValue_other opens
    obtain ⟨after, next⟩ : ∃ after, separated layout (depth + 1)
        ((first :: items).map (write layout (depth + 1))) = c :: after :=
      separated_begins (depth + 1) _ begins
    rw [line] at enough ⊢
    simp only [List.length_cons, List.length_append] at enough
    obtain ⟨fewer, rfl⟩ : ∃ fewer, steps = fewer + 1 := ⟨steps - 1, by omega⟩
    have read : readItems fewer [] (separated layout (depth + 1)
        ((first :: items).map (write layout (depth + 1))) ++
          ((layout.lineBreak depth).toList ++ ']' :: rest)) = .ok (list (first :: items), rest) :=
      readItems_written spaced items [] fewer back (spaced.lineBreak depth) rest (by omega)
    rw [next, List.cons_append] at read
    simp only [List.cons_append, List.append_assoc, next, List.nil_append]
    rw [readValue, skipSpace_blank (spaced.lineBreak (depth + 1)) space]
    split
    · next same =>
      cases same
      exact absurd rfl closes
    · exact read

/-- An object whose fields are read back is read back, if no key is there twice. -/
theorem readsBack_object {fields : List (String × Json)} (distinct : (fields.map (·.1)).Nodup)
    (back : ∀ field ∈ fields, ReadsBack layout field.2) : ReadsBack layout (object fields) := by
  -- An empty object is closed at once; otherwise the opening brace is followed by the first key.
  cases fields with
  | nil =>
    have line : ∀ depth, (write layout depth (object [])).toList = ['{', '}'] := by
      intro depth
      rw [write, writeFields, bracketed_nil]
      rfl
    refine ⟨fun depth => ⟨_, _, line depth, rfl⟩, fun depth steps rest ends enough => ?_⟩
    rw [line] at enough ⊢
    rw [List.length_cons] at enough
    obtain ⟨fewer, rfl⟩ : ∃ fewer, steps = fewer + 1 := ⟨steps - 1, by omega⟩
    rfl
  | cons first fields =>
    have line : ∀ depth, (write layout depth (object (first :: fields))).toList =
        '{' :: ((layout.lineBreak (depth + 1)).toList ++
          (separated layout (depth + 1) ((first :: fields).map (writeField layout (depth + 1))) ++
            ((layout.lineBreak depth).toList ++ ['}']))) := by
      intro depth
      rw [write, writeFields_eq_map, List.map_cons, bracketed_cons]
      rfl
    refine ⟨fun depth => ⟨_, _, line depth, rfl⟩, fun depth steps rest ends enough => ?_⟩
    obtain ⟨after, next⟩ : ∃ after, separated layout (depth + 1)
        ((first :: fields).map (writeField layout (depth + 1))) = '"' :: after :=
      separated_begins (depth + 1) _ (writeField_chars layout (depth + 1) first)
    rw [line] at enough ⊢
    simp only [List.length_cons, List.length_append] at enough
    obtain ⟨fewer, rfl⟩ : ∃ fewer, steps = fewer + 1 := ⟨steps - 1, by omega⟩
    have read : readFields fewer [] (separated layout (depth + 1)
        ((first :: fields).map (writeField layout (depth + 1))) ++
          ((layout.lineBreak depth).toList ++ '}' :: rest)) =
            .ok (object (first :: fields), rest) :=
      readFields_written spaced fields [] fewer back distinct (spaced.lineBreak depth) rest
        (by omega)
    rw [next, List.cons_append] at read
    simp only [List.cons_append, List.append_assoc, next, List.nil_append]
    rw [readValue, skipSpace_blank (c := '"') (spaced.lineBreak (depth + 1)) rfl]
    exact read

/-- A value that its text tells in full is read back from it. -/
theorem readsBack_of_isTold {value : Json} (told : IsTold value) : ReadsBack layout value := by
  -- Lists and objects are read back because their parts are, which the induction gives.
  induction told with
  | null => exact readsBack_word (fun _ => rfl) (by simp [constants])
  | bool value => cases value <;> exact readsBack_word (fun _ => rfl) (by simp [constants])
  | int short => exact readsBack_int short
  | text value => exact readsBack_text value
  | list told back => exact readsBack_list spaced back
  | object distinct told back => exact readsBack_object spaced distinct back

/-- A value that its text tells in full is what is read from the text, and white space after it. -/
theorem read_write {value : Json} (told : IsTold value) (depth : Nat) (blank : IsBlank space) :
    read ((write layout depth value).toList ++ space) = .ok value := by
  have back := readsBack_of_isTold spaced told
  obtain ⟨c, after, begins, opens⟩ := back.begins depth
  obtain ⟨mark, -, order⟩ := opensValue_other opens
  -- A blank or the end of the text ends a number, and nothing else can follow the value.
  have ends : EndsNumber space := by
    have ends : EndsNumber (space ++ []) := endsNumber_blank blank (by rintro _ ⟨⟩)
    rwa [List.append_nil] at ends
  have whole := back.reads depth (2 * ((write layout depth value).toList ++ space).length + 1) space
    ends (by rw [List.length_append]; omega)
  have left : skipSpace space = [] := List.dropWhile_eq_nil_iff.mpr blank
  rw [begins, List.cons_append] at whole ⊢
  have start : skipSpace (c :: (after ++ space)) = c :: (after ++ space) :=
    List.dropWhile_cons_of_neg (by simp [mark])
  rw [Json.read, if_neg (by simpa using order), start, whole]
  simp only [left]

end Values

end AutomationIndex.Json
