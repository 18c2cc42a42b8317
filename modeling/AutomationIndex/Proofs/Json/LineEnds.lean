import AutomationIndex.Json.Reader
import AutomationIndex.Proofs.Text.LineEnds
import Mathlib.Data.List.Find

/-! JSON texts with unified line ends: both are read alike, and faults are found at the same place. -/

namespace AutomationIndex.Json

open Text

/-- Whether a reading of a text and one of the text with unified line ends answer alike: with one
value and the same place after it, or with one cause and the same place of a fault. -/
inductive Unified {α : Type} (whole : List Char) :
    Except Fault (α × List Char) → Except Fault (α × List Char) → Prop where
  | ok (value : α) {rest : List Char} (within : rest <:+ whole) :
      Unified whole (.ok (value, rest)) (.ok (value, unifyLineEnds rest))
  | error (cause : Cause) {left : List Char} (within : left <:+ whole) :
      Unified whole (.error ⟨cause, left.length⟩) (.error ⟨cause, (unifyLineEnds left).length⟩)

variable {α β : Type} {whole chars rest : List Char}

/-- What is within an ending of a text is within the text. -/
theorem Unified.mono {first second : Except Fault (α × List Char)}
    (alike : Unified chars first second) (within : chars <:+ whole) :
    Unified whole first second := by
  cases alike with
  | ok value inner => exact .ok value (inner.trans within)
  | error cause inner => exact .error cause (inner.trans within)

/-- Readings that go on alike after readings alike are alike. -/
theorem Unified.bind {first second : Except Fault (α × List Char)}
    {next after : α × List Char → Except Fault (β × List Char)}
    (alike : Unified chars first second) (within : chars <:+ whole)
    (later : ∀ value rest, first = .ok (value, rest) → rest <:+ chars →
      Unified whole (next (value, rest)) (after (value, unifyLineEnds rest))) :
    Unified whole (first >>= next) (second >>= after) := by
  -- A first step that fails decides both readings; otherwise the second steps are compared.
  cases alike with
  | ok value inner => exact later value _ rfl inner
  | error cause inner => exact .error cause (inner.trans within)

/-- Space is skipped alike. -/
theorem skipSpace_unifyLineEnds (chars : List Char) :
    skipSpace (unifyLineEnds chars) = unifyLineEnds (skipSpace chars) :=
  dropWhile_unifyLineEnds rfl chars

/-- What follows space is an ending of the text. -/
theorem skipSpace_suffix (chars : List Char) : skipSpace chars <:+ chars :=
  List.dropWhile_suffix _

/-- Four hexadecimal digits are read whatever follows them, and end no line. -/
theorem hexQuad?_word {unit : Nat} (read : hexQuad? chars = some (unit, rest)) :
    ∃ word, word.length = 4 ∧ '\r' ∉ word ∧ '\n' ∉ word ∧ chars = word ++ rest ∧
      ∀ after, hexQuad? (word ++ after) = some (unit, after) := by
  -- A number is read only where four characters stand; their digits are no line ends.
  obtain ⟨a, b, c, d, others, rfl⟩ : ∃ a b c d others, chars = a :: b :: c :: d :: others := by
    unfold hexQuad? at read
    split at read
    · exact ⟨_, _, _, _, _, rfl⟩
    · cases read
  simp only [hexQuad?] at read
  split at read
  case h_1 first second third fourth read₁ read₂ read₃ read₄ =>
    cases read
    refine ⟨[a, b, c, d], rfl, ?_, ?_, rfl, ?_⟩
    · intro held
      have : Text.hexDigit? '\r' = none := rfl
      simp only [List.mem_cons, List.not_mem_nil, or_false] at held
      rcases held with rfl | rfl | rfl | rfl <;> simp_all
    · intro held
      have : Text.hexDigit? '\n' = none := rfl
      simp only [List.mem_cons, List.not_mem_nil, or_false] at held
      rcases held with rfl | rfl | rfl | rfl <;> simp_all
    · intro after
      simp [hexQuad?, read₁, read₂, read₃, read₄]
  case h_2 => cases read

/-- Four hexadecimal digits are read alike. -/
theorem hexQuad?_unifyLineEnds (chars : List Char) :
    hexQuad? (unifyLineEnds chars) =
      (hexQuad? chars).map fun found => (found.1, unifyLineEnds found.2) := by
  -- Digits end no line, so the same word of four begins both texts.
  cases read : hexQuad? chars with
  | some found =>
    obtain ⟨unit, rest⟩ := found
    obtain ⟨word, -, kept, -, rfl, same⟩ := hexQuad?_word read
    rw [unifyLineEnds_append kept, same]
    rfl
  | none =>
    cases other : hexQuad? (unifyLineEnds chars) with
    | none => rfl
    | some found =>
      obtain ⟨unit, rest⟩ := found
      obtain ⟨word, -, -, plain, line, same⟩ := hexQuad?_word other
      obtain ⟨before, rfl, -⟩ := exists_of_unifyLineEnds_eq_append word plain line
      rw [same] at read
      cases read

/-- The code unit of an escape is read alike. -/
theorem unified_readUnit (chars : List Char) :
    Unified ('u' :: chars) (readUnit chars) (readUnit (unifyLineEnds chars)) := by
  -- Both readings count the place of the fault from the same character, one before the digits.
  have refused : Unified (α := Nat) ('u' :: chars) (.error ⟨.unicodeEscape, chars.length + 1⟩)
      (.error ⟨.unicodeEscape, (unifyLineEnds chars).length + 1⟩) := by
    have marked := Unified.error (α := Nat) .unicodeEscape (List.suffix_refl ('u' :: chars))
    rwa [unifyLineEnds_cons (by decide)] at marked
  unfold readUnit
  rw [hexQuad?_unifyLineEnds]
  cases read : hexQuad? chars with
  | none => exact refused
  | some found =>
    obtain ⟨unit, rest⟩ := found
    obtain ⟨word, -, -, -, rfl, -⟩ := hexQuad?_word read
    cases rest with
    | nil => exact refused
    -- What follows the digits is a character in both texts, so neither reading is cut short.
    | cons c others =>
      obtain ⟨first, more, line⟩ : ∃ first more, unifyLineEnds (c :: others) = first :: more :=
        List.ne_nil_iff_exists_cons.mp (mt unifyLineEnds_eq_nil_iff.mp (List.cons_ne_nil _ _))
      simp only [Option.map_some, line]
      rw [← line]
      exact .ok unit ((List.suffix_append word _).trans (List.suffix_cons _ _))

/-- The digits of four are too few for a string in both writings or in none. -/
theorem length_lt_five_unifyLineEnds {word : List Char} (four : word.length = 4)
    (kept : '\r' ∉ word) (rest : List Char) :
    (unifyLineEnds (word ++ rest)).length < 5 ↔ (word ++ rest).length < 5 := by
  have empty : (unifyLineEnds rest).length = 0 ↔ rest.length = 0 := by
    rw [List.length_eq_zero_iff, List.length_eq_zero_iff, unifyLineEnds_eq_nil_iff]
  rw [unifyLineEnds_append kept, List.length_append, List.length_append, four]
  omega

section

variable {high : Nat} {next after : Nat × List Char → Except Fault (β × List Char)}
  {digits : List Char}

/-- An escape after a high half that has no four digits is refused alike: where it is too short for
a pair, by what follows. -/
theorem unified_readPair_refused (within : '\\' :: 'u' :: digits <:+ whole)
    (unread : hexQuad? digits = none)
    (refuses : ∀ digits, hexQuad? digits = none →
      after (high, '\\' :: 'u' :: digits) = .error ⟨.unicodeEscape, digits.length + 1⟩)
    (stays : Unified whole (next (high, '\\' :: 'u' :: digits))
      (after (high, '\\' :: 'u' :: unifyLineEnds digits))) :
    Unified whole (readPair high ('\\' :: 'u' :: digits) >>= next)
      (readPair high ('\\' :: 'u' :: unifyLineEnds digits) >>= after) := by
  have refused := Unified.error (α := β) .unicodeEscape
    ((List.suffix_cons '\\' ('u' :: digits)).trans within)
  rw [unifyLineEnds_cons (by decide), List.length_cons, List.length_cons] at refused
  have unread' : hexQuad? (unifyLineEnds digits) = none := by
    rw [hexQuad?_unifyLineEnds, unread]
    rfl
  -- Unified, the digits can only have become too few, for which the escape is left for later.
  have shorter := length_unifyLineEnds_le digits
  simp only [readPair, unread, unread']
  split
  · rw [if_pos (by omega)]
    exact stays
  · split
    · rw [← refuses _ unread'] at refused
      exact refused
    · exact refused

/-- An escape after a high half that has four digits is read alike. -/
theorem unified_readPair_read {low : Nat} (read : hexQuad? digits = some (low, rest))
    (stays : Unified whole (next (high, '\\' :: 'u' :: digits))
      (after (high, '\\' :: 'u' :: unifyLineEnds digits)))
    (paired : ∀ code, Unified whole (next (code, rest)) (after (code, unifyLineEnds rest))) :
    Unified whole (readPair high ('\\' :: 'u' :: digits) >>= next)
      (readPair high ('\\' :: 'u' :: unifyLineEnds digits) >>= after) := by
  -- The digits are kept by unifying, and as many characters are left for them in both texts.
  obtain ⟨word, four, kept, -, rfl, -⟩ := hexQuad?_word read
  simp only [readPair, hexQuad?_unifyLineEnds, read, Option.map_some,
    length_lt_five_unifyLineEnds four kept]
  split
  · exact stays
  · split
    · exact paired _
    · exact stays

/-- What is no escape leaves a high half alone. -/
theorem readPair_single (other : ∀ digits, chars ≠ '\\' :: 'u' :: digits) :
    readPair high chars = .ok (high, chars) := by
  unfold readPair
  split
  · exact absurd rfl (other _)
  · rfl

/-- The low half of a pair is read alike, if what follows refuses an escape that is none. -/
theorem unified_readPair (within : chars <:+ whole)
    (refuses : ∀ digits, hexQuad? digits = none →
      after (high, '\\' :: 'u' :: digits) = .error ⟨.unicodeEscape, digits.length + 1⟩)
    (later : ∀ code rest, rest <:+ chars →
      Unified whole (next (code, rest)) (after (code, unifyLineEnds rest))) :
    Unified whole (readPair high chars >>= next)
      (readPair high (unifyLineEnds chars) >>= after) := by
  -- Without a second escape the first unit stays as it is, and so it does in the unified text.
  have stays := later high chars List.suffix_rfl
  by_cases escape : ∃ digits, chars = '\\' :: 'u' :: digits
  · obtain ⟨digits, rfl⟩ := escape
    rw [unifyLineEnds_cons (by decide), unifyLineEnds_cons (by decide)] at stays ⊢
    cases read : hexQuad? digits with
    | none => exact unified_readPair_refused within read refuses stays
    | some found =>
      obtain ⟨low, rest⟩ := found
      obtain ⟨word, -, -, -, rfl, -⟩ := hexQuad?_word read
      exact unified_readPair_read read stays fun code => later code rest
        ((List.suffix_append word rest).trans ((List.suffix_cons _ _).trans (List.suffix_cons _ _)))
  · rw [readPair_single (not_exists.mp escape), readPair_single]
    · exact stays
    -- A second escape in the unified text has been one before: its characters are no line ends.
    · intro digits line
      obtain ⟨before, rfl, -⟩ :=
        exists_of_unifyLineEnds_eq_append ['\\', 'u'] (by decide) line
      exact escape ⟨before, rfl⟩

end

section

variable (opening steps : Nat) (found : List Nat)

/-- A string that ends without a quote is refused. -/
theorem readString_nil :
    readString opening (steps + 1) found [] = .error ⟨.unterminated, opening⟩ := by
  rw [readString]
  simp

/-- A quote closes a string. -/
theorem readString_quote (rest : List Char) :
    readString opening (steps + 1) found ('"' :: rest) = .ok (found.reverse, rest) := by
  rw [readString]

/-- A string that ends with a backslash is refused. -/
theorem readString_backslash :
    readString opening (steps + 1) found ['\\'] = .error ⟨.unterminated, opening⟩ := by
  rw [readString]

/-- A unicode escape may be the first half of a pair. -/
theorem readString_unit (rest : List Char) :
    readString opening (steps + 1) found ('\\' :: 'u' :: rest) = (do
      let (unit, rest) ← readUnit rest
      if 0xD800 ≤ unit && unit ≤ 0xDBFF then
        let (code, rest) ← readPair unit rest
        readString opening steps (code :: found) rest
      else readString opening steps (unit :: found) rest) := by
  rw [readString]

/-- Any other escape stands for one character or is refused. -/
theorem readString_escape {c : Char} (rest : List Char) (simple : c ≠ 'u') :
    readString opening (steps + 1) found ('\\' :: c :: rest) =
      match simpleEscape? c with
      | some escaped => readString opening steps (escaped.toNat :: found) rest
      | none => .error ⟨.escape, rest.length + 2⟩ := by
  cases escaped : simpleEscape? c <;> simp [readString, escaped]

/-- Every other character stands for itself, unless it controls something. -/
theorem readString_cons {c : Char} (rest : List Char) (inside : c ≠ '"') (plain : c ≠ '\\') :
    readString opening (steps + 1) found (c :: rest) =
      if c.toNat ≤ 0x1F then .error ⟨.controlCharacter, rest.length + 1⟩
      else readString opening steps (c.toNat :: found) rest := by
  rw [readString]
  all_goals simp_all

end

section

variable {opening : List Char} {steps others : Nat} {found : List Nat}

/-- A string that begins with a unicode escape is read alike, if the rest of it is. -/
theorem unified_readString_unit {digits : List Char} (within : 'u' :: digits <:+ whole)
    (more : 0 < others)
    (later : ∀ code rest, rest <:+ 'u' :: digits →
      Unified whole (readString opening.length steps (code :: found) rest)
        (readString (unifyLineEnds opening).length others (code :: found) (unifyLineEnds rest))) :
    Unified whole (readString opening.length (steps + 1) found ('\\' :: 'u' :: digits))
      (readString (unifyLineEnds opening).length (others + 1) found
        ('\\' :: 'u' :: unifyLineEnds digits)) := by
  rw [readString_unit, readString_unit]
  refine (unified_readUnit digits).bind within fun unit rest _ inner => ?_
  dsimp only
  split
  · refine unified_readPair (inner.trans within) ?_ fun code left ended =>
      later code left (ended.trans inner)
    -- An escape too short for a pair is refused when its turn comes.
    intro digits read
    obtain ⟨others, rfl⟩ : ∃ fewer, others = fewer + 1 := ⟨others - 1, by omega⟩
    rw [readString_unit, readUnit, read]
    rfl
  · exact later unit rest inner

/-- A string that begins with another escape is read alike, if the rest of it is. -/
theorem unified_readString_escape {c : Char} (simple : c ≠ 'u')
    (within : '\\' :: c :: rest <:+ whole)
    (later : ∀ code,
      Unified whole (readString opening.length steps (code :: found) rest)
        (readString (unifyLineEnds opening).length others (code :: found) (unifyLineEnds rest))) :
    Unified whole (readString opening.length (steps + 1) found ('\\' :: c :: rest))
      (readString (unifyLineEnds opening).length (others + 1) found
        ('\\' :: unifyLineEnds (c :: rest))) := by
  -- An escape that is none is refused at the same backslash in both texts.
  have refused := Unified.error (α := List Nat) .escape within
  rw [unifyLineEnds_cons (by decide)] at refused
  rw [readString_escape _ _ _ _ simple]
  by_cases kept : c = '\r'
  -- A carriage return after a backslash escapes nothing, and neither does the line feed for it.
  · subst kept
    obtain ⟨after, -, line⟩ := unifyLineEnds_return rest
    rw [line] at refused ⊢
    rw [readString_escape _ _ _ _ (by decide)]
    exact refused
  · rw [unifyLineEnds_cons kept] at refused ⊢
    rw [readString_escape _ _ _ _ simple]
    cases simpleEscape? c with
    | none => exact refused
    | some escaped => exact later _

/-- A string that begins with a character of its own is read alike, if the rest of it is. -/
theorem unified_readString_cons {c : Char} (inside : c ≠ '"') (plain : c ≠ '\\')
    (within : c :: rest <:+ whole)
    (later : c ≠ '\r' → ∀ code,
      Unified whole (readString opening.length steps (code :: found) rest)
        (readString (unifyLineEnds opening).length others (code :: found) (unifyLineEnds rest))) :
    Unified whole (readString opening.length (steps + 1) found (c :: rest))
      (readString (unifyLineEnds opening).length (others + 1) found
        (unifyLineEnds (c :: rest))) := by
  -- A control character is refused at the same place in both texts, a line end among them.
  have refused := Unified.error (α := List Nat) .controlCharacter within
  rw [readString_cons _ _ _ _ inside plain]
  by_cases kept : c = '\r'
  · subst kept
    obtain ⟨after, -, line⟩ := unifyLineEnds_return rest
    rw [line] at refused ⊢
    rw [readString_cons _ _ _ _ (by decide) (by decide)]
    exact refused
  · rw [unifyLineEnds_cons kept] at refused ⊢
    rw [readString_cons _ _ _ _ inside plain]
    split
    · exact refused
    · exact later kept _

end

/-- A string is read alike, where there is a step for each of its characters. -/
theorem unified_readString {opening : List Char} (opened : opening <:+ whole)
    (within : chars <:+ whole) (steps others : Nat) (found : List Nat)
    (enough : chars.length < steps) (enough' : (unifyLineEnds chars).length < others) :
    Unified whole (readString opening.length steps found chars)
      (readString (unifyLineEnds opening).length others found (unifyLineEnds chars)) := by
  -- The induction is on the steps of one reading; those of the other only have to be enough.
  induction steps generalizing chars others found with
  | zero => omega
  | succ steps ih =>
    obtain ⟨others, rfl⟩ : ∃ fewer, others = fewer + 1 := ⟨others - 1, by omega⟩
    cases chars with
    | nil =>
      rw [unifyLineEnds_nil, readString_nil, readString_nil]
      exact .error _ opened
    | cons c rest =>
    have after : rest <:+ whole := (List.suffix_cons c rest).trans within
    -- Whatever is left of the rest, there are steps for it.
    have goesOn (kept : c ≠ '\r') (code : Nat) (left : List Char) (inner : left <:+ rest) :
        Unified whole (readString opening.length steps (code :: found) left)
          (readString (unifyLineEnds opening).length others (code :: found)
            (unifyLineEnds left)) := by
      have shorter := inner.length_le
      have shorter' := length_unifyLineEnds_le_of_suffix inner
      rw [unifyLineEnds_cons kept] at enough'
      simp only [List.length_cons] at enough enough'
      exact ih (inner.trans after) _ _ (by omega) (by omega)
    by_cases closes : c = '"'
    · subst closes
      rw [unifyLineEnds_cons (by decide), readString_quote, readString_quote]
      exact .ok _ after
    by_cases escape : c = '\\'
    · subst escape
      rw [unifyLineEnds_cons (by decide)] at enough' ⊢
      cases rest with
      | nil =>
        rw [unifyLineEnds_nil, readString_backslash, readString_backslash]
        exact .error _ opened
      | cons d rest =>
        by_cases unit : d = 'u'
        · subst unit
          rw [unifyLineEnds_cons (by decide)] at enough' ⊢
          simp only [List.length_cons] at enough'
          exact unified_readString_unit after (by omega) (goesOn (by decide))
        · exact unified_readString_escape unit within fun code =>
            goesOn (by decide) code rest (List.suffix_cons _ _)
    · exact unified_readString_cons closes escape within fun kept code =>
        goesOn kept code rest List.suffix_rfl

/-- A string after its opening quote is read alike. -/
theorem unified_readStringAfterQuote (chars : List Char) :
    Unified ('"' :: chars) (readStringAfterQuote chars)
      (readStringAfterQuote (unifyLineEnds chars)) := by
  have alike := unified_readString (List.suffix_refl ('"' :: chars)) (List.suffix_cons '"' chars)
    (chars.length + 1) ((unifyLineEnds chars).length + 1) [] (by omega) (by omega)
  rwa [unifyLineEnds_cons (by decide)] at alike

/-- Digits of a text are the same. -/
theorem takeDigits_unifyLineEnds (chars : List Char) :
    (unifyLineEnds chars).takeWhile (·.isDigit) = chars.takeWhile (·.isDigit) :=
  takeWhile_unifyLineEnds rfl rfl chars

/-- The digits of a text end no line. -/
theorem return_notMem_takeDigits (chars : List Char) : '\r' ∉ chars.takeWhile (·.isDigit) := by
  intro held
  have digit := List.mem_takeWhile_imp held
  cases digit

/-- What follows the digits of a text is the same. -/
theorem dropDigits_unifyLineEnds (chars : List Char) :
    (unifyLineEnds chars).drop (chars.takeWhile (·.isDigit)).length =
      unifyLineEnds (chars.drop (chars.takeWhile (·.isDigit)).length) :=
  drop_unifyLineEnds (List.takeWhile_prefix _) (return_notMem_takeDigits chars)

/-- A sign is read alike. -/
theorem readSign_unifyLineEnds (chars : List Char) :
    readSign (unifyLineEnds chars) = ((readSign chars).1, unifyLineEnds (readSign chars).2) := by
  -- Only a minus sign is read off; unifying neither makes nor takes one.
  have unsigned {text : List Char} (other : ∀ after, text ≠ '-' :: after) :
      readSign text = (false, text) := by
    unfold readSign
    split
    · exact absurd rfl (other _)
    · rfl
  obtain ⟨after, rfl, line⟩ | ⟨other, other'⟩ :=
    unifyLineEnds_mark '-' (by decide) (by decide) chars
  · rw [line]
    rfl
  · rw [unsigned other, unsigned other']

/-- What follows a sign is an ending of the text. -/
theorem readSign_suffix (chars : List Char) : (readSign chars).2 <:+ chars := by
  unfold readSign
  split
  · exact List.suffix_cons _ _
  · exact List.suffix_rfl

/-- A sign of either kind is read alike. -/
theorem readEitherSign_unifyLineEnds (chars : List Char) :
    readEitherSign (unifyLineEnds chars) =
      ((readEitherSign chars).1, unifyLineEnds (readEitherSign chars).2) := by
  -- A plus sign is the only one that this reader adds.
  have minus {text : List Char} (other : ∀ after, text ≠ '+' :: after) :
      readEitherSign text = readSign text := by
    unfold readEitherSign
    split
    · exact absurd rfl (other _)
    · rfl
  obtain ⟨after, rfl, line⟩ | ⟨other, other'⟩ :=
    unifyLineEnds_mark '+' (by decide) (by decide) chars
  · rw [line]
    rfl
  · rw [minus other, minus other', readSign_unifyLineEnds]

/-- What follows a sign of either kind is an ending of the text. -/
theorem readEitherSign_suffix (chars : List Char) : (readEitherSign chars).2 <:+ chars := by
  unfold readEitherSign
  split
  · exact List.suffix_cons _ _
  · exact readSign_suffix chars

/-- The digits before a decimal point are the same. -/
theorem wholeDigits_unifyLineEnds (unsigned : List Char) :
    wholeDigits (unifyLineEnds unsigned) = wholeDigits unsigned := by
  -- Only a leading zero is special, and unifying neither makes nor takes one.
  have nonzero {text : List Char} (other : ∀ after, text ≠ '0' :: after) :
      wholeDigits text = text.takeWhile (·.isDigit) := by
    unfold wholeDigits
    split
    · exact absurd rfl (other _)
    · rfl
  obtain ⟨after, rfl, line⟩ | ⟨other, other'⟩ :=
    unifyLineEnds_mark '0' (by decide) (by decide) unsigned
  · rw [line]
    rfl
  · rw [nonzero other, nonzero other', takeDigits_unifyLineEnds]

/-- The digits before a decimal point begin the text and end no line. -/
theorem wholeDigits_prefix (unsigned : List Char) :
    wholeDigits unsigned <+: unsigned ∧ '\r' ∉ wholeDigits unsigned := by
  unfold wholeDigits
  split
  · exact ⟨List.prefix_append ['0'] _, by decide⟩
  · exact ⟨List.takeWhile_prefix _, return_notMem_takeDigits unsigned⟩

/-- Decimals are read alike. -/
theorem readDecimals_unifyLineEnds (chars : List Char) :
    readDecimals (unifyLineEnds chars) =
      ((readDecimals chars).1, unifyLineEnds (readDecimals chars).2) := by
  -- Without a point there are no decimals, and unifying neither makes nor takes a point.
  have unmarked {text : List Char} (other : ∀ after, text ≠ '.' :: after) :
      readDecimals text = ([], text) := by
    unfold readDecimals
    split
    · exact absurd rfl (other _)
    · rfl
  obtain ⟨after, rfl, line⟩ | ⟨other, other'⟩ :=
    unifyLineEnds_mark '.' (by decide) (by decide) chars
  · rw [line]
    simp only [readDecimals, takeDigits_unifyLineEnds]
    split
    · rw [line]
    · rw [dropDigits_unifyLineEnds]
  · rw [unmarked other, unmarked other']

/-- What follows decimals is an ending of the text. -/
theorem readDecimals_suffix (chars : List Char) : (readDecimals chars).2 <:+ chars := by
  -- The point is dropped only together with the digits after it.
  unfold readDecimals
  split
  · dsimp only
    split
    · exact List.suffix_rfl
    · exact (List.drop_suffix _ _).trans (List.suffix_cons _ _)
  · exact List.suffix_rfl

/-- The digits of an exponent are read alike. -/
theorem readExponent_unifyLineEnds (chars : List Char) :
    readExponent (unifyLineEnds chars) =
      (readExponent chars).map fun found => (found.1, unifyLineEnds found.2) := by
  simp only [readExponent, readEitherSign_unifyLineEnds, takeDigits_unifyLineEnds,
    dropDigits_unifyLineEnds]
  split <;> rfl

/-- What follows the digits of an exponent is an ending of the text. -/
theorem readExponent_suffix {power : Int} (read : readExponent chars = some (power, rest)) :
    rest <:+ chars := by
  simp only [readExponent] at read
  split at read
  · cases read
  · cases read
    exact (List.drop_suffix _ _).trans (readEitherSign_suffix chars)

/-- An exponent is read alike. -/
theorem readPower?_unifyLineEnds (chars : List Char) :
    readPower? (unifyLineEnds chars) =
      (readPower? chars).map fun found => (found.1, unifyLineEnds found.2) := by
  -- The exponent may begin with either letter, and with neither there is none.
  obtain ⟨after, rfl, line⟩ | ⟨small, small'⟩ :=
    unifyLineEnds_mark 'e' (by decide) (by decide) chars
  · rw [line]
    exact readExponent_unifyLineEnds after
  obtain ⟨after, rfl, line⟩ | ⟨capital, capital'⟩ :=
    unifyLineEnds_mark 'E' (by decide) (by decide) chars
  · rw [line]
    exact readExponent_unifyLineEnds after
  have unmarked {text : List Char} (small : ∀ after, text ≠ 'e' :: after)
      (capital : ∀ after, text ≠ 'E' :: after) : readPower? text = none := by
    unfold readPower?
    split
    · exact absurd rfl (small _)
    · exact absurd rfl (capital _)
    · rfl
  rw [unmarked small capital, unmarked small' capital']
  rfl

/-- What follows an exponent is an ending of the text. -/
theorem readPower?_suffix {power : Int} (read : readPower? chars = some (power, rest)) :
    rest <:+ chars := by
  unfold readPower? at read
  split at read
  · exact (readExponent_suffix read).trans (List.suffix_cons _ _)
  · exact (readExponent_suffix read).trans (List.suffix_cons _ _)
  · cases read

/-- A number is read alike, if there is one. -/
theorem unified_readNumber? (chars : List Char) :
    (readNumber? chars = none ∧ readNumber? (unifyLineEnds chars) = none) ∨
      ∃ first second, readNumber? chars = some first ∧
        readNumber? (unifyLineEnds chars) = some second ∧ Unified chars first second := by
  -- Each part of the number is a prefix without line ends, so the readings go on from the same
  -- place.
  have signed := readSign_suffix chars
  simp only [readNumber?, readSign_unifyLineEnds]
  generalize readSign chars = sign at signed
  obtain ⟨negative, unsigned⟩ := sign
  dsimp only at signed ⊢
  obtain ⟨begins, kept⟩ := wholeDigits_prefix unsigned
  have ended := ((readDecimals_suffix (unsigned.drop (wholeDigits unsigned).length)).trans
    (List.drop_suffix _ _)).trans signed
  simp only [wholeDigits_unifyLineEnds, drop_unifyLineEnds begins kept, readDecimals_unifyLineEnds,
    readPower?_unifyLineEnds]
  split
  · exact .inl ⟨rfl, rfl⟩
  · refine .inr ?_
    generalize readDecimals (unsigned.drop (wholeDigits unsigned).length) = decimals at ended
    obtain ⟨decimals, rest⟩ := decimals
    dsimp only at ended ⊢
    -- What is left to decide is only whether there are decimals and an exponent.
    cases power : readPower? rest with
    | none =>
      cases decimals with
      | nil =>
        simp only [Option.map_none]
        split
        · exact ⟨_, _, rfl, rfl, .error _ List.suffix_rfl⟩
        · exact ⟨_, _, rfl, rfl, .ok _ ended⟩
      | cons d decimals => exact ⟨_, _, rfl, rfl, .ok _ ended⟩
    | some found =>
      have later := readPower?_suffix power
      cases decimals with
      | nil => exact ⟨_, _, rfl, rfl, .ok _ (later.trans ended)⟩
      | cons d decimals => exact ⟨_, _, rfl, rfl, .ok _ (later.trans ended)⟩

/-- The words that stand for values end no line. -/
theorem constants_plain : ∀ constant ∈ constants, '\r' ∉ constant.1 ∧ '\n' ∉ constant.1 := by
  decide

/-- The same word for a value begins both texts, if one does. -/
theorem findConstant_unifyLineEnds (chars : List Char) :
    (constants.find? fun constant => constant.1.isPrefixOf (unifyLineEnds chars)) =
      constants.find? fun constant => constant.1.isPrefixOf chars := by
  refine List.find?_congr fun constant held => ?_
  obtain ⟨kept, plain⟩ := constants_plain constant held
  rw [Bool.eq_iff_iff, List.isPrefixOf_iff_prefix, List.isPrefixOf_iff_prefix,
    prefix_unifyLineEnds_iff kept plain]

/-- A value that holds no others is read alike. -/
theorem unified_readScalar (chars : List Char) :
    Unified chars (readScalar chars) (readScalar (unifyLineEnds chars)) := by
  unfold readScalar
  rw [findConstant_unifyLineEnds]
  -- The words come first, then strings and then numbers; all of them begin with the same character.
  cases word : constants.find? fun constant => constant.1.isPrefixOf chars with
  | some constant =>
    obtain ⟨kept, -⟩ := constants_plain constant (List.mem_of_find?_eq_some word)
    have begins : constant.1 <+: chars := by simpa using List.find?_some word
    simp only [drop_unifyLineEnds begins kept]
    exact .ok _ (List.drop_suffix _ _)
  | none =>
    obtain ⟨after, rfl, line⟩ | ⟨other, other'⟩ :=
      unifyLineEnds_mark '"' (by decide) (by decide) chars
    · rw [line]
      exact (unified_readStringAfterQuote after).bind List.suffix_rfl fun codes rest _ inner =>
        .ok _ inner
    · dsimp only
      split
      · exact absurd rfl (other _)
      · obtain ⟨none₁, none₂⟩ | ⟨first, second, read₁, read₂, alike⟩ := unified_readNumber? chars
        · rw [none₁, none₂]
          exact .error _ List.suffix_rfl
        · rw [read₁, read₂]
          exact alike

/-- What follows space does not begin with a carriage return. -/
theorem ne_return_of_skipSpace {c : Char} (next : skipSpace chars = c :: rest) : c ≠ '\r' := by
  rintro rfl
  have noSpace := List.head?_dropWhile_not Text.isSpace chars
  rw [← skipSpace, next] at noSpace
  cases noSpace

/-- A bracket or a comma after a value is read alike. -/
theorem unified_readSeparator (closing : Char) (chars : List Char) :
    Unified chars (readSeparator closing chars) (readSeparator closing (unifyLineEnds chars)) := by
  have inner := skipSpace_suffix chars
  unfold readSeparator
  rw [skipSpace_unifyLineEnds]
  cases next : skipSpace chars with
  | nil => exact .error _ List.nil_suffix
  | cons c rest =>
    rw [next] at inner
    -- What follows the space is no carriage return, so both readings look at the same character.
    have refused := Unified.error (α := Bool) .comma inner
    have after := (List.suffix_cons c rest).trans inner
    rw [unifyLineEnds_cons (ne_return_of_skipSpace next)] at refused ⊢
    dsimp only
    split
    · exact .ok true after
    · split
      · rw [skipSpace_unifyLineEnds]
        exact .ok false ((skipSpace_suffix rest).trans after)
      · exact refused

/-- What follows a mark in a text is shorter than the text. -/
theorem length_lt_of_mark {mark : Char} {ending : List Char} (kept : mark ≠ '\r')
    (within : mark :: rest <:+ chars) (ended : ending <:+ rest) :
    ending.length < chars.length ∧ (unifyLineEnds ending).length < (unifyLineEnds chars).length := by
  -- The mark itself is what makes both texts shorter.
  have shorter := within.length_le
  have shorter' := length_unifyLineEnds_le_of_suffix within
  rw [unifyLineEnds_cons kept] at shorter'
  exact ⟨ended.length_le.trans_lt shorter,
    (length_unifyLineEnds_le_of_suffix ended).trans_lt shorter'⟩

/-- What follows a bracket or a comma is shorter than the text. -/
theorem length_lt_of_readSeparator {closing : Char} {closed : Bool}
    (read : readSeparator closing chars = .ok (closed, rest)) :
    rest.length < chars.length ∧ (unifyLineEnds rest).length < (unifyLineEnds chars).length := by
  have inner := skipSpace_suffix chars
  unfold readSeparator at read
  cases next : skipSpace chars with
  | nil =>
    rw [next] at read
    cases read
  | cons c after =>
    rw [next] at read inner
    -- The mark that was read is at the beginning of what the space left, and more may follow it.
    refine length_lt_of_mark (ne_return_of_skipSpace next) inner ?_
    dsimp only at read
    split at read
    · cases read
      exact List.suffix_rfl
    · split at read
      · cases read
        exact skipSpace_suffix after
      · cases read

/-- Whether values, fields and items are read alike in a number of steps, whenever these and the
other steps are two for each character and those into the first item. -/
structure ReadsAlike (steps : Nat) : Prop where
  values : ∀ (chars : List Char) (others : Nat), 2 * chars.length + 1 ≤ steps →
    2 * (unifyLineEnds chars).length + 1 ≤ others →
    Unified chars (readValue steps chars) (readValue others (unifyLineEnds chars))
  fields : ∀ (found : List (String × Json)) (chars : List Char) (others : Nat),
    2 * chars.length + 2 ≤ steps → 2 * (unifyLineEnds chars).length + 2 ≤ others →
    Unified chars (readFields steps found chars) (readFields others found (unifyLineEnds chars))
  items : ∀ (found : List Json) (chars : List Char) (others : Nat),
    2 * chars.length + 2 ≤ steps → 2 * (unifyLineEnds chars).length + 2 ≤ others →
    Unified chars (readItems steps found chars) (readItems others found (unifyLineEnds chars))

section

variable {steps others : Nat}

/-- A value that is neither an object nor a list is a scalar. -/
theorem readValue_scalar (object : ∀ after, chars ≠ '{' :: after)
    (list : ∀ after, chars ≠ '[' :: after) : readValue (steps + 1) chars = readScalar chars := by
  rw [readValue]
  · exact object
  · exact list

/-- Fields that do not begin with a quote are refused. -/
theorem readFields_noQuote {found : List (String × Json)} (other : ∀ after, chars ≠ '"' :: after) :
    readFields (steps + 1) found chars = .error ⟨.propertyName, chars.length⟩ := by
  rw [readFields]
  exact other

/-- A value is read alike with one more step. -/
theorem ReadsAlike.values_succ (alike : ReadsAlike steps)
    (enough : 2 * chars.length + 1 ≤ steps + 1)
    (enough' : 2 * (unifyLineEnds chars).length + 1 ≤ others + 1) :
    Unified chars (readValue (steps + 1) chars) (readValue (others + 1) (unifyLineEnds chars)) := by
  -- The first character decides what is read: an object, a list, or a scalar otherwise.
  obtain ⟨rest, rfl, line⟩ | ⟨object, object'⟩ :=
    unifyLineEnds_mark '{' (by decide) (by decide) chars
  · obtain ⟨shorter, shorter'⟩ :=
      length_lt_of_mark (by decide) (List.suffix_refl ('{' :: rest)) (skipSpace_suffix rest)
    have within := (skipSpace_suffix rest).trans (List.suffix_cons '{' rest)
    rw [line, readValue, readValue, skipSpace_unifyLineEnds]
    -- An empty object is closed at once; otherwise its fields are read with fewer steps.
    obtain ⟨after, closes, closes'⟩ | ⟨first, first'⟩ :=
      unifyLineEnds_mark '}' (by decide) (by decide) (skipSpace rest)
    · rw [closes', closes]
      exact .ok _ ((List.suffix_cons _ _).trans (closes ▸ within))
    · split
      · exact absurd ‹_› (first _)
      · exact (alike.fields [] _ others (by omega) (by omega)).mono within
  obtain ⟨rest, rfl, line⟩ | ⟨list, list'⟩ :=
    unifyLineEnds_mark '[' (by decide) (by decide) chars
  · obtain ⟨shorter, shorter'⟩ :=
      length_lt_of_mark (by decide) (List.suffix_refl ('[' :: rest)) (skipSpace_suffix rest)
    have within := (skipSpace_suffix rest).trans (List.suffix_cons '[' rest)
    rw [line, readValue, readValue, skipSpace_unifyLineEnds]
    -- An empty list is closed at once; otherwise its items are read with fewer steps.
    obtain ⟨after, closes, closes'⟩ | ⟨first, first'⟩ :=
      unifyLineEnds_mark ']' (by decide) (by decide) (skipSpace rest)
    · rw [closes', closes]
      exact .ok _ ((List.suffix_cons _ _).trans (closes ▸ within))
    · split
      · exact absurd ‹_› (first _)
      · exact (alike.items [] _ others (by omega) (by omega)).mono within
  · rw [readValue_scalar object list, readValue_scalar object' list']
    exact unified_readScalar chars

/-- Fields are read alike with one more step. -/
theorem ReadsAlike.fields_succ (alike : ReadsAlike steps) (found : List (String × Json))
    (enough : 2 * chars.length + 2 ≤ steps + 1)
    (enough' : 2 * (unifyLineEnds chars).length + 2 ≤ others + 1) :
    Unified chars (readFields (steps + 1) found chars)
      (readFields (others + 1) found (unifyLineEnds chars)) := by
  -- A field is a quoted key, a colon, a value and a separator, each read alike after the other.
  obtain ⟨rest, rfl, line⟩ | ⟨other, other'⟩ :=
    unifyLineEnds_mark '"' (by decide) (by decide) chars
  · rw [line, readFields, readFields]
    refine (unified_readStringAfterQuote rest).bind List.suffix_rfl fun key afterKey _ inner => ?_
    dsimp only
    rw [skipSpace_unifyLineEnds]
    have within := (skipSpace_suffix afterKey).trans inner
    generalize skipSpace afterKey = next at within
    obtain ⟨after, rfl, line'⟩ | ⟨colon, colon'⟩ :=
      unifyLineEnds_mark ':' (by decide) (by decide) next
    · obtain ⟨shorter, shorter'⟩ :=
        length_lt_of_mark (by decide) within (skipSpace_suffix after)
      have valueWithin := (skipSpace_suffix after).trans ((List.suffix_cons _ _).trans within)
      have value := alike.values (skipSpace after) others (by omega) (by omega)
      rw [← skipSpace_unifyLineEnds] at value
      rw [line']
      refine value.bind valueWithin fun value afterValue _ ended => ?_
      have separated := unified_readSeparator '}' afterValue
      refine separated.bind (ended.trans valueWithin) fun closed left read last => ?_
      -- The colon alone makes what is left shorter, so the steps suffice for the other fields.
      obtain ⟨shorter, shorter'⟩ :=
        length_lt_of_mark (by decide) within (last.trans (ended.trans (skipSpace_suffix after)))
      have leftWithin := last.trans (ended.trans valueWithin)
      cases closed with
      | true => exact .ok _ leftWithin
      | false => exact (alike.fields _ left others (by omega) (by omega)).mono leftWithin
    · split
      · exact absurd rfl (colon _)
      · exact .error _ within
  · rw [readFields_noQuote other, readFields_noQuote other']
    exact .error _ List.suffix_rfl

/-- Items are read alike with one more step. -/
theorem ReadsAlike.items_succ (alike : ReadsAlike steps) (found : List Json)
    (enough : 2 * chars.length + 2 ≤ steps + 1)
    (enough' : 2 * (unifyLineEnds chars).length + 2 ≤ others + 1) :
    Unified chars (readItems (steps + 1) found chars)
      (readItems (others + 1) found (unifyLineEnds chars)) := by
  rw [readItems, readItems]
  refine (alike.values chars others (by omega) (by omega)).bind List.suffix_rfl
    fun value afterValue _ ended => ?_
  refine (unified_readSeparator ']' afterValue).bind ended fun closed left read last => ?_
  -- The comma is what makes the text shorter, for a value may be read in no step.
  obtain ⟨shorter, shorter'⟩ := length_lt_of_readSeparator read
  have bound := ended.length_le
  have bound' := length_unifyLineEnds_le_of_suffix ended
  cases closed with
  | true => exact .ok _ (last.trans ended)
  | false => exact (alike.items _ left others (by omega) (by omega)).mono (last.trans ended)

end

/-- Values, fields and items are read alike in any number of steps that is enough. -/
theorem readsAlike (steps : Nat) : ReadsAlike steps := by
  -- The number of steps bounds both readings; each reader calls the others with one step less.
  induction steps with
  | zero => exact ⟨fun _ _ _ => by omega, fun _ _ _ _ => by omega, fun _ _ _ _ => by omega⟩
  | succ steps ih =>
    refine ⟨fun chars others enough enough' => ?_, fun found chars others enough enough' => ?_,
      fun found chars others enough enough' => ?_⟩
    all_goals obtain ⟨others, rfl⟩ : ∃ fewer, others = fewer + 1 := ⟨others - 1, by omega⟩
    · exact ih.values_succ enough enough'
    · exact ih.fields_succ found enough enough'
    · exact ih.items_succ found enough enough'

/-- A whole text and the same text with unified line ends give the same value, or are refused for
the same cause at the same place. -/
theorem read_unifyLineEnds (chars : List Char) :
    (∃ value, read chars = .ok value ∧ read (unifyLineEnds chars) = .ok value) ∨
      ∃ cause left, left <:+ chars ∧ read chars = .error ⟨cause, left.length⟩ ∧
        read (unifyLineEnds chars) = .error ⟨cause, (unifyLineEnds left).length⟩ := by
  -- Space before the value is skipped in both texts, and after that the readers agree.
  have spaced := skipSpace_suffix chars
  have shorter := spaced.length_le
  have shorter' := length_unifyLineEnds_le_of_suffix spaced
  have alike := (readsAlike (2 * chars.length + 1)).values (skipSpace chars)
    (2 * (unifyLineEnds chars).length + 1) (by omega) (by omega)
  -- A byte order mark is refused in both texts, for unifying neither makes nor takes one.
  have marked : (unifyLineEnds chars).head? = some (Char.ofNat 0xFEFF) ↔
      chars.head? = some (Char.ofNat 0xFEFF) := by
    obtain ⟨after, rfl, line⟩ | ⟨other, other'⟩ :=
      unifyLineEnds_mark (Char.ofNat 0xFEFF) (by decide) (by decide) chars
    · rw [line]
      rfl
    · rw [List.head?_eq_some_iff, List.head?_eq_some_iff]
      exact iff_of_false (not_exists.mpr other') (not_exists.mpr other)
  unfold read
  rw [skipSpace_unifyLineEnds]
  simp only [beq_iff_eq, marked]
  split
  · exact .inr ⟨_, _, List.suffix_rfl, rfl, rfl⟩
  · revert alike
    generalize readValue (2 * chars.length + 1) (skipSpace chars) = first
    generalize readValue (2 * (unifyLineEnds chars).length + 1) (unifyLineEnds (skipSpace chars)) =
      second
    intro alike
    cases alike with
    | error cause within => exact .inr ⟨cause, _, within.trans spaced, rfl, rfl⟩
    | @ok value rest within =>
      dsimp only
      rw [skipSpace_unifyLineEnds]
      -- What follows the value has to be space, and it begins with the same character otherwise.
      have left := ((skipSpace_suffix rest).trans within).trans spaced
      cases next : skipSpace rest with
      | nil => exact .inl ⟨value, rfl, rfl⟩
      | cons c others =>
        rw [next] at left
        have line : unifyLineEnds (c :: others) = c :: unifyLineEnds others :=
          unifyLineEnds_cons (ne_return_of_skipSpace next)
        refine .inr ⟨.extraData, _, left, rfl, ?_⟩
        rw [line]

end AutomationIndex.Json
