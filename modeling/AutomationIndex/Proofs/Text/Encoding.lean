import AutomationIndex.Disk.Read
import AutomationIndex.Text.Point
import Mathlib.Data.List.TakeWhile
import Mathlib.Tactic.SplitIfs

/-! The bytes of a text are read as that text, and code points have bytes if all are characters. -/

namespace AutomationIndex.Text

/-- The six low bits of a number, marked as such, may stand after the second byte. -/
theorem isContinuation_low (n : Nat) : isContinuation (n % 64 + 128) = true := by
  simp [isContinuation]
  omega

/-- Bytes all follow a first one if the second may follow it and the others continue. -/
theorem goodTail_cons {lead second : Nat} {others : List Nat}
    (follows : followsLead lead second = true)
    (continued : ∀ byte ∈ others, isContinuation byte = true) :
    goodTail lead (second :: others) = (second :: others).length := by
  have whole : others.takeWhile isContinuation = others := List.takeWhile_eq_self_iff.mpr continued
  rw [goodTail, if_pos follows, whole, List.length_cons]

/-- A first byte and the bytes that it asks for make a character. -/
theorem firstChar_append {lead : Nat} (tail : List Nat) (rest : List UInt8)
    (small : ∀ byte ∈ lead :: tail, byte < 256)
    (asked : sequenceLength? lead = some (tail.length + 1))
    (good : goodTail lead tail = tail.length) :
    firstChar (UInt8.ofNat lead) (tail.map UInt8.ofNat ++ rest) =
      .ok (Char.ofNat (codePoint lead tail), rest) := by
  -- Each unit is a byte, so nothing is lost by writing it as one.
  have first : (UInt8.ofNat lead).toNat = lead :=
    UInt8.toNat_ofNat_of_lt' (small lead List.mem_cons_self)
  have others : (tail.map UInt8.ofNat).map UInt8.toNat = tail := by
    rw [List.map_map]
    refine (List.map_congr_left fun byte held => ?_).trans (List.map_id tail)
    exact UInt8.toNat_ofNat_of_lt' (small byte (List.mem_cons_of_mem _ held))
  simp [firstChar, first, asked, good, others]

/-- The bytes of a character are read as that character, whatever follows them. -/
theorem firstChar_utf8EncodeChar (c : Char) (rest : List UInt8) :
    ∃ lead tail, String.utf8EncodeChar c = lead :: tail ∧
      firstChar lead (tail ++ rest) = .ok (c, rest) := by
  have scalar : c.val.toNat < 0xD800 ∨ 0xDFFF < c.val.toNat ∧ c.val.toNat < 0x110000 := c.valid
  have number : Char.ofNat c.val.toNat = c := Char.ofNat_toNat c
  unfold String.utf8EncodeChar
  generalize c.val.toNat = n at scalar number ⊢
  subst number
  -- Each length has its own range of first bytes; the second one keeps out longer writings of
  -- smaller numbers, surrogates and numbers beyond the last.
  dsimp only
  split
  case isTrue one =>
    refine ⟨_, _, rfl, (firstChar_append [] rest ?_ ?_ ?_).trans ?_⟩
    · simp; omega
    · simp [sequenceLength?]; omega
    · simp [goodTail]
    · simp [codePoint]
  case isFalse more =>
  split
  case isTrue two =>
    refine ⟨_, _, rfl, (firstChar_append [n % 64 + 128] rest ?_ ?_ ?_).trans ?_⟩
    · simp; omega
    · rw [sequenceLength?, if_neg (by omega), if_neg (by omega), if_pos (by omega)]; rfl
    · refine goodTail_cons ?_ (by simp)
      simp only [followsLead, beq_iff_eq, Bool.and_eq_true, decide_eq_true_eq]
      split_ifs <;> omega
    · simp [codePoint]; congr 1; omega
  case isFalse more =>
  split
  case isTrue three =>
    refine ⟨_, _, rfl, (firstChar_append [n / 64 % 64 + 128, n % 64 + 128] rest
      ?_ ?_ ?_).trans ?_⟩
    · simp; omega
    · rw [sequenceLength?, if_neg (by omega), if_neg (by omega), if_neg (by omega),
        if_pos (by omega)]; rfl
    · refine goodTail_cons ?_ (by simp [isContinuation_low])
      simp only [followsLead, beq_iff_eq, Bool.and_eq_true, decide_eq_true_eq]
      split_ifs <;> omega
    · simp [codePoint]; congr 1; omega
  case isFalse four =>
    refine ⟨_, _, rfl, (firstChar_append
      [n / 4096 % 64 + 128, n / 64 % 64 + 128, n % 64 + 128] rest ?_ ?_ ?_).trans ?_⟩
    · simp; omega
    · rw [sequenceLength?, if_neg (by omega), if_neg (by omega), if_neg (by omega),
        if_neg (by omega), if_pos (by omega)]; rfl
    · refine goodTail_cons ?_ (by simp [isContinuation_low])
      simp only [followsLead, beq_iff_eq, Bool.and_eq_true, decide_eq_true_eq]
      split_ifs <;> omega
    · simp [codePoint]; congr 1; omega

/-- The bytes of characters are read as those characters, where there is a step for each byte. -/
theorem decodeFrom_utf8EncodeChar (chars : List Char) (position steps : Nat)
    (enough : (chars.flatMap String.utf8EncodeChar).length ≤ steps) :
    decodeFrom steps position (chars.flatMap String.utf8EncodeChar) = (chars, none) := by
  -- The induction is on the characters; one step reads the bytes of one character.
  induction chars generalizing position steps with
  | nil => cases steps <;> rfl
  | cons c chars ih =>
    obtain ⟨lead, tail, written, read⟩ :=
      firstChar_utf8EncodeChar c (chars.flatMap String.utf8EncodeChar)
    rw [List.flatMap_cons, written, List.cons_append] at enough ⊢
    rw [List.length_cons, List.length_append] at enough
    -- There is a byte to read, so a step is left.
    obtain ⟨steps, rfl⟩ : ∃ fewer, steps = fewer + 1 := ⟨steps - 1, by omega⟩
    simp only [decodeFrom, read]
    rw [ih _ _ (by omega)]

/-- The loop that lists bytes puts those from a place on after the ones found before. -/
theorem toList_loop (bytes : ByteArray) (place : Nat) (found : List UInt8) :
    ByteArray.toList.loop bytes place found = found.reverse ++ bytes.data.toList.drop place := by
  -- The loop takes the bytes from its place on, in front of what it has found.
  fun_induction ByteArray.toList.loop bytes place found with
  | case1 place found inside ih =>
    have held : place < bytes.data.toList.length := by simpa using inside
    rw [ih, List.drop_eq_getElem_cons held]
    simp [ByteArray.get!, inside]
  | case2 place found outside =>
    rw [List.drop_eq_nil_of_le (by simpa using outside), List.append_nil]

/-- The bytes of a text are the bytes of its characters. -/
theorem toUTF8_toList (text : String) :
    text.toUTF8.toList = text.toList.flatMap String.utf8EncodeChar := by
  have bytes : text.toUTF8 = text.toList.utf8Encode := by
    rw [String.toUTF8_eq_toByteArray, ← String.toByteArray_ofList, String.ofList_toList]
  rw [bytes, ByteArray.toList, toList_loop]
  exact List.toList_data_toByteArray

/-- The bytes of a text are read as its characters. -/
theorem decodeUtf8_toUTF8 (text : String) : decodeUtf8 text.toUTF8.toList = .ok text.toList := by
  rw [decodeUtf8, decodePrefix, toUTF8_toList, decodeFrom_utf8EncodeChar _ _ _ le_rfl]

/-- Code points are their leading characters and what follows these, which is no character. -/
theorem exists_leadingChars (points : List Point) :
    ∃ rest, points = (leadingChars points).map Point.char ++ rest ∧
      ∀ c, rest.head? ≠ some (Point.char c) := by
  -- The characters are taken up to the first point that is none.
  induction points with
  | nil => exact ⟨[], rfl, nofun⟩
  | cons point points ih =>
    cases point with
    | char c =>
      obtain ⟨rest, parted, next⟩ := ih
      exact ⟨rest, congrArg (Point.char c :: ·) parted, next⟩
    | half offset => exact ⟨_, rfl, nofun⟩

/-- Code points are their leading halves and what follows these, which is no half. -/
theorem exists_leadingHalves (points : List Point) :
    ∃ rest, points = (leadingHalves points).map Point.half ++ rest ∧
      ∀ offset, rest.head? ≠ some (Point.half offset) := by
  -- The halves are taken up to the first character.
  induction points with
  | nil => exact ⟨[], rfl, nofun⟩
  | cons point points ih =>
    cases point with
    | char c => exact ⟨_, rfl, nofun⟩
    | half offset =>
      obtain ⟨rest, parted, next⟩ := ih
      exact ⟨rest, congrArg (Point.half offset :: ·) parted, next⟩

/-- The characters before what is no character lead. -/
theorem leadingChars_append (chars : List Char) {rest : List Point}
    (next : ∀ c, rest.head? ≠ some (Point.char c)) :
    leadingChars (chars.map Point.char ++ rest) = chars := by
  -- The characters end where `rest` begins, with a half or with the text.
  induction chars with
  | nil =>
    rcases rest with _ | ⟨⟨c⟩ | offset, rest⟩
    · rfl
    · exact absurd rfl (next c)
    · rfl
  | cons c chars ih => exact congrArg (c :: ·) ih

/-- The halves before what is no half lead. -/
theorem leadingHalves_append (halves : List (Fin 0x800)) {rest : List Point}
    (next : ∀ offset, rest.head? ≠ some (Point.half offset)) :
    leadingHalves (halves.map Point.half ++ rest) = halves := by
  -- The halves end where `rest` begins, with a character or with the text.
  induction halves with
  | nil =>
    rcases rest with _ | ⟨c | ⟨offset⟩, rest⟩
    · rfl
    · rfl
    · exact absurd rfl (next ⟨offset, _⟩)
  | cons offset halves ih => exact congrArg (offset :: ·) ih

/-- Encoding looks at the halves that follow the leading characters. -/
theorem encode_append (chars : List Char) {rest : List Point}
    (next : ∀ c, rest.head? ≠ some (Point.char c)) :
    encode (chars.map Point.char ++ rest) =
      if leadingHalves rest = [] then .ok (String.ofList chars)
      else .error ⟨chars.length, leadingHalves rest⟩ := by
  -- What is left after the leading characters is what the halves are taken from.
  have dropped : (chars.map Point.char ++ rest).drop chars.length = rest :=
    List.drop_left' (List.length_map _)
  simp only [encode, leadingChars_append chars next, dropped]
  split <;> simp_all

/-- Code points make a text exactly if they are its characters. -/
theorem encode_ok_iff {points : List Point} {text : String} :
    encode points = .ok text ↔ points = pointsOf text := by
  constructor
  · intro encoded
    obtain ⟨rest, parted, next⟩ := exists_leadingChars points
    rw [parted, encode_append _ next] at encoded
    split at encoded
    · next none =>
      cases encoded
      -- What follows the characters begins with neither a character nor a half.
      have ended : rest = [] := by
        rcases rest with _ | ⟨c | offset, rest⟩
        · rfl
        · exact absurd rfl (next c)
        · cases none
      rw [pointsOf, String.toList_ofList, ← List.append_nil (List.map _ _), ← ended]
      exact parted
    · cases encoded
  · rintro rfl
    rw [pointsOf, ← List.append_nil (List.map _ _), encode_append text.toList (by simp)]
    exact congrArg Except.ok String.ofList_toList

/-- Code points make no text for the first halves of surrogate pairs among them. -/
theorem encode_error_iff {points : List Point} {fault : EncodeFault} :
    encode points = .error fault ↔ fault.halves ≠ [] ∧ ∃ text rest,
      points = pointsOf text ++ (fault.halves.map Point.half ++ rest) ∧
        fault.position = text.length ∧ ∀ offset, rest.head? ≠ some (Point.half offset) := by
  constructor
  -- A refusal stands at the first half, after the characters in front of it.
  · intro refused
    obtain ⟨more, parted, next⟩ := exists_leadingChars points
    rw [parted, encode_append _ next] at refused
    split at refused <;> cases refused
    obtain ⟨rest, halves, last⟩ := exists_leadingHalves more
    refine ⟨‹_›, String.ofList (leadingChars points), rest, ?_, by simp, last⟩
    rw [pointsOf, String.toList_ofList, ← halves]
    exact parted
  -- Text, halves and rest determine both the place and the run of halves that is told.
  · rintro ⟨broken, text, rest, rfl, position, last⟩
    have next : ∀ c, (fault.halves.map Point.half ++ rest).head? ≠ some (Point.char c) := by
      obtain ⟨offset, halves, same⟩ := List.exists_cons_of_ne_nil broken
      simp [same]
    rw [pointsOf, encode_append _ next, leadingHalves_append _ last, if_neg broken,
      String.length_toList, ← position]

end AutomationIndex.Text

namespace AutomationIndex.Disk

/-- A file with the bytes of a text is read as that text with unified line ends. -/
theorem plainText_toUTF8 (text : String) :
    plainText text.toUTF8.toList = .ok (String.ofList (Text.unifyLineEnds text.toList)) := by
  rw [plainText, Text.decodeUtf8_toUTF8]
  rfl

/-- A file with the bytes of a text that begins with a bracket is read as that text with unified line
ends. -/
theorem markedText_toUTF8 {text : String} (begins : text.toList.head? = some '<') :
    markedText text.toUTF8.toList = .ok (String.ofList (Text.unifyLineEnds text.toList)) := by
  -- The first byte is that of a bracket, so there is no mark to drop.
  have unmarked : Text.dropMark text.toUTF8.toList = text.toUTF8.toList := by
    obtain ⟨more, bracket⟩ := List.head?_eq_some_iff.mp begins
    rw [Text.toUTF8_toList, bracket]
    rfl
  rw [markedText, unmarked, Text.decodeUtf8_toUTF8]
  rfl

end AutomationIndex.Disk
