import AutomationIndex.Proofs.Logged
import AutomationIndex.Xml.Content
import AutomationIndex.Xml.Doctype.Token
import Mathlib.Data.List.Infix

/-! What scanning leaves of a text: always an ending of it. -/

namespace AutomationIndex.Xml

variable {chars rest : List Char}

/-- What is taken from a text while a condition holds, and what is dropped then, make the text. -/
theorem takeWhile_append_drop (p : Char → Bool) (chars : List Char) :
    chars.takeWhile p ++ chars.drop (chars.takeWhile p).length = chars :=
  List.prefix_iff_eq_append.mp (List.takeWhile_prefix p)

/-- What follows the first character of what is dropped is an ending of the text. -/
theorem suffix_of_drop {count : Nat} {c : Char} (dropped : chars.drop count = c :: rest) :
    rest <:+ chars :=
  (List.suffix_cons c rest).trans (dropped ▸ List.drop_suffix count chars)

/-- A name and what follows it make the text. -/
theorem scanName_split {name : List Char} (scanned : scanName chars = .ok (name, rest)) :
    name ++ rest = chars := by
  simp only [scanName, exceptBind_ok_iff] at scanned
  obtain ⟨_, _, scanned⟩ := scanned
  split at scanned
  · simp at scanned
  · simp only [Except.ok.injEq, Prod.mk.injEq] at scanned
    obtain ⟨rfl, rfl⟩ := scanned
    -- A name ends where its characters do.
    exact takeWhile_append_drop isNameChar chars

/-- A name leaves an ending of the text. -/
theorem scanName_rest {name : List Char} (scanned : scanName chars = .ok (name, rest)) :
    rest <:+ chars :=
  ⟨name, scanName_split scanned⟩

/-- A name with or without a colon leaves an ending of the text. -/
theorem scanQualifiedName_rest {name : List Char}
    (scanned : scanQualifiedName chars = .ok (name, rest)) : rest <:+ chars := by
  simp only [scanQualifiedName, exceptBind_ok_iff] at scanned
  obtain ⟨⟨first, left⟩, named, scanned⟩ := scanned
  have outer := scanName_rest named
  dsimp only at scanned
  split at scanned
  · -- A colon divides the name in two, and a second one is refused.
    rename_i after
    rw [exceptBind_ok_iff] at scanned
    obtain ⟨⟨part, remaining⟩, named, scanned⟩ := scanned
    have inner := (scanName_rest named).trans ((List.suffix_cons ':' after).trans outer)
    dsimp only at scanned
    split at scanned
    · simp at scanned
    · cases scanned
      exact inner
  · cases scanned
    exact outer

/-- The digits of a reference leave an ending of the text, and stand for a character of documents. -/
theorem scanDigits_rest {base : Nat} {isDigit : Char → Bool} {reference : Reference}
    (scanned : scanDigits base isDigit chars = .ok (reference, rest)) : rest <:+ chars := by
  unfold scanDigits at scanned
  -- The digits end before a semicolon, which belongs to the reference.
  dsimp only at scanned
  split at scanned
  · simp at scanned
  · rename_i dropped
    split at scanned
    · cases scanned
      exact suffix_of_drop dropped
    · simp at scanned

/-- A reference leaves an ending of the text. -/
theorem scanReference_rest {reference : Reference}
    (scanned : scanReference chars = .ok (reference, rest)) : rest <:+ chars := by
  unfold scanReference at scanned
  split at scanned
  · -- A number is written with or without an x, and anything else is a name.
    exact (scanDigits_rest scanned).trans ((List.suffix_cons 'x' _).trans (List.suffix_cons '#' _))
  · exact (scanDigits_rest scanned).trans (List.suffix_cons '#' _)
  · rw [exceptBind_ok_iff] at scanned
    obtain ⟨⟨name, left⟩, named, scanned⟩ := scanned
    have outer := scanName_rest named
    dsimp only at scanned
    split at scanned
    · cases scanned
      exact (List.suffix_cons ';' _).trans outer
    · simp at scanned

/-- A reference to a character stands for one that a document may hold. -/
theorem scanReference_character {c : Char}
    (scanned : scanReference chars = .ok (.character (some c), rest)) : isDocumentChar c = true := by
  -- Numbers of characters that no document may hold stand for none.
  have numbered : ∀ n, characterNumbered n = some c → isDocumentChar c = true := by
    intro n same
    unfold characterNumbered at same
    split at same
    · dsimp only at same
      split at same
      · cases same
        assumption
      · simp at same
    · simp at same
  have digits : ∀ {base : Nat} {isDigit : Char → Bool} {written : List Char},
      scanDigits base isDigit written = .ok (.character (some c), rest) →
        isDocumentChar c = true := by
    intro base isDigit written read
    unfold scanDigits at read
    dsimp only at read
    split at read
    · simp at read
    · split at read
      · simp only [Except.ok.injEq, Prod.mk.injEq, Reference.character.injEq] at read
        exact numbered _ read.1
      · simp at read
  unfold scanReference at scanned
  split at scanned
  · exact digits scanned
  · exact digits scanned
  · rw [exceptBind_ok_iff] at scanned
    obtain ⟨⟨name, left⟩, _, scanned⟩ := scanned
    dsimp only at scanned
    split at scanned <;> simp at scanned

/-- A reference to an entity names it with characters of the text. -/
theorem scanReference_entity {name : List Char}
    (scanned : scanReference chars = .ok (.entity name, rest)) : name ⊆ chars := by
  -- Digits stand for a character and never for an entity.
  have digits : ∀ {base : Nat} {isDigit : Char → Bool} {written : List Char},
      scanDigits base isDigit written ≠ .ok (.entity name, rest) := by
    intro base isDigit written read
    unfold scanDigits at read
    dsimp only at read
    split at read
    · simp at read
    · split at read <;> simp at read
  unfold scanReference at scanned
  split at scanned
  · exact absurd scanned digits
  · exact absurd scanned digits
  · rw [exceptBind_ok_iff] at scanned
    obtain ⟨⟨named, left⟩, read, scanned⟩ := scanned
    have whole := scanName_split read
    dsimp only at scanned
    split at scanned
    · cases scanned
      exact whole ▸ List.subset_append_left _ _
    · simp at scanned

/-- What stands before a closing pair is a part of the text, and what follows is an ending. -/
theorem scanUpTo_split {first second : Char} {found inner : List Char}
    (scanned : scanUpTo first second found chars = .ok (inner, rest)) :
    ∃ taken, inner = found.reverse ++ taken ∧ taken ++ first :: second :: rest = chars := by
  induction chars generalizing found with
  | nil => simp [scanUpTo] at scanned
  | cons c more ih =>
    unfold scanUpTo at scanned
    split at scanned
    · rename_i d after
      split at scanned
      · rename_i closes
        cases scanned
        simp only [Bool.and_eq_true, beq_iff_eq] at closes
        -- The pair stands here, so nothing more is taken.
        exact ⟨[], by simp, by simp [closes]⟩
      · -- Otherwise the character belongs to what stands before the pair.
        obtain ⟨taken, rfl, same⟩ := ih scanned
        exact ⟨c :: taken, by simp, by simp [same]⟩
    · simp at scanned

/-- What follows a closing pair is an ending of the text. -/
theorem scanUpTo_rest {first second : Char} {found inner : List Char}
    (scanned : scanUpTo first second found chars = .ok (inner, rest)) : rest <:+ chars := by
  obtain ⟨taken, _, same⟩ := scanUpTo_split scanned
  exact ⟨taken ++ [first, second], by simpa using same⟩

/-- A comment leaves an ending of the text. -/
theorem scanComment_rest {done : Unit} (scanned : scanComment chars = .ok (done, rest)) :
    rest <:+ chars := by
  unfold scanComment at scanned
  split at scanned
  · simp at scanned
  · rw [exceptBind_ok_iff] at scanned
    obtain ⟨⟨inner, left⟩, found, scanned⟩ := scanned
    -- Two dashes close a comment, and only the end of the tag may follow.
    have outer := (scanUpTo_rest found).trans (List.suffix_cons '-' _)
    dsimp only at scanned
    split at scanned
    · simp at scanned
    · cases scanned
      exact (List.suffix_cons '>' _).trans outer
    · simp at scanned
  · simp at scanned

/-- An instruction leaves an ending of the text. -/
theorem scanInstruction_rest {instruction : Instruction}
    (scanned : scanInstruction chars = .ok (instruction, rest)) : rest <:+ chars := by
  simp only [scanInstruction, exceptBind_ok_iff] at scanned
  obtain ⟨⟨target, left⟩, named, scanned⟩ := scanned
  have outer := scanName_rest named
  dsimp only at scanned
  split at scanned
  · -- The target is followed by white space and the data, or by the end of the instruction.
    rename_i c after
    have inner := (List.suffix_cons c after).trans outer
    split at scanned
    · simp only [exceptBind_ok_iff, Except.ok.injEq, Prod.mk.injEq] at scanned
      obtain ⟨_, _, ⟨data, left⟩, found, _, rfl⟩ := scanned
      exact (scanUpTo_rest found).trans inner
    · split at scanned
      · rw [exceptBind_ok_iff] at scanned
        obtain ⟨_, _, scanned⟩ := scanned
        split at scanned
        · simp at scanned
        · cases scanned
          exact (List.suffix_cons '>' _).trans inner
        · simp at scanned
      · simp at scanned
  · simp at scanned

/-- The value of an attribute leaves an ending of the text. -/
theorem scanValue_rest {quote : Char} {found value : List Char}
    (scanned : scanValue quote found chars = .ok (value, rest)) : rest <:+ chars := by
  induction chars generalizing found with
  | nil => simp [scanValue] at scanned
  | cons c more ih =>
    -- Each character is either the closing quote or a part of the value.
    have shorter := List.suffix_cons c more
    unfold scanValue at scanned
    split at scanned
    · cases scanned
      exact shorter
    · split at scanned
      · simp at scanned
      · split at scanned
        · rw [exceptBind_ok_iff] at scanned
          obtain ⟨_, _, scanned⟩ := scanned
          exact (ih scanned).trans shorter
        · exact (ih scanned).trans shorter

/-- A character after white space leaves an ending of the text. -/
theorem scanAfterSpace_rest {wanted : Char → Bool} {c : Char}
    (scanned : scanAfterSpace wanted chars = .ok (c, rest)) : rest <:+ chars := by
  -- White space is dropped, and then one character is wanted.
  have spaces := List.dropWhile_suffix (l := chars) Text.isSpace
  unfold scanAfterSpace at scanned
  split at scanned
  · simp at scanned
  · rename_i d more dropped
    split at scanned
    · cases scanned
      rw [dropped] at spaces
      exact (List.suffix_cons _ _).trans spaces
    · simp at scanned

/-- An attribute leaves an ending of the text. -/
theorem scanAttribute_rest {raw : RawAttribute}
    (scanned : scanAttribute chars = .ok (raw, rest)) : rest <:+ chars := by
  simp only [scanAttribute, exceptBind_ok_iff, Except.ok.injEq, Prod.mk.injEq] at scanned
  obtain ⟨⟨name, first⟩, named, ⟨_, second⟩, equals, ⟨quote, third⟩, opened, ⟨value, last⟩, closed,
    _, rfl⟩ := scanned
  -- Each of the four steps begins where the one before it ended.
  exact (scanValue_rest closed).trans ((scanAfterSpace_rest opened).trans
    ((scanAfterSpace_rest equals).trans (scanQualifiedName_rest named)))

/-- The end of a tag leaves an ending of the text. -/
theorem scanTagEnd?_rest {isEmpty : Bool}
    (scanned : scanTagEnd? chars = some (.ok (isEmpty, rest))) : rest <:+ chars := by
  -- One or two characters end a tag.
  unfold scanTagEnd? at scanned
  split at scanned
  · cases scanned
    exact List.suffix_cons _ _
  · simp at scanned
  · cases scanned
    exact (List.suffix_cons _ _).trans (List.suffix_cons _ _)
  · simp at scanned
  · simp at scanned

/-- The attributes of a tag and its end leave an ending of the text. -/
theorem scanAttributes_rest {bound : Nat} {found attributes : List RawAttribute} {isEmpty : Bool}
    (scanned : scanAttributes bound found chars = .ok ((attributes, isEmpty), rest)) :
    rest <:+ chars := by
  induction bound generalizing found chars with
  | zero => simp [scanAttributes] at scanned
  | succ bound ih =>
    unfold scanAttributes at scanned
    split at scanned
    · rename_i closed
      simp only [exceptBind_ok_iff, Except.ok.injEq, Prod.mk.injEq] at scanned
      obtain ⟨⟨_, left⟩, rfl, _, rfl⟩ := scanned
      exact scanTagEnd?_rest closed
    · split at scanned
      · simp at scanned
      · -- White space stands before the end of the tag or the next attribute.
        rename_i c more _
        have spaces := (List.dropWhile_suffix (l := more) Text.isSpace).trans (List.suffix_cons c more)
        split at scanned
        · dsimp only at scanned
          split at scanned
          · rename_i closed
            simp only [exceptBind_ok_iff, Except.ok.injEq, Prod.mk.injEq] at scanned
            obtain ⟨⟨_, left⟩, rfl, _, rfl⟩ := scanned
            exact (scanTagEnd?_rest closed).trans spaces
          · rw [exceptBind_ok_iff] at scanned
            obtain ⟨⟨next, left⟩, read, scanned⟩ := scanned
            exact (ih scanned).trans ((scanAttribute_rest read).trans spaces)
        · simp at scanned

/-- A start tag leaves an ending of the text. -/
theorem scanStartTag_rest {bound : Nat} {token : Token}
    (scanned : scanStartTag bound chars = .ok (token, rest)) : rest <:+ chars := by
  simp only [scanStartTag, exceptBind_ok_iff, Except.ok.injEq, Prod.mk.injEq] at scanned
  obtain ⟨⟨name, left⟩, named, ⟨⟨attributes, isEmpty⟩, last⟩, read, _, rfl⟩ := scanned
  exact (scanAttributes_rest read).trans (scanQualifiedName_rest named)

/-- An end tag leaves an ending of the text. -/
theorem scanEndTag_rest {token : Token} (scanned : scanEndTag chars = .ok (token, rest)) :
    rest <:+ chars := by
  simp only [scanEndTag, exceptBind_ok_iff] at scanned
  obtain ⟨_, _, scanned⟩ := scanned
  split at scanned
  · simp at scanned
  · rename_i c more dropped
    -- The name of the element may be followed by white space.
    have outer := suffix_of_drop dropped
    split at scanned
    · cases scanned
      exact outer
    · split at scanned
      · simp only [exceptBind_ok_iff, Except.ok.injEq, Prod.mk.injEq] at scanned
        obtain ⟨⟨_, left⟩, closed, _, rfl⟩ := scanned
        exact (scanAfterSpace_rest closed).trans outer
      · simp at scanned

/-- A word leaves an ending of the text. -/
theorem scanWord_rest {word : List Char} {done : Unit}
    (scanned : scanWord word chars = .ok (done, rest)) : rest <:+ chars := by
  -- Each character of the word is the next one of the text.
  induction word generalizing chars with
  | nil =>
    cases scanned
    exact List.suffix_rfl
  | cons c word ih =>
    cases chars with
    | nil => simp [scanWord] at scanned
    | cons d more =>
      unfold scanWord at scanned
      split at scanned
      · exact (ih scanned).trans (List.suffix_cons d more)
      · simp at scanned

/-- Markup leaves an ending of the text. -/
theorem scanMarkup_rest {hasRoom : Nat → List Char → Bool} {bound : Nat} {token : Token}
    (scanned : scanMarkup hasRoom bound chars = .ok (token, rest)) : rest <:+ chars := by
  -- What follows the bracket tells a comment, a section, an instruction and a tag apart.
  unfold scanMarkup at scanned
  split at scanned
  · simp at scanned
  · simp at scanned
  · simp only [exceptBind_ok_iff, Except.ok.injEq, Prod.mk.injEq] at scanned
    obtain ⟨⟨_, left⟩, read, _, rfl⟩ := scanned
    exact (scanComment_rest read).trans ((List.suffix_cons '-' _).trans (List.suffix_cons '!' _))
  · unfold scanSectionOpen at scanned
    split at scanned
    · simp only [exceptBind_ok_iff, Except.ok.injEq, Prod.mk.injEq] at scanned
      obtain ⟨⟨_, left⟩, read, _, rfl⟩ := scanned
      exact (scanWord_rest read).trans ((List.suffix_cons '[' _).trans (List.suffix_cons '!' _))
    · simp at scanned
  · simp at scanned
  · simp only [exceptBind_ok_iff, Except.ok.injEq, Prod.mk.injEq] at scanned
    obtain ⟨⟨_, left⟩, read, _, rfl⟩ := scanned
    exact (scanInstruction_rest read).trans (List.suffix_cons '?' _)
  · exact (scanEndTag_rest scanned).trans (List.suffix_cons '/' _)
  · exact scanStartTag_rest scanned

/-- Character data and what follows it make the text. -/
theorem scanData_split {found data : List Char} (scanned : scanData found chars = (data, rest)) :
    data ++ rest = found.reverse ++ chars := by
  induction chars generalizing found with
  | nil =>
    cases scanned
    rfl
  | cons c more ih =>
    unfold scanData at scanned
    split at scanned
    · cases scanned
      rfl
    · -- The character belongs to the data.
      simpa using ih scanned

/-- A token of content leaves an ending of the text. -/
theorem scanToken_rest {hasRoom : Nat → List Char → Bool} {bound : Nat} {token : Token}
    (scanned : scanToken hasRoom bound chars = .ok (token, rest)) : rest <:+ chars := by
  -- The first character decides the kind of the token.
  unfold scanToken at scanned
  split at scanned
  · simp at scanned
  · exact (scanMarkup_rest scanned).trans (List.suffix_cons '<' _)
  · simp only [exceptBind_ok_iff, Except.ok.injEq, Prod.mk.injEq] at scanned
    obtain ⟨⟨_, left⟩, read, _, rfl⟩ := scanned
    exact (scanReference_rest read).trans (List.suffix_cons '&' _)
  · split at scanned
    · simp at scanned
    · -- Everything else is character data up to the next markup.
      rename_i data left _ cut
      cases scanned
      exact ⟨data, by simpa using scanData_split cut⟩

/-- Markup is neither character data nor a reference. -/
theorem scanMarkup_kind {hasRoom : Nat → List Char → Bool} {bound : Nat} {token : Token}
    (scanned : scanMarkup hasRoom bound chars = .ok (token, rest)) :
    (∀ data, token ≠ .data data) ∧ ∀ reference, token ≠ .reference reference := by
  -- Each kind of markup gives a token of its own.
  unfold scanMarkup at scanned
  split at scanned
  · cases scanned
  · cases scanned
  · simp only [exceptBind_ok_iff, Except.ok.injEq, Prod.mk.injEq] at scanned
    obtain ⟨_, _, rfl, _⟩ := scanned
    simp
  · unfold scanSectionOpen at scanned
    split at scanned
    · simp only [exceptBind_ok_iff, Except.ok.injEq, Prod.mk.injEq] at scanned
      obtain ⟨_, _, rfl, _⟩ := scanned
      simp
    · cases scanned
  · cases scanned
  · simp only [exceptBind_ok_iff, Except.ok.injEq, Prod.mk.injEq] at scanned
    obtain ⟨_, _, rfl, _⟩ := scanned
    simp
  · -- An end tag is one whether or not white space follows its name.
    simp only [scanEndTag, exceptBind_ok_iff] at scanned
    obtain ⟨_, _, scanned⟩ := scanned
    split at scanned
    · cases scanned
    · split at scanned
      · cases scanned
        simp
      · split at scanned
        · simp only [exceptBind_ok_iff, Except.ok.injEq, Prod.mk.injEq] at scanned
          obtain ⟨_, _, rfl, _⟩ := scanned
          simp
        · cases scanned
  · simp only [scanStartTag, exceptBind_ok_iff, Except.ok.injEq, Prod.mk.injEq] at scanned
    obtain ⟨_, _, _, _, rfl, _⟩ := scanned
    simp

/-- Character data is a part of the text. -/
theorem scanToken_data {hasRoom : Nat → List Char → Bool} {bound : Nat} {data : List Char}
    (scanned : scanToken hasRoom bound chars = .ok (.data data, rest)) : data ⊆ chars := by
  unfold scanToken at scanned
  split at scanned
  · cases scanned
  · exact absurd rfl ((scanMarkup_kind scanned).1 data)
  · simp [exceptBind_ok_iff] at scanned
  · split at scanned
    · cases scanned
    · rename_i cut
      cases scanned
      -- Nothing was found before, so the data is the beginning of the text.
      have whole := scanData_split cut
      rw [List.reverse_nil, List.nil_append] at whole
      exact whole ▸ List.subset_append_left _ _

/-- A reference to a character in content stands for one that a document may hold. -/
theorem scanToken_character {hasRoom : Nat → List Char → Bool} {bound : Nat} {c : Char}
    (scanned : scanToken hasRoom bound chars = .ok (.reference (.character (some c)), rest)) :
    isDocumentChar c = true := by
  -- Neither data nor markup is a reference.
  unfold scanToken at scanned
  split at scanned
  · cases scanned
  · exact absurd rfl ((scanMarkup_kind scanned).2 _)
  · simp only [exceptBind_ok_iff, Except.ok.injEq, Prod.mk.injEq, Token.reference.injEq] at scanned
    obtain ⟨⟨reference, left⟩, read, rfl, _⟩ := scanned
    exact scanReference_character read
  · split at scanned <;> cases scanned

/-- The data of a section is a part of the text, and what follows its end mark is an ending. -/
theorem scanSection_split {found data : List Char}
    (scanned : scanSection found chars = .ok (data, rest)) :
    ∃ taken, data = found.reverse ++ taken ∧ taken ++ ']' :: ']' :: '>' :: rest = chars := by
  induction chars generalizing found with
  | nil => simp [scanSection] at scanned
  | cons c more ih =>
    unfold scanSection at scanned
    split at scanned
    · -- The end mark stands here.
      rename_i closes
      cases closes
      cases scanned
      exact ⟨[], by simp, by simp⟩
    · simp at scanned
    · simp at scanned
    · simp at scanned
    · simp at scanned
    · rename_i same
      cases same
      obtain ⟨taken, rfl, whole⟩ := ih scanned
      exact ⟨c :: taken, by simp, by simp [whole]⟩

end AutomationIndex.Xml
