import AutomationIndex.Proofs.Xml.Declared
import AutomationIndex.Proofs.Xml.Tagged

/-! Names by the last edition of XML, and how those are refused that earlier editions do not have. -/

namespace AutomationIndex.Xml

variable {rest : List Char}

/-- The closed ranges of characters beyond ASCII that may begin a name by the last edition. -/
def wideStartRanges : List (Nat × Nat) :=
  [(0xc0, 0xd6), (0xd8, 0xf6), (0xf8, 0x2ff), (0x370, 0x37d), (0x37f, 0x1fff), (0x200c, 0x200d),
  (0x2070, 0x218f), (0x2c00, 0x2fef), (0x3001, 0xd7ff), (0xf900, 0xfdcf), (0xfdf0, 0xfffd),
  (0x10000, 0xeffff)]

/-- The closed ranges of characters beyond ASCII that may only go on with a name by the last
edition. -/
def wideExtenderRanges : List (Nat × Nat) :=
  [(0xb7, 0xb7), (0x300, 0x36f), (0x203f, 0x2040)]

/-- Whether a character may begin a name by the last edition; the colon has a meaning of its own. -/
def isWideNameStart (c : Char) : Bool :=
  if c.toNat < 0x80 then c.isAlpha || c == '_' else Text.inRanges wideStartRanges c.toNat

/-- Whether a character may go on with a name by the last edition; the colon has a meaning of its
own. -/
def isWideNameChar (c : Char) : Bool :=
  isWideNameStart c ||
    (if c.toNat < 0x80 then c.isDigit || c == '.' || c == '-'
    else Text.inRanges wideExtenderRanges c.toNat)

/-- Whether characters are a name without a colon by the last edition. -/
def isWideName (chars : List Char) : Bool :=
  chars.head?.any isWideNameStart && chars.all isWideNameChar

section Widening

variable {c : Char}

/-- What is in a range is in a table that covers the range. -/
theorem inRanges_covered {ranges wide : List (Nat × Nat)} {n : Nat}
    (covered : ∀ range ∈ ranges, ∃ other ∈ wide, other.1 ≤ range.1 ∧ range.2 ≤ other.2)
    (held : Text.inRanges ranges n = true) : Text.inRanges wide n = true := by
  simp only [Text.inRanges, List.any_eq_true, Bool.and_eq_true, decide_eq_true_eq] at held ⊢
  obtain ⟨range, member, above, below⟩ := held
  obtain ⟨other, listed, first, last⟩ := covered range member
  exact ⟨other, listed, first.trans above, below.trans last⟩

/-- The last edition has every first character of a name that is read. -/
theorem isWideNameStart_of_isNameStart (first : isNameStart c = true) :
    isWideNameStart c = true := by
  unfold isNameStart at first
  unfold isWideNameStart
  -- Up to ASCII both editions agree; above it the ranges of the earlier one are covered.
  split at first
  · next low => simpa only [if_pos low] using first
  · next high =>
    rw [if_neg high]
    exact inRanges_covered (by decide +kernel) first

/-- The last edition has every character of a name that is read. -/
theorem isWideNameChar_of_isNameChar (kept : isNameChar c = true) : isWideNameChar c = true := by
  rw [isNameChar, Bool.or_eq_true] at kept
  rw [isWideNameChar, Bool.or_eq_true]
  rcases kept with first | other
  · exact .inl (isWideNameStart_of_isNameStart first)
  by_cases low : c.toNat < 0x80
  · simp only [if_pos low] at other ⊢
    exact .inr other
  · -- Some characters that could only go on with a name may now begin one.
    rw [if_neg low] at other
    have either : Text.inRanges (wideStartRanges ++ wideExtenderRanges) c.toNat = true :=
      inRanges_covered (by decide +kernel) other
    rw [isWideNameStart, if_neg low, if_neg low]
    simpa [Text.inRanges, or_and_right, exists_or] using either

/-- The last edition has every name that is read. -/
theorem isWideName_of_isName {name : List Char} (proper : isName name = true) :
    isWideName name = true := by
  obtain ⟨c, more, rfl, first⟩ := isName_cons proper
  have kept := List.all_eq_true.mp (Bool.and_eq_true_iff.mp proper).2
  refine Bool.and_eq_true_iff.mpr ⟨isWideNameStart_of_isNameStart first, ?_⟩
  exact List.all_eq_true.mpr fun d member => isWideNameChar_of_isNameChar (kept d member)

/-- A name of the last edition has a first character. -/
theorem isWideName_cons {name : List Char} (proper : isWideName name = true) :
    ∃ c more, name = c :: more ∧ isWideNameStart c = true := by
  cases name with
  | nil => simp [isWideName] at proper
  | cons c more =>
    have first : isWideNameStart c = true := by simpa using (Bool.and_eq_true_iff.mp proper).1
    exact ⟨c, more, rfl, first⟩

/-- A character that may go on with a name is none that may not. -/
theorem isWideNameChar_ne {d : Char} (kept : isWideNameChar c = true)
    (mark : isWideNameChar d = false) : c ≠ d := by
  rintro rfl
  simp [mark] at kept

/-- What begins a name begins with a letter, an underscore or a byte beyond ASCII. -/
theorem isWideNameStart_begins (first : isWideNameStart c = true) :
    (c.isAlpha || c == '_' || decide (0x80 ≤ c.toNat)) = true := by
  unfold isWideNameStart at first
  split at first
  · simp [first]
  · next high => simp [Nat.not_lt.mp high]

/-- A character of a name may stand in a document. -/
theorem isDocumentChar_wideNameChar (kept : isWideNameChar c = true) : isDocumentChar c = true := by
  by_cases low : c.toNat < 0x80
  · -- Of the first characters, only the controls may not, and they are no part of names.
    have listed : ∀ n < 0x80, isWideNameChar (Char.ofNat n) = true →
        isDocumentChar (Char.ofNat n) = true := by decide +kernel
    have same : Char.ofNat c.toNat = c := Char.ofNat_toNat c
    exact same ▸ listed _ low (same.symm ▸ kept)
  · -- No range holds one of the two numbers that are no characters of documents.
    have apart : ∀ n ∈ [0xFFFE, 0xFFFF],
        Text.inRanges (wideStartRanges ++ wideExtenderRanges) n = false := by decide +kernel
    have held : Text.inRanges (wideStartRanges ++ wideExtenderRanges) c.toNat = true := by
      simp only [isWideNameChar, isWideNameStart, if_neg low, Bool.or_eq_true] at kept
      simpa [Text.inRanges, or_and_right, exists_or] using kept
    have other : ∀ n ∈ [0xFFFE, 0xFFFF], c.toNat ≠ n := by
      intro n member same
      simp [apart n member, same] at held
    have high : ¬ c.toNat < 0x20 := by omega
    simp [isDocumentChar, high, other 0xFFFE (by simp), other 0xFFFF (by simp)]

/-- A name of the last edition is readable. -/
theorem isWideName_readable {name : List Char} (proper : isWideName name = true) :
    IsReadable name :=
  fun c member => isDocumentChar_wideNameChar
    (List.all_eq_true.mp (Bool.and_eq_true_iff.mp proper).2 c member)

end Widening

section Refusing

variable {name : List Char}

/-- A name that is not read breaks off, after a name or at once, before a character that goes on with
the name by the last edition only. -/
theorem exists_break (proper : isWideName name = true) (unknown : isName name = false) :
    ∃ taken d more, name = taken ++ d :: more ∧ isWideNameChar d = true ∧
      (isName taken = true ∧ isNameChar d = false ∨ taken = [] ∧ isNameStart d = false) := by
  obtain ⟨c, others, rfl, -⟩ := isWideName_cons proper
  have kept := List.all_eq_true.mp (Bool.and_eq_true_iff.mp proper).2
  cases first : isNameStart c with
  | false => exact ⟨[], c, others, rfl, kept c List.mem_cons_self, .inr ⟨rfl, first⟩⟩
  | true =>
    -- The first character is in order, so another one is not.
    have whole := List.takeWhile_append_dropWhile (p := isNameChar) (l := c :: others)
    cases left : (c :: others).dropWhile isNameChar with
    | nil =>
      have all : ∀ d ∈ c :: others, isNameChar d = true := List.dropWhile_eq_nil_iff.mp left
      simp [isName, first, List.all_eq_true.mpr all] at unknown
    | cons d more =>
      rw [left] at whole
      have stops : isNameChar d = false := by
        simpa [left] using List.head?_dropWhile_not isNameChar (c :: others)
      have begins : ((c :: others).takeWhile isNameChar).head? = some c := by
        simp [isNameChar, first]
      have named : isName ((c :: others).takeWhile isNameChar) = true := by
        rw [isName, begins, List.all_takeWhile]
        simp [first]
      have member : d ∈ c :: others := by
        rw [← whole]
        simp
      exact ⟨_, d, more, whole.symm, kept d member, .inl ⟨named, stops⟩⟩

/-- A start tag with a name that is not read stops at a character that cannot stand there. -/
theorem scanStartTag_unknown (proper : isWideName name = true) (unknown : isName name = false)
    (bound : Nat) : ∃ left, scanStartTag (bound + 1) (name ++ rest) = .error (.bad left) := by
  obtain ⟨taken, d, more, rfl, kept, ⟨named, stops⟩ | ⟨rfl, stops⟩⟩ := exists_break proper unknown
  · -- The name that comes before is complete, and then neither a blank nor the end of the tag comes.
    have other : d ≠ ':' := isWideNameChar_ne kept (by decide)
    have close : d ≠ '>' := isWideNameChar_ne kept (by decide)
    have slash : d ≠ '/' := isWideNameChar_ne kept (by decide)
    have blank : d ≠ ' ' := isWideNameChar_ne kept (by decide)
    have tab : d ≠ '\t' := isWideNameChar_ne kept (by decide)
    have line : d ≠ '\n' := isWideNameChar_ne kept (by decide)
    have back : d ≠ '\r' := isWideNameChar_ne kept (by decide)
    have solid : Text.isSpace d = false := by simp [Text.isSpace, blank, tab, line, back]
    have unended : scanTagEnd? (d :: (more ++ rest)) = none := by
      rw [scanTagEnd?]
      all_goals simp [close, slash]
    refine ⟨(d :: (more ++ rest)).length, ?_⟩
    rw [List.append_assoc, List.cons_append, scanStartTag,
      scanQualifiedName_written named ⟨stops, other⟩]
    simp only [bind, Except.bind, scanAttributes, unended, solid, Bool.false_eq_true, if_false]
  · refine ⟨(more ++ rest).length + 1, ?_⟩
    simp [scanStartTag, scanQualifiedName, scanName, needNameStart, stops, bind, Except.bind]

/-- Content that begins with such a tag is refused at that character. -/
theorem scanToken_unknown {hasRoom : Nat → List Char → Bool} (proper : isWideName name = true)
    (unknown : isName name = false) (bound : Nat) :
    ∃ left, scanToken hasRoom (bound + 1) ('<' :: (name ++ rest)) = .error (.bad left) := by
  obtain ⟨left, refused⟩ : ∃ left, scanStartTag (bound + 1) (name ++ rest) = .error (.bad left) :=
    scanStartTag_unknown proper unknown bound
  refine ⟨left, ?_⟩
  -- The first character is none of the marks of other markup.
  obtain ⟨c, more, rfl, first⟩ := isWideName_cons proper
  have kept : isWideNameChar c = true := by simp [isWideNameChar, first]
  have exclamation : c ≠ '!' := isWideNameChar_ne kept (by decide)
  have question : c ≠ '?' := isWideNameChar_ne kept (by decide)
  have slash : c ≠ '/' := isWideNameChar_ne kept (by decide)
  rw [List.cons_append] at refused ⊢
  rw [scanToken, scanMarkup]
  · exact refused
  all_goals simp [exclamation, question, slash]

end Refusing

end AutomationIndex.Xml
