import AutomationIndex.Proofs.Logged
import AutomationIndex.Xml.Content

/-! Escaped text: markup, tabs and line ends are written as references, and are read as what they
stand for, in values and in content. -/

namespace AutomationIndex.Xml

/-- The characters that are written as references, with what follows the ampersand. -/
def references : List (Char × List Char) :=
  [('&', "amp;".toList), ('<', "lt;".toList), ('>', "gt;".toList), ('"', "quot;".toList),
    ('\t', "#9;".toList), ('\n', "#10;".toList), ('\r', "#13;".toList)]

/-- A character as it is written in values and in content. -/
def escapedChar (c : Char) : List Char :=
  match references.find? fun entry => entry.1 == c with
  | some (_, body) => '&' :: body
  | none => [c]

/-- A text as it is written in values and in content. -/
def escaped (chars : List Char) : List Char :=
  chars.flatMap escapedChar

@[simp] theorem escaped_nil : escaped [] = [] := rfl

@[simp] theorem escaped_cons (c : Char) (rest : List Char) :
    escaped (c :: rest) = escapedChar c ++ escaped rest := rfl

/-- Whether a character is written as it is: it is neither markup nor a tab or a line end. -/
def IsPlain (c : Char) : Prop :=
  c ∉ references.map Prod.fst

/-- A character is written as it is or by its reference. -/
theorem escapedChar_cases (c : Char) :
    (IsPlain c ∧ escapedChar c = [c]) ∨
      ∃ body, (c, body) ∈ references ∧ escapedChar c = '&' :: body := by
  unfold escapedChar
  -- The table of references decides: a character that is not in it stands for itself.
  cases found : references.find? fun entry => entry.1 == c with
  | none =>
    refine .inl ⟨?_, rfl⟩
    intro member
    obtain ⟨entry, member, same⟩ := List.mem_map.mp member
    simpa [same] using List.find?_eq_none.mp found entry member
  | some entry =>
    have same : entry.1 = c := by simpa using List.find?_some found
    exact .inr ⟨entry.2, same ▸ List.mem_of_find?_eq_some found, rfl⟩

/-- A character that is written as it is is none of those that are written as references. -/
theorem IsPlain.ne {c d : Char} (plain : IsPlain c) (written : d ∈ references.map Prod.fst) :
    c ≠ d :=
  fun same => plain (same ▸ written)

/-- The only white space that is written as it is is the blank. -/
theorem IsPlain.eq_blank {c : Char} (plain : IsPlain c) (space : Text.isSpace c = true) : c = ' ' := by
  have tab : c ≠ '\t' := plain.ne (by decide)
  have line : c ≠ '\n' := plain.ne (by decide)
  have back : c ≠ '\r' := plain.ne (by decide)
  simpa [Text.isSpace, tab, line, back] using space

/-- The body of a reference neither ends a value nor begins markup or another reference. -/
theorem references_quiet : ∀ entry ∈ references, ∀ d ∈ entry.2, d ≠ '"' ∧ d ≠ '<' ∧ d ≠ '&' := by
  have checked : ∀ entry ∈ references,
      entry.2.all (fun d => d != '"' && d != '<' && d != '&') = true := by decide
  intro entry member d among
  simpa [and_assoc] using List.all_eq_true.mp (checked entry member) d among

/-- Whether a reference stands for a character, as one of the predefined names or by its number. -/
inductive Reference.StandsFor (c : Char) : Reference → Prop where
  | entity {name : List Char} (predefined : predefined? name = some c) : StandsFor c (.entity name)
  | character (other : c ≠ ' ') : StandsFor c (.character (some c))

/-- The body of a reference is read as one that stands for its character. -/
theorem references_read (rest : List Char) : ∀ entry ∈ references, ∃ reference,
    scanReference (entry.2 ++ rest) = .ok (reference, rest) ∧ reference.StandsFor entry.1 := by
  simp only [references, List.forall_mem_cons, List.not_mem_nil, false_imp_iff, implies_true,
    and_true]
  exact ⟨⟨_, rfl, .entity rfl⟩, ⟨_, rfl, .entity rfl⟩, ⟨_, rfl, .entity rfl⟩, ⟨_, rfl, .entity rfl⟩,
    ⟨_, rfl, .character (by decide)⟩, ⟨_, rfl, .character (by decide)⟩,
    ⟨_, rfl, .character (by decide)⟩⟩

/-- The raw value between quotes is scanned up to the closing one. -/
theorem scanValue_quiet {word found rest : List Char}
    (quiet : ∀ d ∈ word, d ≠ '"' ∧ d ≠ '<' ∧ d ≠ '&') :
    scanValue '"' found (word ++ rest) = scanValue '"' (word.reverse ++ found) rest := by
  -- None of the characters ends the value or opens a reference, so all are passed over.
  induction word generalizing found with
  | nil => rfl
  | cons d word ih =>
    obtain ⟨⟨quote, bracket, ampersand⟩, later⟩ := List.forall_mem_cons.mp quiet
    simp [scanValue, quote, bracket, ampersand, ih later]

/-- An escaped value is scanned up to its closing quote. -/
theorem scanValue_escaped (text found rest : List Char) :
    scanValue '"' found (escaped text ++ '"' :: rest) =
      .ok (found.reverse ++ escaped text, rest) := by
  induction text generalizing found with
  | nil => simp [scanValue]
  | cons c text ih =>
    rcases escapedChar_cases c with ⟨plain, written⟩ | ⟨body, member, written⟩
    · have quote : c ≠ '"' := plain.ne (by decide)
      have bracket : c ≠ '<' := plain.ne (by decide)
      have ampersand : c ≠ '&' := plain.ne (by decide)
      simp [written, scanValue, quote, bracket, ampersand, ih]
    · -- The reference is looked at from its ampersand, and then passed over like any characters.
      obtain ⟨reference, read, -⟩ := references_read (escaped text ++ '"' :: rest) _ member
      have quiet := references_quiet _ member
      simp only [escaped_cons, written, List.cons_append, List.append_assoc]
      rw [scanValue]
      simp only [show ('&' == '"') = false from rfl, show ('&' == '<') = false from rfl,
        beq_self_eq_true, Bool.false_eq_true, if_false, if_true, read]
      change scanValue '"' ('&' :: found) _ = _
      rw [scanValue_quiet quiet, ih]
      simp

/-- An escaped value is read as the text that it writes. -/
theorem readValue_escaped {context : ValueContext} (free : context.asWords = false)
    {depth bound : Nat} {text : List Char} (enough : (escaped text).length < bound)
    (state : ValueState) :
    readValue context depth bound [] (escaped text) state =
      .ok { state with reversed := text.reverse ++ state.reversed } := by
  -- The induction is on the characters written, each as itself or as its reference.
  induction text generalizing bound state with
  | nil =>
    cases bound with
    | zero => simp at enough
    | succ bound => simp [readValue]
  | cons c text ih =>
    cases bound with
    | zero => simp at enough
    | succ bound =>
    rcases escapedChar_cases c with ⟨plain, written⟩ | ⟨body, member, written⟩
    · rw [escaped_cons, written, List.singleton_append] at enough ⊢
      rw [List.length_cons, Nat.add_lt_add_iff_right] at enough
      -- A plain blank is a space already, so it is added like any other character.
      have added : (if Text.isSpace c = true then state.addBlank context.asWords else state.add c) =
          { state with reversed := c :: state.reversed } := by
        split
        · next space => simp [plain.eq_blank space, ValueState.addBlank, free]
        · rfl
      rw [readValue]
      · have bracket : c ≠ '<' := plain.ne (by decide)
        simp [bracket, added, ih enough]
      · exact plain.ne (by decide)
      · intro _ same _
        exact absurd same (plain.ne (by decide))
    -- The reference is read in one step, and it stands for the character it was written for.
    · obtain ⟨reference, read, stands⟩ := references_read (escaped text) _ member
      rw [escaped_cons, written, List.cons_append] at enough ⊢
      rw [List.length_cons, List.length_append] at enough
      rw [readValue, read]
      cases stands with
      | entity predefined => simp [predefined, ih (show _ < bound by omega), ValueState.add]
      | character other => simp [other, ih (show _ < bound by omega), ValueState.add]

/-- The value of an attribute that is written escaped is the text. -/
theorem attributeValue_escaped {context : ValueContext} (free : context.asWords = false)
    (spent : Nat) (text : List Char) :
    attributeValue context spent (escaped text) = .ok (text, spent) := by
  simp [attributeValue, readValue_escaped free (Nat.lt_succ_self _), free, bind, Except.bind]

end AutomationIndex.Xml
