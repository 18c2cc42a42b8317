import AutomationIndex.Proofs.Text.LineEnds
import AutomationIndex.Proofs.Xml.Escaped
import AutomationIndex.Proofs.Xml.Remainder

/-! Written elements: tags with escaped values around escaped text, and what reading them builds. -/

namespace AutomationIndex.Xml

variable {context : ContentContext} {depth bound : Nat} {frame : Frame} {last : Option Char}
  {chars rest : List Char} {state after : ContentState}

section Steps

variable (some : chars ≠ [])

include some

/-- Character data is added to the innermost element. -/
theorem readContent_data {data : List Char}
    (scanned : scanToken context.source.hasRoom bound chars = .ok (.data data, rest)) :
    readContent context depth (bound + 1) frame last chars state =
      readContent context depth bound frame data.getLast? rest
        (state.addText (Text.unifyLineEnds data)) := by
  rw [readContent, scanned]
  exact some

/-- A reference to a character adds the character. -/
theorem readContent_reference {c : Char} {reference : Reference}
    (scanned : scanToken context.source.hasRoom bound chars = .ok (.reference reference, rest))
    (stands : reference.StandsFor c) :
    readContent context depth (bound + 1) frame last chars state =
      readContent context depth bound frame none rest (state.addText [c]) := by
  cases stands with
  -- A predefined entity is looked up by name, and a character reference is the character itself.
  | entity predefined =>
    rw [readContent, scanned]
    · simp only [predefined]
    · exact some
  | character other =>
    rw [readContent, scanned]
    exact some

/-- A start tag within content opens an element or adds an empty one. -/
theorem readContent_startTag {name : List Char} {attributes : List RawAttribute} {isEmpty : Bool}
    (scanned : scanToken context.source.hasRoom bound chars =
      .ok (.startTag name attributes isEmpty, rest))
    (inside : context.startTag frame state chars name attributes isEmpty rest =
      .ok (.inside after)) :
    readContent context depth (bound + 1) frame last chars state =
      readContent context depth bound frame none rest after := by
  rw [readContent, scanned]
  · simp only [inside]
  · exact some

/-- An end tag closes the innermost element. -/
theorem readContent_endTag {name : List Char}
    (scanned : scanToken context.source.hasRoom bound chars = .ok (.endTag name, rest))
    (inside : frame.endTag state chars name rest = .ok (.inside after)) :
    readContent context depth (bound + 1) frame last chars state =
      readContent context depth bound frame none rest after := by
  rw [readContent, scanned]
  · simp only [inside]
  · exact some

/-- The end tag of the root element ends the content. -/
theorem readContent_rootEnd {name : List Char} {element : Element}
    (scanned : scanToken context.source.hasRoom bound chars = .ok (.endTag name, rest))
    (root : frame.endTag state chars name rest = .ok (.root element rest)) :
    readContent context depth (bound + 1) frame last chars state = .ok (.root element rest) := by
  rw [readContent, scanned]
  · simp only [root]
  · exact some

end Steps

/-- What may stand in character data on its own account. -/
def IsData (chars : List Char) : Prop :=
  ∀ c ∈ chars, c ≠ '<' ∧ c ≠ '&' ∧ c ≠ '>' ∧ c ≠ '\r'

instance (chars : List Char) : Decidable (IsData chars) :=
  List.decidableBAll _ chars

/-- What begins markup or a reference. -/
def BeginsMarkup (chars : List Char) : Prop :=
  chars.head? = some '<' ∨ chars.head? = some '&'

/-- Data goes on as long as its characters do. -/
theorem endsData_data {c : Char} {data : List Char} (kept : IsData (c :: data))
    (begins : BeginsMarkup rest) : endsData (c :: (data ++ rest)) = false := by
  obtain ⟨⟨bracket, ampersand, -⟩, later⟩ := List.forall_mem_cons.mp kept
  unfold endsData
  split
  · simp_all
  · simp_all
  · -- The end mark of a section would have its last character among the data or begin markup.
    next same =>
    exfalso
    rw [List.cons.injEq] at same
    rcases data with _ | ⟨d, _ | ⟨e, data⟩⟩
    · rcases begins with begins | begins <;> simp_all
    · rcases begins with begins | begins <;> simp_all
    · simp_all
  · rfl

/-- Data is scanned up to the markup after it. -/
theorem scanData_data {data : List Char} (kept : IsData data) (begins : BeginsMarkup rest)
    (found : List Char) : scanData found (data ++ rest) = (found.reverse ++ data, rest) := by
  -- The run goes on until markup begins, and all of `data` is in front of it.
  induction data generalizing found with
  | nil =>
    rcases rest with _ | ⟨c, rest⟩
    · rcases begins with begins | begins <;> simp at begins
    · have ends : endsData (c :: rest) = true := by
        rcases begins with begins | begins <;> simp_all [endsData]
      simp [scanData, ends]
  | cons c data ih =>
    rw [List.cons_append, scanData, if_neg (by simp [endsData_data kept begins]),
      ih (List.forall_mem_cons.mp kept).2]
    simp

/-- Data before markup is one token. -/
theorem scanToken_run {hasRoom : Nat → List Char → Bool} {bound : Nat} {data : List Char}
    (nonempty : data ≠ []) (kept : IsData data) (begins : BeginsMarkup rest) :
    scanToken hasRoom bound (data ++ rest) = .ok (.data data, rest) := by
  obtain ⟨c, data, rfl⟩ := List.exists_cons_of_ne_nil nonempty
  -- The first character already is data, so none of the other tokens is tried.
  obtain ⟨⟨bracket, ampersand, -⟩, -⟩ := List.forall_mem_cons.mp kept
  have scanned := scanData_data kept begins []
  rw [List.cons_append] at scanned ⊢
  rw [scanToken]
  · simp only [scanned, List.reverse_nil, List.nil_append]
  · simp
  · simpa using bracket
  · simpa using ampersand

/-- Characters that are written as they are may stand in data. -/
theorem IsData.snoc {data : List Char} (kept : IsData data) {c : Char} (plain : IsPlain c) :
    IsData (data ++ [c]) := by
  refine List.forall_mem_append.mpr ⟨kept, List.forall_mem_singleton.mpr ?_⟩
  exact ⟨plain.ne (by decide), plain.ne (by decide), plain.ne (by decide), plain.ne (by decide)⟩

/-- Data without carriage returns is taken as it is. -/
theorem IsData.unified {data : List Char} (kept : IsData data) :
    Text.unifyLineEnds data = data := by
  refine Text.unifyLineEnds_eq_self fun member => ?_
  obtain ⟨-, -, -, back⟩ := kept _ member
  exact back rfl

/-- A text that has been read in pieces is added to the innermost element piece by piece. -/
def ContentState.addTexts (state : ContentState) (pieces : List (List Char)) : ContentState :=
  pieces.foldl ContentState.addText state

/-- Data before markup is read in one step, if there is any. -/
theorem readContent_run {data : List Char} (nonempty : data ≠ []) (kept : IsData data)
    (begins : BeginsMarkup rest) :
    readContent context depth (bound + 1) frame last (data ++ rest) state =
      readContent context depth bound frame data.getLast? rest (state.addText data) := by
  rw [readContent_data (by simp [nonempty]) (scanToken_run nonempty kept begins), kept.unified]

/-- Data before markup is read in one step or, if there is none, in no step. -/
theorem readContent_pending (context : ContentContext) (depth : Nat) (frame : Frame)
    (last : Option Char) (state : ContentState) {data : List Char} (kept : IsData data)
    (begins : BeginsMarkup rest) (enough : (data ++ rest).length < bound) :
    ∃ bound' last' pieces, rest.length < bound' ∧ pieces.flatten = data ∧
      readContent context depth bound frame last (data ++ rest) state =
        readContent context depth bound' frame last' rest (state.addTexts pieces) := by
  -- Without data nothing is read; otherwise one step reads all of it.
  cases data with
  | nil => exact ⟨bound, last, [], enough, rfl, rfl⟩
  | cons c data =>
    cases bound with
    | zero => simp at enough
    | succ bound =>
    refine ⟨bound, (c :: data).getLast?, [c :: data], ?_, by simp, ?_⟩
    · rw [List.length_append, List.length_cons] at enough
      omega
    · exact readContent_run (by simp) kept begins

/-- Reading text piece by piece can be interrupted. -/
theorem ContentState.addTexts_append (state : ContentState) (pieces others : List (List Char)) :
    state.addTexts (pieces ++ others) = (state.addTexts pieces).addTexts others :=
  List.foldl_append

/-- An escaped text is read in pieces that make the text, whatever data has gone before it. -/
theorem readContent_escaped (context : ContentContext) (depth : Nat) (frame : Frame)
    (last : Option Char) (rest : List Char) (state : ContentState) (text : List Char)
    {data : List Char} (kept : IsData data)
    (enough : (data ++ (escaped text ++ '<' :: rest)).length < bound) :
    ∃ bound' last' pieces, ('<' :: rest).length < bound' ∧ pieces.flatten = data ++ text ∧
      readContent context depth bound frame last (data ++ (escaped text ++ '<' :: rest)) state =
        readContent context depth bound' frame last' ('<' :: rest) (state.addTexts pieces) := by
  -- The data before the next reference is collected until the reference or the end interrupts it.
  induction text generalizing data bound last state with
  | nil =>
    have bracket : BeginsMarkup ('<' :: rest) := .inl rfl
    simpa using readContent_pending context depth frame last state kept bracket enough
  | cons c text ih =>
    rcases escapedChar_cases c with ⟨plain, written⟩ | ⟨body, member, written⟩
    · rw [escaped_cons, written, List.append_assoc, ← List.append_assoc data] at enough ⊢
      obtain ⟨bound', last', pieces, shorter, whole, read⟩ := ih last state (kept.snoc plain) enough
      exact ⟨bound', last', pieces, shorter, by simp [whole], read⟩
    · rw [escaped_cons, written, List.append_assoc] at enough ⊢
      obtain ⟨inner, before, pieces, shorter, whole, read⟩ :=
        readContent_pending context depth frame last state kept (.inr rfl) enough
      cases inner with
      | zero => omega
      | succ inner =>
      obtain ⟨reference, scanned, stands⟩ := references_read (escaped text ++ '<' :: rest) _ member
      have token : scanToken context.source.hasRoom inner
          ('&' :: body ++ (escaped text ++ '<' :: rest)) =
            .ok (.reference reference, escaped text ++ '<' :: rest) := by
        simp [scanToken, scanned, bind, Except.bind]
      have room : ([] ++ (escaped text ++ '<' :: rest)).length < inner := by
        simp only [List.cons_append, List.length_cons, List.length_append] at shorter ⊢
        simp only [List.length_nil]
        omega
      obtain ⟨bound', last', others, left, remains, goes⟩ :=
        ih none ((state.addTexts pieces).addText [c]) (List.forall_mem_nil _) room
      refine ⟨bound', last', pieces ++ [c] :: others, left, by simp [whole, remains], ?_⟩
      rw [read, readContent_reference (by simp) token stands, ContentState.addTexts_append]
      exact goes

end AutomationIndex.Xml
