import AutomationIndex.Proofs.Xml.Remainder
import AutomationIndex.Xml.Doctype.Prolog

/-! What declarations make of entities: texts of characters that a document may hold. -/

namespace AutomationIndex.Xml

/-- Whether a text has only characters that a document may hold. -/
def IsReadable (chars : List Char) : Prop :=
  ∀ c ∈ chars, isDocumentChar c = true

/-- A part of a readable text is readable. -/
theorem IsReadable.subset {part chars : List Char} (readable : IsReadable chars)
    (within : part ⊆ chars) : IsReadable part :=
  fun c member => readable c (within member)

/-- One more character that a document may hold leaves a text readable. -/
theorem IsReadable.cons {c : Char} {chars : List Char} (first : isDocumentChar c = true)
    (readable : IsReadable chars) : IsReadable (c :: chars) :=
  List.forall_mem_cons.mpr ⟨first, readable⟩

/-- A character that a document may hold makes a readable text. -/
theorem isReadable_single {c : Char} (only : isDocumentChar c = true) : IsReadable [c] :=
  List.forall_mem_singleton.mpr only

/-- Readable texts one after the other are readable. -/
theorem IsReadable.append {chars more : List Char} (first : IsReadable chars)
    (second : IsReadable more) : IsReadable (chars ++ more) :=
  List.forall_mem_append.mpr ⟨first, second⟩

/-- The text of an entity is readable, if what is written for it is. -/
theorem entityValue_readable {bound : Nat} {found chars text : List Char}
    (before : IsReadable found) (written : IsReadable chars)
    (read : entityValue bound found chars = .ok text) : IsReadable text := by
  -- What is found stays readable with every character or reference that is passed.
  have settled : ∀ {found : List Char}, IsReadable found → IsReadable found.reverse :=
    fun readable => readable.subset (List.reverse_subset.mpr (List.Subset.refl _))
  fun_induction entityValue bound found chars with
  | case1 found _ => exact (Except.ok.inj read) ▸ settled before
  | case2 _ found _ => exact (Except.ok.inj read) ▸ settled before
  | case3 => cases read
  | case4 => cases read
  | case5 => cases read
  -- A number in the text stands for a character that a document may hold.
  | case6 bound found rest c after scanned ih =>
    have later := written.subset (List.subset_cons_self '&' rest)
    exact ih (before.cons (scanReference_character scanned))
      (later.subset (scanReference_rest scanned).subset) read
  -- A name in the text is kept as it is written.
  | case7 bound found rest name after scanned ih =>
    have later := written.subset (List.subset_cons_self '&' rest)
    have named := later.subset (scanReference_entity scanned)
    refine ih ?_ (later.subset (scanReference_rest scanned).subset) read
    exact ((settled named).append (before.cons (by decide))).cons (by decide)
  | case8 => cases read
  | case9 => cases read
  | case10 => cases read
  -- A carriage return before a line feed is dropped.
  | case11 bound found rest ih =>
    refine ih (before.cons (by decide)) (written.subset ?_) read
    exact List.Subset.trans (List.subset_cons_self '\n' rest) (List.subset_cons_self '\r' _)
  | case12 bound found c rest _ _ _ ih =>
    obtain ⟨first, later⟩ := List.forall_mem_cons.mp written
    refine ih (IsReadable.cons ?_ before) later read
    split
    · decide
    · exact first

/-- Whether the declared texts of entities are readable. -/
def Declarations.IsReadable (d : Declarations) : Prop :=
  ∀ entry ∈ d.entities, ∀ chars, entry.2 = .text chars → Xml.IsReadable chars

namespace Declarations

variable {d : Declarations}

/-- The text that a name stands for is readable. -/
theorem IsReadable.entity? (readable : d.IsReadable) {name chars : List Char}
    (declared : d.entity? name = some (.text chars)) : Xml.IsReadable chars := by
  -- What a name stands for is among the entities that are declared.
  obtain ⟨entry, found, same⟩ := Option.map_eq_some_iff.mp declared
  exact readable entry (List.mem_of_find?_eq_some found) chars same

/-- Declaring something outside the document leaves the declared texts readable. -/
theorem IsReadable.declareEntity (readable : d.IsReadable) (name : List Char) :
    (d.declareEntity name .external).IsReadable := by
  unfold Declarations.declareEntity
  split
  · exact readable
  · intro entry member chars same
    -- An entity outside the document has no text of its own.
    rcases List.mem_append.mp member with old | new
    · exact readable entry old chars same
    · rw [List.mem_singleton.mp new] at same
      cases same

/-- Settling what a name stands for leaves the declared texts readable, if its own text is. -/
theorem IsReadable.reviseEntity (readable : d.IsReadable) (name : List Char) {body : EntityBody}
    (own : ∀ chars, body = .text chars → Xml.IsReadable chars) :
    (d.reviseEntity name body).IsReadable := by
  intro entry member chars same
  obtain ⟨old, among, revised⟩ := List.mem_map.mp member
  split at revised
  · -- The entity is the one that is settled, or it stands as it stood.
    subst revised
    exact own chars same
  · subst revised
    exact readable old among chars same

/-- Declaring an attribute leaves the declared texts as they are. -/
theorem IsReadable.declareAttribute (readable : d.IsReadable) (element : List Char)
    (identifies : Bool) (declared : AttributeDefault) :
    (d.declareAttribute element identifies declared).IsReadable := by
  unfold Declarations.declareAttribute
  split <;> exact readable

end Declarations

namespace Doctype

variable {source : Source} {chars rest : List Char} {token : Token}

/-- A token that the text ends in leaves nothing. -/
theorem settleName_rest {ending : Ending} {given : Token}
    (settled : settleName ending given = .ok (token, rest)) : rest = [] ∧ token = given := by
  unfold settleName at settled
  split at settled <;> cases settled
  exact ⟨rfl, rfl⟩

/-- A token that only few characters may follow leaves nothing at the end of the text. -/
theorem settleMark_rest {ending : Ending} {given : Token}
    (settled : settleMark ending given = .ok (token, rest)) : rest = [] ∧ token = given := by
  unfold settleMark at settled
  split at settled <;> cases settled
  exact ⟨rfl, rfl⟩

/-- What a token takes from a text: it leaves an ending, and a quoted text is a part of it. -/
structure TakenFrom (chars : List Char) (token : Token) (rest : List Char) : Prop where
  rest_suffix : rest <:+ chars
  literal_within : ∀ inner innerOn, token = .literal inner innerOn → inner ⊆ chars

/-- What is taken from an ending of a text is taken from the text. -/
theorem TakenFrom.cons {c : Char} (taken : TakenFrom chars token rest) :
    TakenFrom (c :: chars) token rest :=
  ⟨taken.rest_suffix.trans (List.suffix_cons c chars), fun inner innerOn same =>
    List.Subset.trans (taken.literal_within inner innerOn same) (List.subset_cons_self c chars)⟩

/-- A token that is no quoted text only has to leave an ending. -/
theorem takenFrom_of_suffix (ending : rest <:+ chars)
    (unquoted : ∀ inner innerOn, token ≠ .literal inner innerOn) : TakenFrom chars token rest :=
  ⟨ending, fun inner innerOn same => absurd same (unquoted inner innerOn)⟩

/-- A quoted text is taken up to its closing quote. -/
theorem scanLiteral_taken {ending : Ending} {quote : Char}
    (scanned : scanLiteral ending quote chars = .ok (token, rest)) : TakenFrom chars token rest := by
  have within : chars.takeWhile (· != quote) ⊆ chars := (List.takeWhile_sublist _).subset
  unfold scanLiteral at scanned
  dsimp only at scanned
  split at scanned
  · simp at scanned
  · -- Without a closing quote, the text may only end here.
    obtain ⟨rfl, rfl⟩ := settleMark_rest scanned
    refine ⟨List.nil_suffix, fun inner innerOn same => ?_⟩
    cases same
    exact within
  · rename_i c after dropped
    split at scanned
    · cases scanned
      refine ⟨suffix_of_drop dropped, fun inner innerOn same => ?_⟩
      cases same
      exact within
    · simp at scanned

/-- No name is a quoted text. -/
theorem toToken_unquoted (kind : NameKind) (text inner innerOn : List Char) :
    kind.toToken text ≠ .literal inner innerOn := by
  cases kind <;> simp [NameKind.toToken]

/-- A name leaves what may not belong to it. -/
theorem scanNameRest_taken {ending : Ending} {kind : NameKind} {found : List Char}
    (scanned : scanNameRest ending kind found chars = .ok (token, rest)) :
    TakenFrom chars token rest := by
  -- The name grows by a character until one ends it.
  fun_induction scanNameRest ending kind found chars with
  | case1 => cases scanned
  | case2 kind found =>
    obtain ⟨rfl, rfl⟩ := settleName_rest scanned
    exact takenFrom_of_suffix List.nil_suffix (toToken_unquoted _ _)
  | case3 kind found c more goesOn ih => exact (ih scanned).cons
  | case4 kind found c more ends settled colon ih => exact (ih scanned).cons
  | case5 =>
    cases scanned
    exact takenFrom_of_suffix List.suffix_rfl (toToken_unquoted _ _)
  | case6 =>
    cases scanned
    exact takenFrom_of_suffix (List.suffix_cons _ _) (by simp)
  | case7 => cases scanned

/-- What begins a declaration is its keyword, and white space follows. -/
theorem scanDeclaration_taken (scanned : scanDeclaration chars = .ok (token, rest)) :
    TakenFrom chars token rest := by
  -- A comment, a conditional section or a keyword may follow the exclamation mark.
  unfold scanDeclaration at scanned
  split at scanned
  · simp at scanned
  · simp only [exceptBind_ok_iff, Except.ok.injEq, Prod.mk.injEq] at scanned
    obtain ⟨⟨_, left⟩, read, rfl, rfl⟩ := scanned
    exact takenFrom_of_suffix ((scanComment_rest read).trans (List.suffix_cons '-' _)) (by simp)
  · cases scanned
    exact takenFrom_of_suffix (List.suffix_cons '[' _) (by simp)
  · dsimp only at scanned
    split at scanned
    · simp at scanned
    · rename_i c after dropped
      have outer : c :: after <:+ chars := dropped ▸ List.drop_suffix _ chars
      split at scanned
      · simp at scanned
      · split at scanned
        · cases scanned
          exact takenFrom_of_suffix outer (by simp)
        · split at scanned
          · split at scanned
            · simp at scanned
            · split at scanned
              · simp at scanned
              · cases scanned
                exact takenFrom_of_suffix outer (by simp)
          · simp at scanned

/-- A reference after a percent sign is taken with its semicolon. -/
theorem scanPercent_taken (scanned : scanPercent chars = .ok (token, rest)) :
    TakenFrom chars token rest := by
  unfold scanPercent at scanned
  split at scanned
  -- A percent sign alone is the token; with a name behind it, the token is a reference to its end.
  · split at scanned
    · cases scanned
      exact takenFrom_of_suffix List.suffix_rfl (by simp)
    · rw [exceptBind_ok_iff] at scanned
      obtain ⟨⟨name, left⟩, read, scanned⟩ := scanned
      have outer := scanName_rest read
      dsimp only at scanned
      split at scanned
      · cases scanned
        exact takenFrom_of_suffix ((List.suffix_cons ';' _).trans outer) (by simp)
      · simp at scanned
  · simp at scanned

/-- A name after a number sign leaves what may not belong to it. -/
theorem scanPoundName_taken {ending : Ending}
    (scanned : scanPoundName ending chars = .ok (token, rest)) : TakenFrom chars token rest := by
  simp only [scanPoundName, exceptBind_ok_iff] at scanned
  -- The name after the pound sign ends the text or is ended by one of the closing characters.
  obtain ⟨_, _, scanned⟩ := scanned
  split at scanned
  · obtain ⟨rfl, rfl⟩ := settleName_rest scanned
    exact takenFrom_of_suffix List.nil_suffix (by simp)
  · rename_i c after dropped
    split at scanned
    · cases scanned
      exact takenFrom_of_suffix (dropped ▸ List.drop_suffix _ chars) (by simp)
    · simp at scanned

/-- A closing parenthesis is taken with its mark of occurrence. -/
theorem scanCloseParenthesis_taken {ending : Ending}
    (scanned : scanCloseParenthesis ending chars = .ok (token, rest)) :
    TakenFrom chars token rest := by
  -- At most one mark of occurrence belongs to the parenthesis.
  unfold scanCloseParenthesis at scanned
  split at scanned
  · obtain ⟨rfl, rfl⟩ := settleMark_rest scanned
    exact takenFrom_of_suffix List.nil_suffix (by simp)
  · rename_i c more
    have shorter := List.suffix_cons c more
    split at scanned
    · cases scanned
      exact takenFrom_of_suffix shorter (by simp)
    · split at scanned
      · cases scanned
        exact takenFrom_of_suffix shorter (by simp)
      · split at scanned
        · cases scanned
          exact takenFrom_of_suffix shorter (by simp)
        · split at scanned
          · cases scanned
            exact takenFrom_of_suffix List.suffix_rfl (by simp)
          · simp at scanned

/-- A closing bracket is taken with what closes a conditional section. -/
theorem scanCloseBracket_taken {hasRoom : Nat → List Char → Bool}
    (scanned : scanCloseBracket hasRoom chars = .ok (token, rest)) : TakenFrom chars token rest := by
  unfold scanCloseBracket at scanned
  split at scanned
  -- Two brackets and a closing angle bracket are one token, and one bracket is a token of its own.
  · split at scanned
    · simp at scanned
    · split at scanned
      · cases scanned
        exact takenFrom_of_suffix ((List.suffix_cons '>' _).trans (List.suffix_cons ']' _)) (by simp)
      · cases scanned
        exact takenFrom_of_suffix List.suffix_rfl (by simp)
  · cases scanned
    exact takenFrom_of_suffix List.suffix_rfl (by simp)

/-- Markup is taken from its opening bracket on; the root element is left as it is. -/
theorem scanMarkup_taken (scanned : scanMarkup chars = .ok (token, rest)) :
    TakenFrom ('<' :: chars) token rest := by
  unfold scanMarkup at scanned
  split at scanned
  -- Each kind of markup takes a suffix of what follows its opening bracket.
  · simp at scanned
  · exact (scanDeclaration_taken scanned).cons.cons
  · simp only [exceptBind_ok_iff, Except.ok.injEq, Prod.mk.injEq] at scanned
    obtain ⟨⟨_, left⟩, read, rfl, rfl⟩ := scanned
    exact (takenFrom_of_suffix (scanInstruction_rest read) (by simp)).cons.cons
  · split at scanned
    · cases scanned
      exact takenFrom_of_suffix List.suffix_rfl (by simp)
    · simp at scanned

/-- What follows from either branch of a choice follows from the choice. -/
theorem of_choice {condition : Prop} [Decidable condition] {α : Type} {first second result : α}
    {goal : Prop} (yes : condition → first = result → goal) (no : second = result → goal) :
    (if condition then first else second) = result → goal := by
  intro chosen
  split at chosen
  · exact yes ‹_› chosen
  · exact no chosen

/-- A token leaves an ending of the text, and a quoted text is a part of it. -/
theorem scanToken_taken (scanned : scanToken source chars = .ok (token, rest)) :
    TakenFrom chars token rest := by
  cases chars with
  | nil => cases scanned
  | cons c more =>
    have shorter := List.suffix_cons c more
    -- A token of one character leaves the other ones.
    have single : ∀ {given : Token}, (∀ inner innerOn, given ≠ .literal inner innerOn) →
        (.ok (given, more) : Except Stop (Token × List Char)) = .ok (token, rest) →
          TakenFrom (c :: more) token rest := by
      intro given unquoted same
      cases same
      exact takenFrom_of_suffix shorter unquoted
    -- The first character tells what kind of token there is.
    revert scanned
    unfold scanToken
    apply of_choice
    · intro opened scanned
      rw [beq_iff_eq.mp opened]
      split at scanned
      · cases scanned
        exact takenFrom_of_suffix List.suffix_rfl (by simp)
      · exact scanMarkup_taken scanned
    apply of_choice
    · intro _ scanned
      cases scanned
      exact takenFrom_of_suffix ((List.dropWhile_suffix _).trans shorter) (by simp)
    apply of_choice
    · exact fun _ scanned => (scanLiteral_taken scanned).cons
    apply of_choice
    · exact fun _ scanned => (scanPercent_taken scanned).cons
    apply of_choice
    · exact fun _ scanned => single (by simp) scanned
    apply of_choice
    · exact fun _ scanned => single (by simp) scanned
    apply of_choice
    · exact fun _ scanned => (scanCloseBracket_taken scanned).cons
    apply of_choice
    · exact fun _ scanned => single (by simp) scanned
    apply of_choice
    · exact fun _ scanned => (scanCloseParenthesis_taken scanned).cons
    apply of_choice
    · exact fun _ scanned => single (by simp) scanned
    apply of_choice
    · exact fun _ scanned => single (by simp) scanned
    apply of_choice
    · exact fun _ scanned => (scanPoundName_taken scanned).cons
    apply of_choice
    · exact fun _ scanned => (scanNameRest_taken scanned).cons
    apply of_choice
    · exact fun _ scanned => (scanNameRest_taken scanned).cons
    · intro scanned
      cases scanned

/-- Whether a step settles what an entity stands for only by the quoted text that its token is. -/
def Quotes (token : Token) (stepped : Option (Phase × Contribution)) : Prop :=
  ∀ next inner innerOn, stepped = some (next, .entityValue inner innerOn) →
    token = .literal inner innerOn

/-- Markup between declarations settles no entity. -/
theorem between_settles (token : Token) (inner innerOn : List Char) :
    between token ≠ some (.entityValue inner innerOn) := by
  unfold between
  split <;> simp

/-- No token outside the declarations settles an entity. -/
theorem stepOutside_quotes (phase : Phase) (token : Token) : Quotes token (stepOutside phase token) := by
  intro next inner innerOn stepped
  unfold stepOutside at stepped
  split at stepped
  -- Only the tokens between declarations are left to look at, and they settle on no open quote.
  · simp at stepped
  · split at stepped <;> simp at stepped
  · split at stepped <;> simp at stepped
  · obtain ⟨contribution, came, same⟩ := Option.map_eq_some_iff.mp stepped
    simp only [Prod.mk.injEq] at same
    exact absurd (same.2 ▸ came) (between_settles _ inner innerOn)

/-- No token between declarations settles an entity. -/
theorem stepSubset_quotes (token : Token) : Quotes token (stepSubset token) := by
  -- A keyword opens a declaration, and everything else is between declarations.
  intro next inner innerOn stepped
  unfold stepSubset at stepped
  split at stepped
  · split at stepped
    · simp at stepped
    · split at stepped
      · simp at stepped
      · split at stepped
        · simp at stepped
        · split at stepped <;> simp at stepped
  · simp at stepped
  · simp at stepped
  · obtain ⟨contribution, came, same⟩ := Option.map_eq_some_iff.mp stepped
    simp only [Prod.mk.injEq] at same
    exact absurd (same.2 ▸ came) (between_settles _ inner innerOn)

/-- A keyword settles no entity. -/
theorem afterSource_settles (systemPhase publicPhase next : Phase) (keyword inner innerOn : List Char) :
    afterSource systemPhase publicPhase keyword ≠ some (next, .entityValue inner innerOn) := by
  unfold afterSource
  split
  · simp
  · split <;> simp

/-- No token in the head of the document type settles an entity. -/
theorem stepHead_quotes (phase : Phase) (token : Token) : Quotes token (stepHead phase token) := by
  intro next inner innerOn stepped
  unfold stepHead at stepped
  split at stepped
  -- Only a keyword is looked at more closely.
  case h_5 =>
    split at stepped
    · cases stepped
    · split at stepped <;> cases stepped
  all_goals cases stepped

/-- The declaration of an entity settles it by a quoted text. -/
theorem stepEntity_quotes (phase : Phase) (token : Token) : Quotes token (stepEntity phase token) := by
  intro next inner innerOn stepped
  unfold stepEntity at stepped
  split at stepped
  -- A keyword tells where the text of the entity is, and names no text itself.
  case h_4 => exact absurd stepped (afterSource_settles _ _ _ _ _ _)
  case h_11 => exact absurd stepped (afterSource_settles _ _ _ _ _ _)
  case h_9 => split at stepped <;> cases stepped
  all_goals cases stepped
  -- Only the quoted text that the entity stands for is left.
  all_goals rfl

/-- No token in the declaration of a notation settles an entity. -/
theorem stepNotation_quotes (phase : Phase) (token : Token) :
    Quotes token (stepNotation phase token) := by
  intro next inner innerOn stepped
  unfold stepNotation at stepped
  split at stepped
  case h_2 => exact absurd stepped (afterSource_settles _ _ _ _ _ _)
  all_goals cases stepped

/-- No keyword of an attribute type settles an entity. -/
theorem stepAttributeType_settles (keyword : List Char) (next : Phase) (inner innerOn : List Char) :
    stepAttributeType keyword ≠ some (next, .entityValue inner innerOn) := by
  unfold stepAttributeType
  intro stepped
  -- Whichever keyword of an attribute type it is, the step moves the phase and opens no quote.
  split at stepped
  · cases stepped
  · split at stepped
    · cases stepped
    · split at stepped
      · cases stepped
      · split at stepped <;> cases stepped

/-- No token in the declaration of attributes settles an entity. -/
theorem stepAttributes_quotes (phase : Phase) (token : Token) :
    Quotes token (stepAttributes phase token) := by
  intro next inner innerOn stepped
  unfold stepAttributes at stepped
  split at stepped
  -- The type of the attribute is a keyword, and its default value is no entity.
  case h_6 => exact absurd stepped (stepAttributeType_settles _ _ _ _)
  case h_17 =>
    split at stepped
    · cases stepped
    · split at stepped <;> cases stepped
  all_goals cases stepped

/-- No token in the declaration of an element settles an entity. -/
theorem stepElement_quotes (groups : Nat) (phase : Phase) (token : Token) :
    Quotes token (stepElement groups phase token) := by
  intro next inner innerOn stepped
  unfold stepElement at stepped
  split at stepped
  -- What closes a group depends on how many groups stand open.
  case h_3 => split at stepped <;> cases stepped
  case h_5 => split at stepped <;> cases stepped
  case h_17 => split at stepped <;> cases stepped
  case h_18 => split at stepped <;> cases stepped
  case h_19 => split at stepped <;> cases stepped
  case h_20 => split at stepped <;> cases stepped
  all_goals cases stepped

/-- Only a quoted text settles what an entity stands for, and with just this text. -/
theorem step_quotes (groups : Nat) (phase : Phase) (token : Token) :
    Quotes token (step groups phase token) := by
  intro next inner innerOn stepped
  unfold step at stepped
  split at stepped
  · exact stepOutside_quotes _ _ _ _ _ stepped
  · exact stepOutside_quotes _ _ _ _ _ stepped
  · exact stepOutside_quotes _ _ _ _ _ stepped
  · exact stepSubset_quotes _ _ _ _ stepped
  · -- Within a declaration, the kinds of declarations are tried one after the other.
    split at stepped
    · cases stepped
    · split at stepped
      · split at stepped <;> cases stepped
      · split at stepped
        · rename_i came
          exact stepHead_quotes _ _ _ _ _ (came.trans stepped)
        · rename_i came _
          exact stepEntity_quotes _ _ _ _ _ (came.trans stepped)
        · rename_i came _ _
          exact stepNotation_quotes _ _ _ _ _ (came.trans stepped)
        · rename_i came _ _ _
          exact stepAttributes_quotes _ _ _ _ _ (came.trans stepped)
        · exact stepElement_quotes _ _ _ _ _ _ stepped

/-- Settling an entity leaves the declared texts readable, if its own text is. -/
theorem settleEntity_readable {prolog : Prolog} (readable : prolog.declarations.IsReadable)
    {body : EntityBody} (own : ∀ chars, body = .text chars → Xml.IsReadable chars) :
    (prolog.settleEntity body).declarations.IsReadable := by
  unfold Prolog.settleEntity
  split
  · exact readable.reviseEntity _ own
  · exact readable

/-- What joins the parts of a group leaves the declarations as they are. -/
theorem connect_declarations {prolog next : Prolog} {left : Nat} {connector : Connector}
    (connected : prolog.connect left connector = .ok next) :
    next.declarations = prolog.declarations := by
  unfold Prolog.connect at connected
  -- A connector changes the innermost group and nothing else of the prolog.
  split at connected
  · split at connected <;> cases connected
    rfl
  · cases connected
    rfl
  · cases connected
    rfl

/-- What a token contributes leaves the declared texts readable, if a text that it quotes is. -/
theorem contribute_readable {prolog next : Prolog} {tokenOn after : List Char}
    {contribution : Contribution} (readable : prolog.declarations.IsReadable)
    (quoted : ∀ inner innerOn, contribution = .entityValue inner innerOn → Xml.IsReadable inner)
    (contributed : prolog.contribute source tokenOn after contribution = .ok next) :
    next.declarations.IsReadable := by
  -- Only the name and the text of an entity and the defaults of attributes change declarations.
  cases contribution with
  | xmlDeclaration inner =>
    simp only [Prolog.contribute] at contributed
    split at contributed <;> cases contributed
    exact readable
  | publicIdentifier inner innerOn =>
    simp only [Prolog.contribute] at contributed
    split at contributed <;> cases contributed
    exact readable
  | entityName name =>
    cases contributed
    unfold Prolog.nameEntity
    split
    · exact readable
    · exact readable.declareEntity name
  | entityValue inner innerOn =>
    simp only [Prolog.contribute] at contributed
    split at contributed
    · cases contributed
      exact readable
    · split at contributed
      · cases contributed
      · rename_i chars valued
        cases contributed
        -- The text of the entity is made of what is quoted.
        apply settleEntity_readable readable
        rintro _ ⟨⟩
        exact entityValue_readable (by simp [IsReadable]) (quoted inner innerOn rfl) valued
  | entityNotation =>
    cases contributed
    split
    · exact readable
    · exact settleEntity_readable readable (by simp)
  | noDefault =>
    cases contributed
    split
    · exact readable
    · exact readable.declareAttribute _ _ _
  | defaultValue inner innerOn =>
    simp only [Prolog.contribute, Prolog.settleDefault] at contributed
    split at contributed
    · cases contributed
      exact readable
    · split at contributed
      · cases contributed
      · cases contributed
        exact readable.declareAttribute _ _ _
  | groupSequence => exact connect_declarations contributed ▸ readable
  | groupChoice => exact connect_declarations contributed ▸ readable
  | _ =>
    cases contributed
    exact readable

/-- The declarations before the root element are readable, and so is the text from there on. -/
theorem readProlog_readable {bound : Nat} {prolog reached : Prolog} (text : IsReadable chars)
    (readable : prolog.declarations.IsReadable)
    (read : readProlog source bound chars prolog = .ok (reached, rest)) :
    reached.declarations.IsReadable ∧ IsReadable rest := by
  -- Every token leaves a shorter readable text and readable declarations.
  induction bound generalizing chars prolog with
  | zero => simp [readProlog] at read
  | succ bound ih =>
    cases chars with
    | nil => simp [readProlog] at read
    | cons c more =>
      simp only [readProlog] at read
      split at read
      · cases read
      · rename_i token left scanned
        -- What a token quotes is a part of the text, and so it is readable too.
        have taken := scanToken_taken scanned
        split at read
        · cases read
        · cases read
          exact ⟨readable, text⟩
        · rename_i phase contribution _ stepped
          split at read
          · cases read
          · rename_i next contributed
            have moved : ({ prolog with phase } : Prolog).declarations.IsReadable := readable
            refine ih (text.subset taken.rest_suffix.subset) ?_ read
            refine contribute_readable moved ?_ contributed
            rintro inner innerOn rfl
            have quoted := step_quotes _ _ _ _ _ _ stepped
            exact text.subset (taken.literal_within inner innerOn quoted)

end Doctype

end AutomationIndex.Xml
