import AutomationIndex.Package.Header
import AutomationIndex.Proofs.Text.Words

/-! Instructions as tokens between blanks: the versions that tokens name are read from them, whatever
order the tokens stand in and whether or not there are quotes around the numbers. -/

namespace AutomationIndex

/-- Whether a text is a version number: a digit and then digits and dots. -/
def isVersion (text : String) : Bool :=
  text.toList.head?.any Char.isDigit && text.toList.all fun c => c.isDigit || c == '.'

/-- The characters of a version number. -/
theorem isVersion_chars {v : String} (sound : isVersion v = true) :
    (∃ c more, v.toList = c :: more ∧ c.isDigit = true) ∧
      ∀ c ∈ v.toList, (c.isDigit || c == '.') = true := by
  -- The test is of the first character and of all of them.
  obtain ⟨first, kept⟩ := Bool.and_eq_true_iff.mp sound
  refine ⟨?_, List.all_eq_true.mp kept⟩
  cases chars : v.toList with
  | nil => simp [chars] at first
  | cons c more => exact ⟨c, more, rfl, by simpa [chars] using first⟩

namespace Header

/-- What a header can have a version of. -/
inductive Key where
  | version
  | fileVersion
  | workingVersion
  deriving DecidableEq

/-- The version that a header has for a key. -/
def number? (header : Header) : Key → Option String
  | .version => header.version
  | .fileVersion => header.fileVersion
  | .workingVersion => header.workingVersion

/-- Headers with the same versions are the same. -/
theorem eq_of_numbers {one other : Header} (same : ∀ key, one.number? key = other.number? key) :
    one = other := by
  -- A header has nothing but its three numbers.
  have plain := same .version
  have file := same .fileVersion
  have working := same .workingVersion
  cases one
  cases other
  simp_all [number?]

namespace Key

/-- The word that an instruction has before the version. -/
def word : Key → String
  | version => "Version="
  | fileVersion => "FileVersion="
  | workingVersion => "WorkingVersion="

/-- Whether the word does not count after a letter. -/
def isStandalone : Key → Bool
  | version => true
  | fileVersion => false
  | workingVersion => false

/-- The search for the number after a key. -/
def find (key : Key) (blocked : Bool) (chars : List Char) : Option (List Char) :=
  numberAfter key.word.toList key.isStandalone blocked chars

/-- The search starts at every character that is not part of the number found. -/
theorem find_cons (key : Key) (blocked : Bool) (c : Char) (rest : List Char)
    (apart : ¬ key.word.toList <+: c :: rest) :
    key.find blocked (c :: rest) = key.find (key.isStandalone && c.isAlpha) rest := by
  rw [← List.isPrefixOf_iff_prefix, Bool.not_eq_true] at apart
  simp [find, numberAfter, apart]

/-- No word has a blank in it. -/
theorem word_visible (key : Key) : ∀ c ∈ key.word.toList, Text.isBlank c = false :=
  Text.visible_of_all (by cases key <;> decide)

/-- Every word ends with that of the plain version. -/
theorem version_suffix_word (key : Key) : version.word.toList <:+ key.word.toList := by
  cases key <;> decide

/-- Every word begins with a letter. -/
theorem word_begins (key : Key) : ∃ c more, key.word.toList = c :: more ∧ c.isAlpha = true := by
  cases key <;> exact ⟨_, _, rfl, rfl⟩

end Key

variable {key : Key} {c : Char} {number : String} {rest : List Char}

/-- A search goes on after a character that no word begins with, and which is no letter. -/
theorem find_apart (solid : c.isAlpha = false) (blocked : Bool) :
    key.find blocked (c :: rest) = key.find false rest := by
  -- A key begins with a letter, so it does not begin here, and what follows is not blocked either.
  have apart : ¬ key.word.toList <+: c :: rest := by
    obtain ⟨first, more, spelt, letter⟩ := key.word_begins
    rw [spelt, List.cons_prefix_cons]
    rintro ⟨rfl, -⟩
    simp [solid] at letter
  rw [Key.find_cons key blocked c rest apart, solid, Bool.and_false]

/-- What stands before a blank, or at the end, does not matter for a search. -/
theorem find_end (ends : ∀ c ∈ rest.head?, Text.isBlank c = true) (blocked : Bool) :
    key.find blocked rest = key.find false rest := by
  cases rest with
  | nil => rfl
  | cons c rest =>
    have solid := (Text.isBlank_apart (ends c rfl)).1
    rw [find_apart solid, find_apart solid]

/-- A version number names no key. -/
theorem find_version (sound : isVersion number = true) :
    key.find false (number.toList ++ rest) = key.find false rest := by
  have kept := (isVersion_chars sound).2
  -- A version is digits and dots, and the search passes them one by one.
  generalize number.toList = chars at kept ⊢
  induction chars with
  | nil => rfl
  | cons c more ih =>
    obtain ⟨here, later⟩ := List.forall_mem_cons.mp kept
    have solid : c.isAlpha = false := by
      rw [Bool.or_eq_true, beq_iff_eq] at here
      rcases here with digit | rfl
      · have range := Text.isDigit_range digit
        rw [Bool.eq_false_iff, ne_eq, Text.isAlpha_iff_range]
        omega
      · rfl
    rw [List.cons_append, find_apart solid, ih later]

/-- The number at the start of a text is read up to what ends it. -/
theorem numberAt_version (sound : isVersion number = true)
    (ends : ∀ c ∈ rest.head?, (c.isDigit || c == '.') = false) :
    numberAt (number.toList ++ rest) = some number.toList ∧
      numberAt ('"' :: (number.toList ++ rest)) = some number.toList := by
  obtain ⟨⟨c, more, chars, digit⟩, kept⟩ := isVersion_chars sound
  -- The version ends where the digits and dots end, with or without a quote before it.
  have taken : (number.toList ++ rest).takeWhile (fun c => c.isDigit || c == '.') =
      number.toList := by
    rw [List.takeWhile_append_of_pos kept]
    cases rest with
    | nil => simp
    | cons d rest => simp [ends d rfl]
  rw [chars, List.cons_append] at taken ⊢
  have unquoted : c ≠ '"' := by
    rintro rfl
    revert digit
    decide
  refine ⟨?_, by simpa [numberAt, digit] using taken⟩
  -- Without an opening quote the number is read where it stands.
  unfold numberAt
  extract_lets read
  have kept : read = c :: (more ++ rest) := by
    unfold read
    split
    · next same => exact absurd (List.cons.inj same).1 unquoted
    · rfl
  simp only [kept, taken, digit, if_true]

/-- A search ends at its word, if a number follows there. -/
theorem find_word {chars found : List Char} (read : numberAt chars = some found) :
    key.find false (key.word.toList ++ chars) = some found := by
  obtain ⟨c, more, spelt, -⟩ := key.word_begins
  -- The key stands in front and is not blocked, so the number behind it is read at once.
  have begins : key.word.toList.isPrefixOf (key.word.toList ++ chars) = true :=
    List.isPrefixOf_iff_prefix.mpr (List.prefix_append _ _)
  rw [Key.find]
  rw [spelt, List.cons_append] at begins ⊢
  simp [numberAfter, begins, read]

/-- A search passes the word of another key. -/
theorem find_otherWord {other : Key} (different : other ≠ key) (chars : List Char) :
    key.find false (other.word.toList ++ chars) = key.find false chars := by
  -- In the longer words, a letter stands before that of the plain version.
  cases key <;> cases other <;> first | rfl | exact absurd rfl different

/-- A token of an instruction. -/
inductive Token where
  /-- A key with its number, which may stand between quotes. -/
  | naming (key : Key) (number : String) (isQuoted : Bool)
  | other (text : String)
  deriving DecidableEq

namespace Token

/-- How a token is written. -/
def text : Token → String
  | naming key number false => key.word ++ number
  | naming key number true => key.word ++ "\"" ++ number ++ "\""
  | other text => text

/-- Whether a token gives a key a version number, or has no key in it. -/
def IsSound : Token → Prop
  | naming _ number _ => isVersion number = true
  | other text => ¬ Key.version.word.toList <:+: text.toList

instance : DecidablePred IsSound
  | naming _ number _ => inferInstanceAs (Decidable (isVersion number = true))
  | other text => inferInstanceAs (Decidable (¬ Key.version.word.toList <:+: text.toList))

/-- The number that a token gives a key. -/
def named? (key : Key) : Token → Option String
  | naming own number _ => if own = key then some number else none
  | other _ => none

/-- A token without the quotes around its number. -/
def bare : Token → Token
  | naming key number _ => naming key number false
  | other text => other text

end Token

variable {token : Token}

/-- A search passes a text without the word of the plain version, if a blank or nothing follows. -/
theorem find_otherText {text : List Char} (lacks : ¬ Key.version.word.toList <:+: text)
    (ends : ∀ c ∈ rest.head?, Text.isBlank c = true) (blocked : Bool) :
    key.find blocked (text ++ rest) = key.find false rest := by
  induction text generalizing blocked with
  | nil => exact find_end ends blocked
  | cons c more ih =>
    -- A word that begins in the text ends in it as well, since no word has a blank in it.
    have apart : ¬ key.word.toList <+: c :: more ++ rest := by
      intro begins
      have within : key.word.toList <+: c :: more :=
        Text.prefix_of_visible key.word_visible ends begins
      exact lacks (key.version_suffix_word.isInfix.trans within.isInfix)
    have later : ¬ Key.version.word.toList <:+: more :=
      fun inside => lacks (inside.trans (List.suffix_cons c more).isInfix)
    rw [List.cons_append] at apart ⊢
    rw [key.find_cons blocked c _ apart, ih later]

/-- A search finds the number that a token gives the key, and goes on after any other token. -/
theorem find_token (sound : token.IsSound) (ends : ∀ c ∈ rest.head?, Text.isBlank c = true) :
    key.find false (token.text.toList ++ rest) =
      ((token.named? key).map String.toList).or (key.find false rest) := by
  cases token with
  -- A token of another kind holds no key in front of a number; a naming one ends the search or is
  -- passed over with its number.
  | other text => simpa [Token.text, Token.named?] using find_otherText sound ends false
  | naming own number isQuoted =>
    have bareEnds : ∀ c ∈ rest.head?, (c.isDigit || c == '.') = false :=
      fun c first => (Text.isBlank_apart (ends c first)).2
    have bare := numberAt_version sound bareEnds
    have quotedEnds : ∀ c ∈ ('"' :: rest).head?, (c.isDigit || c == '.') = false := by
      simp [Char.isDigit]
    have quoted := numberAt_version sound quotedEnds
    by_cases same : own = key
    · subst same
      cases isQuoted <;>
        simp [Token.text, Token.named?, List.append_assoc, find_word, bare.1, quoted.2]
    · cases isQuoted <;>
        simp [Token.text, Token.named?, List.append_assoc, same, find_otherWord, find_version sound,
          find_apart]

/-- A search finds the first number that the tokens of a text give the key. -/
theorem find_tokens {chars : List Char} {words : List (List Char)} (made : Text.MadeOf chars words)
    {tokens : List Token} (spelled : words = tokens.map (·.text.toList))
    (sound : ∀ token ∈ tokens, token.IsSound) :
    key.find false chars = (tokens.findSome? (Token.named? key)).map String.toList := by
  -- The induction follows the text, from blank to word.
  induction made generalizing tokens with
  | nil =>
    obtain rfl := List.map_eq_nil_iff.mp spelled.symm
    rfl
  | blank isBlank _ ih => rw [find_apart (Text.isBlank_apart isBlank).1, ih spelled sound]
  | word _ ends _ ih =>
    obtain ⟨token, others, rfl, rfl, same⟩ := List.map_eq_cons_iff.mp spelled.symm
    obtain ⟨here, later⟩ := List.forall_mem_cons.mp sound
    rw [find_token here ends, ih same.symm later, List.findSome?_cons]
    cases token.named? key <;> rfl

/-- For each key, an instruction gives the first number that its tokens give the key. -/
theorem ofInstruction_number? {text : String} {tokens : List Token}
    (made : Text.MadeOf text.toList (tokens.map (·.text.toList)))
    (sound : ∀ token ∈ tokens, token.IsSound) :
    (ofInstruction text).number? key = tokens.findSome? (Token.named? key) := by
  -- The three numbers of a header are searched for alike, each with its own key.
  have searched : (ofInstruction text).number? key =
      (key.find false text.toList).map String.ofList := by
    cases key <;> rfl
  rw [searched, find_tokens made rfl sound]
  cases tokens.findSome? (Token.named? key) <;> simp

/-- A token that names a version number has no blanks in it. -/
theorem naming_visible (sound : isVersion number = true) (key : Key) (isQuoted : Bool) :
    ∀ c ∈ (Token.naming key number isQuoted).text.toList, Text.isBlank c = false := by
  -- Digits and dots are visible, and so are the quotes and the equals sign around them.
  have digits : ∀ c ∈ number.toList, Text.isBlank c = false := by
    intro c member
    rw [Bool.eq_false_iff]
    intro blank
    have apart := (Text.isBlank_apart blank).2
    simp [(isVersion_chars sound).2 c member] at apart
  have quote : Text.isBlank '"' = false := by decide
  intro c member
  cases isQuoted <;>
    simp only [Token.text, String.toList_append, List.mem_append] at member <;>
    grind [key.word_visible]

/-- Quotes do not change what a token names. -/
theorem named?_bare : token.bare.named? key = token.named? key := by
  cases token <;> rfl

/-- Quotes do not change whether a token is sound. -/
theorem isSound_bare : token.bare.IsSound ↔ token.IsSound := by
  cases token <;> rfl

/-- The numbers that tokens give a key, in order. -/
def numbersIn (key : Key) (tokens : List Token) : List String :=
  tokens.filterMap (Token.named? key)

section Tokens

variable {text : String} {tokens more : List Token}

/-- A number is given to a key exactly if a token names both, with or without quotes. -/
theorem mem_numbersIn_iff : number ∈ numbersIn key tokens ↔
    ∃ isQuoted, .naming key number isQuoted ∈ tokens := by
  -- Naming a key with a number is the only way to count for it.
  rw [numbersIn, List.mem_filterMap]
  constructor
  · rintro ⟨token, member, named⟩
    cases token with
    | other text => simp [Token.named?] at named
    | naming own given isQuoted =>
      obtain ⟨rfl, rfl⟩ : own = key ∧ given = number := by simpa [Token.named?] using named
      exact ⟨isQuoted, member⟩
  · rintro ⟨isQuoted, member⟩
    exact ⟨_, member, by simp [Token.named?]⟩

/-- Tokens in another order and with other quotes give a key the same numbers, in some order. -/
theorem numbersIn_perm (same : (more.map Token.bare).Perm (tokens.map Token.bare)) :
    (numbersIn key more).Perm (numbersIn key tokens) := by
  -- Quoting changes the spelling of a token and not what it names.
  have bare : ∀ tokens : List Token,
      (tokens.map Token.bare).filterMap (Token.named? key) = numbersIn key tokens := by
    intro tokens
    rw [List.filterMap_map]
    exact congrArg (tokens.filterMap ·) (funext fun token => named?_bare)
  rw [← bare, ← bare]
  exact same.filterMap _

/-- Tokens in another order and with other quotes are as sound. -/
theorem isSound_perm (same : (more.map Token.bare).Perm (tokens.map Token.bare))
    (sound : ∀ token ∈ tokens, token.IsSound) : ∀ token ∈ more, token.IsSound := by
  intro token member
  have among := same.subset (List.mem_map_of_mem member)
  obtain ⟨own, inside, alike⟩ := List.mem_map.mp among
  rw [← isSound_bare, ← alike, isSound_bare]
  exact sound own inside

/-- Where the tokens give a key at most one number, this is the version that is read for the key. -/
theorem number?_eq_some_iff (spelled : Text.words text = tokens.map Token.text)
    (sound : ∀ token ∈ tokens, token.IsSound) (once : (numbersIn key tokens).length ≤ 1) :
    (ofInstruction text).number? key = some number ↔ number ∈ numbersIn key tokens := by
  -- The words of the text are the tokens' texts, so the text is made of them with blanks between.
  have made := Text.madeOf_words text
  rw [spelled, List.map_map] at made
  rw [ofInstruction_number? made sound, ← List.head?_filterMap, ← numbersIn]
  -- With at most one number for the key, the first one found is the only one.
  match given : numbersIn key tokens, once with
  | [], _ => simp
  | [only], _ => simp [eq_comm]

/-- In an instruction whose tokens give each key at most one number, this number is the version that
is read for the key, and there is none where no token names the key. So the order of the tokens does
not matter, other tokens among them, nor do the quotes around the numbers. -/
theorem ofInstruction_tokens (spelled : Text.words text = tokens.map Token.text)
    (sound : ∀ token ∈ tokens, token.IsSound)
    (once : ∀ key, (numbersIn key tokens).length ≤ 1) :
    (∀ key number, (ofInstruction text).number? key = some number ↔
      ∃ isQuoted, .naming key number isQuoted ∈ tokens) ∧
    (∀ key, (ofInstruction text).number? key = none ↔
      ∀ number isQuoted, .naming key number isQuoted ∉ tokens) ∧
    ∀ (other : String) (more : List Token), Text.words other = more.map Token.text →
      (more.map Token.bare).Perm (tokens.map Token.bare) →
      ofInstruction other = ofInstruction text := by
  have found : ∀ key number, (ofInstruction text).number? key = some number ↔
      ∃ isQuoted, .naming key number isQuoted ∈ tokens := fun key number =>
    (number?_eq_some_iff spelled sound (once key)).trans mem_numbersIn_iff
  refine ⟨found, fun key => ?_, fun other more spelt same => ?_⟩
  · rw [Option.eq_none_iff_forall_ne_some]
    simp only [ne_eq, found, not_exists]
  · refine eq_of_numbers fun key => Option.ext fun number => ?_
    -- The other tokens give the key as many numbers, and the same ones.
    have order : (numbersIn key more).Perm (numbersIn key tokens) := numbersIn_perm same
    have single : (numbersIn key more).length ≤ 1 := order.length_eq.trans_le (once key)
    rw [number?_eq_some_iff spelt (isSound_perm same sound) single, order.mem_iff,
      number?_eq_some_iff spelled sound (once key)]

/-- An instruction that names the plain version between other tokens and after that of the format is
read as one that names them the other way round, with the quotes around the other number. -/
theorem ofInstruction_tokens_mixed :
    let tokens := [.other "AutomationStudio", .naming .fileVersion "4.9" true, .other "SP1",
      Token.naming .version "4.6.5.78" false, .other "preVersion"]
    let text := "AutomationStudio FileVersion=\"4.9\" SP1\tVersion=4.6.5.78 preVersion"
    let turned := "preVersion Version=\"4.6.5.78\" SP1 FileVersion=4.9 AutomationStudio"
    (Text.words text = tokens.map Token.text ∧ (∀ token ∈ tokens, token.IsSound) ∧
      ∀ key, (numbersIn key tokens).length ≤ 1) ∧
    (ofInstruction text).number? .version = some "4.6.5.78" ∧
    (ofInstruction text).number? .workingVersion = none ∧
    ofInstruction turned = ofInstruction text := by
  intro tokens text turned
  -- The tokens hold one quoted number, one bare number and a word that only begins like a key.
  have spelled : Text.words text = tokens.map Token.text := by decide +kernel
  have sound : ∀ token ∈ tokens, token.IsSound := by decide +kernel
  have once : ∀ key, (numbersIn key tokens).length ≤ 1 := by
    intro key
    cases key <;> decide +kernel
  obtain ⟨named, unnamed, same⟩ := ofInstruction_tokens spelled sound once
  let more := [.other "preVersion", Token.naming .version "4.6.5.78" true, .other "SP1",
    .naming .fileVersion "4.9" false, .other "AutomationStudio"]
  refine ⟨⟨spelled, sound, once⟩, ?_, ?_, ?_⟩
  · exact (named .version "4.6.5.78").mpr ⟨false, by simp [tokens]⟩
  · refine (unnamed .workingVersion).mpr fun number isQuoted => ?_
    simp [tokens]
  · exact same turned more (by decide +kernel) (List.reverse_perm (tokens.map Token.bare))

end Tokens

end Header

end AutomationIndex
