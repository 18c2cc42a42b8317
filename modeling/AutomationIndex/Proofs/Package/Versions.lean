import AutomationIndex.Package.Document
import AutomationIndex.Proofs.Package.Tokens
import AutomationIndex.Proofs.Xml.Headed

/-! Written instructions: the versions that they name are read back from them. -/

namespace AutomationIndex

open Xml

/-- Parts with a mark between them, after a mark, are parts with a mark before each. -/
theorem cons_intercalate {parts : List (List Char)} (nonempty : parts ≠ []) (mark : Char) :
    mark :: [mark].intercalate parts = parts.flatMap (mark :: ·) := by
  -- A mark in front turns the marks between the parts into marks before each.
  induction parts with
  | nil => exact absurd rfl nonempty
  | cons part parts ih =>
    cases parts with
    | nil => simp [List.intercalate]
    | cons next parts =>
      have later := ih (by simp)
      rw [List.flatMap_cons, ← later]
      simp [List.intercalate]

/-- How an instruction names a version, if there is one. -/
def versionPart (word closing : String) (version : Option String) : List (List Char) :=
  (version.map fun v => word.toList ++ (v.toList ++ closing.toList)).toList

/-- How an instruction names the versions of a header; the first is written without quotes. -/
def Header.parts (header : Header) : List (List Char) :=
  versionPart "Version=" "" header.version ++
    (versionPart "FileVersion=\"" "\"" header.fileVersion ++
      versionPart "WorkingVersion=\"" "\"" header.workingVersion)

/-- The named versions of a header, with blanks between them. -/
def Header.data (header : Header) : List Char :=
  [' '].intercalate header.parts

/-- Whether every version of a header is a version number. -/
structure Header.IsSound (header : Header) : Prop where
  version : ∀ v ∈ header.version, isVersion v = true
  fileVersion : ∀ v ∈ header.fileVersion, isVersion v = true
  workingVersion : ∀ v ∈ header.workingVersion, isVersion v = true

namespace Header

variable {word closing : String} {version : Option String}

/-- The parts of an instruction as they are written, each after a blank. -/
def spaced (parts : List (List Char)) : List Char :=
  parts.flatMap (' ' :: ·)

/-- The tokens that name the versions of a header; the plain one is written without quotes. -/
def tokens (header : Header) : List Token :=
  (header.version.map fun v => Token.naming .version v false).toList ++
    ((header.fileVersion.map fun v => Token.naming .fileVersion v true).toList ++
      (header.workingVersion.map fun v => Token.naming .workingVersion v true).toList)

/-- The parts that name the versions of a header are its tokens. -/
theorem parts_eq (header : Header) : header.parts = header.tokens.map (·.text.toList) := by
  -- The three parts differ in their word and closing only, so one version is written as one token.
  have part (key : Key) (isQuoted : Bool) (word closing : String) (version : Option String)
      (written : ∀ v, (Token.naming key v isQuoted).text.toList =
        word.toList ++ (v.toList ++ closing.toList)) :
      versionPart word closing version =
        (version.map fun v => Token.naming key v isQuoted).toList.map (·.text.toList) := by
    cases version <;> simp [versionPart, written]
  rw [parts, tokens, List.map_append, List.map_append, part .version false, part .fileVersion true,
    part .workingVersion true]
  all_goals exact fun v => by simp [Token.text, Key.word]

/-- The tokens of a header name version numbers. -/
theorem tokens_naming {header : Header} (sound : header.IsSound) : ∀ token ∈ header.tokens,
    ∃ key v isQuoted, token = .naming key v isQuoted ∧ isVersion v = true := by
  -- Each of the three numbers gives one token at most, and it is a sound version.
  refine List.forall_mem_append.mpr ⟨?_, List.forall_mem_append.mpr ⟨?_, ?_⟩⟩
  all_goals
    intro token member
    rw [Option.mem_toList, Option.map_eq_some_iff] at member
    obtain ⟨v, given, rfl⟩ := member
  · exact ⟨_, _, _, rfl, sound.version v given⟩
  · exact ⟨_, _, _, rfl, sound.fileVersion v given⟩
  · exact ⟨_, _, _, rfl, sound.workingVersion v given⟩

/-- The first number that the tokens of a header give a key is the version for the key. -/
theorem findSome?_tokens (header : Header) (key : Key) :
    header.tokens.findSome? (Token.named? key) = header.number? key := by
  obtain ⟨version, fileVersion, workingVersion⟩ := header
  cases key <;> cases version <;> cases fileVersion <;> cases workingVersion <;> rfl

/-- The versions that an instruction names are those of the header that it is written for. -/
theorem ofInstruction_written {header : Header} (sound : header.IsSound) :
    ofInstruction (String.ofList ("AutomationStudio".toList ++ spaced header.parts)) = header := by
  -- The instruction has the word for its target, and then the tokens of the header.
  let words := Token.other "AutomationStudio" :: header.tokens
  have named := tokens_naming sound
  have visible : ∀ part ∈ header.parts, ∀ c ∈ part, Text.isBlank c = false := by
    rw [parts_eq]
    intro part member
    obtain ⟨token, among, rfl⟩ := List.mem_map.mp member
    obtain ⟨key, v, isQuoted, rfl, number⟩ := named token among
    exact naming_visible number key isQuoted
  have made : Text.MadeOf
      (String.ofList ("AutomationStudio".toList ++ spaced header.parts)).toList
      (words.map (·.text.toList)) := by
    rw [String.toList_ofList, List.map_cons, ← parts_eq]
    exact .word (Text.visible_of_all (by decide)) (Text.spaced_begins _)
      (Text.madeOf_spaced visible)
  have proper : ∀ token ∈ words, token.IsSound := by
    refine List.forall_mem_cons.mpr ⟨by decide +kernel, fun token member => ?_⟩
    obtain ⟨key, v, isQuoted, rfl, number⟩ := named token member
    exact number
  refine eq_of_numbers fun key => ?_
  rw [ofInstruction_number? made proper, ← findSome?_tokens]
  rfl

/-- What holds of the characters of versions and of the words before them holds of all that an
instruction says. -/
theorem data_forall {header : Header} (sound : header.IsSound) {holds : Char → Bool}
    (numbers : ∀ c, (c.isDigit || c == '.') = true → holds c = true)
    (words : " Version=FileVersion=\"WorkingVersion=\"".toList.all holds = true) :
    ∀ c ∈ header.data, holds c = true := by
  have within (word closing : String) (version : Option String)
      (begins : ∀ c ∈ word.toList, holds c = true) (ends : ∀ c ∈ closing.toList, holds c = true)
      (versions : ∀ v ∈ version, isVersion v = true) :
      ∀ part ∈ versionPart word closing version, ∀ c ∈ part, holds c = true := by
    intro part member c among
    obtain ⟨v, found, rfl⟩ : ∃ v ∈ version, word.toList ++ (v.toList ++ closing.toList) = part := by
      simpa [versionPart] using member
    rcases List.mem_append.mp among with early | late
    · exact begins c early
    rcases List.mem_append.mp late with number | close
    · exact numbers c ((isVersion_chars (versions v found)).2 c number)
    · exact ends c close
  have spelt {word : String}
      (letters : word.toList.all
        (" Version=FileVersion=\"WorkingVersion=\"".toList.contains ·) = true) :
      ∀ c ∈ word.toList, holds c = true := by
    intro c member
    have letter := List.all_eq_true.mp letters c member
    exact List.all_eq_true.mp words c (List.contains_iff_mem.mp letter)
  have parts : ∀ part ∈ header.parts, ∀ c ∈ part, holds c = true := by
    refine List.forall_mem_append.mpr ⟨?_, List.forall_mem_append.mpr ⟨?_, ?_⟩⟩
    · exact within _ _ _ (spelt (by decide)) (spelt (by decide)) sound.version
    · exact within _ _ _ (spelt (by decide)) (spelt (by decide)) sound.fileVersion
    · exact within _ _ _ (spelt (by decide)) (spelt (by decide)) sound.workingVersion
  have blank : holds ' ' = true := List.all_eq_true.mp words ' ' (by decide)
  intro c member
  by_cases none : header.parts = []
  · simp [data, none] at member
  · -- A character is a blank between two parts or belongs to a part.
    have among : c ∈ header.parts.flatMap (' ' :: ·) := by
      rw [← cons_intercalate none]
      exact List.mem_cons_of_mem _ member
    obtain ⟨part, listed, inPart⟩ := List.mem_flatMap.mp among
    rcases List.mem_cons.mp inPart with rfl | inPart
    · exact blank
    · exact parts part listed c inPart

/-- The part of a version begins with its word. -/
theorem versionPart_begins {first : Char} (begins : first ∈ word.toList.head?) :
    ∀ part ∈ versionPart word closing version, part.head? = some first := by
  intro part member
  obtain ⟨others, spelt⟩ := List.head?_eq_some_iff.mp begins
  obtain ⟨v, -, rfl⟩ : ∃ v ∈ version, word.toList ++ (v.toList ++ closing.toList) = part := by
    simpa [versionPart] using member
  simp [spelt]

/-- What an instruction says is nothing, or it begins with a letter. -/
theorem data_cases (header : Header) : (header.parts = [] ∧ header.data = []) ∨
    (' ' :: header.data = spaced header.parts ∧ header.data ≠ [] ∧
      header.data.dropWhile Text.isSpace = header.data) := by
  -- A header without numbers has no data; otherwise the data begins with a word's first letter.
  by_cases none : header.parts = []
  · exact .inl ⟨none, by simp [data, none]⟩
  · have whole : ' ' :: header.data = spaced header.parts := cons_intercalate none ' '
    obtain ⟨part, others, first⟩ := List.exists_cons_of_ne_nil none
    -- Each part begins with a capital letter, so the data has no leading blank to lose.
    have letters : ∀ part ∈ header.parts, ∃ c, part.head? = some c ∧ Text.isSpace c = false := by
      refine List.forall_mem_append.mpr ⟨?_, List.forall_mem_append.mpr ⟨?_, ?_⟩⟩
      · exact fun part member => ⟨'V', versionPart_begins rfl part member, rfl⟩
      · exact fun part member => ⟨'F', versionPart_begins rfl part member, rfl⟩
      · exact fun part member => ⟨'W', versionPart_begins rfl part member, rfl⟩
    obtain ⟨c, begins, solid⟩ := letters part (by simp [first])
    obtain ⟨more, rfl⟩ := List.head?_eq_some_iff.mp begins
    have spelt : header.data = c :: (more ++ spaced others) := by
      rw [first] at whole
      exact (List.cons.inj whole).2
    exact .inr ⟨whole, by simp [spelt], by simp [spelt, solid]⟩

/-- What an instruction says can be written as its data. -/
theorem data_isInstruction {header : Header} (sound : header.IsSound) :
    IsInstruction "AutomationStudio".toList header.data where
  named := by decide
  unreserved := by decide
  unmarked := by
    intro member
    -- Digits and dots, and the letters of the words, leave no question mark.
    have numbers : ∀ c, (c.isDigit || c == '.') = true → (c != '?') = true := by
      intro c number
      rw [bne_iff_ne]
      rintro rfl
      revert number
      decide
    simpa using data_forall sound numbers (by decide) '?' member
  begins := by
    rcases data_cases header with ⟨-, none⟩ | ⟨-, -, kept⟩
    · rw [none]
      rfl
    · exact kept

/-- The header that the instruction with a header's data gives is that header. -/
theorem headerText_written {header : Header} (sound : header.IsSound) :
    ((headerText [(String.ofList "AutomationStudio".toList,
      String.ofList (Text.unifyLineEnds header.data))]).map ofInstruction).getD {} = header := by
  -- Without a carriage return there is no line end to unify.
  have kept : Text.unifyLineEnds header.data = header.data := by
    have numbers : ∀ c, (c.isDigit || c == '.') = true → decide (IsData [c]) = true := by
      intro c number
      have apart : ∀ d, (d.isDigit || d == '.') = false → c ≠ d := by
        rintro d other rfl
        simp [number] at other
      simp [IsData, apart]
    refine IsData.unified fun c member => ?_
    simpa [IsData] using data_forall sound numbers (by decide) c member
  -- The text of the instruction is the writing of the tokens, which is read back.
  have named := ofInstruction_written sound
  have target : (String.ofList "AutomationStudio".toList == "AutomationStudio") = true := by decide
  simp only [headerText, List.filter_cons, target, if_true, List.filter_nil,
    List.getLast?_singleton, kept, Option.map_some, Option.getD_some]
  rcases data_cases header with ⟨parts, none⟩ | ⟨whole, some, -⟩
  · rw [parts] at named
    simpa [none, spaced] using named
  · rw [← whole] at named
    have text : String.ofList header.data ≠ "" := by
      intro same
      exact some (by simpa using congrArg String.toList same)
    have joined : String.ofList "AutomationStudio".toList ++ " " ++ String.ofList header.data =
        String.ofList ("AutomationStudio".toList ++ ' ' :: header.data) := by
      simp [← String.toList_inj]
    simp only [beq_iff_eq, text, if_false, joined, named]

end Header

end AutomationIndex
