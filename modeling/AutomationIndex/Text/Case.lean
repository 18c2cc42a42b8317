import AutomationIndex.Text.CaseTable

/-! Small letters: the full mapping, with the form that a capital sigma takes at a word's end. -/

namespace AutomationIndex.Text

/-- Whether a code point lies in one of the closed ranges. -/
def inRanges (ranges : List (Nat × Nat)) (n : Nat) : Bool :=
  ranges.any fun range => range.1 ≤ n && n ≤ range.2

/-- Whether a character is a letter with case that counts in its neighbours' context. -/
def isCased (c : Char) : Bool :=
  inRanges casedRanges c.toNat

/-- Whether a character is passed over when the letters around another one are looked at. -/
def isCaseIgnorable (c : Char) : Bool :=
  inRanges caseIgnorableRanges c.toNat

/-- The small form of a character that stands alone. -/
def smallForm (c : Char) : List Char :=
  let n := c.toNat
  -- Below the capitals of ASCII nothing changes, and most characters are there.
  if n < 0x41 then [c]
  else if n == 0x130 then [Char.ofNat 0x69, Char.ofNat 0x307]
  else
    -- A run with a stride holds capitals in turn with their small forms.
    match smallRuns.find? (fun run =>
      run.first ≤ n && n ≤ run.last && (n - run.first) % run.stride == 0) with
    | some run => [Char.ofNat ((n : Int) + run.shift).toNat]
    | none => [c]

/-- Whether the first character that is not passed over has case. -/
def meetsCased (neighbours : List Char) : Bool :=
  match neighbours.dropWhile isCaseIgnorable with
  | [] => false
  | c :: _ => isCased c

/-- The small forms of the rest of a text, given the characters before it in reverse order. -/
def smallFormsAfter : List Char → List Char → List Char
  | _, [] => []
  | before, c :: rest =>
    let here :=
      -- A sigma is final after a letter and before none, with what has no case passed over.
      if c.toNat == 0x3A3 then
        [Char.ofNat (if meetsCased before && !meetsCased rest then 0x3C2 else 0x3C3)]
      else smallForm c
    here ++ smallFormsAfter (c :: before) rest

/-- A text in small letters. -/
def toSmall (text : String) : String :=
  String.ofList (smallFormsAfter [] text.toList)

end AutomationIndex.Text
