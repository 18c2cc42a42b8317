/-! File name patterns: any run of characters, any one character, and classes of characters. -/

namespace AutomationIndex.Wildcard

/-- A piece of a pattern. -/
inductive Piece where
  /-- Any run of characters, the empty one included. -/
  | anyRun
  /-- Any one character. -/
  | anyOne
  /-- One given character. -/
  | literal (c : Char)
  /-- One character in, or where negated outside, the closed ranges. -/
  | oneOf (negated : Bool) (ranges : List (Char × Char))
  deriving DecidableEq, Repr

/-- A pattern is the sequence of its pieces. -/
abbrev Pattern := List Piece

/-- Whether a piece that stands for one character accepts it. -/
def Piece.accepts : Piece → Char → Bool
  | anyRun, _ => false
  | anyOne, _ => true
  | literal c, d => c == d
  | oneOf negated ranges, d => negated != ranges.any fun range => range.1 ≤ d && d ≤ range.2

/-- The runs between the hyphens of a class that make ranges. A hyphen does so when at least one
character stands before it and two have passed since the hyphen before. -/
def hyphenRuns : Nat → List Char → List Char → List (List Char)
  | _, run, [] => [run.reverse]
  | 0, run, '-' :: rest => run.reverse :: hyphenRuns 2 [] rest
  | held, run, c :: rest => hyphenRuns (held - 1) (c :: run) rest

/-- A hyphen at the end of a class makes no range and belongs to the run before it. -/
def joinLastHyphen : List (List Char) → List (List Char)
  | [] => []
  | [run] => [run]
  -- A hyphen that ends the class stands for itself.
  | [run, []] => [run ++ ['-']]
  | run :: runs => run :: joinLastHyphen runs

/-- Leaves out the ranges that would run backwards, with both their ends. -/
def dropEmptyRanges (runs : List (List Char)) : List (List Char) :=
  runs.foldr step []
where
  /-- Puts a run in front of the runs that follow it. -/
  step (run : List Char) (runs : List (List Char)) : List (List Char) :=
    match run.getLast?, runs with
    | some last, (first :: others) :: rest =>
      if first < last then (run.dropLast ++ others) :: rest else run :: runs
    | _, _ => run :: runs

/-- The ranges that a sequence of runs stands for: the hyphen between two runs joins the last
character of one to the first of the next, and stands for itself where there is none before it. -/
def rangesOf : List (List Char) → List (Char × Char)
  | [] => []
  | [run] => run.map fun c => (c, c)
  | run :: (next :: rest) =>
    -- The hyphen joins the last character of one run and the first of the next.
    match run.getLast?, next with
    | some low, high :: others =>
      run.dropLast.map (fun c => (c, c)) ++ (low, high) :: rangesOf (others :: rest)
    -- Nothing on one side: the hyphen is a character of the class.
    | _, _ => run.map (fun c => (c, c)) ++ ('-', '-') :: rangesOf (next :: rest)
termination_by runs => runs.length

/-- The piece for the characters between the brackets of a class. -/
def classPiece (inner : List Char) : Piece :=
  let runs :=
    if inner.contains '-' then
      -- The first character of a class, after a negation, cannot end a range.
      let start := if inner.head? == some '!' then 2 else 1
      dropEmptyRanges (joinLastHyphen (hyphenRuns start [] inner))
    else [inner]
  match runs with
  | [['!']] => .anyOne
  | ('!' :: first) :: rest => .oneOf true (rangesOf (first :: rest))
  | runs => .oneOf false (rangesOf runs)

/-- The characters up to the closing bracket of a class and those after it. A bracket at the very
start, or just after an exclamation mark there, does not close. -/
def splitClass (after : List Char) : Option (List Char × List Char) :=
  -- A closing bracket right behind the opening belongs to the class.
  let opening :=
    match after with
    | '!' :: ']' :: _ => 2
    | '!' :: _ => 1
    | ']' :: _ => 1
    | _ => 0
  let inner := (after.drop opening).takeWhile (· != ']')
  match after.drop (opening + inner.length) with
  | [] => none
  | _ :: rest => some (after.take (opening + inner.length), rest)

/-- What follows a class is shorter than what followed its opening bracket. -/
theorem splitClass_shorter {after inner rest : List Char}
    (split : splitClass after = some (inner, rest)) : rest.length < after.length := by
  -- The rest is what follows a nonempty remainder of the list.
  unfold splitClass at split
  simp only at split
  split at split
  · simp at split
  · rename_i dropped
    simp only [Option.some.injEq, Prod.mk.injEq] at split
    have lengths := congrArg List.length dropped
    simp only [List.length_drop, List.length_cons] at lengths
    rw [← split.2]
    omega

/-- The pieces of a written pattern. A bracket that is never closed stands for itself. -/
def piecesOf : List Char → Pattern
  | [] => []
  | '*' :: rest => .anyRun :: piecesOf rest
  | '?' :: rest => .anyOne :: piecesOf rest
  | '[' :: rest =>
    match split : splitClass rest with
    | some (inner, after) =>
      -- The class ends where the search for its bracket did, which is what makes the rest shorter.
      have := splitClass_shorter split
      classPiece inner :: piecesOf after
    -- A bracket that is never closed stands for itself.
    | none => .literal '[' :: piecesOf rest
  | c :: rest => .literal c :: piecesOf rest
termination_by chars => chars.length

/-- For every ending of a text, longest first, whether it matches one piece more than the pattern
that the given row answers for. -/
def extendRow (text : List Char) (piece : Piece) (row : List Bool) : List Bool :=
  match piece with
  | .anyRun => row.foldr (fun here later => (here || later.headD false) :: later) []
  | piece => (text.zip row.tail).map (fun (c, later) => piece.accepts c && later) ++ [false]

/-- For every ending of a text, longest first, whether it matches a pattern. -/
def matchRow (text : List Char) (pattern : Pattern) : List Bool :=
  pattern.foldr (extendRow text) (text.map (fun _ => false) ++ [true])

/-- Whether a whole text matches a pattern. -/
def Pattern.accepts (pattern : Pattern) (text : List Char) : Bool :=
  (matchRow text pattern).headD false

/-- Whether a whole text matches a written pattern. -/
def fits (text written : String) : Bool :=
  Pattern.accepts (piecesOf written.toList) text.toList

end AutomationIndex.Wildcard
