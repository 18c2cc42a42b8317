import AutomationIndex.Toml.Value

/-! TOML documents: statements that fill tables, and tables that are declared. -/

namespace AutomationIndex.Toml

/-- What has been read of a document: its tables, what to remember, and the declared table that
statements are about. -/
structure Draft where
  entries : Entries := []
  marks : Marks := {}
  current : Key := []

/-- Declares a table. -/
def Draft.declareTable (draft : Draft) (key : Key) : Except Cause Draft :=
  -- A table is declared once, and an inline one is never opened again.
  if draft.marks.isDeclared key || draft.marks.isImmutable key then .error (.declaredTwice key)
  else do
    let entries ← changeTable true .ok key draft.entries
    return ⟨entries, draft.marks.declare key, key⟩

/-- Declares one more table of a list of tables. -/
def Draft.declareListed (draft : Draft) (key : Key) : Except Cause Draft :=
  if draft.marks.isImmutable key then .error (.immutable key)
  else do
    let entries ← changeTable true (addListed (key.getLastD "")) key.dropLast draft.entries
    -- The new table starts without what was remembered about the one before it.
    return ⟨entries, (draft.marks.forget key).declare key, key⟩

/-- Adds a pair to the current table. -/
def Draft.add (draft : Draft) (key : Key) (value : Json) : Except Cause Draft :=
  let passed := (List.range (key.length - 1)).map fun i => draft.current ++ key.take (i + 1)
  match passed.find? draft.marks.isDeclared with
  -- A dotted key opens no table that a declaration has opened before.
  | some table => .error (.redefined table)
  | none =>
    let marks := draft.marks.pass passed
    let parent := draft.current ++ key.dropLast
    if marks.isImmutable parent then .error (.immutable parent)
    else do
      let entries ← changeTable true (addEntry (key.getLastD "") value .overwritten) parent
        draft.entries
      return ⟨entries, marks.freeze (draft.current ++ key) value, draft.current⟩

/-- Reads the declaration of a table, after its opening bracket. -/
def readTable (draft : Draft) (chars : List Char) : Except Fault (Draft × List Char) := do
  let (key, rest) ← readKey (skipSpace chars)
  -- The table is entered before its closing bracket is looked for, so a clash is told first.
  let draft ← locate rest (draft.declareTable key)
  match rest with
  | ']' :: rest => return (draft, rest)
  | rest => .error (faultAt .tableEnd rest)

/-- Reads the declaration of a table of a list, after its opening brackets. -/
def readListed (draft : Draft) (chars : List Char) : Except Fault (Draft × List Char) := do
  let (key, rest) ← readKey (skipSpace chars)
  let draft ← locate rest (draft.declareListed key)
  match rest with
  | ']' :: ']' :: rest => return (draft, rest)
  | rest => .error (faultAt .listEnd rest)

/-- Whether a character may begin a key. -/
def startsKey (c : Char) : Bool :=
  isBare c || c == '"' || c == '\''

/-- Reads one statement, if the line holds one, and the space after it. -/
def readStatement (draft : Draft) (chars : List Char) : Except Fault (Draft × List Char) :=
  match chars with
  -- Tables that keys have opened so far count as declared from here on.
  | '[' :: '[' :: rest => do
    let (draft, rest) ← readListed { draft with marks := draft.marks.settle } rest
    return (draft, skipSpace rest)
  | '[' :: rest => do
    let (draft, rest) ← readTable { draft with marks := draft.marks.settle } rest
    return (draft, skipSpace rest)
  -- A comment is left for the end of the line, like one behind a statement.
  | '#' :: rest => .ok (draft, '#' :: rest)
  | c :: rest =>
    if startsKey c then do
      let (key, value, rest) ← readPair (2 * (rest.length + 2)) (c :: rest)
      let draft ← locate rest (draft.add key value)
      return (draft, skipSpace rest)
    else .error (faultAt .statement (c :: rest))
  | [] => .ok (draft, [])

/-- Reads line by line. -/
def readLines : Nat → Draft → List Char → Except Fault Draft
  | 0, draft, _ => .ok draft
  | fuel + 1, draft, chars =>
    match skipSpace chars with
    | [] => .ok draft
    -- An empty line is no statement, and only the line end is consumed.
    | '\n' :: rest => readLines fuel draft rest
    | chars => do
      let (draft, rest) ← readStatement draft chars
      -- After a statement only a comment may follow on the line.
      match ← skipComment rest with
      | [] => return draft
      | '\n' :: rest => readLines fuel draft rest
      | rest => .error (faultAt .statementEnd rest)

/-- A text whose line ends are single line feeds. -/
def unifyLineEnds : List Char → List Char
  | '\r' :: '\n' :: rest => '\n' :: unifyLineEnds rest
  | c :: rest => c :: unifyLineEnds rest
  | [] => []

/-- The table that a whole text writes, or the wording of its fault. -/
def read (text : String) : Except (Cause × String) Entries :=
  let chars := unifyLineEnds text.toList
  -- Each line consumes a character, so the length is enough.
  match readLines (chars.length + 1) {} chars with
  | .ok draft => .ok draft.entries
  | .error fault => .error (fault.cause, fault.message chars)

end AutomationIndex.Toml
