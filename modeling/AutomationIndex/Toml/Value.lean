import AutomationIndex.Toml.Scalar
import AutomationIndex.Toml.Table

/-! TOML values: scalars, arrays and inline tables. -/

namespace AutomationIndex.Toml

/-- A result whose fault has been found where a rest is left. -/
def locate {α : Type} (rest : List Char) (result : Except Cause α) : Except Fault α :=
  result.mapError fun cause => faultAt cause rest

/-- Adds a pair to an inline table: its name must be new, and its way not blocked by a value. -/
def addInline (marks : Marks) (entries : Entries) (key : Key) (value : Json) :
    Except Cause Entries :=
  -- A value written inline is closed: nothing is added to it later.
  if marks.isImmutable key then .error (.immutable key)
  else
    -- Only the last part names the value, the ones before it are the tables it stands in.
    let name := key.getLastD ""
    changeTable false (addEntry name value (.duplicate name)) key.dropLast entries

/-- A value without parts, and what follows it. -/
def readSimple (chars : List Char) : Except Fault (Json × List Char) :=
  match readString? chars with
  | some found => found.map fun (text, rest) => (.text text, rest)
  | none =>
    match chars with
    | 't' :: 'r' :: 'u' :: 'e' :: rest => .ok (.bool true, rest)
    | 'f' :: 'a' :: 'l' :: 's' :: 'e' :: rest => .ok (.bool false, rest)
    | chars => (readScalar? chars).getD (.error (faultAt .value chars))

mutual

/-- A value at the start of a text, and what follows it. -/
def readValue : Nat → List Char → Except Fault (Json × List Char)
  | 0, chars => .error (faultAt .value chars)
  | fuel + 1, '[' :: rest => do
    match ← skipAllGaps rest with
    | ']' :: rest => return (.list [], rest)
    | rest => readItems fuel [] rest
  | fuel + 1, '{' :: rest =>
    match skipSpace rest with
    | '}' :: rest => .ok (.object [], rest)
    | rest => readPairs fuel {} [] rest
  | _ + 1, chars => readSimple chars

/-- The items of an array from one on, after the items found so far in reverse order. -/
def readItems : Nat → List Json → List Char → Except Fault (Json × List Char)
  | 0, _, chars => .error (faultAt .value chars)
  | fuel + 1, found, chars => do
    let (value, rest) ← readValue fuel chars
    match ← skipAllGaps rest with
    | ']' :: rest => return (.list (value :: found).reverse, rest)
    | ',' :: rest =>
      match ← skipAllGaps rest with
      -- A comma may stand behind the last item.
      | ']' :: rest => return (.list (value :: found).reverse, rest)
      | rest => readItems fuel (value :: found) rest
    | rest => .error (faultAt .openArray rest)

/-- The pairs of an inline table from one on, after the entries made so far. -/
def readPairs : Nat → Marks → Entries → List Char → Except Fault (Json × List Char)
  | 0, _, _, chars => .error (faultAt .value chars)
  | fuel + 1, marks, entries, chars => do
    let (key, value, rest) ← readPair fuel chars
    let entries ← locate rest (addInline marks entries key value)
    match skipSpace rest with
    | '}' :: rest => return (.object entries, rest)
    -- A comma asks for one more pair: an inline table cannot end after it.
    | ',' :: rest => readPairs fuel (marks.freeze key value) entries (skipSpace rest)
    | rest => .error (faultAt .openTable rest)

/-- A key, its value, and what follows them. -/
def readPair : Nat → List Char → Except Fault (Key × Json × List Char)
  | 0, chars => .error (faultAt .value chars)
  | fuel + 1, chars => do
    let (key, rest) ← readKey chars
    match rest with
    | '=' :: rest =>
      let (value, rest) ← readValue fuel (skipSpace rest)
      return (key, value, rest)
    | rest => .error (faultAt .noEquals rest)

end

end AutomationIndex.Toml
