import AutomationIndex.Json.Basic
import AutomationIndex.Text.Blank
import AutomationIndex.Text.Digit

/-! Reading JSON text, with the place and the kind of the first fault. -/

namespace AutomationIndex.Json

/-- What can be wrong with a JSON text. -/
inductive Cause where
  | byteOrderMark
  | value
  | propertyName
  | colon
  | comma
  | unterminated
  | controlCharacter
  | escape
  | unicodeEscape
  | extraData
  /-- A whole number with more digits than are read. -/
  | tooManyDigits (count : Nat)
  deriving DecidableEq, Repr

/-- The wording of a cause. -/
def Cause.message : Cause → String
  | byteOrderMark => "Unexpected UTF-8 BOM (decode using utf-8-sig)"
  | value => "Expecting value"
  | propertyName => "Expecting property name enclosed in double quotes"
  | colon => "Expecting ':' delimiter"
  | comma => "Expecting ',' delimiter"
  | unterminated => "Unterminated string starting at"
  | controlCharacter => "Invalid control character at"
  | escape => "Invalid \\escape"
  | unicodeEscape => "Invalid \\uXXXX escape"
  | extraData => "Extra data"
  | tooManyDigits count =>
    "Exceeds the limit (4300 digits) for integer string conversion: value has " ++
      toString count ++ " digits; use sys.set_int_max_str_digits() to increase the limit"

/-- A fault: its cause and how many characters of the text were left where it was found. -/
structure Fault where
  cause : Cause
  left : Nat
  deriving DecidableEq, Repr

/-- The most digits of a whole number that are read. -/
def digitLimit : Nat := 4300

/-- The text after leading space. -/
def skipSpace (chars : List Char) : List Char :=
  chars.dropWhile Text.isSpace

/-- The number written with four hexadecimal digits, and what follows it. -/
def hexQuad? : List Char → Option (Nat × List Char)
  | a :: b :: c :: d :: rest =>
    match Text.hexDigit? a, Text.hexDigit? b, Text.hexDigit? c, Text.hexDigit? d with
    | some a, some b, some c, some d => some (((a * 16 + b) * 16 + c) * 16 + d, rest)
    | _, _, _, _ => none
  | _ => none

/-- The character after a backslash that stands for another one. -/
def simpleEscape? : Char → Option Char
  | '"' => some '"'
  | '\\' => some '\\'
  | '/' => some '/'
  | 'b' => some (Char.ofNat 8)
  | 'f' => some (Char.ofNat 12)
  | 'n' => some '\n'
  | 'r' => some '\r'
  | 't' => some '\t'
  | _ => none

/-- The code unit after the mark of a unicode escape, and what follows it. Something has to follow,
for the string is not closed yet. -/
def readUnit (chars : List Char) : Except Fault (Nat × List Char) :=
  match hexQuad? chars with
  -- Four digits at the very end leave no closing quotation mark, and the text is refused here.
  | some (_, []) => .error ⟨.unicodeEscape, chars.length + 1⟩
  | some found => .ok found
  | none => .error ⟨.unicodeEscape, chars.length + 1⟩

/-- Joins a high surrogate to the low one that an escape right after it gives, if it does. -/
def readPair (high : Nat) (chars : List Char) : Except Fault (Nat × List Char) :=
  match chars with
  | '\\' :: 'u' :: digits =>
    -- Fewer than four digits and what follows them are left for the next unit to complain about.
    if digits.length < 5 then .ok (high, chars)
    else
      match hexQuad? digits with
      | some (low, rest) =>
        if 0xDC00 ≤ low && low ≤ 0xDFFF then
          .ok (0x10000 + (high - 0xD800) * 0x400 + (low - 0xDC00), rest)
        -- A second half that is none is not taken, and the first half stands alone.
        else .ok (high, chars)
      | none => .error ⟨.unicodeEscape, digits.length + 1⟩
  | _ => .ok (high, chars)

/-- The code points of a string up to its closing quote, and what follows that quote. -/
def readString (opening : Nat) : Nat → List Nat → List Char → Except Fault (List Nat × List Char)
  | 0, _, _ => .error ⟨.unterminated, opening⟩
  | _, _, [] => .error ⟨.unterminated, opening⟩
  | _ + 1, found, '"' :: rest => .ok (found.reverse, rest)
  -- A backslash at the end is an unterminated text and not an unknown escape.
  | _ + 1, _, ['\\'] => .error ⟨.unterminated, opening⟩
  | fuel + 1, found, '\\' :: 'u' :: rest => do
    let (unit, rest) ← readUnit rest
    if 0xD800 ≤ unit && unit ≤ 0xDBFF then
      let (code, rest) ← readPair unit rest
      readString opening fuel (code :: found) rest
    else readString opening fuel (unit :: found) rest
  | fuel + 1, found, '\\' :: c :: rest =>
    match simpleEscape? c with
    | some escaped => readString opening fuel (escaped.toNat :: found) rest
    | none => .error ⟨.escape, rest.length + 2⟩
  | fuel + 1, found, c :: rest =>
    if c.toNat ≤ 0x1F then .error ⟨.controlCharacter, rest.length + 1⟩
    else readString opening fuel (c.toNat :: found) rest

/-- The string after an opening quote: its code points, and what follows the closing quote. -/
def readStringAfterQuote (chars : List Char) : Except Fault (List Nat × List Char) :=
  readString (chars.length + 1) (chars.length + 1) [] chars

/-- The text of code points; half of a surrogate pair becomes the replacement character. -/
def textOf (codes : List Nat) : String :=
  String.ofList (codes.map fun n =>
    if 0xD800 ≤ n && n ≤ 0xDFFF then Char.ofNat 0xFFFD else Char.ofNat n)

/-- The value of a string. -/
def stringValue (codes : List Nat) : Json :=
  if codes.any fun n => 0xD800 ≤ n && n ≤ 0xDFFF then brokenText (codes.map Text.Point.ofCode)
  else text (textOf codes)

/-- The number that decimal digits write. -/
def decimalValue (digits : List Char) : Nat :=
  digits.foldl (fun value c => value * 10 + (c.toNat - 48)) 0

/-- Whether a text begins with a minus sign, and what follows the sign. -/
def readSign (chars : List Char) : Bool × List Char :=
  match chars with
  | '-' :: rest => (true, rest)
  | rest => (false, rest)

/-- Whether a text begins with a minus sign, and what follows a sign of either kind. -/
def readEitherSign (chars : List Char) : Bool × List Char :=
  match chars with
  | '+' :: rest => (false, rest)
  | _ => readSign chars

/-- The digits of an exponent and its sign, after the exponent mark, and what follows. -/
def readExponent (chars : List Char) : Option (Int × List Char) :=
  let (negative, rest) := readEitherSign chars
  let digits := rest.takeWhile (·.isDigit)
  if digits.isEmpty then none
  else
    -- The digits are only split off when there is at least one: `1e` is the number 1 and a rest.
    let value : Int := decimalValue digits
    some (if negative then -value else value, rest.drop digits.length)

/-- The digits of a number before its decimal point. A zero at the start stands alone. -/
def wholeDigits (unsigned : List Char) : List Char :=
  match unsigned with
  | '0' :: _ => ['0']
  | _ => unsigned.takeWhile (·.isDigit)

/-- The digits after a decimal point, if there are any, and what follows them. -/
def readDecimals (chars : List Char) : List Char × List Char :=
  match chars with
  | '.' :: after =>
    let digits := after.takeWhile (·.isDigit)
    -- A dot without digits after it does not belong to the number.
    if digits.isEmpty then ([], chars) else (digits, after.drop digits.length)
  | _ => ([], chars)

/-- The exponent after an exponent mark, if there is one, and what follows it. -/
def readPower? (chars : List Char) : Option (Int × List Char) :=
  match chars with
  | 'e' :: after => readExponent after
  | 'E' :: after => readExponent after
  | _ => none

/-- A number, and what follows it; nothing if the text does not begin with a number. -/
def readNumber? (chars : List Char) : Option (Except Fault (Json × List Char)) :=
  let (negative, unsigned) := readSign chars
  let whole := wholeDigits unsigned
  if whole.isEmpty then none
  else
    let (decimals, rest) := readDecimals (unsigned.drop whole.length)
    -- Without decimals and exponent the number is an integer, whose digits are limited.
    match decimals, readPower? rest with
    | [], none =>
      if whole.length > digitLimit then some (.error ⟨.tooManyDigits whole.length, chars.length⟩)
      else
        let value : Int := decimalValue whole
        some (.ok (int (if negative then -value else value), rest))
    | _, exponent =>
      let (power, rest) := exponent.getD (0, rest)
      some (.ok (real (Double.ofDecimal negative (decimalValue (whole ++ decimals))
        (power - decimals.length)), rest))

/-- The words that stand for values. -/
def constants : List (List Char × Json) :=
  [("null".toList, null), ("true".toList, bool true), ("false".toList, bool false),
    ("NaN".toList, real .notANumber), ("Infinity".toList, real (.infinite false)),
    ("-Infinity".toList, real (.infinite true))]

/-- A value that holds no others, and what follows it. -/
def readScalar (chars : List Char) : Except Fault (Json × List Char) :=
  match constants.find? fun constant => constant.1.isPrefixOf chars with
  -- A constant is taken as soon as it stands at the front.
  | some (word, value) => .ok (value, chars.drop word.length)
  | none =>
    match chars with
    | '"' :: rest => do
      let (codes, rest) ← readStringAfterQuote rest
      .ok (stringValue codes, rest)
    | _ => (readNumber? chars).getD (.error ⟨.value, chars.length⟩)

/-- Whether a closing bracket follows or else a comma, and what comes after it. -/
def readSeparator (closing : Char) (chars : List Char) : Except Fault (Bool × List Char) :=
  match skipSpace chars with
  | [] => .error ⟨.comma, 0⟩
  | c :: rest =>
    -- After the comma the spaces are skipped here, since the next item is expected right away.
    if c == closing then .ok (true, rest)
    else if c == ',' then .ok (false, skipSpace rest)
    else .error ⟨.comma, rest.length + 1⟩

mutual

/-- A value at the start of a text, and what follows it. -/
def readValue : Nat → List Char → Except Fault (Json × List Char)
  | 0, chars => .error ⟨.value, chars.length⟩
  | fuel + 1, '{' :: rest =>
    -- A closing mark ends an empty collection here; after a comma one would be refused.
    match skipSpace rest with
    | '}' :: rest => .ok (object [], rest)
    | rest => readFields fuel [] rest
  | fuel + 1, '[' :: rest =>
    match skipSpace rest with
    | ']' :: rest => .ok (list [], rest)
    | rest => readItems fuel [] rest
  | _ + 1, chars => readScalar chars

/-- The fields of an object from a key on, after the fields found so far. -/
def readFields : Nat → List (String × Json) → List Char → Except Fault (Json × List Char)
  | 0, _, chars => .error ⟨.value, chars.length⟩
  | fuel + 1, found, '"' :: rest => do
    let (key, rest) ← readStringAfterQuote rest
    match skipSpace rest with
    | ':' :: rest =>
      let (value, rest) ← readValue fuel (skipSpace rest)
      -- A repeated key keeps its first place and takes the last value.
      let found := setField (textOf key) value found
      let (closed, rest) ← readSeparator '}' rest
      if closed then .ok (object found, rest) else readFields fuel found rest
    | rest => .error ⟨.colon, rest.length⟩
  | _ + 1, _, chars => .error ⟨.propertyName, chars.length⟩

/-- The items of a list from an item on, after the items found so far in reverse order. -/
def readItems : Nat → List Json → List Char → Except Fault (Json × List Char)
  | 0, _, chars => .error ⟨.value, chars.length⟩
  | fuel + 1, found, chars => do
    let (value, rest) ← readValue fuel chars
    let (closed, rest) ← readSeparator ']' rest
    if closed then .ok (list (value :: found).reverse, rest)
    else readItems fuel (value :: found) rest

end

/-- The value that a whole text writes. -/
def read (chars : List Char) : Except Fault Json :=
  if chars.head? == some (Char.ofNat 0xFEFF) then .error ⟨.byteOrderMark, chars.length⟩
  else
    -- Two steps, into a list and to its first item, may take only one character.
    match readValue (2 * chars.length + 1) (skipSpace chars) with
    | .error fault => .error fault
    | .ok (value, rest) =>
      match skipSpace rest with
      | [] => .ok value
      | rest => .error ⟨.extraData, rest.length⟩

/-- The wording of a fault in a text, with line, column and index of its place. A number that is
too long is reported without a place. -/
def Fault.message (chars : List Char) (fault : Fault) : String :=
  match fault.cause with
  -- The limit on digits is told without a position.
  | .tooManyDigits _ => fault.cause.message
  | cause =>
    -- Lines and columns count from one, positions from zero.
    let before := chars.take (chars.length - fault.left)
    let column := (before.reverse.takeWhile (· != '\n')).length + 1
    cause.message ++ ": line " ++ toString (before.count '\n' + 1) ++ " column " ++
      toString column ++ " (char " ++ toString before.length ++ ")"

end AutomationIndex.Json
