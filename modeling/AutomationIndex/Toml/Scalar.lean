import AutomationIndex.Toml.Text

/-! TOML numbers, dates and times. -/

namespace AutomationIndex.Toml

/-- The digits at the start of a text, where single underscores may stand between them, and what
follows them. -/
def takeDigits (isDigit : Char → Bool) : List Char → List Char × List Char
  -- An underscore belongs to the digits only between two of them.
  | c :: '_' :: d :: rest =>
    if isDigit c && isDigit d then
      let (digits, rest) := takeDigits isDigit (d :: rest)
      (c :: digits, rest)
    else if isDigit c then ([c], '_' :: d :: rest)
    else ([], c :: '_' :: d :: rest)
  | c :: rest =>
    if isDigit c then
      let (digits, rest) := takeDigits isDigit rest
      (c :: digits, rest)
    else ([], c :: rest)
  | [] => ([], [])

/-- The value of digits in a base up to sixteen. -/
def digitsValue (base : Nat) (digits : List Char) : Nat :=
  digits.foldl (fun value c => value * base + (Text.hexDigit? c).getD 0) 0

/-- A whole number that names its base, if one starts here. -/
def readBased? (chars : List Char) : Option (Json × List Char) :=
  -- A prefix without digits behind it is no number, and its zero is read by the next reader.
  let based := fun base isDigit rest =>
    match takeDigits isDigit rest with
    | ([], _) => none
    | (digits, rest) => some (Json.int (digitsValue base digits), rest)
  match chars with
  | '0' :: 'x' :: rest => based 16 (fun c => (Text.hexDigit? c).isSome) rest
  | '0' :: 'o' :: rest => based 8 (fun c => '0' ≤ c && c ≤ '7') rest
  | '0' :: 'b' :: rest => based 2 (fun c => c == '0' || c == '1') rest
  | _ => none

/-- A sign, which says whether a number is negative, and what follows it. -/
def takeSign : List Char → Bool × List Char
  | '-' :: rest => (true, rest)
  | '+' :: rest => (false, rest)
  | chars => (false, chars)

/-- The digits after a decimal point, if any follow it. -/
def takeFraction : List Char → List Char × List Char
  | '.' :: rest =>
    match takeDigits Char.isDigit rest with
    -- A dot without a digit after it is left to the rest.
    | ([], _) => ([], '.' :: rest)
    | found => found
  | chars => ([], chars)

/-- An exponent, if its mark and at least one digit are here. -/
def takeExponent? (chars : List Char) : Option (Int × List Char) :=
  let exponent := fun rest =>
    let (negative, rest) := takeSign rest
    match takeDigits Char.isDigit rest with
    | ([], _) => none
    | (digits, rest) =>
      let value : Int := digitsValue 10 digits
      some (if negative then -value else value, rest)
  match chars with
  | 'e' :: rest => exponent rest
  | 'E' :: rest => exponent rest
  | _ => none

/-- A decimal number, if one starts here. -/
def readDecimal? (chars : List Char) : Option (Except Fault (Json × List Char)) :=
  let (negative, unsigned) := takeSign chars
  let (whole, rest) :=
    match unsigned with
    -- A leading zero stands alone.
    | '0' :: rest => (['0'], rest)
    | _ => takeDigits Char.isDigit unsigned
  if whole.isEmpty then none
  else
    let (decimals, rest) := takeFraction rest
    -- Without a fraction and an exponent the number is an integer, whose digits are limited.
    match decimals, takeExponent? rest with
    | [], none =>
      if whole.length > Json.digitLimit then
        some (.error (faultAt (.tooManyDigits whole.length) chars))
      else
        let value : Int := digitsValue 10 whole
        some (.ok (.int (if negative then -value else value), rest))
    | _, exponent =>
      let (power, rest) := exponent.getD (0, rest)
      some (.ok (.real (Double.ofDecimal negative (digitsValue 10 (whole ++ decimals))
        (power - decimals.length)), rest))

/-- An infinite or undefined number, if one starts here. -/
def readUnbounded? (chars : List Char) : Option (Json × List Char) :=
  let (negative, unsigned) := takeSign chars
  match unsigned with
  | 'i' :: 'n' :: 'f' :: rest => some (.real (.infinite negative), rest)
  | 'n' :: 'a' :: 'n' :: rest => some (.real .notANumber, rest)
  | _ => none

/-- So many decimal digits whose value lies within bounds, and what follows them. -/
def takeNumber? (count low high : Nat) (chars : List Char) : Option (Nat × List Char) :=
  let digits := chars.take count
  let value := digitsValue 10 digits
  -- Fewer characters than asked for, or a value out of bounds, is no such number at all.
  if digits.length == count && digits.all Char.isDigit && low ≤ value && value ≤ high then
    some (value, chars.drop count)
  else none

/-- The text after one expected character. -/
def expect? (c : Char) : List Char → Option (List Char)
  | d :: rest => if c == d then some rest else none
  | [] => none

/-- The text after a time of day, if one starts here. -/
def skipTime? (chars : List Char) : Option (List Char) := do
  let (_, rest) ← takeNumber? 2 0 23 chars
  let (_, rest) ← takeNumber? 2 0 59 (← expect? ':' rest)
  let (_, rest) ← takeNumber? 2 0 59 (← expect? ':' rest)
  match rest with
  | '.' :: after =>
    match after.dropWhile Char.isDigit with
    -- A point without digits does not belong to the time.
    | unread => return if unread.length < after.length then unread else rest
  | rest => return rest

/-- The text after the offset of a time, or the same text where there is none. -/
def skipOffset (chars : List Char) : List Char :=
  -- What does not make a whole offset is left standing behind the time.
  let offset? : Option (List Char) :=
    match chars with
    | 'Z' :: rest => some rest
    | 'z' :: rest => some rest
    | sign :: rest =>
      if sign == '+' || sign == '-' then do
        let (_, rest) ← takeNumber? 2 0 23 rest
        let (_, rest) ← takeNumber? 2 0 59 (← expect? ':' rest)
        return rest
      else none
    | [] => none
  offset?.getD chars

/-- The number of days of a month. -/
def daysOf (year month : Nat) : Nat :=
  if month == 2 then
    if year % 4 == 0 && (year % 100 != 0 || year % 400 == 0) then 29 else 28
  else if [4, 6, 9, 11].contains month then 30
  else 31

/-- The text after a date and perhaps a time, if a date starts here, and whether the date exists. -/
def skipDate? (chars : List Char) : Option (Bool × List Char) := do
  let (year, rest) ← takeNumber? 4 0 9999 chars
  let (month, rest) ← takeNumber? 2 1 12 (← expect? '-' rest)
  let (day, rest) ← takeNumber? 2 1 31 (← expect? '-' rest)
  -- The form allows days that no calendar has.
  let exists? := 1 ≤ year && day ≤ daysOf year month
  let timed : Option (List Char) :=
    match rest with
    | mark :: after =>
      if mark == 'T' || mark == 't' || mark == ' ' then (skipTime? after).map skipOffset else none
    | [] => none
  return (exists?, timed.getD rest)

/-- A number or a moment, if one starts here. No setting is a moment, so that one is read as
nothing. -/
def readScalar? (chars : List Char) : Option (Except Fault (Json × List Char)) :=
  -- Dates come first, since they begin like numbers.
  match skipDate? chars with
  | some (true, rest) => some (.ok (.null, rest))
  | some (false, _) => some (.error (faultAt .moment chars))
  | none =>
    match skipTime? chars with
    | some rest => some (.ok (.null, rest))
    | none =>
      match readBased? chars with
      | some found => some (.ok found)
      | none =>
        match readDecimal? chars with
        | some found => some found
        | none => (readUnbounded? chars).map .ok

end AutomationIndex.Toml
