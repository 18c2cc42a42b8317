import AutomationIndex.Settings.Basic
import AutomationIndex.Text.Blank

/-! Values taken for whole numbers, truth values, texts and lists, as far as they can be. -/

namespace AutomationIndex.Settings

/-- Why a value cannot be taken for what a setting needs. -/
inductive Objection where
  | notInteger
  | unreadInteger
  | fraction
  | oversized
  | notFinite
  | tooSmall (least : Nat)
  | tooLarge (most : Nat)
  | notFlag
  | unreadFlag
  | notText
  | brokenText
  | notList
  | notSection (model : String)
  | unknownKey
  | notNamePattern (text : String)
  | notLogLevel (text : String)
  deriving DecidableEq, Repr

/-- The wording of an objection. -/
def Objection.message : Objection → String
  | notInteger => "Input should be a valid integer"
  | unreadInteger => "Input should be a valid integer, unable to parse string as an integer"
  | fraction => "Input should be a valid integer, got a number with a fractional part"
  | oversized => "Unable to parse input string as an integer, exceeded maximum size"
  | notFinite => "Input should be a finite number"
  | tooSmall least => "Input should be greater than or equal to " ++ toString least
  | tooLarge most => "Input should be less than or equal to " ++ toString most
  | notFlag => "Input should be a valid boolean"
  | unreadFlag => "Input should be a valid boolean, unable to interpret input"
  | notText => "Input should be a valid string"
  | brokenText => "Input should be a valid string, unable to parse raw data as a unicode string"
  | notList => "Input should be a valid list"
  | notSection model => "Input should be a valid dictionary or instance of " ++ model
  | unknownKey => "Extra inputs are not permitted"
  | notNamePattern text =>
    "Value error, Invalid project file pattern '" ++ text ++ "': expected a file name pattern"
  | notLogLevel text =>
    "Value error, Invalid log level '" ++ text ++
      "'. Valid levels: ['CRITICAL', 'DEBUG', 'ERROR', 'INFO', 'WARNING']"

/-- Whether a character is white space in the narrow Unicode sense, without the separators of
information. -/
def isWhiteSpace (c : Char) : Bool :=
  Text.isBlank c && !(0x1C ≤ c.toNat && c.toNat ≤ 0x1F)

/-- The written number without zeros, and underscores among them, at its start. One zero stays where
there is nothing else, or before a point. -/
def dropLeadingZeros? : List Char → Option (List Char)
  | '0' :: rest =>
    let zeros := rest.takeWhile fun c => c == '0' || c == '_'
    match rest.drop zeros.length with
    | [] => some [('0' :: zeros).getLast (by simp)]
    | '.' :: after => some (('0' :: zeros).getLast (by simp) :: '.' :: after)
    -- After zeros there has to be a digit, so that a sign cannot follow them.
    | c :: after => if c.isDigit then some (c :: after) else none
  | c :: rest => if c.isDigit || c == '-' then some (c :: rest) else none
  | [] => none

/-- The written number without a point and zeros after it. -/
def dropDecimalZeros (chars : List Char) : List Char :=
  -- Only zeros after the dot make it an integer's spelling.
  let whole := chars.takeWhile (· != '.')
  match chars.drop whole.length with
  | _ :: '0' :: zeros => if zeros.all (· == '0') then whole else chars
  | _ => chars

/-- The written number without single underscores inside it. -/
def dropUnderscores (chars : List Char) : List Char :=
  if chars.head? == some '_' || chars.getLast? == some '_' || Text.occursIn ['_', '_'] chars then
    chars
  else chars.filter (· != '_')

/-- The plain digits and sign of a written whole number, as far as its form allows. -/
def plainInteger? (text : String) : Option (List Char) :=
  let trimmed := Text.dropEndWhile isWhiteSpace (text.toList.dropWhile isWhiteSpace)
  let unsigned :=
    -- Two signs are none: the text is refused here and not read as a negative number.
    match trimmed with
    | '+' :: '-' :: _ => none
    | '+' :: rest => some rest
    | chars => some chars
  (unsigned.bind dropLeadingZeros?).map fun chars => dropUnderscores (dropDecimalZeros chars)

/-- The whole number that a text writes. -/
def integerOfText (text : String) : Except Objection Int :=
  match plainInteger? text with
  | none => .error .unreadInteger
  | some chars =>
    let (negative, digits) :=
      match chars with
      | '-' :: digits => (true, digits)
      | digits => (false, digits)
    if digits.isEmpty || !digits.all Char.isDigit ||
        (digits.head? == some '0' && digits.length > 1) then .error .unreadInteger
    -- The length counts before the value is worked out.
    else if digits.length > 4300 then .error .oversized
    else
      let value : Int := digits.foldl (fun value c => value * 10 + (c.toNat - 48)) 0
      .ok (if negative then -value else value)

/-- Whether a whole number fits into a machine word. -/
def fitsWord (n : Int) : Bool :=
  -0x8000000000000000 ≤ n && n < 0x8000000000000000

/-- The whole number that a real number is. The least word is left out. -/
def integerOfReal (x : Double) : Except Objection Int :=
  if !x.isFinite then .error .notFinite
  else
    match x.toInt? with
    | none => .error .fraction
    -- The smallest word itself is refused too.
    | some n => if fitsWord n && n != -0x8000000000000000 then .ok n else .error .oversized

/-- The whole number that a value can be taken for. -/
def integerOf : Json → Except Objection Int
  | .int n => .ok n
  | .bool flag => .ok (if flag then 1 else 0)
  | .real x => integerOfReal x
  | .text text => integerOfText text
  | .brokenText _ => .error .brokenText
  | _ => .error .notInteger

/-- The truth value that a whole number can be taken for. -/
def flagOfInteger (n : Int) : Except Objection Bool :=
  if n == 0 then .ok false else if n == 1 then .ok true else .error .unreadFlag

/-- The truth value that a text spells, in any case of ASCII letters. -/
def flagOfText (text : String) : Except Objection Bool :=
  -- The spelling is compared without case.
  let spelled := String.ofList (text.toList.map Char.toLower)
  if ["0", "f", "n", "no", "off", "false"].contains spelled then .ok false
  else if ["1", "t", "y", "on", "yes", "true"].contains spelled then .ok true
  else .error .unreadFlag

/-- The truth value that a value can be taken for. -/
def flagOf : Json → Except Objection Bool
  | .bool flag => .ok flag
  -- Only a number that fits a machine word is looked at as a flag.
  | .int n => if fitsWord n then flagOfInteger n else .error .notFlag
  | .real x =>
    match integerOfReal x with
    | .ok n => flagOfInteger n
    | .error _ => .error .notFlag
  | .text text => flagOfText text
  | .brokenText _ => .error .brokenText
  | _ => .error .notFlag

/-- The text that a value is. -/
def textOf : Json → Except Objection String
  | .text text => .ok text
  | .brokenText _ => .error .brokenText
  | _ => .error .notText

/-- The name pattern that a value is. -/
def namePatternOf (value : Json) :
    Except Objection { text : String // isNamePattern text = true } :=
  match textOf value with
  | .error objection => .error objection
  | .ok text =>
    -- The accepted text carries its own proof, so no later search meets another pattern.
    if h : isNamePattern text = true then .ok ⟨text, h⟩ else .error (.notNamePattern text)

/-- The number of workers that a value can be taken for. -/
def workersOf (value : Json) : Except Objection { n : Nat // 1 ≤ n ∧ n ≤ 64 } :=
  match integerOf value with
  | .error objection => .error objection
  | .ok n =>
    if low : n < 1 then .error (.tooSmall 1)
    else if high : 64 < n then .error (.tooLarge 64)
    -- Both comparisons are kept as the bounds of the result.
    else .ok ⟨n.toNat, by omega⟩

/-- The capital form of a character as far as it lies in ASCII; no level's name has another. -/
def capitalForm (c : Char) : List Char :=
  match c.toNat with
  | 0xDF => ['S', 'S']
  | 0x131 => ['I']
  | 0x17F => ['S']
  | 0xFB00 => ['F', 'F']
  | 0xFB01 => ['F', 'I']
  | 0xFB02 => ['F', 'L']
  | 0xFB03 => ['F', 'F', 'I']
  | 0xFB04 => ['F', 'F', 'L']
  | 0xFB05 => ['S', 'T']
  | 0xFB06 => ['S', 'T']
  | _ => [c.toUpper]

/-- The log level that a value names in any case. -/
def logLevelOf (value : Json) : Except Objection LogLevel :=
  match textOf value with
  | .error objection => .error objection
  | .ok text =>
    -- The level is compared in capitals, where a letter may become several.
    match LogLevel.ofName? (String.ofList (text.toList.flatMap capitalForm)) with
    | some level => .ok level
    | none => .error (.notLogLevel text)

end AutomationIndex.Settings
