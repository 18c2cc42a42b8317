import AutomationIndex.Text.Quoted

/-! Reading UTF-8: the characters of bytes, and the first bytes that make none. -/

namespace AutomationIndex.Text

/-- Why bytes make no character. -/
inductive Utf8Cause where
  | start
  | continuation
  | truncated
  deriving DecidableEq, Repr

/-- The wording of a cause. -/
def Utf8Cause.message : Utf8Cause → String
  | start => "invalid start byte"
  | continuation => "invalid continuation byte"
  | truncated => "unexpected end of data"

/-- Bytes that make no character, and how many bytes come before them. -/
structure Utf8Fault where
  cause : Utf8Cause
  position : Nat
  bytes : List UInt8
  deriving DecidableEq, Repr

/-- The wording of a fault. -/
def Utf8Fault.message (fault : Utf8Fault) : String :=
  let which :=
    -- One byte is shown itself, and several are told by their places only.
    match fault.bytes with
    | [byte] =>
      "byte 0x" ++ String.ofList (hexDigits 2 byte.toNat) ++ " in position " ++
        toString fault.position
    | bytes =>
      "bytes in position " ++ toString fault.position ++ "-" ++
        toString (fault.position + bytes.length - 1)
  "'utf-8' codec can't decode " ++ which ++ ": " ++ fault.cause.message

/-- How many bytes a character takes that begins with a byte, if one does. -/
def sequenceLength? (lead : Nat) : Option Nat :=
  if lead < 0x80 then some 1
  else if lead < 0xC2 then none
  else if lead < 0xE0 then some 2
  else if lead < 0xF0 then some 3
  else if lead < 0xF5 then some 4
  else none

/-- Whether a byte may come second in a character, after its first byte. -/
def followsLead (lead second : Nat) : Bool :=
  let low := if lead == 0xE0 then 0xA0 else if lead == 0xF0 then 0x90 else 0x80
  let high := if lead == 0xED then 0x9F else if lead == 0xF4 then 0x8F else 0xBF
  low ≤ second && second ≤ high

/-- Whether a byte may come after the second one of a character. -/
def isContinuation (byte : Nat) : Bool :=
  0x80 ≤ byte && byte ≤ 0xBF

/-- How many of the bytes after a first one may follow it. -/
def goodTail (lead : Nat) : List Nat → Nat
  | [] => 0
  | second :: others =>
    if followsLead lead second then (others.takeWhile isContinuation).length + 1 else 0

/-- The number of the character that a first byte and those after it make. -/
def codePoint (lead : Nat) (tail : List Nat) : Nat :=
  -- The leading byte marks the length in its top bits, which are taken off.
  let top :=
    match tail.length with
    | 0 => lead
    | 1 => lead - 0xC0
    | 2 => lead - 0xE0
    | _ => lead - 0xF0
  tail.foldl (fun value byte => value * 64 + (byte - 0x80)) top

/-- The first character of bytes and what follows it; or why there is none, and how many bytes are
at fault. -/
def firstChar (lead : UInt8) (rest : List UInt8) :
    Except (Utf8Cause × Nat) (Char × List UInt8) :=
  match sequenceLength? lead.toNat with
  | none => .error (.start, 1)
  | some length =>
    let tail := (rest.take (length - 1)).map UInt8.toNat
    let good := goodTail lead.toNat tail
    -- A tail that stops early is a wrong byte if there is one, and otherwise the end of the text.
    if good + 1 == length then
      .ok (Char.ofNat (codePoint lead.toNat tail), rest.drop (length - 1))
    else if good < tail.length then .error (.continuation, good + 1)
    else .error (.truncated, good + 1)

/-- The characters of bytes up to the first fault, with the number of bytes before them. -/
def decodeFrom : Nat → Nat → List UInt8 → List Char × Option Utf8Fault
  | 0, _, _ => ([], none)
  | _, _, [] => ([], none)
  | fuel + 1, position, lead :: rest =>
    match firstChar lead rest with
    | .error (cause, count) => ([], some ⟨cause, position, (lead :: rest).take count⟩)
    | .ok (c, after) =>
      -- The place advances by the bytes of the character that was read.
      let (chars, fault) := decodeFrom fuel (position + 1 + (rest.length - after.length)) after
      (c :: chars, fault)

/-- The characters of bytes up to the first fault, if there is one. -/
def decodePrefix (bytes : List UInt8) : List Char × Option Utf8Fault :=
  decodeFrom bytes.length 0 bytes

/-- The characters of bytes, all of which must make characters. -/
def decodeUtf8 (bytes : List UInt8) : Except Utf8Fault (List Char) :=
  match decodePrefix bytes with
  | (chars, none) => .ok chars
  | (_, some fault) => .error fault

/-- Bytes without a byte order mark at their start. All of a beginning of one is no text either. -/
def dropMark : List UInt8 → List UInt8
  | 0xEF :: 0xBB :: 0xBF :: rest => rest
  -- A mark that is cut short at the end of the bytes is dropped as well.
  | [0xEF, 0xBB] => []
  | [0xEF] => []
  | bytes => bytes

/-- Characters with every line end written as a line feed. -/
def unifyLineEnds : List Char → List Char
  | '\r' :: '\n' :: rest => '\n' :: unifyLineEnds rest
  | '\r' :: rest => '\n' :: unifyLineEnds rest
  | c :: rest => c :: unifyLineEnds rest
  | [] => []

end AutomationIndex.Text
