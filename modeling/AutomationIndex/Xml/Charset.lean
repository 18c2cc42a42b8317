import AutomationIndex.Xml.CodePage
import AutomationIndex.Xml.Declaration
import AutomationIndex.Text.Blank
import AutomationIndex.Xml.Source

/-! Bytes of documents: byte order marks, declared encodings, and the characters they give. -/

namespace AutomationIndex.Xml

/-- How bytes stand for characters. -/
inductive Charset where
  | utf8
  | utf16 (bigEndian : Bool)
  /-- One byte for each character, ASCII in the lower half. -/
  | bytes (upperHalf : List Char)
  deriving DecidableEq, Repr

/-- Why the encoding that a document declares cannot be used. -/
inductive CharsetFault where
  | unknown (name : String)
  | transform (name : String)
  | multiByte
  /-- An encoding of names that refuses arbitrary bytes. -/
  | strict (name reason : String)
  /-- An encoding of names that refuses bytes beyond ASCII. -/
  | asciiOnly
  /-- The document itself is at fault. -/
  | document (located : Located)
  deriving DecidableEq, Repr

/-- The wording of a fault. -/
def CharsetFault.message : CharsetFault → String
  | unknown name => "unknown encoding: " ++ name
  | transform name =>
    "'" ++ name ++ "' is not a text encoding; use codecs.decode() to handle arbitrary codecs"
  | multiByte => "multi-byte encodings are not supported"
  | strict name reason =>
    "decoding with '" ++ name ++ "' codec failed (UnicodeError: " ++ reason ++ ")"
  | asciiOnly =>
    "'ascii' codec can't decode byte 0x80 in position 82: ordinal not in range(128)"
  | document located => located.message

/-- The readable characters at the start of some bytes, and how they end. -/
structure Decoded where
  chars : List Char
  ending : Ending

/-- Bytes that are no character of a document, given those from there on and the size of a unit. -/
def Decoded.stuck (unitBytes : Nat) (bytesOn : List Nat) : Decoded :=
  ⟨[], .broken (bytesOn.length / unitBytes)⟩

/-- Puts a character in front, if documents may hold it. -/
def Decoded.cons (unitBytes : Nat) (bytesOn : List Nat) (n : Nat) (rest : Decoded) : Decoded :=
  let c := Char.ofNat n
  if n.isValidChar && isDocumentChar c then { rest with chars := c :: rest.chars }
  else stuck unitBytes bytesOn

/-- The number of bytes that a leading byte announces; none for one that cannot lead. -/
def announced (lead : Nat) : Option Nat :=
  if lead < 0x80 then some 1
  else if lead < 0xC0 then none
  else if lead < 0xE0 then some 2
  else if lead < 0xF0 then some 3
  else if lead < 0xF5 then some 4
  else none

/-- The number that the bytes of a character write, if they are well-formed. -/
def codeOf : List Nat → Option Nat
  | [a] => some a
  -- A sequence is judged by its value: a shorter spelling of the same code is refused.
  | [a, b] => if a ≥ 0xC2 && b / 64 == 2 then some ((a - 0xC0) * 64 + (b - 0x80)) else none
  | [a, b, c] =>
    let n := ((a - 0xE0) * 64 + (b - 0x80)) * 64 + (c - 0x80)
    if b / 64 == 2 && c / 64 == 2 && n ≥ 0x800 then some n else none
  | [a, b, c, d] =>
    let n := (((a - 0xF0) * 64 + (b - 0x80)) * 64 + (c - 0x80)) * 64 + (d - 0x80)
    if b / 64 == 2 && c / 64 == 2 && d / 64 == 2 && n ≥ 0x10000 && n < 0x110000 then some n
    else none
  | _ => none

/-- Decodes UTF-8. The number bounds how many characters there are. -/
def decodeUtf8 : Nat → List Nat → Decoded
  | 0, _ => ⟨[], .complete⟩
  | _, [] => ⟨[], .complete⟩
  | bound + 1, lead :: rest =>
    match announced lead with
    | none => .stuck 1 (lead :: rest)
    | some count =>
      let bytes := (lead :: rest).take count
      -- Bytes that are announced and missing end the text; wrong ones are left where they stand.
      if bytes.length < count then ⟨[], .cut⟩
      else
        match codeOf bytes with
        | some n => (decodeUtf8 bound ((lead :: rest).drop count)).cons 1 (lead :: rest) n
        | none => .stuck 1 (lead :: rest)

/-- The coding unit of two bytes. -/
def unitOf (bigEndian : Bool) (first second : Nat) : Nat :=
  if bigEndian then first * 256 + second else second * 256 + first

/-- Decodes UTF-16. -/
def decodeUtf16 (bigEndian : Bool) : List Nat → Decoded
  | [] => ⟨[], .complete⟩
  | [_] => ⟨[], .ragged⟩
  | a :: b :: rest =>
    let unit := unitOf bigEndian a b
    -- A first surrogate takes the second with it, and without one the text is not read on.
    if 0xD800 ≤ unit && unit ≤ 0xDBFF then
      match rest with
      | c :: d :: after =>
        let low := unitOf bigEndian c d
        if 0xDC00 ≤ low && low ≤ 0xDFFF then
          (decodeUtf16 bigEndian after).cons 2 (a :: b :: rest)
            (0x10000 + (unit - 0xD800) * 0x400 + (low - 0xDC00))
        else .stuck 2 (a :: b :: rest)
      | _ => ⟨[], .cut⟩
    else (decodeUtf16 bigEndian rest).cons 2 (a :: b :: rest) unit

/-- The characters of bytes that stand for one character each. -/
def decodeBytes (upperHalf : Array Char) : List Nat → Decoded
  | [] => ⟨[], .complete⟩
  | byte :: rest =>
    let unmapped := Char.ofNat 0xFFFD
    let c := if byte < 0x80 then Char.ofNat byte else upperHalf.getD (byte - 0x80) unmapped
    -- A byte without a character stops the decoding, with the rest still to be told.
    if c == unmapped then .stuck 1 (byte :: rest)
    else (decodeBytes upperHalf rest).cons 1 (byte :: rest) c.toNat

/-- Decodes bytes. -/
def Charset.decode (charset : Charset) (bytes : List Nat) : Decoded :=
  -- The length bounds the steps, since each character takes a byte at least.
  match charset with
  | utf8 => decodeUtf8 (bytes.length + 1) bytes
  | utf16 bigEndian => decodeUtf16 bigEndian bytes
  | .bytes upperHalf => decodeBytes upperHalf.toArray bytes

/-- The bytes of a character. -/
def Charset.charBytes : Charset → Char → Nat
  | utf8, c => c.utf8Size
  | utf16 _, c => if c.toNat < 0x10000 then 2 else 4
  | bytes _, _ => 1

/-- The coding units of a character. -/
def Charset.charUnits : Charset → Char → Nat
  | utf16 _, c => if c.toNat < 0x10000 then 1 else 2
  | charset, c => charset.charBytes c

/-- The bytes of the smallest coding unit. -/
def Charset.unitBytes : Charset → Nat
  | utf16 _ => 2
  | _ => 1

/-- A source of decoded characters, after a byte order mark. -/
def Charset.source (charset : Charset) (mark : List Char) (decoded : Decoded) : Source :=
  ⟨mark, decoded.chars, decoded.ending, charset.charBytes, charset.charUnits⟩

/-- The byte order mark at the start of some bytes, the encoding that the first bytes show, and the
bytes after the mark. -/
def sniff : List Nat → Option (List Char × Charset × List Nat)
  -- One byte alone could begin any of several encodings.
  | [0x00] => none
  | [0xEF] => none
  | [0xFE] => none
  | [0xFF] => none
  | [0xEF, 0xBB] => none
  | 0xFE :: 0xFF :: rest => some ([Char.ofNat 0xFEFF], .utf16 true, rest)
  | 0xFF :: 0xFE :: rest => some ([Char.ofNat 0xFEFF], .utf16 false, rest)
  | 0xEF :: 0xBB :: 0xBF :: rest => some ([Char.ofNat 0xFEFF], .utf8, rest)
  -- Documents begin with an ASCII character, so a zero byte shows two-byte units.
  | 0x00 :: rest => some ([], .utf16 true, 0x00 :: rest)
  | a :: 0x00 :: rest => some ([], .utf16 false, a :: 0x00 :: rest)
  | bytes => some ([], .utf8, bytes)

/-- An encoding name in small letters, with one underscore for each run of other characters. -/
def normalName (name : List Char) : String :=
  -- What separates the words does not matter, only where it stands.
  let kept := fun c : Char => c.isAlphanum || c == '.'
  "_".intercalate
    (((Text.runsBetween (!kept ·) name).filter (!·.isEmpty)).map fun word =>
      String.ofList (word.map Char.toLower))

/-- The one-byte encodings that every reader of documents knows, by their usual names. -/
def wellKnown? (name : String) : Option Charset :=
  if name == "utf-8" then some .utf8
  else if name == "iso-8859-1" then
    some (.bytes ((List.range 128).map fun n => Char.ofNat (128 + n)))
  else if name == "us-ascii" then some (.bytes [])
  else if name == "utf-16" || name == "utf-16be" then some (.utf16 true)
  else if name == "utf-16le" then some (.utf16 false)
  else none

/-- The encoding with a name that only few readers know; `locate` places a cause at the name. -/
def otherCharset (locate : Cause → Located) (name : List Char) : Except CharsetFault Charset :=
  let normal := normalName name
  let spelled := Text.replaceChar '.' '_' normal
  let page := codePages.find? fun page =>
    page.names.contains normal || page.names.contains spelled || page.plainNames.contains normal
  match page with
  -- A page wins over the lists of names below, which only tell how an unusable one is refused.
  | some page => .ok (.bytes page.upperHalf.toList)
  | none =>
    if incompatibleNames.contains spelled then .error (.document (locate .unknownEncoding))
    else if multiByteNames.contains spelled then .error .multiByte
    else if transformNames.contains spelled then .error (.transform (String.ofList name))
    else if normal == "idna" then
      .error (.strict (String.ofList name) "Unsupported error handling replace")
    else if normal == "undefined" then .error (.strict (String.ofList name) "undefined encoding")
    else if normal == "punycode" then .error .asciiOnly
    else .error (.unknown (String.ofList name))

/-- The encoding that a document goes on with after declaring one: it has to have the same coding
units as what the declaration was read in. -/
def declaredCharset (current : Charset) (locate : Cause → Located) (name : List Char) :
    Except CharsetFault Charset :=
  let small := String.ofList (name.map Char.toLower)
  match current, wellKnown? small with
  -- A bare `utf-16` keeps the byte order that was found, and a named one has to agree with it.
  | .utf16 bigEndian, some (.utf16 other) =>
    if small == "utf-16" || bigEndian == other then .ok current
    else .error (.document (locate .incorrectEncoding))
  | _, some charset =>
    if charset.unitBytes == current.unitBytes then .ok charset
    else .error (.document (locate .incorrectEncoding))
  | _, none => otherCharset locate name

/-- The XML declaration at the start of a document, and the characters after it. -/
def leadingDeclaration? (chars : List Char) : Option (Declaration × List Char) :=
  -- Only a declaration that opens the text counts.
  match chars with
  | '<' :: '?' :: rest =>
    match scanInstruction rest with
    | .ok (.declaration inner, rest) =>
      match Declaration.read inner with
      | .ok declaration => some (declaration, rest)
      | .error _ => none
    | _ => none
  | _ => none

/-- The source of bytes in an encoding that only the document's own declaration can change. -/
def declaredSource (mark : List Char) (charset : Charset) (bytes : List Nat) :
    Except CharsetFault Source :=
  let decoded := charset.decode bytes
  let plain := charset.source mark decoded
  match leadingDeclaration? decoded.chars with
  | some (⟨some (name, nameOn), _⟩, rest) => do
    let left := declarationLeft rest.length nameOn
    let charset ← declaredCharset charset (fun cause => plain.locate ⟨cause, left⟩) name
    -- Only what follows the declaration is decoded anew.
    let head := decoded.chars.take (decoded.chars.length - rest.length)
    let rest := charset.decode (bytes.drop (plain.bytes head))
    .ok (charset.source mark { rest with chars := head ++ rest.chars })
  | _ => .ok plain

/-- A single byte that could begin an encoding is no document. -/
def undecidedSource (bytes : List Nat) : Source :=
  Charset.utf8.source [] ⟨[], if bytes.isEmpty then .complete else .ragged⟩

/-- The source of bytes whose encoding the document itself shows. -/
def Source.ofBytes (bytes : List UInt8) : Except CharsetFault Source :=
  let bytes := bytes.map (·.toNat)
  match sniff bytes with
  | none => .ok (undecidedSource bytes)
  | some (mark, charset, bytes) => declaredSource mark charset bytes

/-- The source of a text. What it declares as its encoding does not matter, but NUL characters at
its start make it be read as UTF-16. -/
def Source.ofText (text : String) : Source :=
  let chars := text.toList
  -- A zero among the first two characters makes the reader guess the charset from the bytes again.
  if (chars.take 2).contains (Char.ofNat 0) then
    let bytes := text.toUTF8.toList.map (·.toNat)
    match sniff bytes with
    | none => undecidedSource bytes
    | some (mark, charset, bytes) => charset.source mark (charset.decode bytes)
  else Source.ofChars chars

end AutomationIndex.Xml
