import AutomationIndex.Text.Quoted

/-! Texts as a host hands them over: sequences of code points, halves of surrogate pairs included. -/

namespace AutomationIndex.Text

/-- A code point: a character, or half of a surrogate pair, which stands for no character. -/
inductive Point where
  | char (c : Char)
  /-- The half with so many others before it; the first one has the number U+D800. -/
  | half (offset : Fin 0x800)
  deriving DecidableEq, Repr

namespace Point

/-- The number of a code point. -/
def code : Point → Nat
  | char c => c.toNat
  | half offset => 0xD800 + offset.val

/-- The code point with a number. -/
def ofCode (n : Nat) : Point :=
  if h : 0xD800 ≤ n ∧ n < 0xE000 then half ⟨n - 0xD800, by omega⟩ else char (Char.ofNat n)

end Point

/-- Characters as code points. -/
def pointsOf (text : String) : List Point :=
  text.toList.map Point.char

/-- The characters before the first half of a surrogate pair. -/
def leadingChars : List Point → List Char
  | .char c :: rest => c :: leadingChars rest
  | _ => []

/-- The halves of surrogate pairs before the first character. -/
def leadingHalves : List Point → List (Fin 0x800)
  | .half offset :: rest => offset :: leadingHalves rest
  | _ => []

/-- Halves of surrogate pairs in a row, which UTF-8 has no bytes for, and how many code points come
before them. -/
structure EncodeFault where
  position : Nat
  halves : List (Fin 0x800)
  deriving DecidableEq, Repr

/-- The wording of a fault. A single half is shown by its number. -/
def EncodeFault.message (fault : EncodeFault) : String :=
  let which :=
    -- One half is shown itself, and several are told by their places only.
    match fault.halves with
    | [offset] =>
      "character '\\u" ++ String.ofList (hexDigits 4 (0xD800 + offset.val)) ++ "' in position " ++
        toString fault.position
    | halves =>
      "characters in position " ++ toString fault.position ++ "-" ++
        toString (fault.position + halves.length - 1)
  "'utf-8' codec can't encode " ++ which ++ ": surrogates not allowed"

/-- The characters of code points, all of which must be characters. -/
def encode (points : List Point) : Except EncodeFault String :=
  let chars := leadingChars points
  -- What follows the leading characters is nothing, or begins with a half.
  match leadingHalves (points.drop chars.length) with
  | [] => .ok (String.ofList chars)
  | halves => .error ⟨chars.length, halves⟩

end AutomationIndex.Text
