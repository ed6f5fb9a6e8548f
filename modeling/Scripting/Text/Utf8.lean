namespace Scripting.Text

/-!
# Text from bytes

Bytes are read as UTF-8.  Every byte that is not part of a well-formed sequence is read as one
replacement character.
-/

/-- The character that stands for a byte outside every well-formed sequence. -/
def replacement : Char := '\uFFFD'

/-- Whether a byte continues a sequence. -/
def isContinuation (byte : UInt8) : Bool :=
  0x80 ≤ byte.toNat && byte.toNat ≤ 0xBF

/-- The payload of a continuation byte. -/
def continuationBits (byte : UInt8) : Nat :=
  byte.toNat - 0x80

/-- The character of a two-byte sequence, if it is well formed. -/
def twoByte? (first second : UInt8) : Option Char :=
  if 0xC2 ≤ first.toNat && first.toNat ≤ 0xDF && isContinuation second then
    some (Char.ofNat ((first.toNat - 0xC0) * 0x40 + continuationBits second))
  else
    none

/-- The character of a three-byte sequence; overlong forms and surrogates are not well formed. -/
def threeByte? (first second third : UInt8) : Option Char :=
  if 0xE0 ≤ first.toNat && first.toNat ≤ 0xEF && isContinuation second && isContinuation third then
    let code :=
      (first.toNat - 0xE0) * 0x1000 + continuationBits second * 0x40 + continuationBits third
    if 0x800 ≤ code && !(0xD800 ≤ code && code ≤ 0xDFFF) then some (Char.ofNat code) else none
  else
    none

/-- The character of a four-byte sequence; overlong forms and codes past the last plane are not
well formed. -/
def fourByte? (first second third fourth : UInt8) : Option Char :=
  if 0xF0 ≤ first.toNat && first.toNat ≤ 0xF4 && isContinuation second && isContinuation third
      && isContinuation fourth then
    let code :=
      (first.toNat - 0xF0) * 0x40000 + continuationBits second * 0x1000
        + continuationBits third * 0x40 + continuationBits fourth
    if 0x10000 ≤ code && code ≤ 0x10FFFF then some (Char.ofNat code) else none
  else
    none

/-- The first character of a byte sequence and the number of bytes after the first that it
takes. -/
def decodeFirst (first : UInt8) (rest : List UInt8) : Char × Nat :=
  if first.toNat < 0x80 then
    (Char.ofNat first.toNat, 0)
  else
    match rest with
    | second :: third :: fourth :: _ =>
        match fourByte? first second third fourth with
        | some character => (character, 3)
        | none =>
            match threeByte? first second third with
            | some character => (character, 2)
            | none =>
                match twoByte? first second with
                | some character => (character, 1)
                | none => (replacement, 0)
    | [second, third] =>
        match threeByte? first second third with
        | some character => (character, 2)
        | none =>
            match twoByte? first second with
            | some character => (character, 1)
            | none => (replacement, 0)
    | [second] =>
        match twoByte? first second with
        | some character => (character, 1)
        | none => (replacement, 0)
    | [] => (replacement, 0)

/-- The characters of a byte sequence. -/
def decode : List UInt8 → List Char
  | [] => []
  | first :: rest =>
      (decodeFirst first rest).1 :: decode (rest.drop (decodeFirst first rest).2)
termination_by bytes => bytes.length
decreasing_by
  simp only [List.length_drop, List.length_cons]
  omega

end Scripting.Text
