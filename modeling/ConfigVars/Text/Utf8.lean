import ConfigVars.Text.Quoted

/-!
# Reading UTF-8

Bytes are read from the left until a byte does not fit (`Utf8.decode`).  What stops the reading is
either a fault in the middle or a character that the end of the bytes cuts off; a reader that
takes its bytes in pieces treats the two differently, so they are kept apart (`Utf8.Ending`).
-/

namespace ConfigVars.Text.Utf8

/-- What is wrong with bytes that are no UTF-8. -/
inductive Flaw where
  /-- No character starts with this byte. -/
  | startByte
  /-- The character that was begun does not go on with the next byte. -/
  | continuationByte
  /-- The bytes end inside a character. -/
  | endOfData
  deriving DecidableEq, Repr

/-- The words for a flaw. -/
def Flaw.message : Flaw → String
  | .startByte => "invalid start byte"
  | .continuationByte => "invalid continuation byte"
  | .endOfData => "unexpected end of data"

/-- Bytes that are no UTF-8, with the place where they start. -/
structure Defect where
  position : Nat
  bytes : List UInt8
  flaw : Flaw
  deriving DecidableEq, Repr

/-- The words for a defect: one byte is shown, of several only their places. -/
def Defect.message (d : Defect) : String :=
  let place :=
    match d.bytes with
    | [b] =>
      "byte 0x" ++ String.ofList (hexDigits 2 b.toNat) ++ " in position " ++ toString d.position
    | bytes =>
      "bytes in position " ++ toString d.position ++ "-" ++
        toString (d.position + bytes.length - 1)
  "'utf-8' codec can't decode " ++ place ++ ": " ++ d.flaw.message

/-- How the reading of bytes ends. -/
inductive Ending where
  /-- All bytes are read. -/
  | complete
  /-- The bytes end inside a character, of which these are there. -/
  | cutOff (tail : List UInt8)
  /-- A byte in the middle does not fit. -/
  | broken (defect : Defect)
  deriving DecidableEq, Repr

/-- Whether a byte goes on with a character. -/
def isContinuation (b : UInt8) : Bool := 0x80 ≤ b && b < 0xc0

/-- Whether the second byte of a character fits the first of three or four: it goes on with the
character, and the character is neither written longer than it has to be, nor a surrogate, nor
above the last code point. -/
def fitsSecond (first second : UInt8) : Bool :=
  isContinuation second &&
    (if first = 0xe0 then 0xa0 ≤ second
    else if first = 0xed then second < 0xa0
    else if first = 0xf0 then 0x90 ≤ second
    else if first = 0xf4 then second < 0x90
    else true)

/-- The six bits that a continuation byte carries. -/
def payload (b : UInt8) : Nat := b.toNat % 0x40

/-- Puts a character in front of what the rest of the bytes gives. -/
def withChar (code : Nat) (rest : List Char × Ending) : List Char × Ending :=
  (Char.ofNat code :: rest.1, rest.2)

/-- Ends the reading at a defect. -/
def stopAt (position : Nat) (bytes : List UInt8) (flaw : Flaw) : List Char × Ending :=
  ([], .broken ⟨position, bytes, flaw⟩)

/-- The characters of the bytes from a place on, and how their reading ends. -/
def decodeFrom (position : Nat) : List UInt8 → List Char × Ending
  | [] => ([], .complete)
  | [a] =>
    if a < 0x80 then ([Char.ofNat a.toNat], .complete)
    else if a < 0xc2 || 0xf4 < a then stopAt position [a] .startByte
    else ([], .cutOff [a])
  | a :: b :: rest =>
    if a < 0x80 then withChar a.toNat (decodeFrom (position + 1) (b :: rest))
    else if a < 0xc2 || 0xf4 < a then stopAt position [a] .startByte
    else if a < 0xe0 then
      if isContinuation b then
        withChar (a.toNat % 0x20 * 0x40 + payload b) (decodeFrom (position + 2) rest)
      else stopAt position [a] .continuationByte
    else if !fitsSecond a b then stopAt position [a] .continuationByte
    else
      match rest with
      | [] => ([], .cutOff [a, b])
      | c :: rest =>
        if !isContinuation c then stopAt position [a, b] .continuationByte
        else if a < 0xf0 then
          withChar ((a.toNat % 0x10 * 0x40 + payload b) * 0x40 + payload c)
            (decodeFrom (position + 3) rest)
        else
          match rest with
          | [] => ([], .cutOff [a, b, c])
          | d :: rest =>
            if !isContinuation d then stopAt position [a, b, c] .continuationByte
            else
              withChar
                (((a.toNat % 8 * 0x40 + payload b) * 0x40 + payload c) * 0x40 + payload d)
                (decodeFrom (position + 4) rest)

/-- The characters of the bytes, and how their reading ends. -/
def decode (bytes : List UInt8) : List Char × Ending := decodeFrom 0 bytes

end ConfigVars.Text.Utf8
