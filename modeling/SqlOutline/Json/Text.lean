import SqlOutline.Json

set_option autoImplicit false

namespace SqlOutline.Json

def escapedUnit (c : Char) : List Char :=
  if c = '"' ∨ c = '\\' then ['\\', c]
  else if c = '\x08' then ['\\', 'b']
  else if c = '\x0c' then ['\\', 'f']
  else if c = '\n' then ['\\', 'n']
  else if c = '\r' then ['\\', 'r']
  else if c = '\t' then ['\\', 't']
  else if c.toNat < 0x20 then
    ['\\', 'u', '0', '0', Nat.digitChar (c.toNat / 16), Nat.digitChar (c.toNat % 16)]
  else [c]

def escape (text : List Char) : List Char :=
  text.flatMap escapedUnit

-- An element of a literal: a character, or the number of a UTF-16 unit.
inductive CodeUnit where
  | plain (c : Char)
  | numbered (unit : Nat)
deriving DecidableEq

def simpleEscape? (c : Char) : Option Char :=
  if c = '"' ∨ c = '\\' ∨ c = '/' then some c
  else if c = 'b' then some '\x08'
  else if c = 'f' then some '\x0c'
  else if c = 'n' then some '\n'
  else if c = 'r' then some '\r'
  else if c = 't' then some '\t'
  else none

def hexValue? (c : Char) : Option Nat :=
  if '0' ≤ c ∧ c ≤ '9' then some (c.toNat - '0'.toNat)
  else if 'a' ≤ c ∧ c ≤ 'f' then some (c.toNat - 'a'.toNat + 10)
  else if 'A' ≤ c ∧ c ≤ 'F' then some (c.toNat - 'A'.toNat + 10)
  else none

def hexUnit? (a b c d : Char) : Option Nat := do
  return (((← hexValue? a) * 16 + (← hexValue? b)) * 16 + (← hexValue? c)) * 16 + (← hexValue? d)

-- The elements of a literal, or none if it is not well formed. Control characters must be escaped.
def codeUnits? : List Char → Option (List CodeUnit)
  | [] => some []
  | c :: rest =>
      if c = '\\' then
        match rest with
        | [] => none
        | kind :: rest =>
            if kind = 'u' then
              match rest with
              | a :: b :: c :: d :: rest => do
                  let unit ← hexUnit? a b c d
                  return .numbered unit :: (← codeUnits? rest)
              | _ => none
            else do
              let plain ← simpleEscape? kind
              return .plain plain :: (← codeUnits? rest)
      else if c.toNat < 0x20 then none
      else do return .plain c :: (← codeUnits? rest)

def isHighUnit (unit : Nat) : Bool :=
  0xD800 ≤ unit && unit < 0xDC00

def isLowUnit (unit : Nat) : Bool :=
  0xDC00 ≤ unit && unit < 0xE000

-- Puts pairs together. A unit of a pair that stands alone is no character.
def characters? : List CodeUnit → Option (List Char)
  | [] => some []
  | .plain c :: rest => (characters? rest).map (c :: ·)
  | .numbered high :: .numbered low :: rest =>
      if isHighUnit high then
        if isLowUnit low then
          (characters? rest).map (Char.ofNat (0x10000 + (high - 0xD800) * 0x400 + (low - 0xDC00)) :: ·)
        else none
      else if isLowUnit high then none
      else (characters? (.numbered low :: rest)).map (Char.ofNat high :: ·)
  | .numbered unit :: rest =>
      if isHighUnit unit || isLowUnit unit then none
      else (characters? rest).map (Char.ofNat unit :: ·)

def unescape? (literal : List Char) : Option (List Char) := do
  characters? (← codeUnits? literal)

def ofText (text : String) : Json :=
  .string (escape text.toList)

def text? : Json → Option String
  | .string literal => (unescape? literal).map String.ofList
  | _ => none

def ofNat (value : Nat) : Json :=
  .number (Nat.toDigits 10 value)

def digitsValue (digits : List Char) : Nat :=
  digits.foldl (fun value digit => value * 10 + (digit.toNat - '0'.toNat)) 0

-- A number of at most 64 bits that is written with digits alone.
def nat? : Json → Option Nat
  | .number literal =>
      if literal.all Char.isDigit && digitsValue literal < UInt64.size then some (digitsValue literal) else none
  | _ => none

def bool? : Json → Option Bool
  | .bool value => some value
  | _ => none

end SqlOutline.Json
