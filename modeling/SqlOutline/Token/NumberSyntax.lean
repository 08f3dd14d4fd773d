/-!
The syntax of unsigned numbers: decimal digits with an optional fraction and exponent, or `0x` and
hexadecimal digits with an optional fraction. Every part after the first digit may be empty, so
every prefix of a number is a number, and the longest one is found by reading on while it goes.
-/

set_option autoImplicit false

namespace SqlOutline

def isHexDigit (c : Char) : Bool :=
  c.isDigit || ('a' ≤ c && c ≤ 'f') || ('A' ≤ c && c ≤ 'F')

inductive NumberPart where
  | start
  | leadingZero
  | whole
  | fraction
  | exponentMark
  | exponent
  | hexWhole
  | hexFraction
deriving DecidableEq

namespace NumberPart

def next? : NumberPart → Char → Option NumberPart
  | .start, c => if c = '0' then some .leadingZero else if c.isDigit then some .whole else none
  | .leadingZero, c => if c = 'x' ∨ c = 'X' then some .hexWhole else afterWhole c
  | .whole, c => afterWhole c
  | .fraction, c =>
      if c.isDigit then some .fraction else if c = 'e' ∨ c = 'E' then some .exponentMark else none
  | .exponentMark, c => if c.isDigit ∨ c = '+' ∨ c = '-' then some .exponent else none
  | .exponent, c => if c.isDigit then some .exponent else none
  | .hexWhole, c => if isHexDigit c then some .hexWhole else if c = '.' then some .hexFraction else none
  | .hexFraction, c => if isHexDigit c then some .hexFraction else none
where
  afterWhole (c : Char) : Option NumberPart :=
    if c.isDigit then some .whole
    else if c = '.' then some .fraction
    else if c = 'e' ∨ c = 'E' then some .exponentMark
    else none

-- The longest continuation of a number and the text after it.
def split : NumberPart → List Char → List Char × List Char
  | _, [] => ([], [])
  | part, c :: rest =>
      match part.next? c with
      | none => ([], c :: rest)
      | some following =>
          let result := split following rest
          (c :: result.1, result.2)

theorem split_append (part : NumberPart) (input : List Char) :
    (part.split input).1 ++ (part.split input).2 = input := by
  induction input generalizing part with
  | nil => rfl
  | cons c rest ih =>
      cases following : part.next? c with
      | none => simp [split, following]
      | some target => simp [split, following, ih target]

end NumberPart

end SqlOutline
