import SqlOutline.Json.Text

set_option autoImplicit false

namespace SqlOutline.Json

inductive Symbol where
  | openBracket
  | closeBracket
  | openBrace
  | closeBrace
  | comma
  | colon
  | scalar (value : Json)

def isSpace (c : Char) : Bool :=
  c == ' ' || c == '\n' || c == '\t' || c == '\r'

def literalEnd? : Bool → List Char → Option (List Char × List Char)
  | _, [] => none
  | escaped, c :: rest =>
      if !escaped && c == '"' then some ([], rest)
      else (literalEnd? (!escaped && c == '\\') rest).map fun result => (c :: result.1, result.2)

def isNumberChar (c : Char) : Bool :=
  c.isDigit || c == '-' || c == '+' || c == '.' || c == 'e' || c == 'E'

def isWhole (digits : List Char) : Bool :=
  !digits.isEmpty && digits.all Char.isDigit && (digits.head? != some '0' || digits.length == 1)

def isExponent : List Char → Bool
  | [] => true
  | c :: rest =>
      let digits := if rest.head? = some '+' ∨ rest.head? = some '-' then rest.tail else rest
      (c == 'e' || c == 'E') && !digits.isEmpty && digits.all Char.isDigit

-- An optional minus, a whole number, an optional fraction and an optional exponent.
def isNumber (literal : List Char) : Bool :=
  let unsigned := if literal.head? = some '-' then literal.tail else literal
  let rest := unsigned.dropWhile Char.isDigit
  isWhole (unsigned.takeWhile Char.isDigit) &&
    if rest.head? = some '.' then
      !(rest.tail.takeWhile Char.isDigit).isEmpty && isExponent (rest.tail.dropWhile Char.isDigit)
    else isExponent rest

def mark? (c : Char) : Option Symbol :=
  if c = '[' then some .openBracket
  else if c = ']' then some .closeBracket
  else if c = '\x7b' then some .openBrace
  else if c = '\x7d' then some .closeBrace
  else if c = ',' then some .comma
  else if c = ':' then some .colon
  else none

def word? (c : Char) : Option (List Char × Json) :=
  if c = 'n' then some (['u', 'l', 'l'], .null)
  else if c = 't' then some (['r', 'u', 'e'], .bool true)
  else if c = 'f' then some (['a', 'l', 's', 'e'], .bool false)
  else none

def afterWord? : List Char → List Char → Option (List Char)
  | [], rest => some rest
  | _ :: _, [] => none
  | letter :: letters, c :: rest => if letter = c then afterWord? letters rest else none

def literal? (rest : List Char) : Option (Symbol × List Char) := do
  let (literal, after) ← literalEnd? false rest
  let _ ← codeUnits? literal
  return (.scalar (.string literal), after)

def symbol? (c : Char) (rest : List Char) : Option (Symbol × List Char) :=
  match mark? c, word? c with
  | some mark, _ => some (mark, rest)
  | none, some (letters, value) => (afterWord? letters rest).map fun after => (.scalar value, after)
  | none, none =>
      if c = '"' then literal? rest
      else if isNumber (c :: rest.takeWhile isNumberChar) then
        some (.scalar (.number (c :: rest.takeWhile isNumberChar)), rest.dropWhile isNumberChar)
      else none

theorem literal_end_length (escaped : Bool) (input literal after : List Char)
    (found : literalEnd? escaped input = some (literal, after)) : after.length ≤ input.length := by
  induction input generalizing escaped literal after with
  | nil => contradiction
  | cons c rest ih =>
      rw [literalEnd?] at found
      split at found
      · cases found
        exact Nat.le_succ _
      · obtain ⟨result, inner, same⟩ := Option.map_eq_some_iff.mp found
        cases same
        exact Nat.le_succ_of_le (ih _ result.1 result.2 inner)

theorem after_word_length (letters input after : List Char) (found : afterWord? letters input = some after) :
    after.length ≤ input.length := by
  induction letters generalizing input with
  | nil =>
      cases found
      exact Nat.le_refl _
  | cons letter tail ih =>
      cases input with
      | nil => contradiction
      | cons c rest =>
          rw [afterWord?] at found
          split at found
          · exact Nat.le_succ_of_le (ih rest found)
          · contradiction

theorem literal_length (rest after : List Char) (symbol : Symbol) (found : literal? rest = some (symbol, after)) :
    after.length ≤ rest.length := by
  obtain ⟨result, ended, remainder⟩ := Option.bind_eq_some_iff.mp found
  obtain ⟨units, valid, same⟩ := Option.bind_eq_some_iff.mp remainder
  cases same
  exact literal_end_length false rest result.1 result.2 ended

theorem symbol_length (c : Char) (rest after : List Char) (symbol : Symbol)
    (found : symbol? c rest = some (symbol, after)) : after.length ≤ rest.length := by
  unfold symbol? at found
  split at found
  · cases found
    exact Nat.le_refl _
  · obtain ⟨result, inner, same⟩ := Option.map_eq_some_iff.mp found
    cases same
    exact after_word_length _ rest after inner
  · split at found
    · exact literal_length rest after symbol found
    · split at found
      · cases found
        exact (List.dropWhile_suffix isNumberChar).length_le
      · contradiction

def symbols? (input : List Char) : Option (List Symbol) :=
  match _pending : input.dropWhile isSpace with
  | [] => some []
  | c :: rest =>
      match _found : symbol? c rest with
      | none => none
      | some (symbol, after) => (symbols? after).map (symbol :: ·)
termination_by input.length
decreasing_by
  have dropped := (List.dropWhile_suffix isSpace (l := input)).length_le
  have shorter := symbol_length c rest after symbol _found
  rw [_pending, List.length_cons] at dropped
  omega

inductive Frame where
  | array (items : List Json)
  | object (fields : List (List Char × Json)) (key : List Char)

-- What comes next. Only directly after an opening bracket or brace may the closing one follow.
inductive Expected where
  | value
  | firstItem
  | firstKey
  | key (fields : List (List Char × Json))
  | colon (fields : List (List Char × Json)) (key : List Char)
  | after (value : Json)

structure Assembly where
  stack : List Frame
  expected : Expected

namespace Assembly

def complete (assembly : Assembly) (value : Json) : Option Assembly :=
  match assembly.expected with
  | .value | .firstItem => some ⟨assembly.stack, .after value⟩
  | _ => none

def enter (assembly : Assembly) (inner : Assembly) : Option Assembly :=
  match assembly.expected with
  | .value | .firstItem => some inner
  | _ => none

def scalar (assembly : Assembly) (value : Json) : Option Assembly :=
  match assembly.expected, value with
  | .firstKey, .string key => some ⟨assembly.stack, .colon [] key⟩
  | .key fields, .string key => some ⟨assembly.stack, .colon fields key⟩
  | _, _ => assembly.complete value

def comma (assembly : Assembly) : Option Assembly :=
  match assembly.expected, assembly.stack with
  | .after value, .array items :: outer => some ⟨.array (items ++ [value]) :: outer, .value⟩
  | .after value, .object fields key :: outer => some ⟨outer, .key (fields ++ [(key, value)])⟩
  | _, _ => none

def colon (assembly : Assembly) : Option Assembly :=
  match assembly.expected with
  | .colon fields key => some ⟨.object fields key :: assembly.stack, .value⟩
  | _ => none

def closeArray (assembly : Assembly) : Option Assembly :=
  match assembly.expected, assembly.stack with
  | .after value, .array items :: outer => some ⟨outer, .after (.array (items ++ [value]))⟩
  | .firstItem, .array items :: outer => some ⟨outer, .after (.array items)⟩
  | _, _ => none

def closeObject (assembly : Assembly) : Option Assembly :=
  match assembly.expected, assembly.stack with
  | .after value, .object fields key :: outer => some ⟨outer, .after (.object (fields ++ [(key, value)]))⟩
  | .firstKey, stack => some ⟨stack, .after (.object [])⟩
  | _, _ => none

def push (assembly : Assembly) : Symbol → Option Assembly
  | .scalar value => assembly.scalar value
  | .openBracket => assembly.enter ⟨.array [] :: assembly.stack, .firstItem⟩
  | .openBrace => assembly.enter ⟨assembly.stack, .firstKey⟩
  | .closeBracket => assembly.closeArray
  | .closeBrace => assembly.closeObject
  | .comma => assembly.comma
  | .colon => assembly.colon

def result? (assembly : Assembly) : Option Json :=
  match assembly.stack, assembly.expected with
  | [], .after value => some value
  | _, _ => none

end Assembly

def assemble? (symbols : List Symbol) : Option Json := do
  (← symbols.foldlM Assembly.push ⟨[], .value⟩).result?

-- The value that a text holds, if it holds one and nothing else.
def read? (text : String) : Option Json := do
  assemble? (← symbols? text.toList)

end SqlOutline.Json
