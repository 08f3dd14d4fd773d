import Mathlib.Data.List.Forall2
import SqlOutline.Proofs.Json.Text
import SqlOutline.Proofs.Token.Reads

set_option autoImplicit false

namespace SqlOutline.Json

-- The values whose literals are well formed. A text is well formed when it is escaped.
inductive Writable : Json → Prop where
  | null : Writable .null
  | bool (value : Bool) : Writable (.bool value)
  | number (literal : List Char) (valid : isNumber literal = true) (made : ∀ c ∈ literal, isNumberChar c = true) :
      Writable (.number literal)
  | string (text : List Char) : Writable (.string (escape text))
  | array (items : List Json) (writable : ∀ item ∈ items, Writable item) : Writable (.array items)
  | object (fields : List (List Char × Json)) (keys : ∀ field ∈ fields, ∃ text, field.1 = escape text)
      (writable : ∀ field ∈ fields, Writable field.2) : Writable (.object fields)

mutual
def symbols : Json → List Symbol
  | .array items => .openBracket :: [.comma].intercalate (itemSymbols items) ++ [.closeBracket]
  | .object fields => .openBrace :: [.comma].intercalate (fieldSymbols fields) ++ [.closeBrace]
  | value => [.scalar value]
def itemSymbols : List Json → List (List Symbol)
  | [] => []
  | item :: rest => item.symbols :: itemSymbols rest
def fieldSymbols : List (List Char × Json) → List (List Symbol)
  | [] => []
  | (key, value) :: rest => (.scalar (.string key) :: .colon :: value.symbols) :: fieldSymbols rest
end

theorem symbols_eq (input : List Char) :
    symbols? input = match input.dropWhile isSpace with
      | [] => some []
      | c :: rest => (symbol? c rest).bind fun found => (symbols? found.2).map (found.1 :: ·) := by
  rw [symbols?]
  split
  · rename_i ended
    rw [ended]
  · rename_i c rest pending
    rw [pending]
    split
    · rename_i unknown
      simp [unknown]
    · rename_i symbol after found
      simp [found]

theorem symbols_blanks (blanks rest : List Char) (blank : ∀ c ∈ blanks, isSpace c = true) :
    symbols? (blanks ++ rest) = symbols? rest := by
  rw [symbols_eq, List.dropWhile_append_of_pos blank, ← symbols_eq]

theorem symbols_cons (c : Char) (rest after : List Char) (symbol : Symbol) (solid : isSpace c = false)
    (found : symbol? c rest = some (symbol, after)) :
    symbols? (c :: rest) = (symbols? after).map (symbol :: ·) := by
  rw [symbols_eq, List.dropWhile_cons_of_neg (by simp [solid])]
  simp [found]

section Scalar

theorem symbols_mark (c : Char) (rest : List Char) (mark : Symbol) (solid : isSpace c = false)
    (found : mark? c = some mark) : symbols? (c :: rest) = (symbols? rest).map (mark :: ·) := by
  refine symbols_cons c rest rest mark solid ?_
  simp [symbol?, found]

theorem after_word_append (letters rest : List Char) : afterWord? letters (letters ++ rest) = some rest := by
  induction letters with
  | nil => rfl
  | cons letter letters ih => simpa [afterWord?] using ih

theorem symbols_word (c : Char) (letters rest : List Char) (value : Json) (solid : isSpace c = false)
    (noMark : mark? c = none) (found : word? c = some (letters, value)) :
    symbols? (c :: (letters ++ rest)) = (symbols? rest).map (.scalar value :: ·) := by
  refine symbols_cons c _ rest _ solid ?_
  simp [symbol?, noMark, found, after_word_append]

theorem symbols_quoted (text rest : List Char) :
    symbols? (quoted (escape text) ++ rest) = (symbols? rest).map (.scalar (.string (escape text)) :: ·) := by
  have found : literal? (escape text ++ '"' :: rest) = some (.scalar (.string (escape text)), rest) := by
    simp [literal?, literal_end_escape, code_units_escape]
  rw [quoted, List.cons_append, List.cons_append, List.append_assoc]
  exact symbols_cons '"' _ rest _ rfl found

def Ends (rest : List Char) : Prop :=
  ∀ c ∈ rest.head?, isNumberChar c = false

theorem number_head (c : Char) (member : isNumberChar c = true) :
    isSpace c = false ∧ mark? c = none ∧ word? c = none ∧ c ≠ '"' := by
  have others : ∀ other ∈ [' ', '\n', '\t', '\r', '[', ']', '\x7b', '\x7d', ',', ':', 'n', 't', 'f', '"'],
      isNumberChar other = false := by simp [isNumberChar]
  have different : ∀ other ∈ [' ', '\n', '\t', '\r', '[', ']', '\x7b', '\x7d', ',', ':', 'n', 't', 'f', '"'],
      c ≠ other := by
    rintro other listed rfl
    rw [others c listed] at member
    contradiction
  simp only [List.forall_mem_cons] at different
  simp [isSpace, mark?, word?, different]

theorem symbols_number (literal rest : List Char) (valid : isNumber literal = true)
    (made : ∀ c ∈ literal, isNumberChar c = true) (ends : Ends rest) :
    symbols? (literal ++ rest) = (symbols? rest).map (.scalar (.number literal) :: ·) := by
  cases literal with
  | nil => contradiction
  | cons c tail =>
      obtain ⟨solid, noMark, noWord, noQuote⟩ := number_head c (made c List.mem_cons_self)
      obtain ⟨front, back⟩ := Lexeme.take_while_members isNumberChar tail rest
        (fun other member => made other (List.mem_cons_of_mem c member)) ends
      refine symbols_cons c _ rest _ solid ?_
      simp [symbol?, noMark, noWord, noQuote, front, back, valid]

end Scalar

section Container

def Reads (text : List Char) (symbols : List Symbol) : Prop :=
  ∀ rest, Ends rest → symbols? (text ++ rest) = (symbols? rest).map (symbols ++ ·)

theorem symbols_line_start (depth : Nat) (rest : List Char) : symbols? (lineStart depth ++ rest) = symbols? rest := by
  apply symbols_blanks
  intro c member
  rcases List.mem_cons.mp member with rfl | indent
  · rfl
  · rw [(List.mem_replicate.mp indent).2]
    rfl

theorem line_start_ends (depth : Nat) (rest : List Char) : Ends (lineStart depth ++ rest) := by
  rintro c ⟨⟩
  rfl

theorem lines_read (depth : Nat) (parts : List (List Char)) (parted : List (List Symbol))
    (reads : List.Forall₂ Reads parts parted) :
    Reads ([','].intercalate (parts.map fun part => lineStart depth ++ part)) ([.comma].intercalate parted) := by
  intro rest ends
  induction reads with
  | nil => simp
  | @cons part symbols parts parted reads others ih =>
      cases others with
      | nil => simpa [symbols_line_start] using reads rest ends
      | cons next others =>
          simp only [List.map_cons, List.intercalate_cons_cons, List.append_assoc, List.cons_append, List.nil_append,
            symbols_line_start] at ih ⊢
          rw [reads _ (by rintro c ⟨⟩; rfl), symbols_mark ',' _ .comma rfl rfl, ih]
          simp [Option.map_map, Function.comp_def]

theorem enclose_reads (opening closing : Char) (openMark closeMark : Symbol) (depth : Nat) (parts : List (List Char))
    (parted : List (List Symbol)) (openSolid : isSpace opening = false) (closeSolid : isSpace closing = false)
    (openFound : mark? opening = some openMark) (closeFound : mark? closing = some closeMark)
    (reads : List.Forall₂ Reads parts parted) :
    Reads (enclose opening closing depth parts) (openMark :: [.comma].intercalate parted ++ [closeMark]) := by
  intro rest ends
  have close := symbols_mark closing rest closeMark closeSolid closeFound
  rw [enclose]
  split
  · rename_i empty
    rw [List.isEmpty_iff.mp empty] at reads
    cases reads
    simp only [List.cons_append, List.nil_append]
    rw [symbols_mark opening _ openMark openSolid openFound, close]
    simp [Option.map_map, Function.comp_def]
  · simp only [List.cons_append, List.append_assoc, List.nil_append]
    rw [symbols_mark opening _ openMark openSolid openFound,
      lines_read (depth + 1) parts parted reads _ (line_start_ends depth _), symbols_line_start, close]
    simp [Option.map_map, Function.comp_def]

theorem print_items_forall (depth : Nat) (items : List Json)
    (reads : ∀ item ∈ items, Reads (item.print depth) item.symbols) :
    List.Forall₂ Reads (printItems depth items) (itemSymbols items) := by
  induction items with
  | nil => exact .nil
  | cons item items ih =>
      rw [List.forall_mem_cons] at reads
      exact .cons reads.1 (ih reads.2)

theorem print_fields_forall (depth : Nat) (fields : List (List Char × Json))
    (keys : ∀ field ∈ fields, ∃ text, field.1 = escape text)
    (reads : ∀ field ∈ fields, Reads (field.2.print depth) field.2.symbols) :
    List.Forall₂ Reads (printFields depth fields) (fieldSymbols fields) := by
  induction fields with
  | nil => exact .nil
  | cons field fields ih =>
      obtain ⟨key, value⟩ := field
      rw [List.forall_mem_cons] at keys reads
      obtain ⟨⟨text, rfl⟩, keys⟩ := keys
      refine .cons ?_ (ih keys reads.2)
      intro rest ends
      have blank : symbols? (' ' :: (value.print depth ++ rest)) = symbols? (value.print depth ++ rest) :=
        symbols_blanks [' '] _ (by simp [isSpace])
      rw [List.append_assoc, symbols_quoted, List.cons_append, symbols_mark ':' _ .colon rfl rfl, List.cons_append,
        blank, reads.1 rest ends]
      simp [Option.map_map, Function.comp_def]

end Container

theorem print_reads (value : Json) (writable : Writable value) (depth : Nat) :
    Reads (value.print depth) value.symbols := by
  induction writable generalizing depth with
  | null => exact fun rest ends => symbols_word 'n' ['u', 'l', 'l'] rest .null rfl rfl rfl
  | bool value =>
      cases value with
      | false => exact fun rest ends => symbols_word 'f' ['a', 'l', 's', 'e'] rest (.bool false) rfl rfl rfl
      | true => exact fun rest ends => symbols_word 't' ['r', 'u', 'e'] rest (.bool true) rfl rfl rfl
  | number literal valid made => exact fun rest ends => symbols_number literal rest valid made ends
  | string text => exact fun rest ends => symbols_quoted text rest
  | array items writable ih =>
      exact enclose_reads '[' ']' _ _ depth _ _ rfl rfl rfl rfl
        (print_items_forall (depth + 1) items fun item member => ih item member (depth + 1))
  | object fields keys writable ih =>
      exact enclose_reads '\x7b' '\x7d' _ _ depth _ _ rfl rfl rfl rfl
        (print_fields_forall (depth + 1) fields keys fun field member => ih field member (depth + 1))

section Assembly

inductive AtValue : Expected → Prop where
  | value : AtValue .value
  | firstItem : AtValue .firstItem

inductive AtKey : Expected → List (List Char × Json) → Prop where
  | firstKey : AtKey .firstKey []
  | key (fields : List (List Char × Json)) : AtKey (.key fields) fields

def Moves (start : Assembly) (symbols : List Symbol) (finish : Assembly) : Prop :=
  symbols.foldlM Assembly.push start = some finish

theorem Moves.one {start finish : Assembly} {symbol : Symbol} (pushed : start.push symbol = some finish) :
    Moves start [symbol] finish := by
  simp [Moves, pushed]

theorem Moves.append {start middle finish : Assembly} {front back : List Symbol} (first : Moves start front middle)
    (second : Moves middle back finish) : Moves start (front ++ back) finish := by
  rw [Moves, List.foldlM_append, first]
  exact second

theorem Moves.cons {start middle finish : Assembly} {symbol : Symbol} {back : List Symbol}
    (pushed : start.push symbol = some middle) (second : Moves middle back finish) :
    Moves start (symbol :: back) finish :=
  (Moves.one pushed).append second

theorem push_key (key : List Char) (done : List (List Char × Json)) (stack : List Frame) (expected : Expected)
    (ready : AtKey expected done) :
    Assembly.push ⟨stack, expected⟩ (.scalar (.string key)) = some ⟨stack, .colon done key⟩ := by
  cases ready <;> rfl

-- Wherever a value may stand, its symbols put it there.
def Assembles (value : Json) : Prop :=
  ∀ stack expected, AtValue expected → Moves ⟨stack, expected⟩ value.symbols ⟨stack, .after value⟩

theorem scalar_assembles (value : Json) (alone : value.symbols = [.scalar value]) : Assembles value := by
  intro stack expected ready
  rw [alone]
  refine .one ?_
  cases ready <;> rfl

theorem assemble_items (item : Json) (items done : List Json) (each : ∀ member ∈ item :: items, Assembles member)
    (stack : List Frame) (expected : Expected) (ready : AtValue expected) :
    Moves ⟨.array done :: stack, expected⟩
      ([Symbol.comma].intercalate (itemSymbols (item :: items)) ++ [.closeBracket])
      ⟨stack, .after (.array (done ++ item :: items))⟩ := by
  induction items generalizing item done expected with
  | nil =>
      have first := each item List.mem_cons_self (.array done :: stack) expected ready
      rw [itemSymbols, itemSymbols, List.intercalate_singleton]
      exact first.append (.one rfl)
  | cons next items ih =>
      rw [List.forall_mem_cons] at each
      have first := each.1 (.array done :: stack) expected ready
      have others := ih next (done ++ [item]) each.2 .value .value
      rw [List.append_assoc, List.singleton_append] at others
      rw [itemSymbols, itemSymbols, List.intercalate_cons_cons, List.append_assoc, List.append_assoc, ← itemSymbols]
      exact first.append (.cons rfl others)

theorem assemble_fields (field : List Char × Json) (fields done : List (List Char × Json))
    (each : ∀ member ∈ field :: fields, Assembles member.2) (stack : List Frame) (expected : Expected)
    (ready : AtKey expected done) :
    Moves ⟨stack, expected⟩
      ([Symbol.comma].intercalate (fieldSymbols (field :: fields)) ++ [.closeBrace])
      ⟨stack, .after (.object (done ++ field :: fields))⟩ := by
  induction fields generalizing field done expected with
  | nil =>
      have inner := each field List.mem_cons_self (.object done field.1 :: stack) .value .value
      rw [fieldSymbols, fieldSymbols, List.intercalate_singleton]
      exact .cons (push_key field.1 done stack expected ready) (.cons rfl (inner.append (.one rfl)))
  | cons next fields ih =>
      rw [List.forall_mem_cons] at each
      have inner := each.1 (.object done field.1 :: stack) .value .value
      have others := ih next (done ++ [field]) each.2 (.key _) (.key _)
      rw [List.append_assoc, List.singleton_append] at others
      rw [fieldSymbols, fieldSymbols, List.intercalate_cons_cons, List.append_assoc, List.append_assoc, ← fieldSymbols]
      exact .cons (push_key field.1 done stack expected ready) (.cons rfl (inner.append (.cons rfl others)))

theorem assemble_symbols (value : Json) (writable : Writable value) : Assembles value := by
  induction writable with
  | null => exact scalar_assembles _ rfl
  | bool value => exact scalar_assembles _ rfl
  | number literal valid made => exact scalar_assembles _ rfl
  | string text => exact scalar_assembles _ rfl
  | array items writable ih =>
      intro stack expected ready
      have opened : Assembly.push ⟨stack, expected⟩ .openBracket = some ⟨.array [] :: stack, .firstItem⟩ := by
        cases ready <;> rfl
      refine .cons opened ?_
      cases items with
      | nil => exact .one rfl
      | cons item items => exact assemble_items item items [] ih stack .firstItem .firstItem
  | object fields keys writable ih =>
      intro stack expected ready
      have opened : Assembly.push ⟨stack, expected⟩ .openBrace = some ⟨stack, .firstKey⟩ := by
        cases ready <;> rfl
      refine .cons opened ?_
      cases fields with
      | nil => exact .one rfl
      | cons field fields => exact assemble_fields field fields [] ih stack .firstKey .firstKey

end Assembly

theorem blanks_end (blanks : List Char) (blank : ∀ c ∈ blanks, isSpace c = true) : Ends blanks := by
  intro c first
  by_contra number
  rw [Bool.not_eq_false] at number
  have solid := (number_head c number).1
  rw [blank c (List.mem_of_head? first)] at solid
  contradiction

theorem symbols_end (blanks : List Char) (blank : ∀ c ∈ blanks, isSpace c = true) : symbols? blanks = some [] := by
  rw [symbols_eq, List.dropWhile_eq_nil_iff.mpr blank]

theorem read_pretty (value : Json) (writable : Writable value) (blanks : String)
    (blank : ∀ c ∈ blanks.toList, isSpace c = true) : read? (value.pretty ++ blanks) = some value := by
  have cut : symbols? (value.print 0 ++ blanks.toList) = some value.symbols := by
    rw [print_reads value writable 0 blanks.toList (blanks_end blanks.toList blank), symbols_end blanks.toList blank]
    simp
  have moves := assemble_symbols value writable [] .value .value
  calc
    read? (value.pretty ++ blanks) = (symbols? (value.print 0 ++ blanks.toList)).bind assemble? := by
      rw [read?, pretty, String.toList_append, String.toList_ofList]
      rfl
    _ = assemble? value.symbols := by rw [cut]; rfl
    _ = some value := by rw [assemble?, moves]; rfl

end SqlOutline.Json
