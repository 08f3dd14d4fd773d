import Mathlib.Tactic.SplitIfs
import SqlOutline.Outline
import SqlOutline.Proofs.Sequence

set_option autoImplicit false

namespace SqlOutline

theorem digit_of_mem_to_digits (base : Nat) (valid : 1 < base) (value : Nat) :
    ∀ c ∈ Nat.toDigits base value, ∃ digit < base, c = digit.digitChar := by
  induction value using Nat.strongRecOn with
  | ind value ih =>
      intro c member
      rcases Nat.lt_or_ge value base with small | large
      · rw [Nat.toDigits_of_lt_base small] at member
        exact ⟨value, small, List.mem_singleton.mp member⟩
      · rw [Nat.toDigits_of_base_le valid large] at member
        rcases List.mem_append.mp member with front | last
        · exact ih (value / base) (Nat.div_lt_self (by omega) valid) c front
        · exact ⟨value % base, Nat.mod_lt value (by omega), List.mem_singleton.mp last⟩

theorem to_digits_inj (base : Nat) (valid : 1 < base) (small : base ≤ 16) (value other : Nat)
    (same : Nat.toDigits base value = Nat.toDigits base other) : value = other := by
  have digits : ∀ a < 16, ∀ b < 16, a.digitChar = b.digitChar → a = b := by decide
  induction value using Nat.strongRecOn generalizing other with
  | ind value ih =>
      rcases Nat.lt_or_ge value base with one | more
      · rcases Nat.lt_or_ge other base with otherOne | otherMore
        · rw [Nat.toDigits_of_lt_base one, Nat.toDigits_of_lt_base otherOne] at same
          exact digits value (by omega) other (by omega) (List.singleton_inj.mp same)
        · rw [Nat.toDigits_of_lt_base one, Nat.toDigits_of_base_le valid otherMore] at same
          have front := List.append_eq_singleton_iff.mp same.symm
          simp [Nat.toDigits_ne_nil] at front
      · rcases Nat.lt_or_ge other base with otherOne | otherMore
        · rw [Nat.toDigits_of_lt_base otherOne, Nat.toDigits_of_base_le valid more] at same
          have front := List.append_eq_singleton_iff.mp same
          simp [Nat.toDigits_ne_nil] at front
        · rw [Nat.toDigits_of_base_le valid more, Nat.toDigits_of_base_le valid otherMore] at same
          obtain ⟨front, last⟩ := List.append_inj' same rfl
          have quotients := ih (value / base) (Nat.div_lt_self (by omega) valid) (other / base) front
          have below := Nat.mod_lt value (by omega : base > 0)
          have otherBelow := Nat.mod_lt other (by omega : base > 0)
          have remainders := digits (value % base) (by omega) (other % base) (by omega) (List.singleton_inj.mp last)
          rw [← Nat.div_add_mod value base, ← Nat.div_add_mod other base, quotients, remainders]

theorem no_mark_in_digits (mark : Char) (base : Nat) (valid : 1 < base) (small : base ≤ 16)
    (outside : ∀ digit < 16, mark ≠ digit.digitChar) (value : Nat) : mark ∉ Nat.toDigits base value := by
  intro member
  obtain ⟨digit, bounded, same⟩ := digit_of_mem_to_digits base valid value mark member
  exact outside digit (by omega) same

theorem append_mark_inj (mark : Char) (text other rest otherRest : List Char) (unmarked : mark ∉ text)
    (otherUnmarked : mark ∉ other) (same : text ++ mark :: rest = other ++ mark :: otherRest) :
    text = other ∧ rest = otherRest := by
  induction text generalizing other with
  | nil =>
      cases other with
      | nil => exact ⟨rfl, (List.cons.inj same).2⟩
      | cons c more =>
          obtain ⟨rfl, _⟩ := List.cons.inj same
          exact absurd List.mem_cons_self otherUnmarked
  | cons c text ih =>
      cases other with
      | nil =>
          obtain ⟨rfl, _⟩ := List.cons.inj same
          exact absurd List.mem_cons_self unmarked
      | cons d more =>
          obtain ⟨rfl, following⟩ := List.cons.inj same
          obtain ⟨rfl, rests⟩ := ih more (fun member => unmarked (List.mem_cons_of_mem c member))
            (fun member => otherUnmarked (List.mem_cons_of_mem c member)) following
          exact ⟨rfl, rests⟩

def markedChar (mark : Char) : Char :=
  if mark = '0' then '\x00' else if mark = 't' then '\t' else if mark = 'n' then '\n' else if mark = 'r' then '\r' else mark

inductive Shown (c : Char) : List Char → Prop where
  | plain (noBackslash : c ≠ '\\') (noQuote : c ≠ '"') : Shown c [c]
  | marked (mark : Char) (named : c = markedChar mark) (short : mark ≠ 'u') : Shown c ['\\', mark]
  | numbered : Shown c (codePointEscape c)

theorem escaped_char_shown (c : Char) : Shown c (escapedChar '"' c) := by
  unfold escapedChar
  split_ifs with nul tab newline carriageReturn backslashOrQuote combining printable
  · exact .marked '0' nul (by decide)
  · exact .marked 't' tab (by decide)
  · exact .marked 'n' newline (by decide)
  · exact .marked 'r' carriageReturn (by decide)
  · rcases backslashOrQuote with rfl | rfl
    · exact .marked '\\' (by decide) (by decide)
    · exact .marked '"' (by decide) (by decide)
  · exact .numbered
  · rw [not_or] at backslashOrQuote
    exact .plain backslashOrQuote.1 backslashOrQuote.2
  · exact .numbered

theorem code_point_escape_append_inj (c d : Char) (rest other : List Char)
    (same : codePointEscape c ++ rest = codePointEscape d ++ other) : c = d ∧ rest = other := by
  simp only [codePointEscape, List.cons_append, List.nil_append, List.append_assoc, List.cons.injEq, true_and] at same
  have outside (value : Nat) := no_mark_in_digits '\x7d' 16 (by decide) (by decide) (by decide) value
  obtain ⟨digits, rests⟩ := append_mark_inj '\x7d' _ _ rest other (outside c.toNat) (outside d.toNat) same
  exact ⟨Char.toNat_inj.mp (to_digits_inj 16 (by decide) (by decide) _ _ digits), rests⟩

theorem Shown.append_inj {c d : Char} {text otherText : List Char} (shown : Shown c text) (other : Shown d otherText)
    (rest otherRest : List Char) (same : text ++ rest = otherText ++ otherRest) : c = d ∧ rest = otherRest := by
  cases shown with
  | plain noBackslash =>
      cases other with
      | plain => exact List.cons.inj same
      | marked | numbered => exact absurd (List.cons.inj same).1 noBackslash
  | marked mark named short =>
      cases other with
      | plain noBackslash => exact absurd (List.cons.inj same).1.symm noBackslash
      | marked otherMark otherNamed =>
          obtain ⟨marks, rests⟩ := List.cons.inj (List.cons.inj same).2
          exact ⟨by rw [named, otherNamed, marks], rests⟩
      | numbered => exact absurd (List.cons.inj (List.cons.inj same).2).1 short
  | numbered =>
      cases other with
      | plain noBackslash => exact absurd (List.cons.inj same).1.symm noBackslash
      | marked otherMark _ short => exact absurd (List.cons.inj (List.cons.inj same).2).1.symm short
      | numbered => exact code_point_escape_append_inj c d rest otherRest same

theorem Shown.starts {c : Char} {text : List Char} (shown : Shown c text) :
    ∃ first more, text = first :: more ∧ first ≠ '"' := by
  cases shown with
  | plain _ noQuote => exact ⟨c, [], rfl, noQuote⟩
  | marked mark => exact ⟨'\\', [mark], rfl, by decide⟩
  | numbered => exact ⟨'\\', _, rfl, by decide⟩

theorem quoted_append_inj (text other rest otherRest : List Char)
    (same : text.flatMap (escapedChar '"') ++ '"' :: rest = other.flatMap (escapedChar '"') ++ '"' :: otherRest) :
    text = other ∧ rest = otherRest := by
  induction text generalizing other with
  | nil =>
      cases other with
      | nil => exact ⟨rfl, (List.cons.inj same).2⟩
      | cons d more =>
          obtain ⟨first, tail, starts, noQuote⟩ := (escaped_char_shown d).starts
          rw [List.flatMap_cons, starts] at same
          exact absurd (List.cons.inj same).1.symm noQuote
  | cons c text ih =>
      cases other with
      | nil =>
          obtain ⟨first, tail, starts, noQuote⟩ := (escaped_char_shown c).starts
          rw [List.flatMap_cons, starts] at same
          exact absurd (List.cons.inj same).1 noQuote
      | cons d more =>
          rw [List.flatMap_cons, List.flatMap_cons, List.append_assoc, List.append_assoc] at same
          obtain ⟨rfl, following⟩ := (escaped_char_shown c).append_inj (escaped_char_shown d) _ _ same
          obtain ⟨rfl, rests⟩ := ih more following
          exact ⟨rfl, rests⟩

namespace Outline

-- Printed where a comma follows, as all parts of an outline are, the two look the same only under this condition.
def Tells (condition : Prop) (outline other : Outline) : Prop :=
  ∀ depth rest otherRest, (outline.print depth).toList ++ ',' :: rest = (other.print depth).toList ++ ',' :: otherRest →
    condition ∧ rest = otherRest

inductive TellsAll : Prop → List (String × Outline) → List (String × Outline) → Prop where
  | nil : TellsAll True [] []
  | cons {condition more : Prop} {outline other : Outline} {fields others : List (String × Outline)} (name : String)
      (first : Tells condition outline other) (following : TellsAll more fields others) :
      TellsAll (condition ∧ more) ((name, outline) :: fields) ((name, other) :: others)

section Tells

variable {α : Type} {condition weaker : Prop} {outline other : Outline}

theorem Tells.imp (tells : Tells condition outline other) (implies : condition → weaker) : Tells weaker outline other := by
  intro depth rest otherRest same
  obtain ⟨holds, rests⟩ := tells depth rest otherRest same
  exact ⟨implies holds, rests⟩

theorem Tells.of_print (tells : Tells condition outline other) (depth : Nat)
    (same : outline.print depth = other.print depth) : condition :=
  (tells depth [] [] (by rw [same])).1

theorem word_tells (text otherText : String) (noComma : ',' ∉ text.toList) (otherNoComma : ',' ∉ otherText.toList) :
    Tells (text = otherText) (.word text) (.word otherText) := by
  intro depth rest otherRest same
  obtain ⟨texts, rests⟩ := append_mark_inj ',' _ _ rest otherRest noComma otherNoComma same
  exact ⟨String.toList_inj.mp texts, rests⟩

theorem text_tells (text otherText : String) : Tells (text = otherText) (ofText text) (ofText otherText) := by
  intro depth rest otherRest same
  simp only [ofText, print, quotedText, quotedBy, String.toList_ofList, List.cons_append, List.append_assoc,
    List.nil_append, List.cons.injEq, true_and] at same
  obtain ⟨texts, rests⟩ := quoted_append_inj text.toList otherText.toList _ _ same
  exact ⟨String.toList_inj.mp texts, (List.cons.inj rests).2⟩

theorem bool_tells (value otherValue : Bool) : Tells (value = otherValue) (ofBool value) (ofBool otherValue) := by
  have noComma : ∀ value : Bool, ',' ∉ (if value then "true" else "false").toList := by decide
  refine (word_tells _ _ (noComma value) (noComma otherValue)).imp ?_
  cases value <;> cases otherValue <;> decide

end Tells

section Containers

variable {α : Type} {condition : Prop}

def lines (depth : Nat) (parts : List String) : List Char :=
  parts.flatMap fun part => (lineStart depth).toList ++ part.toList ++ [',']

theorem lines_cons (depth : Nat) (part : String) (parts : List String) (rest : List Char) :
    lines depth (part :: parts) ++ rest = (lineStart depth).toList ++ (part.toList ++ ',' :: (lines depth parts ++ rest)) := by
  simp [lines]

theorem enclose_nil (opening closing : String) (depth : Nat) :
    (enclose opening closing depth []).toList = opening.toList ++ closing.toList :=
  String.toList_append

theorem enclose_cons (opening closing : String) (depth : Nat) (part : String) (parts : List String) :
    (enclose opening closing depth (part :: parts)).toList =
      opening.toList ++ (lines (depth + 1) (part :: parts) ++ ((lineStart depth).toList ++ closing.toList)) := by
  have joined (parts : List String) :
      (String.join (parts.map fun part => lineStart (depth + 1) ++ part ++ ",")).toList = lines (depth + 1) parts := by
    rw [String.toList_join, List.flatMap_map]
    simp [lines]
  rw [enclose, if_neg (by simp), String.toList_append, String.toList_append, String.toList_append, joined]
  simp only [List.append_assoc]

theorem line_start_succ (depth : Nat) :
    (lineStart (depth + 1)).toList = (lineStart depth).toList ++ [' ', ' ', ' ', ' '] := by
  have deeper : List.replicate (4 * depth + 4) ' ' = List.replicate (4 * depth) ' ' ++ List.replicate 4 ' ' :=
    List.replicate_append_replicate.symm
  simp only [lineStart, String.toList_ofList, Nat.mul_succ, deeper]
  rfl

theorem print_items_eq (depth : Nat) (items : List Outline) : printItems depth items = items.map (print depth) := by
  induction items with
  | nil => rfl
  | cons item items ih => rw [printItems, ih, List.map_cons]

theorem closing_ne_line (depth : Nat) (closing : Char) (printed : closing ≠ ' ') (rest more : List Char) :
    (lineStart depth).toList ++ closing :: rest ≠ (lineStart (depth + 1)).toList ++ more := by
  rw [line_start_succ, List.append_assoc]
  intro same
  exact printed (List.cons.inj (List.append_cancel_left same)).1

theorem items_tell (item : α → Outline) (each : ∀ a b, Tells (a = b) (item a) (item b)) (depth : Nat) (items others : List α)
    (rest otherRest : List Char)
    (same : lines (depth + 1) (items.map fun a => (item a).print (depth + 1)) ++ ((lineStart depth).toList ++ ']' :: rest) =
      lines (depth + 1) (others.map fun b => (item b).print (depth + 1)) ++ ((lineStart depth).toList ++ ']' :: otherRest)) :
    items = others ∧ rest = otherRest := by
  induction items generalizing others with
  | nil =>
      cases others with
      | nil => exact ⟨rfl, (List.cons.inj (List.append_cancel_left same)).2⟩
      | cons b others =>
          rw [List.map_cons, lines_cons] at same
          exact absurd same (closing_ne_line depth ']' (by decide) rest _)
  | cons a items ih =>
      cases others with
      | nil =>
          rw [List.map_cons, lines_cons] at same
          exact absurd same.symm (closing_ne_line depth ']' (by decide) otherRest _)
      | cons b others =>
          rw [List.map_cons, List.map_cons, lines_cons, lines_cons] at same
          obtain ⟨rfl, following⟩ := each a b (depth + 1) _ _ (List.append_cancel_left same)
          obtain ⟨rfl, rests⟩ := ih others following
          exact ⟨rfl, rests⟩

theorem enclose_inj (opening closing : String) (depth : Nat) (part otherPart : String) (parts otherParts : List String)
    (rest otherRest : List Char)
    (same : (enclose opening closing depth (part :: parts)).toList ++ rest =
      (enclose opening closing depth (otherPart :: otherParts)).toList ++ otherRest) :
    lines (depth + 1) (part :: parts) ++ ((lineStart depth).toList ++ (closing.toList ++ rest)) =
      lines (depth + 1) (otherPart :: otherParts) ++ ((lineStart depth).toList ++ (closing.toList ++ otherRest)) := by
  rw [enclose_cons, enclose_cons] at same
  simp only [List.append_assoc] at same
  exact List.append_cancel_left same

theorem after_closing (closing : String) (depth : Nat) (rest otherRest : List Char)
    (same : (lineStart depth).toList ++ (closing.toList ++ ',' :: rest) =
      (lineStart depth).toList ++ (closing.toList ++ ',' :: otherRest)) : rest = otherRest :=
  (List.cons.inj (List.append_cancel_left (List.append_cancel_left same))).2

theorem empty_ne_enclosed (depth : Nat) (part : String) (parts : List String) (rest more : List Char) :
    (enclose "[" "]" depth []).toList ++ rest ≠ (enclose "[" "]" depth (part :: parts)).toList ++ more := by
  intro same
  rw [enclose_nil, enclose_cons, lines_cons, List.append_assoc, List.append_assoc] at same
  have first := congrArg List.head? (List.append_cancel_left same)
  simp [lineStart] at first

theorem list_tells (item : α → Outline) (each : ∀ a b, Tells (a = b) (item a) (item b)) (items others : List α) :
    Tells (items = others) (ofList item items) (ofList item others) := by
  intro depth rest otherRest same
  have printed (items : List α) :
      (ofList item items).print depth = enclose "[" "]" depth (items.map fun a => (item a).print (depth + 1)) := by
    rw [ofList, print, print_items_eq, List.map_map]
    rfl
  rw [printed, printed] at same
  cases items with
  | nil =>
      cases others with
      | nil => exact ⟨rfl, (List.cons.inj (List.append_cancel_left same)).2⟩
      | cons b others => exact absurd same (empty_ne_enclosed depth _ _ _ _)
  | cons a items =>
      cases others with
      | nil => exact absurd same.symm (empty_ne_enclosed depth _ _ _ _)
      | cons b others =>
          obtain ⟨lists, rests⟩ := items_tell item each depth (a :: items) (b :: others) _ _
            (enclose_inj "[" "]" depth _ _ _ _ _ _ same)
          exact ⟨lists, (List.cons.inj rests).2⟩

theorem tagged_tells (name : String) {outline other : Outline} (tells : Tells condition outline other) :
    Tells condition (.tagged name outline) (.tagged name other) := by
  intro depth rest otherRest same
  rw [print, print] at same
  have parts := enclose_inj _ ")" depth _ _ _ _ _ _ same
  rw [lines_cons, lines_cons] at parts
  obtain ⟨holds, rests⟩ := tells (depth + 1) _ _ (List.append_cancel_left parts)
  exact ⟨holds, after_closing ")" depth rest otherRest rests⟩

theorem none_ne_some (depth : Nat) (content : Outline) (rest otherRest : List Char) :
    ((Outline.word "None").print depth).toList ++ rest ≠ ((Outline.tagged "Some" content).print depth).toList ++ otherRest := by
  intro same
  rw [print, print, enclose_cons, String.toList_append, List.append_assoc, List.append_assoc] at same
  exact absurd (List.cons.inj same).1 (by decide)

theorem option_tells (content : α → Outline) (each : ∀ a b, Tells (a = b) (content a) (content b)) (value? other? : Option α) :
    Tells (value? = other?) (ofOption content value?) (ofOption content other?) := by
  intro depth rest otherRest same
  cases value? with
  | none =>
      cases other? with
      | none => exact ⟨rfl, (List.cons.inj (List.append_cancel_left same)).2⟩
      | some other => exact absurd same (none_ne_some depth _ _ _)
  | some value =>
      cases other? with
      | none => exact absurd same.symm (none_ne_some depth _ _ _)
      | some other =>
          obtain ⟨rfl, rests⟩ := tagged_tells "Some" (each value other) depth rest otherRest same
          exact ⟨rfl, rests⟩

theorem TellsAll.fields {fields others : List (String × Outline)} (tells : TellsAll condition fields others) (depth : Nat)
    (rest otherRest : List Char)
    (same : lines depth (printFields depth fields) ++ rest = lines depth (printFields depth others) ++ otherRest) :
    condition ∧ rest = otherRest := by
  induction tells with
  | nil => exact ⟨trivial, same⟩
  | cons name first following ih =>
      simp only [printFields, lines_cons, String.toList_append, List.append_assoc, List.append_cancel_left_eq] at same
      obtain ⟨holds, more⟩ := first depth _ _ same
      obtain ⟨others, rests⟩ := ih more
      exact ⟨⟨holds, others⟩, rests⟩

theorem record_tells (name : String) {fields others : List (String × Outline)} (tells : TellsAll condition fields others) :
    Tells condition (.record name fields) (.record name others) := by
  intro depth rest otherRest same
  rw [print, print] at same
  cases tells with
  | nil => exact ⟨trivial, (List.cons.inj (List.append_cancel_left same)).2⟩
  | cons field first following =>
      have parts := enclose_inj _ "\x7d" depth _ _ _ _ _ _ same
      obtain ⟨holds, rests⟩ := TellsAll.fields (.cons field first following) (depth + 1) _ _ parts
      exact ⟨holds, after_closing "\x7d" depth rest otherRest rests⟩

end Containers

end Outline

section Values

open Outline (Tells TellsAll)

theorem Token.outline_tells (token other : Token) : Tells (token = other) token.toOutline other.toOutline := by
  have names : ∀ kind : TokenKind, ',' ∉ kind.name.toList := fun kind => by cases kind <;> decide
  have digits (line : Nat) : ',' ∉ (toString line).toList := by
    rw [Nat.toString_eq_ofList_toDigits, String.toList_ofList]
    exact no_mark_in_digits ',' 10 (by decide) (by decide) (by decide) line
  have kind := Outline.word_tells _ _ (names token.kind) (names other.kind)
  have text := Outline.text_tells token.text other.text
  have line := Outline.word_tells _ _ (digits token.line) (digits other.line)
  refine (Outline.record_tells "Token" (.cons "kind" kind (.cons "text" text (.cons "line" line .nil)))).imp ?_
  rintro ⟨names, texts, numerals, -⟩
  rw [Nat.toString_eq_ofList_toDigits, Nat.toString_eq_ofList_toDigits, String.ofList_inj] at numerals
  have kinds := congrArg TokenKind.ofName? names
  rw [token.kind.of_name_name, other.kind.of_name_name, Option.some.injEq] at kinds
  have lines := to_digits_inj 10 (by decide) (by decide) token.line other.line numerals
  cases token
  cases other
  simp_all

theorem StatementKind.outline_tells (kind other : StatementKind) : Tells (kind = other) kind.toOutline other.toOutline := by
  cases kind
  cases other
  exact fun _ _ _ same => ⟨rfl, (List.cons.inj (List.append_cancel_left same)).2⟩

theorem Column.outline_tells (item other : Column) : Tells (item = other) item.toOutline other.toOutline := by
  have table := Outline.option_tells _ Outline.text_tells item.table? other.table?
  have column := Outline.text_tells item.column other.column
  have label := Outline.option_tells _ Outline.text_tells item.alias? other.alias?
  refine (Outline.record_tells "Column" (.cons "table" table (.cons "column" column (.cons "alias" label .nil)))).imp ?_
  rintro ⟨tables, columns, labels, -⟩
  exact Column.ext tables columns labels

theorem Table.outline_tells (item other : Table) : Tells (item = other) item.toOutline other.toOutline := by
  have name := Outline.text_tells item.name other.name
  have label := Outline.option_tells _ Outline.text_tells item.alias? other.alias?
  refine (Outline.record_tells "Table" (.cons "name" name (.cons "alias" label .nil))).imp ?_
  rintro ⟨names, labels, -⟩
  cases item
  cases other
  exact congr (congrArg Table.mk names) labels

theorem Query.outline_tells (query other : Query) : Tells (query = other) query.toOutline other.toOutline := by
  have statement := Outline.option_tells _ StatementKind.outline_tells query.statement? other.statement?
  have comments := Outline.list_tells _ Outline.text_tells query.comments other.comments
  have selects := Outline.list_tells _ Column.outline_tells query.selects other.selects
  have froms := Outline.list_tells _ Table.outline_tells query.froms other.froms
  refine (Outline.record_tells "Query" (.cons "statement" statement (.cons "comments" comments (.cons "selects" selects
    (.cons "froms" froms .nil))))).imp ?_
  rintro ⟨statements, comments, selects, froms, -⟩
  cases query
  cases other
  simp_all

theorem ColumnDefinition.outline_tells (item other : ColumnDefinition) :
    Tells (item = other) item.toOutline other.toOutline := by
  have name := Outline.text_tells item.name other.name
  have baseType := Outline.text_tells item.baseType other.baseType
  have typeSize := Outline.option_tells _ Outline.text_tells item.typeSize? other.typeSize?
  have isArray := Outline.bool_tells item.isArray other.isArray
  have notNull := Outline.bool_tells item.notNull other.notNull
  refine (Outline.record_tells "TableColumn" (.cons "name" name (.cons "base_type" baseType (.cons "type_size" typeSize
    (.cons "is_array" isArray (.cons "not_null" notNull .nil)))))).imp ?_
  rintro ⟨names, baseTypes, typeSizes, areArrays, notNulls, -⟩
  exact ColumnDefinition.ext names baseTypes typeSizes areArrays notNulls

theorem TableDefinition.outline_tells (definition other : TableDefinition) :
    Tells (definition = other) definition.toOutline other.toOutline := by
  have name := Outline.text_tells definition.name other.name
  have comments := Outline.list_tells _ Outline.text_tells definition.comments other.comments
  have columns := Outline.list_tells _ ColumnDefinition.outline_tells definition.columns other.columns
  refine (Outline.record_tells "CreateTable" (.cons "name" name (.cons "comments" comments (.cons "columns" columns
    .nil)))).imp ?_
  rintro ⟨names, comments, columns, -⟩
  cases definition
  cases other
  simp_all

end Values

end SqlOutline
