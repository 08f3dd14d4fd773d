import SqlOutline.Proofs.Token.Advance

set_option autoImplicit false

namespace SqlOutline

-- The longest number that the text starts with, and what comes after it.
structure LongestNumber (input : List Char) (number : String) (rest : List Char) : Prop where
  split : input = number.toList ++ rest
  isNumber : NumberText number
  longest : ∀ other, NumberText other → other.toList <+: input → other.length ≤ number.length

namespace NumberPart

theorem split_continued (part : NumberPart) (input : List Char) : part.continuedBy (part.split input).1 = true := by
  induction input generalizing part with
  | nil => rfl
  | cons c rest ih =>
      cases found : part.next? c with
      | none => simp only [split, found, continuedBy]
      | some following =>
          simp only [split, found]
          rw [continued_cons_of_some part following c _ found]
          exact ih following

theorem split_longest (part : NumberPart) (text rest : List Char) (continued : part.continuedBy text = true) :
    text <+: (part.split (text ++ rest)).1 := by
  induction text generalizing part with
  | nil => exact List.nil_prefix
  | cons c text ih =>
      cases found : part.next? c with
      | none =>
          rw [continued_cons_of_none part c text found] at continued
          contradiction
      | some following =>
          rw [continued_cons_of_some part following c text found] at continued
          simp only [List.cons_append, split, found, List.prefix_cons_inj]
          exact ih following continued

end NumberPart

section Longest

variable (c : Char) (tail : List Char) (digit : c.isDigit = true)

include digit

theorem longest_number_of_split (number : String) (rest : List Char)
    (found : NumberPart.start.split (c :: tail) = (number.toList, rest)) : LongestNumber (c :: tail) number rest := by
  have whole := NumberPart.split_append .start (c :: tail)
  have continued := NumberPart.split_continued .start (c :: tail)
  have written := Lexeme.number_text_ne_nil c tail digit
  rw [found] at whole continued written
  refine ⟨whole.symm, (number_text_iff number).mpr ⟨written, continued⟩, fun other isNumber begins => ?_⟩
  obtain ⟨further, same⟩ := begins
  have longer := NumberPart.split_longest .start other.toList further ((number_text_iff other).mp isNumber).2
  rw [same, found] at longer
  exact longer.length_le

theorem exists_longest_number :
    ∃ number rest, LongestNumber (c :: tail) number rest ∧ NumberPart.start.split (c :: tail) = (number.toList, rest) := by
  have found : NumberPart.start.split (c :: tail) =
      ((String.ofList (NumberPart.start.split (c :: tail)).1).toList, (NumberPart.start.split (c :: tail)).2) := by
    rw [String.toList_ofList]
  exact ⟨_, _, longest_number_of_split c tail digit _ _ found, found⟩

theorem LongestNumber.split_eq {number : String} {rest : List Char} (longest : LongestNumber (c :: tail) number rest) :
    NumberPart.start.split (c :: tail) = (number.toList, rest) := by
  obtain ⟨greedy, after, greatest, found⟩ := exists_longest_number c tail digit
  have begins := NumberPart.split_longest .start number.toList rest ((number_text_iff number).mp longest.isNumber).2
  rw [← longest.split, found] at begins
  have bounded := longest.longest greedy greatest.isNumber ⟨after, greatest.split.symm⟩
  have same : number.toList = greedy.toList := begins.eq_of_length_le bounded
  have whole := greatest.split.symm.trans longest.split
  rw [same] at whole ⊢
  rw [found, List.append_cancel_left whole]

section Stream

variable (line : Nat) {number : String}

theorem tokens_from_number_end {rest : List Char} (longest : LongestNumber (c :: tail) number rest)
    (ends : Lexeme.EndsNumber rest) : tokensFrom line (c :: tail) = ⟨.number, number, line⟩ :: tokensFrom line rest :=
  have found := longest.split_eq c tail digit
  have oneLine := newlines_of_number number longest.isNumber
  tokens_from_plain line _ .number number rest oneLine (.number c tail _ rest digit found ends)

theorem tokens_from_number_in_word {d : Char} {after : List Char} (longest : LongestNumber (c :: tail) number (d :: after))
    (member : isWordChar d = true) :
    tokensFrom line (c :: tail) = [⟨.error, "bad number syntax: " ++ quotedText (number ++ String.singleton d), line⟩] := by
  have found := longest.split_eq c tail digit
  have failed : Lexeme.read (c :: tail) = .error (.badNumber (number ++ String.singleton d)) := by
    rw [Lexeme.read_of_digit c tail digit, Lexeme.number_of_word_char _ after d (congrArg Prod.snd found) member, found]
    simp
  have starts : Pending (c :: tail) := first_holds c tail (Lexeme.word_char_not_blank c (is_word_char_of_digit c digit))
  exact tokens_from_failed line _ _ starts failed

end Stream

end Longest

theorem tokens_from_longest_number (line : Nat) (input : List Char) (starts : ∃ c ∈ input.head?, c.isDigit = true) :
    (∃ number rest, LongestNumber input number rest) ∧
      ∀ number rest, LongestNumber input number rest →
        (Lexeme.EndsNumber rest → tokensFrom line input = ⟨.number, number, line⟩ :: tokensFrom line rest) ∧
        ∀ c after, rest = c :: after → isWordChar c = true →
          tokensFrom line input = [⟨.error, "bad number syntax: " ++ quotedText (number ++ String.singleton c), line⟩] := by
  obtain ⟨c, first, digit⟩ := starts
  obtain ⟨tail, rfl⟩ := List.head?_eq_some_iff.mp first
  refine ⟨?_, fun number rest longest => ⟨?_, ?_⟩⟩
  · obtain ⟨number, rest, longest, _⟩ := exists_longest_number c tail digit
    exact ⟨number, rest, longest⟩
  · exact tokens_from_number_end c tail digit line longest
  · rintro d after rfl member
    exact tokens_from_number_in_word c tail digit line longest member

-- There is no exponent after a hexadecimal prefix, and after two zeros there is no such prefix.
theorem tokens_from_longest_number_zeros :
    (∃ c ∈ "0x1e+5".toList.head?, c.isDigit = true) ∧ LongestNumber "0x1e+5".toList "0x1e" "+5".toList ∧
      tokensFrom 1 "0x1e+5".toList = ⟨.number, "0x1e", 1⟩ :: tokensFrom 1 "+5".toList ∧
      (∃ c ∈ "00x1".toList.head?, c.isDigit = true) ∧ LongestNumber "00x1".toList "00" "x1".toList ∧
      tokensFrom 1 "00x1".toList = [⟨.error, "bad number syntax: \"00x\"", 1⟩] := by
  have hexStarts : ∃ c ∈ "0x1e+5".toList.head?, c.isDigit = true := ⟨'0', rfl, rfl⟩
  have hexadecimal : LongestNumber "0x1e+5".toList "0x1e" "+5".toList :=
    longest_number_of_split '0' _ rfl "0x1e" "+5".toList (by decide +kernel)
  have zerosStart : ∃ c ∈ "00x1".toList.head?, c.isDigit = true := ⟨'0', rfl, rfl⟩
  have zeros : LongestNumber "00x1".toList "00" "x1".toList :=
    longest_number_of_split '0' _ rfl "00" "x1".toList (by decide +kernel)
  have message : "bad number syntax: " ++ quotedText ("00" ++ String.singleton 'x') = "bad number syntax: \"00x\"" := by
    decide +kernel
  refine ⟨hexStarts, hexadecimal, ?_, zerosStart, zeros, ?_⟩
  · exact ((tokens_from_longest_number 1 _ hexStarts).2 _ _ hexadecimal).1 (first_holds '+' ['5'] (by decide))
  · rw [← message]
    exact ((tokens_from_longest_number 1 _ zerosStart).2 _ _ zeros).2 'x' ['1'] rfl (by decide)

end SqlOutline
