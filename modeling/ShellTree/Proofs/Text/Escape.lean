import Mathlib.Data.List.Forall2
import Mathlib.Data.List.TakeWhile
import ShellTree.Program.Builtin
import ShellTree.Proofs.Text.Digit

/-!
# Resolving escapes

The scan of a text takes it piece by piece, and digits after a backslash belong to
its piece as far as its width allows.  Two facts follow.  Each character can be
written in several ways whose end does not depend on what follows, and a text made of
such pieces is resolved to these characters.  And a text can be cut wherever no piece
goes on: its two parts are resolved on their own, and what stands behind the end that
`\c` gives does not count.
-/

namespace ShellTree.Text

namespace Unescaped

/-- One text after another; nothing comes after a text that was ended early. -/
def append (first second : Unescaped) : Unescaped :=
  if first.stopped then first else ⟨first.output ++ second.output, second.stopped⟩

instance : Append Unescaped :=
  ⟨append⟩

theorem append_of_stopped {first : Unescaped} (stopped : first.stopped = true)
    (second : Unescaped) : first ++ second = first :=
  if_pos stopped

theorem append_of_open {first : Unescaped} (still : first.stopped = false)
    (second : Unescaped) :
    first ++ second = ⟨first.output ++ second.output, second.stopped⟩ :=
  if_neg (by rw [still]; exact Bool.false_ne_true)

theorem prepend_append (chars : List Char) (first second : Unescaped) :
    first.prepend chars ++ second = (first ++ second).prepend chars := by
  cases ended : first.stopped with
  | true =>
      have ended' : (first.prepend chars).stopped = true := ended
      rw [append_of_stopped ended, append_of_stopped ended']
  | false =>
      have ended' : (first.prepend chars).stopped = false := ended
      rw [append_of_open ended, append_of_open ended']
      simp only [prepend, List.append_assoc]

end Unescaped

/-! ## The pieces of a text -/

theorem unescape_plain {char : Char} (plain : char ≠ '\\') (rest : List Char) :
    unescape (char :: rest) = (unescape rest).prepend [char] :=
  unescape.eq_3 char rest fun _ _ same _ => plain same

theorem unescape_control {letter char : Char} (control : control? letter = some char)
    (rest : List Char) : unescape ('\\' :: letter :: rest) = (unescape rest).prepend [char] := by
  rw [unescape.eq_2, control]

theorem unescape_stop (rest : List Char) : unescape ('\\' :: 'c' :: rest) = ⟨[], true⟩ :=
  unescape.eq_2 'c' rest

theorem unescape_octal (rest : List Char) :
    unescape ('\\' :: '0' :: rest) =
      (unescape (rest.drop (leadingDigits 8 3 rest).length)).prepend
        [octalChar (leadingDigits 8 3 rest)] :=
  unescape.eq_2 '0' rest

/-- The letters that hexadecimal digits follow, with the number of digits that each takes. -/
def widths : List (Char × Nat) :=
  [('x', 2), ('u', 4), ('U', 8)]

theorem hexWidth?_eq_some_iff {letter : Char} {width : Nat} :
    hexWidth? letter = some width ↔ (letter, width) ∈ widths := by
  constructor
  · intro hex
    unfold hexWidth? at hex
    split at hex
    · next short => cases hex; subst short; decide
    · split at hex
      · next middle => cases hex; subst middle; decide
      · split at hex
        · next long => cases hex; subst long; decide
        · cases hex
  · intro listed
    have table : widths.all (fun pair => hexWidth? pair.1 == some pair.2) = true := by decide
    exact eq_of_beq (List.all_eq_true.mp table (letter, width) listed)

theorem unescape_hex {letter : Char} {width : Nat} (hex : hexWidth? letter = some width)
    (rest : List Char) :
    unescape ('\\' :: letter :: rest) =
      (unescape (rest.drop (leadingDigits 16 width rest).length)).prepend
        (hexChars letter (leadingDigits 16 width rest)) := by
  have listed := hexWidth?_eq_some_iff.mp hex
  simp only [widths, List.mem_cons, Prod.mk.injEq, List.not_mem_nil, or_false] at listed
  rcases listed with ⟨rfl, rfl⟩ | ⟨rfl, rfl⟩ | ⟨rfl, rfl⟩
  · exact unescape.eq_2 'x' rest
  · exact unescape.eq_2 'u' rest
  · exact unescape.eq_2 'U' rest

theorem unescape_unknown {letter : Char} (control : control? letter = none) (stop : letter ≠ 'c')
    (octal : letter ≠ '0') (hex : hexWidth? letter = none) (rest : List Char) :
    unescape ('\\' :: letter :: rest) = (unescape rest).prepend ['\\', letter] := by
  rw [unescape.eq_2, control]
  simp only [if_neg stop, if_neg octal, hex]

/-! ## Digits of a piece -/

theorem leadingDigits_append_drop (base count : Nat) (text : List Char) :
    leadingDigits base count text ++ text.drop (leadingDigits base count text).length = text := by
  have leading : leadingDigits base count text <+: text :=
    (List.takeWhile_prefix _).trans (List.take_prefix count text)
  exact List.prefix_iff_eq_append.mp leading

theorem isDigitOf_of_mem_leadingDigits {base count : Nat} {text : List Char} {digit : Char}
    (member : digit ∈ leadingDigits base count text) : Digit.isDigitOf base digit = true :=
  List.mem_takeWhile_imp member

/-- Digits that fill the width are taken whatever follows. -/
theorem leadingDigits_full {base count number : Nat} {digits : List Char}
    (full : digits.length = count) (written : Digit.Writes base number digits)
    (rest : List Char) : leadingDigits base count (digits ++ rest) = digits := by
  rw [leadingDigits, ← full, List.take_left, List.takeWhile_eq_self_iff]
  exact written.isDigitOf

def StartsApart (text : List Char) : Prop :=
  ∀ first ∈ text.head?, ¬ Digit.IsFigure first

/-- The digits at the front are the same when the text goes on with something else. -/
theorem leadingDigits_append (base count : Nat) (text : List Char) {more : List Char}
    (apart : StartsApart more) :
    leadingDigits base count (text ++ more) = leadingDigits base count text := by
  have none_more (room : Nat) : (more.take room).takeWhile (Digit.isDigitOf base) = [] := by
    cases more with
    | nil => rw [List.take_nil, List.takeWhile_nil]
    | cons first others =>
        cases room with
        | zero => rfl
        | succ room =>
            have other : ¬ Digit.isDigitOf base first = true := fun digit =>
              apart first rfl (Digit.isFigure_of_isDigitOf digit)
            rw [List.take_succ_cons, List.takeWhile_cons_of_neg other]
  unfold leadingDigits
  rw [List.take_append, List.takeWhile_append, none_more, List.append_nil]
  split
  · next all => exact ((List.takeWhile_prefix _).eq_of_length all).symm
  · rfl

/-! ## Characters written as escapes -/

def letters : List (Char × Char) :=
  [('a', '\x07'), ('b', '\x08'), ('e', '\x1b'), ('E', '\x1b'), ('f', '\x0c'), ('n', '\x0a'),
    ('r', '\x0d'), ('t', '\x09'), ('v', '\x0b')]

/-- A way to write one character.  Octal and hexadecimal digits take the whole width that
the letter before them allows. -/
inductive Spelling : Char → List Char → Prop where
  | plain {char : Char} (other : char ≠ '\\') : Spelling char [char]
  | backslash : Spelling '\\' ['\\', '\\']
  | letter {letter char : Char} (listed : (letter, char) ∈ letters) :
      Spelling char ['\\', letter]
  | octal {char : Char} {digits : List Char} (byte : char.toNat < 256)
      (full : digits.length = 3) (written : Digit.Writes 8 char.toNat digits) :
      Spelling char ('\\' :: '0' :: digits)
  | hex {letter char : Char} {width : Nat} {digits : List Char}
      (listed : (letter, width) ∈ widths) (full : digits.length = width)
      (written : Digit.Writes 16 char.toNat digits) :
      Spelling char ('\\' :: letter :: digits)

theorem scalar?_toNat (char : Char) : Digit.scalar? char.toNat = some char := by
  have valid : char.toNat.isValidChar := char.valid
  rw [Digit.scalar?, if_pos valid, Char.ofNat_toNat]

theorem control?_of_listed {letter char : Char} (listed : (letter, char) ∈ letters) :
    control? letter = some char := by
  have table : letters.all (fun pair => control? pair.1 == some pair.2) = true := by decide
  exact eq_of_beq (List.all_eq_true.mp table (letter, char) listed)

theorem octalChar_of_writes {char : Char} {digits : List Char} (byte : char.toNat < 256)
    (written : Digit.Writes 8 char.toNat digits) : octalChar digits = char := by
  rw [octalChar, written.toNat, Nat.mod_eq_of_lt byte, Char.ofNat_toNat]

theorem hexChars_of_writes {char : Char} {digits : List Char} (letter : Char)
    (nonempty : digits ≠ []) (written : Digit.Writes 16 char.toNat digits) :
    hexChars letter digits = [char] := by
  have filled : ¬ digits.isEmpty = true := by simp [nonempty]
  rw [hexChars, if_neg filled, written.toNat, scalar?_toNat]

/-- A written character is resolved to itself, whatever follows. -/
theorem unescape_spelling {char : Char} {piece : List Char} (spelling : Spelling char piece)
    (rest : List Char) : unescape (piece ++ rest) = (unescape rest).prepend [char] := by
  cases spelling with
  | plain other => exact unescape_plain other rest
  | backslash => exact unescape_control rfl rest
  | letter listed => exact unescape_control (control?_of_listed listed) rest
  | octal byte full written =>
      rw [List.cons_append, List.cons_append, unescape_octal, leadingDigits_full full written,
        List.drop_left, octalChar_of_writes byte written]
  | @hex letter char width digits listed full written =>
      have nonempty : digits ≠ [] := by
        rintro rfl
        subst full
        simp [widths] at listed
      rw [List.cons_append, List.cons_append, unescape_hex (hexWidth?_eq_some_iff.mpr listed),
        leadingDigits_full full written, List.drop_left,
        hexChars_of_writes letter nonempty written]

theorem unescape_spellings {chars : List Char} {pieces : List (List Char)}
    (spelled : List.Forall₂ Spelling chars pieces) :
    unescape pieces.flatten = ⟨chars, false⟩ := by
  induction spelled with
  | nil => exact unescape.eq_1
  | cons spelling _ ih =>
      rw [List.flatten_cons, unescape_spelling spelling, ih]
      rfl

theorem exists_long_spelling (char : Char) :
    ∃ digits, Spelling char ('\\' :: 'U' :: digits) := by
  have room : char.toNat < 16 ^ 8 := char.val.toNat_lt
  obtain ⟨digits, full, written⟩ := Digit.exists_writes (by decide) (by decide) 8 room
  exact ⟨digits, .hex (by decide) full written⟩

/-- Every text can be written so that it looks like no flag. -/
theorem exists_spellings (chars : List Char) :
    ∃ pieces, List.Forall₂ Spelling chars pieces ∧ pieces.flatten.head? ≠ some '-' := by
  induction chars with
  | nil => exact ⟨[], .nil, by simp⟩
  | cons char rest ih =>
      obtain ⟨digits, spelling⟩ := exists_long_spelling char
      obtain ⟨pieces, spelled, -⟩ := ih
      refine ⟨_ :: pieces, .cons spelling spelled, ?_⟩
      simp

end ShellTree.Text

/-! ## Printing what was written -/

namespace ShellTree.Echo

theorem Flags.take?_eq_none {argument : String} (other : argument.toList.head? ≠ some '-')
    (flags : Flags) : flags.take? argument = none := by
  have differs {flag : String} (dash : flag.toList.head? = some '-') : argument ≠ flag := by
    rintro rfl
    exact other dash
  have joined : ¬ (argument = "-ne" ∨ argument = "-en") := by
    rintro (same | same)
    · exact differs (by decide) same
    · exact differs (by decide) same
  rw [Flags.take?, if_neg (differs (by decide)), if_neg (differs (by decide)),
    if_neg (differs (by decide)), if_neg joined]

/-- Text that looks like no flag is printed with its escapes resolved. -/
theorem output_escaped {written : List Char} (other : written.head? ≠ some '-') :
    output ["-ne", String.ofList written] = String.ofList (Text.unescape written).output := by
  have word : (⟨false, true⟩ : Flags).take? (String.ofList written) = none :=
    Flags.take?_eq_none (by rwa [String.toList_ofList]) _
  have split : Flags.split {} ["-ne", String.ofList written] =
      (⟨false, true⟩, [String.ofList written]) := by
    change Flags.split ⟨false, true⟩ [String.ofList written] = _
    rw [Flags.split, word]
  simp only [output, split, String.intercalate_singleton, String.toList_ofList]
  simp

end ShellTree.Echo

namespace ShellTree.Text

/-- A text that is written character by character, each in any of its ways, is resolved to
itself, and every text can be printed so. -/
theorem spelled_text_unescaped (text : String) :
    (∀ pieces, List.Forall₂ Spelling text.toList pieces →
      unescape pieces.flatten = ⟨text.toList, false⟩) ∧
    ∃ pieces, List.Forall₂ Spelling text.toList pieces ∧
      Echo.output ["-ne", String.ofList pieces.flatten] = text := by
  refine ⟨fun pieces => unescape_spellings, ?_⟩
  obtain ⟨pieces, spelled, other⟩ := exists_spellings text.toList
  refine ⟨pieces, spelled, ?_⟩
  rw [Echo.output_escaped other, unescape_spellings spelled, String.ofList_toList]

/-- Characters for all ways of writing one, with plain digits right behind escapes. -/
def mixedText : String :=
  "\\\x07A1é€f😀"

def mixedPieces : List (List Char) :=
  [['\\', '\\'], ['\\', 'a'], ['\\', '0', '1', '0', '1'], ['1'], ['\\', 'x', 'e', '9'],
    ['\\', 'u', '2', '0', 'A', 'c'], ['f'],
    ['\\', 'U', '0', '0', '0', '1', 'F', '6', '0', '0']]

theorem mixedText_spelled : List.Forall₂ Spelling mixedText.toList mixedPieces := by
  have chars : mixedText.toList = ['\\', '\x07', 'A', '1', 'é', '€', 'f', '😀'] := by decide
  have octal : Digit.Writes 8 'A'.toNat ['1', '0', '1'] :=
    Digit.writes_iff.mpr ⟨List.all_eq_true.mp (by decide), by decide⟩
  have short : Digit.Writes 16 'é'.toNat ['e', '9'] :=
    Digit.writes_iff.mpr ⟨List.all_eq_true.mp (by decide), by decide⟩
  have middle : Digit.Writes 16 '€'.toNat ['2', '0', 'A', 'c'] :=
    Digit.writes_iff.mpr ⟨List.all_eq_true.mp (by decide), by decide⟩
  have long : Digit.Writes 16 '😀'.toNat ['0', '0', '0', '1', 'F', '6', '0', '0'] :=
    Digit.writes_iff.mpr ⟨List.all_eq_true.mp (by decide), by decide⟩
  rw [chars]
  exact .cons .backslash (.cons (.letter (by decide)) (.cons (.octal (by decide) rfl octal)
    (.cons (.plain (by decide)) (.cons (.hex (by decide) rfl short)
    (.cons (.hex (by decide) rfl middle) (.cons (.plain (by decide))
    (.cons (.hex (by decide) rfl long) .nil)))))))

theorem mixedText_unescaped :
    List.Forall₂ Spelling mixedText.toList mixedPieces ∧
      unescape mixedPieces.flatten = ⟨mixedText.toList, false⟩ :=
  ⟨mixedText_spelled, (spelled_text_unescaped mixedText).1 mixedPieces mixedText_spelled⟩

/-! ## Where a text can be cut -/

def trailingBackslashes (text : List Char) : Nat :=
  (text.reverse.takeWhile (· == '\\')).length

theorem trailingBackslashes_append {front : List Char} (closed : front.getLast? ≠ some '\\')
    (rest : List Char) :
    trailingBackslashes (front ++ rest) = trailingBackslashes rest := by
  have none_front : front.reverse.takeWhile (· == '\\') = [] := by
    rw [← List.head?_reverse] at closed
    cases reversed : front.reverse with
    | nil => rfl
    | cons last before =>
        have other : ¬ (last == '\\') = true := by
          intro same
          rw [reversed, eq_of_beq same] at closed
          exact closed rfl
        exact List.takeWhile_cons_of_neg other
  unfold trailingBackslashes
  rw [List.reverse_append, List.takeWhile_append, none_front, List.append_nil]
  split
  · next all => rw [all]
  · rfl

theorem trailingBackslashes_pair (rest : List Char) :
    trailingBackslashes ('\\' :: '\\' :: rest) % 2 = trailingBackslashes rest % 2 := by
  unfold trailingBackslashes
  rw [List.reverse_cons, List.reverse_cons, List.append_assoc, List.takeWhile_append]
  split
  · next all =>
      rw [all]
      simp
  · rfl

/-- How the scan of a text begins.  What is taken first is taken as well when the text goes on,
unless it goes on with a digit. -/
inductive Begins : List Char → Prop where
  | empty : Begins []
  | dangling : Begins ['\\']
  | stop (rest : List Char) : Begins ('\\' :: 'c' :: rest)
  | piece (front rest meaning : List Char) (nonempty : front ≠ [])
      (closed : front = ['\\', '\\'] ∨ front.getLast? ≠ some '\\')
      (taken : ∀ more, StartsApart more →
        unescape (front ++ (rest ++ more)) = (unescape (rest ++ more)).prepend meaning) :
      Begins (front ++ rest)

theorem begins_digits {letter : Char} {base count : Nat} (meaning : List Char → List Char)
    (other : letter ≠ '\\')
    (read : ∀ rest, unescape ('\\' :: letter :: rest) =
      (unescape (rest.drop (leadingDigits base count rest).length)).prepend
        (meaning (leadingDigits base count rest)))
    (rest : List Char) : Begins ('\\' :: letter :: rest) := by
  have whole := leadingDigits_append_drop base count rest
  have closed : ('\\' :: letter :: leadingDigits base count rest).getLast? ≠ some '\\' := by
    intro last
    rw [List.getLast?_cons_cons] at last
    rcases List.mem_cons.mp (List.mem_of_getLast? last) with same | digit
    · exact other same.symm
    · exact absurd (Digit.isFigure_of_isDigitOf (isDigitOf_of_mem_leadingDigits digit))
        (by decide)
  have begins : Begins (('\\' :: letter :: leadingDigits base count rest) ++
      rest.drop (leadingDigits base count rest).length) := by
    refine .piece _ _ (meaning (leadingDigits base count rest)) (by simp) (.inr closed) ?_
    intro more apart
    have inside : (leadingDigits base count rest).length ≤ rest.length := by
      rw [← congrArg List.length whole, List.length_append]
      exact Nat.le_add_right _ _
    rw [List.cons_append, List.cons_append, ← List.append_assoc, whole, read,
      leadingDigits_append base count rest apart, List.drop_append_of_le_length inside]
  rwa [List.cons_append, List.cons_append, whole] at begins

theorem begins_escape (letter : Char) (rest : List Char) : Begins ('\\' :: letter :: rest) := by
  cases control : control? letter with
  | some char =>
      refine .piece ['\\', letter] rest [char] (by simp) ?_ ?_
      · by_cases doubled : letter = '\\'
        · exact .inl (by rw [doubled])
        · exact .inr (by simpa using doubled)
      · intro more _
        exact unescape_control control (rest ++ more)
  | none =>
      have other : letter ≠ '\\' := by
        rintro rfl
        exact absurd control (by decide)
      by_cases stop : letter = 'c'
      · subst stop
        exact .stop rest
      by_cases octal : letter = '0'
      · subst octal
        exact begins_digits (fun digits => [octalChar digits]) other unescape_octal rest
      cases hex : hexWidth? letter with
      | some width => exact begins_digits (hexChars letter) other (unescape_hex hex) rest
      | none =>
          refine .piece ['\\', letter] rest ['\\', letter] (by simp) ?_ ?_
          · exact .inr (by simpa using other)
          · intro more _
            exact unescape_unknown control stop octal hex (rest ++ more)

theorem begins (text : List Char) : Begins text := by
  cases text with
  | nil => exact .empty
  | cons char rest =>
      by_cases plain : char = '\\'
      · subst plain
        cases rest with
        | nil => exact .dangling
        | cons letter rest => exact begins_escape letter rest
      · refine .piece [char] rest [char] (by simp) ?_ ?_
        · exact .inr (by simpa using plain)
        · intro more _
          exact unescape_plain plain (rest ++ more)

/-- Between a text that ends in no open escape and one that starts with no digit, the scan
starts anew.  The pieces of the front text are taken one by one; what is left of it is shorter
and ends in the same backslashes, up to a pair. -/
theorem unescape_append {front rest : List Char} (paired : trailingBackslashes front % 2 = 0)
    (apart : StartsApart rest) :
    unescape (front ++ rest) = unescape front ++ unescape rest := by
  induction length : front.length using Nat.strongRecOn generalizing front with
  | ind count ih =>
      cases begins front with
      | empty => rw [unescape.eq_1]; rfl
      | dangling => cases paired
      | stop later =>
          rw [List.cons_append, List.cons_append, unescape_stop, unescape_stop]
          rfl
      | piece piece later meaning nonempty closed taken =>
          have paired' : trailingBackslashes later % 2 = 0 := by
            rcases closed with rfl | closed
            · rw [← trailingBackslashes_pair]
              exact paired
            · rwa [trailingBackslashes_append closed] at paired
          have shorter : later.length < count := by
            have positive := List.length_pos_iff.mpr nonempty
            rw [← length, List.length_append]
            omega
          have alone := taken [] (by simp [StartsApart])
          rw [List.append_nil] at alone
          rw [List.append_assoc, taken rest apart, ih later.length shorter paired' rfl, alone,
            Unescaped.prepend_append]

/-- A text that ends in an even number of backslashes, and one after it that does not start
with a digit, are resolved on their own, unless the first one was ended.  So `\c` ends a text
exactly where it stands. -/
theorem unescape_at_seam {front : List Char} (paired : trailingBackslashes front % 2 = 0) :
    (∀ rest, StartsApart rest →
      ((unescape front).stopped = true → unescape (front ++ rest) = unescape front) ∧
      ((unescape front).stopped = false →
        unescape (front ++ rest) =
          ⟨(unescape front).output ++ (unescape rest).output, (unescape rest).stopped⟩)) ∧
    ((unescape front).stopped = false →
      ∀ rest, unescape (front ++ '\\' :: 'c' :: rest) = ⟨(unescape front).output, true⟩) := by
  constructor
  · intro rest apart
    rw [unescape_append paired apart]
    exact ⟨fun ended => Unescaped.append_of_stopped ended _,
      fun still => Unescaped.append_of_open still _⟩
  · intro still rest
    have apart : StartsApart ('\\' :: 'c' :: rest) := by
      intro first head
      cases head
      decide
    rw [unescape_append paired apart, Unescaped.append_of_open still, unescape_stop,
      List.append_nil]

theorem short_escape_at_seam :
    trailingBackslashes ['\\', 'x', '4', '\\', '\\'] % 2 = 0 ∧ StartsApart ['g', '\\', 'c'] ∧
      (unescape ['\\', 'x', '4', '\\', '\\']).stopped = false ∧
      unescape (['\\', 'x', '4', '\\', '\\'] ++ ['g', '\\', 'c']) =
        ⟨['\x04', '\\', 'g'], true⟩ := by
  have paired : trailingBackslashes ['\\', 'x', '4', '\\', '\\'] % 2 = 0 := by decide
  have apart : StartsApart ['g', '\\', 'c'] := by
    intro first head
    cases head
    decide
  have digits : leadingDigits 16 2 ['4', '\\', '\\'] = ['4'] := by decide
  have front : unescape ['\\', 'x', '4', '\\', '\\'] = ⟨['\x04', '\\'], false⟩ := by
    have hex : hexWidth? 'x' = some 2 := rfl
    have doubled : unescape ['\\', '\\'] = (unescape []).prepend ['\\'] :=
      unescape_control rfl []
    rw [unescape_hex hex, digits, List.length_singleton, List.drop_one, List.tail_cons, doubled,
      unescape.eq_1]
    rfl
  have rest : unescape ['g', '\\', 'c'] = ⟨['g'], true⟩ := by
    rw [unescape_plain (by decide), unescape_stop]
    rfl
  have still : (unescape ['\\', 'x', '4', '\\', '\\']).stopped = false := by rw [front]
  refine ⟨paired, apart, still, ?_⟩
  rw [((unescape_at_seam paired).1 _ apart).2 still, front, rest]
  rfl

end ShellTree.Text
