import Mathlib.Data.List.DropRight
import ShellTree.Proofs.Lists
import ShellTree.Proofs.Text.Escape
import ShellTree.Toml.Text

/-!
# Reading written documents

A document can be written in many ways: characters of strings raw or by their codes,
keys bare or as strings, blanks between the parts of a line, comments and empty lines,
and two kinds of newlines.  Reading a line gives back what was written and the text
behind the line, so a text of lines is read line by line.
-/

namespace ShellTree.Toml

/-! ## Strings -/

/-- A way to write one character in a basic string: as it is, unless it is a quotation mark, a
backslash or an ASCII control character other than the tab, or by the digits of its code. -/
inductive Spelling : Char → List Char → Prop where
  | raw {char : Char} (other : char ≠ '"') (other' : char ≠ '\\')
      (visible : char = '\t' ∨ (0x20 ≤ char.toNat ∧ char.toNat ≠ 0x7F)) : Spelling char [char]
  | short {char a b c d : Char} (written : Digit.Writes 16 char.toNat [a, b, c, d]) :
      Spelling char ['\\', 'u', a, b, c, d]
  | long {char a b c d e f g h : Char}
      (written : Digit.Writes 16 char.toNat [a, b, c, d, e, f, g, h]) :
      Spelling char ['\\', 'U', a, b, c, d, e, f, g, h]

def Quoted (text : String) (chars : List Char) : Prop :=
  ∃ pieces, List.Forall₂ Spelling text.toList pieces ∧ chars = '"' :: (pieces.flatten ++ ['"'])

theorem codeChar?_of_writes {char : Char} {digits : List Char}
    (written : Digit.Writes 16 char.toNat digits) : codeChar? digits = some char := by
  have all : digits.all (Digit.isDigitOf 16) = true := List.all_eq_true.mpr written.isDigitOf
  rw [codeChar?, if_pos all, written.toNat, Text.scalar?_toNat]

theorem isPlain_of_visible {char : Char}
    (visible : char = '\t' ∨ (0x20 ≤ char.toNat ∧ char.toNat ≠ 0x7F)) : isPlain char = true := by
  rcases visible with rfl | ⟨low, other⟩
  · decide
  · have low : ' ' ≤ char := low
    have other : char ≠ '\x7f' := by
      rintro rfl
      exact other rfl
    simp [isPlain, low, other]

theorem basicString?_spelling {char : Char} {piece : List Char} (spelling : Spelling char piece)
    (rest : List Char) : basicString? (piece ++ rest) = (basicString? rest).map (prepend char) := by
  cases spelling with
  | raw other other' visible =>
      have plain : (isPlain char && char != '\\') = true := by
        simp [isPlain_of_visible visible, other']
      rw [List.singleton_append, basicString?.eq_6 char rest other
        (fun _ _ _ _ _ same _ => other' same) (fun _ _ _ _ _ _ _ _ _ same _ => other' same)
        (fun _ _ same _ => other' same), if_pos plain]
  | short written =>
      change basicString? ('\\' :: 'u' :: _ :: _ :: _ :: _ :: rest) = _
      rw [basicString?.eq_3, codeChar?_of_writes written, Option.bind_some]
  | long written =>
      change basicString? ('\\' :: 'U' :: _ :: _ :: _ :: _ :: _ :: _ :: _ :: _ :: rest) = _
      rw [basicString?.eq_4, codeChar?_of_writes written, Option.bind_some]

theorem basicString?_spellings {chars : List Char} {pieces : List (List Char)}
    (spelled : List.Forall₂ Spelling chars pieces) (rest : List Char) :
    basicString? (pieces.flatten ++ '"' :: rest) = some (chars, rest) := by
  induction spelled with
  | nil => exact basicString?.eq_2 rest
  | cons spelling _ ih =>
      rw [List.flatten_cons, List.append_assoc, basicString?_spelling spelling, ih]
      rfl

theorem Spelling.exists_cons {char : Char} {piece : List Char} (spelling : Spelling char piece) :
    ∃ first others, piece = first :: others ∧ first ≠ '"' := by
  cases spelling with
  | raw other other' visible => exact ⟨_, _, rfl, other⟩
  | short written => exact ⟨_, _, rfl, by decide⟩
  | long written => exact ⟨_, _, rfl, by decide⟩

/-- A string on one line does not look like one over several lines. -/
theorem spellings_ne_lines {chars : List Char} {pieces : List (List Char)}
    (spelled : List.Forall₂ Spelling chars pieces) {rest : List Char}
    (apart : rest.head? ≠ some '"') (more : List Char) :
    pieces.flatten ++ '"' :: rest ≠ '"' :: '"' :: more := by
  intro same
  cases spelled with
  | nil =>
      cases same
      exact apart rfl
  | cons spelling others =>
      obtain ⟨first, tail, rfl, other⟩ := spelling.exists_cons
      exact other (Option.some.inj (congrArg List.head? same))

theorem Spelling.exists_piece (char : Char) : ∃ piece, Spelling char piece := by
  have room : char.toNat < 16 ^ 8 := char.val.toNat_lt
  obtain ⟨digits, length, written⟩ := Digit.exists_writes (by decide) (by decide) 8 room
  rcases digits with
    _ | ⟨a, _ | ⟨b, _ | ⟨c, _ | ⟨d, _ | ⟨e, _ | ⟨f, _ | ⟨g, _ | ⟨h, _ | _⟩⟩⟩⟩⟩⟩⟩⟩ <;> cases length
  exact ⟨_, .long written⟩

theorem exists_pieces (chars : List Char) : ∃ pieces, List.Forall₂ Spelling chars pieces := by
  induction chars with
  | nil => exact ⟨[], .nil⟩
  | cons char rest ih =>
      obtain ⟨piece, spelling⟩ := Spelling.exists_piece char
      obtain ⟨pieces, spelled⟩ := ih
      exact ⟨piece :: pieces, .cons spelling spelled⟩

/-- Every text can be written. -/
theorem exists_quoted (text : String) : ∃ chars, Quoted text chars := by
  obtain ⟨pieces, spelled⟩ := exists_pieces text.toList
  exact ⟨_, pieces, spelled, rfl⟩

namespace Quoted

variable {text : String} {chars : List Char}

theorem of_pieces {pieces : List (List Char)} (same : text.toList = chars)
    (spelled : List.Forall₂ Spelling chars pieces) :
    Quoted text ('"' :: (pieces.flatten ++ ['"'])) :=
  ⟨pieces, same ▸ spelled, rfl⟩

theorem keyPart? (quoted : Quoted text chars) (rest : List Char) :
    Toml.keyPart? (chars ++ rest) = some (text, rest) := by
  obtain ⟨pieces, spelled, rfl⟩ := quoted
  rw [List.cons_append, List.append_assoc, List.singleton_append, keyPart?.eq_1,
    basicString?_spellings spelled]
  simp

theorem string? (quoted : Quoted text chars) {rest : List Char}
    (apart : rest.head? ≠ some '"') : Toml.string? (chars ++ rest) = some (text, rest) := by
  obtain ⟨pieces, spelled, rfl⟩ := quoted
  rw [List.cons_append, List.append_assoc, List.singleton_append,
    string?.eq_3 _ (spellings_ne_lines spelled apart), basicString?_spellings spelled]
  simp [string?.finish]

end Quoted

/-! ## Blanks, comments and newlines -/

def Blanks (chars : List Char) : Prop :=
  ∀ char ∈ chars, char = ' ' ∨ char = '\t'

/-- A comment up to the end of its line, or none. -/
inductive Comment : List Char → Prop where
  | none : Comment []
  | some {text : List Char} (plain : ∀ char ∈ text, isPlain char = true) : Comment ('#' :: text)

inductive Newline : List Char → Prop where
  | lf : Newline ['\n']
  | crlf : Newline ['\r', '\n']

/-- The text starts with the end of a line, and the rest is what follows it.  The last line may
end without a newline. -/
inductive Ending : List Char → List Char → Prop where
  | newline {blanks comment newline : List Char} (empty : Blanks blanks) (note : Comment comment)
      (kind : Newline newline) (rest : List Char) :
      Ending (blanks ++ (comment ++ (newline ++ rest))) rest
  | finish {blanks comment : List Char} (empty : Blanks blanks) (note : Comment comment) :
      Ending (blanks ++ comment) []

theorem skipBlanks_append {blanks : List Char} (empty : Blanks blanks) (rest : List Char) :
    skipBlanks (blanks ++ rest) = skipBlanks rest := by
  refine List.dropWhile_append_of_pos ?_
  intro char member
  rcases empty char member with rfl | rfl <;> decide

theorem skipBlanks_cons {first : Char} (space : first ≠ ' ') (tab : first ≠ '\t')
    (rest : List Char) : skipBlanks (first :: rest) = first :: rest :=
  List.dropWhile_cons_of_neg (by simp [space, tab])

/-- The text is over, or a newline comes next. -/
def Breaks (chars : List Char) : Prop :=
  ∀ first ∈ chars.head?, first = '\n' ∨ first = '\r'

theorem skipBlanks_comment {comment rest : List Char} (note : Comment comment)
    (breaks : Breaks rest) : skipBlanks (comment ++ rest) = comment ++ rest := by
  cases note with
  | none =>
      cases rest with
      | nil => rfl
      | cons first others => rcases breaks first rfl with rfl | rfl <;> rfl
  | some plain => exact skipBlanks_cons (by decide) (by decide) _

theorem skipComment_append {comment rest : List Char} (note : Comment comment)
    (breaks : Breaks rest) : skipComment (comment ++ rest) = rest := by
  cases note with
  | none =>
      cases rest with
      | nil => rfl
      | cons first others => rcases breaks first rfl with rfl | rfl <;> rfl
  | some plain =>
      rw [List.cons_append, skipComment.eq_1, List.dropWhile_append_of_pos plain]
      cases rest with
      | nil => rfl
      | cons first others => rcases breaks first rfl with rfl | rfl <;> rfl

def endingMarks : List Char :=
  [' ', '\t', '#', '\n', '\r']

theorem head?_mem_endingMarks {blanks comment rest : List Char} (empty : Blanks blanks)
    (note : Comment comment) (breaks : Breaks rest) :
    ∀ first ∈ (blanks ++ (comment ++ rest)).head?, first ∈ endingMarks := by
  intro first head
  cases blanks with
  | cons blank others =>
      cases head
      rcases empty first List.mem_cons_self with rfl | rfl <;> decide
  | nil =>
      cases note with
      | some plain =>
          cases head
          decide
      | none => rcases breaks first head with rfl | rfl <;> decide

namespace Ending

variable {tail rest : List Char}

theorem exists_parts (ending : Ending tail rest) :
    ∃ blanks comment after, tail = blanks ++ (comment ++ after) ∧ Blanks blanks ∧
      Comment comment ∧ Breaks after ∧ Toml.lineEnd? after = some rest := by
  cases ending with
  | @newline blanks comment newline empty note kind rest =>
      refine ⟨blanks, comment, newline ++ rest, rfl, empty, note, ?_⟩
      cases kind with
      | lf => exact ⟨by rintro _ ⟨⟩; exact .inl rfl, rfl⟩
      | crlf => exact ⟨by rintro _ ⟨⟩; exact .inr rfl, rfl⟩
  | @finish blanks comment empty note =>
      refine ⟨blanks, comment, [], ?_, empty, note, by rintro _ ⟨⟩, rfl⟩
      rw [List.append_nil]

theorem lineEnd? (ending : Ending tail rest) : Toml.lineEnd? tail = some rest := by
  obtain ⟨blanks, comment, after, rfl, empty, note, breaks, done⟩ := ending.exists_parts
  have alone := skipBlanks_comment .none breaks
  have alone' := skipComment_append .none breaks
  rw [List.nil_append] at alone alone'
  rw [Toml.lineEnd?, alone, alone'] at done
  rw [Toml.lineEnd?, skipBlanks_append empty, skipBlanks_comment note breaks,
    skipComment_append note breaks, done]

theorem head?_mem (ending : Ending tail rest) : ∀ first ∈ tail.head?, first ∈ endingMarks := by
  obtain ⟨blanks, comment, after, rfl, empty, note, breaks, -⟩ := ending.exists_parts
  exact head?_mem_endingMarks empty note breaks

theorem length_le (ending : Ending tail rest) : rest.length ≤ tail.length := by
  cases ending with
  | newline empty note kind rest =>
      simp only [List.length_append]
      omega
  | finish empty note => exact Nat.zero_le _

/-- The end of a line is not empty, unless the text is over. -/
theorem length_lt (ending : Ending tail rest) (nonempty : tail ≠ []) :
    rest.length < tail.length := by
  cases ending with
  | newline empty note kind rest =>
      cases kind <;> simp only [List.length_append, List.length_cons] <;> omega
  | finish empty note => exact List.length_pos_iff.mpr nonempty

end Ending

/-! ## Keys and values -/

inductive KeyText : String → List Char → Prop where
  | bare {text : String} (nonempty : text ≠ "")
      (bare : ∀ char ∈ text.toList, isBareChar char = true) : KeyText text text.toList
  | quoted {text : String} {chars : List Char} (quoted : Quoted text chars) : KeyText text chars

inductive ValueText : Toml → List Char → Prop where
  | yes : ValueText (.bool true) ['t', 'r', 'u', 'e']
  | no : ValueText (.bool false) ['f', 'a', 'l', 's', 'e']
  | string {text : String} {chars : List Char} (quoted : Quoted text chars) :
      ValueText (.string text) chars

/-- No key starts with one of these, and a bare key ends before them. -/
def keyMarks : List Char :=
  [' ', '\t', '#', '\n', '\r', '[', ']', '=', '\'', '\uFEFF']

theorem not_bare_of_mem {char : Char} (mark : char ∈ keyMarks) : isBareChar char = false := by
  have table : keyMarks.all (fun char => isBareChar char == false) = true := by decide
  exact eq_of_beq (List.all_eq_true.mp table char mark)

namespace KeyText

variable {text : String} {chars : List Char}

theorem exists_cons (key : KeyText text chars) :
    ∃ first others, chars = first :: others ∧ first ∉ keyMarks := by
  cases key with
  | bare nonempty bare =>
      have filled : text.toList ≠ [] := fun empty => nonempty (String.toList_eq_nil_iff.mp empty)
      obtain ⟨first, others, whole⟩ := List.exists_cons_of_ne_nil filled
      refine ⟨first, others, whole, fun mark => ?_⟩
      have known := bare first (whole ▸ List.mem_cons_self)
      rw [not_bare_of_mem mark] at known
      cases known
  | quoted quoted =>
      obtain ⟨pieces, -, rfl⟩ := quoted
      exact ⟨'"', _, rfl, by decide⟩

theorem keyPart? (key : KeyText text chars) {rest : List Char}
    (apart : ∀ first ∈ rest.head?, first ∈ keyMarks) :
    Toml.keyPart? (chars ++ rest) = some (text, rest) := by
  obtain ⟨first, others, whole, fresh⟩ := key.exists_cons
  cases key with
  | quoted quoted => exact quoted.keyPart? rest
  | bare nonempty bare =>
      have known := bare first (whole ▸ List.mem_cons_self)
      have starts {mark : Char} (strange : isBareChar mark = false) (more : List Char) :
          text.toList ++ rest ≠ mark :: more := by
        rw [whole]
        rintro ⟨⟩
        rw [strange] at known
        cases known
      have spans := span_append bare fun first head => not_bare_of_mem (apart first head)
      have filled : ¬ text.toList.isEmpty = true := by
        rw [whole]
        exact Bool.false_ne_true
      rw [keyPart?.eq_3 _ (starts (by decide)) (starts (by decide)), spans]
      simp only [if_neg filled, String.ofList_toList]

end KeyText

/-- A key with blanks around it, up to the character that ends it. -/
theorem key?_written {text : String} {chars before after : List Char} (key : KeyText text chars)
    (empty : Blanks before) (empty' : Blanks after) {stop : Char} (stops : stop = ']' ∨ stop = '=')
    (rest : List Char) :
    key? maxNesting (before ++ (chars ++ (after ++ stop :: rest))) =
      some ([text], stop :: rest) := by
  have start : skipBlanks (before ++ (chars ++ (after ++ stop :: rest))) =
      chars ++ (after ++ stop :: rest) := by
    obtain ⟨first, others, rfl, fresh⟩ := key.exists_cons
    rw [skipBlanks_append empty]
    refine skipBlanks_cons ?_ ?_ _
    · rintro rfl
      exact fresh (by decide)
    · rintro rfl
      exact fresh (by decide)
  have apart : ∀ first ∈ (after ++ stop :: rest).head?, first ∈ keyMarks := by
    intro first head
    cases after with
    | nil =>
        cases head
        rcases stops with rfl | rfl <;> decide
    | cons blank others =>
        cases head
        rcases empty' first List.mem_cons_self with rfl | rfl <;> decide
  have stopped : skipBlanks (after ++ stop :: rest) = stop :: rest := by
    rw [skipBlanks_append empty']
    rcases stops with rfl | rfl <;> rfl
  rw [maxNesting, key?.eq_2, start, key.keyPart? apart]
  simp only [Option.bind_eq_bind, Option.bind_some, stopped]
  rcases stops with rfl | rfl <;> rfl

/-- Letters that are a scalar and no date, up to the end of the line. -/
theorem value?_of_letters {first : Char} {others rest : List Char} {value : Toml}
    (letter : ∀ char ∈ first :: others, char.isAlpha = true)
    (apart : ∀ mark ∈ rest.head?, isScalarChar mark = false)
    (date : date? (first :: others) = none) (known : scalar? (first :: others) = some value) :
    value? maxNesting (first :: others ++ rest) = some (value, rest) := by
  have scalar : ∀ char ∈ first :: others, isScalarChar char = true := by
    intro char member
    simp [isScalarChar, Char.isAlphanum, letter char member]
  have other {mark : Char} (strange : mark.isAlpha = false) (more : List Char) :
      first :: others ++ rest ≠ mark :: more := by
    rintro ⟨⟩
    rw [letter first List.mem_cons_self] at strange
    cases strange
  rw [value?.eq_5 _ _ (other (by decide)) (other (by decide))
    (fun _ more _ => other (by decide) more)
    (fun _ more _ => other (by decide) more), scalarFront?, span_append scalar apart]
  simp only [date, known, Option.bind_eq_bind, Option.bind_some]
  rfl

theorem value?_written {value : Toml} {chars rest : List Char} (written : ValueText value chars)
    (apart : ∀ first ∈ rest.head?, first ∈ endingMarks) :
    value? maxNesting (chars ++ rest) = some (value, rest) := by
  have marks : ∀ first ∈ rest.head?, isScalarChar first = false := by
    have table : endingMarks.all (fun mark => isScalarChar mark == false) = true := by decide
    exact fun first head => eq_of_beq (List.all_eq_true.mp table first (apart first head))
  cases written with
  | yes => exact value?_of_letters (List.all_eq_true.mp (by decide)) marks rfl rfl
  | no => exact value?_of_letters (List.all_eq_true.mp (by decide)) marks rfl rfl
  | string quoted =>
      have other : rest.head? ≠ some '"' := fun head => absurd (apart '"' head) (by decide)
      have read := quoted.string? other
      obtain ⟨pieces, spelled, rfl⟩ := quoted
      rw [List.cons_append, value?.eq_1, ← List.cons_append, read]
      rfl

/-! ## Lines -/

inductive Line where
  | header (name : String)
  | entry (key : String) (value : Toml)

def Line.change? (document : Document) : Line → Option Document
  | .header name => document.openTable? [name]
  | .entry key value => document.set? [key] value

inductive LineText : Line → List Char → Prop where
  | header {name : String} {chars before inner after : List Char} (empty : Blanks before)
      (empty' : Blanks inner) (key : KeyText name chars) (empty'' : Blanks after) :
      LineText (.header name) (before ++ '[' :: (inner ++ (chars ++ (after ++ [']']))))
  | entry {key : String} {value : Toml} {chars before between after chars' : List Char}
      (empty : Blanks before) (name : KeyText key chars) (empty' : Blanks between)
      (empty'' : Blanks after) (content : ValueText value chars') :
      LineText (.entry key value) (before ++ (chars ++ (between ++ '=' :: (after ++ chars'))))

theorem header?_written {name : String} {chars inner after tail rest : List Char}
    (empty : Blanks inner) (key : KeyText name chars) (empty' : Blanks after)
    (ending : Ending tail rest) :
    header? [']'] (inner ++ (chars ++ (after ++ ']' :: tail))) = some ([name], rest) := by
  rw [header?, key?_written key empty empty' (.inl rfl)]
  change ((Toml.lineEnd? tail).bind fun rest => some ([name], rest)) = _
  rw [ending.lineEnd?, Option.bind_some]

theorem line?_header {name : String} {chars before inner after tail rest : List Char}
    (empty : Blanks before) (empty' : Blanks inner) (key : KeyText name chars)
    (empty'' : Blanks after) (ending : Ending tail rest) (document : Document) :
    line? document (before ++ '[' :: (inner ++ (chars ++ (after ++ ']' :: tail)))) =
      (document.openTable? [name]).map fun changed => (changed, rest) := by
  have single : (inner ++ (chars ++ (after ++ ']' :: tail))).head? ≠ some '[' := by
    intro head
    cases inner with
    | nil =>
        obtain ⟨first, others, rfl, fresh⟩ := key.exists_cons
        cases head
        exact fresh (by decide)
    | cons blank others =>
        cases head
        exact absurd (empty' _ List.mem_cons_self) (by decide)
  rw [line?, skipBlanks_append empty, skipBlanks_cons (by decide) (by decide)]
  split
  · next more same =>
      obtain ⟨-, same⟩ := List.cons.inj same
      rw [same] at single
      exact absurd rfl single
  · next more _ same =>
      obtain ⟨-, rfl⟩ := List.cons.inj same
      rw [header?_written empty' key empty'' ending]
      exact Option.map_eq_bind.symm
  · next none => exact absurd rfl (none _)

theorem lineEnd?_eq_none {first : Char} (fresh : first ∉ keyMarks) (others : List Char) :
    lineEnd? (first :: others) = none := by
  have other {mark : Char} (listed : mark ∈ keyMarks) : first ≠ mark := by
    rintro rfl
    exact fresh listed
  have skipped : skipComment (skipBlanks (first :: others)) = first :: others := by
    rw [skipBlanks_cons (other (by decide)) (other (by decide)), skipComment.eq_2]
    rintro _ ⟨⟩
    exact other (by decide) rfl
  rw [lineEnd?, skipped]
  refine newline?.eq_3 _ ?_ ?_
  · rintro _ ⟨⟩
    exact other (by decide) rfl
  · rintro _ ⟨⟩
    exact other (by decide) rfl

theorem skipBlanks_value {value : Toml} {chars blanks : List Char}
    (written : ValueText value chars) (empty : Blanks blanks) (rest : List Char) :
    skipBlanks (blanks ++ (chars ++ rest)) = chars ++ rest := by
  rw [skipBlanks_append empty]
  cases written with
  | yes => exact skipBlanks_cons (by decide) (by decide) _
  | no => exact skipBlanks_cons (by decide) (by decide) _
  | string quoted =>
      obtain ⟨pieces, -, rfl⟩ := quoted
      exact skipBlanks_cons (by decide) (by decide) _

theorem line?_entry {key : String} {value : Toml}
    {chars before between after chars' tail rest : List Char} (empty : Blanks before)
    (name : KeyText key chars) (empty' : Blanks between) (empty'' : Blanks after)
    (content : ValueText value chars') (ending : Ending tail rest) (document : Document) :
    line? document (before ++ (chars ++ (between ++ '=' :: (after ++ (chars' ++ tail))))) =
      (document.set? [key] value).map fun changed => (changed, rest) := by
  have nothing : Blanks [] := by rintro _ ⟨⟩
  have read := key?_written name nothing empty' (.inr rfl) (after ++ (chars' ++ tail))
  obtain ⟨first, others, rfl, fresh⟩ := name.exists_cons
  have other {mark : Char} (listed : mark ∈ keyMarks) : first ≠ mark := by
    rintro rfl
    exact fresh listed
  rw [List.nil_append, List.cons_append] at read
  rw [line?, skipBlanks_append empty, List.cons_append,
    skipBlanks_cons (other (by decide)) (other (by decide))]
  split
  · next same => exact absurd (List.cons.inj same).1 (other (by decide))
  · next same => exact absurd (List.cons.inj same).1 (other (by decide))
  · rw [lineEnd?_eq_none fresh]
    simp only [read, Option.bind_eq_bind, Option.bind_some, skipBlanks_value content empty'',
      value?_written content ending.head?_mem, ending.lineEnd?]
    exact Option.map_eq_bind.symm

theorem line?_written {line : Line} {chars tail rest : List Char} (written : LineText line chars)
    (ending : Ending tail rest) (document : Document) :
    line? document (chars ++ tail) =
      (line.change? document).map fun changed => (changed, rest) := by
  cases written with
  | header empty empty' key empty'' =>
      simp only [List.append_assoc, List.cons_append, List.nil_append]
      exact line?_header empty empty' key empty'' ending document
  | entry empty name empty' empty'' content =>
      simp only [List.append_assoc, List.cons_append]
      exact line?_entry empty name empty' empty'' content ending document

theorem line?_blank {tail rest : List Char} (ending : Ending tail rest) (document : Document) :
    line? document tail = some (document, rest) := by
  have same : Toml.lineEnd? (skipBlanks tail) = some rest := by
    rw [← ending.lineEnd?, Toml.lineEnd?, Toml.lineEnd?, skipBlanks, skipBlanks,
      List.dropWhile_idempotent]
  have head : (skipBlanks tail).head? ≠ some '[' := by
    obtain ⟨blanks, comment, after, rfl, empty, note, breaks, -⟩ := ending.exists_parts
    rw [skipBlanks_append empty, skipBlanks_comment note breaks]
    intro head
    have nothing : Blanks [] := by rintro _ ⟨⟩
    exact absurd (head?_mem_endingMarks nothing note breaks '[' head) (by decide)
  rw [line?]
  split
  · next found => exact absurd (found ▸ rfl) head
  · next found => exact absurd (found ▸ rfl) head
  · rw [same]

/-! ## Texts -/

/-- A way to write lines, with empty lines and comments anywhere. -/
inductive Written : List Line → List Char → Prop where
  | done : Written [] []
  | blank {lines : List Line} {tail rest : List Char} (ending : Ending tail rest)
      (more : Written lines rest) : Written lines tail
  | line {line : Line} {lines : List Line} {chars tail rest : List Char}
      (written : LineText line chars) (ending : Ending tail rest) (more : Written lines rest) :
      Written (line :: lines) (chars ++ tail)

theorem exists_lineText_header (name : String) : ∃ chars, LineText (.header name) chars := by
  obtain ⟨chars, quoted⟩ := exists_quoted name
  have none : Blanks [] := List.forall_mem_nil _
  exact ⟨_, .header none none (.quoted quoted) none⟩

theorem exists_lineText_entry (key : String) {value : Toml}
    (writable : ∃ chars, ValueText value chars) : ∃ chars, LineText (.entry key value) chars := by
  obtain ⟨chars, quoted⟩ := exists_quoted key
  obtain ⟨chars', content⟩ := writable
  have none : Blanks [] := List.forall_mem_nil _
  exact ⟨_, .entry none (.quoted quoted) none none content⟩

/-- Lines that can be written each can be written below each other. -/
theorem exists_written {lines : List Line}
    (writable : ∀ line ∈ lines, ∃ chars, LineText line chars) : ∃ chars, Written lines chars := by
  induction lines with
  | nil => exact ⟨[], .done⟩
  | cons line lines ih =>
      obtain ⟨chars, written⟩ := writable line List.mem_cons_self
      obtain ⟨rest, more⟩ := ih fun line member => writable line (List.mem_cons_of_mem _ member)
      exact ⟨_, .line written (.newline (List.forall_mem_nil _) .none .lf rest) more⟩

theorem LineText.exists_cons {line : Line} {chars : List Char} (written : LineText line chars) :
    ∃ first others, chars = first :: others ∧ first ≠ '\uFEFF' := by
  have blank {first : Char} {others : List Char} (empty : Blanks (first :: others)) :
      first ≠ '\uFEFF' := by
    rcases empty first List.mem_cons_self with rfl | rfl <;> decide
  cases written with
  | @header name chars before inner after empty empty' key empty'' =>
      cases before with
      | nil => exact ⟨_, _, rfl, by decide⟩
      | cons first others => exact ⟨_, _, rfl, blank empty⟩
  | @entry key value chars before between after chars' empty name empty' empty'' content =>
      cases before with
      | nil =>
          obtain ⟨first, others, rfl, fresh⟩ := name.exists_cons
          refine ⟨_, _, rfl, ?_⟩
          rintro rfl
          exact fresh (by decide)
      | cons first others => exact ⟨_, _, rfl, blank empty⟩

/-- Written lines do not start with a byte order mark. -/
theorem Written.dropMark {lines : List Line} {text : List Char} (written : Written lines text) :
    Toml.dropMark text = text := by
  refine dropMark.eq_2 text ?_
  rintro rest rfl
  generalize whole : '\uFEFF' :: rest = text at written
  cases written with
  | done => cases whole
  | blank ending more =>
      have mark := ending.head?_mem '\uFEFF' (by rw [← whole]; rfl)
      exact absurd mark (by decide)
  | line written ending more =>
      obtain ⟨first, others, rfl, other⟩ := written.exists_cons
      exact other (List.cons.inj whole).1.symm

/-- Written lines are applied one after the other. -/
theorem lines?_written {lines : List Line} {text : List Char} (written : Written lines text)
    {fuel : Nat} (enough : text.length ≤ fuel) (document : Document) :
    lines? fuel document text = lines.foldlM Line.change? document := by
  induction written generalizing fuel document with
  | done => exact lines?.eq_1 fuel document
  | @blank lines tail rest ending more ih =>
      by_cases ended : tail = []
      · have shorter := ending.length_le
        subst ended
        have nothing : rest = [] := List.length_eq_zero_iff.mp (Nat.le_zero.mp shorter)
        rw [← ih (Nat.le_trans shorter enough), nothing]
      · have shorter := ending.length_lt ended
        obtain ⟨fuel, rfl⟩ := Nat.exists_eq_add_one_of_ne_zero (by omega : fuel ≠ 0)
        rw [lines?.eq_3 _ _ _ ended, line?_blank ending]
        exact ih (by omega) document
  | @line line lines chars tail rest written ending more ih =>
      have shorter := ending.length_le
      have filled : chars ++ tail ≠ [] ∧ 0 < chars.length := by
        obtain ⟨first, others, rfl, -⟩ := written.exists_cons
        exact ⟨List.cons_ne_nil _ _, Nat.succ_pos _⟩
      rw [List.length_append] at enough
      obtain ⟨fuel, rfl⟩ := Nat.exists_eq_add_one_of_ne_zero (by omega : fuel ≠ 0)
      rw [lines?.eq_3 _ _ _ filled.1, line?_written written ending, List.foldlM_cons]
      cases line.change? document with
      | none => rfl
      | some changed => exact ih (by omega) changed

end ShellTree.Toml
