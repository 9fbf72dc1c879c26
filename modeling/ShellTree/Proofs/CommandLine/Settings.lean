import ShellTree.CommandLine.Run
import ShellTree.Proofs.Environment.Log
import ShellTree.Proofs.Toml.Tables
import ShellTree.Proofs.Vocabulary

/-!
# Settings and arguments

A document with a table of options and a table of variables is read as these options and
these variables in their order.  An argument that gives a variable is split at its
first equals sign.  The environment that a run starts with lists the variables of
the document and then those of the arguments, each name where it is given first and
with the value that is given last.
-/

namespace ShellTree

/-! ## Settings in a document -/

def Options.entries (options : Options) : Toml.Entries :=
  [("exit_on_error", .bool options.exitOnError), ("print_executed", .bool options.printExecuted),
    ("slice_mode", .string (Vocabulary.name options.sliceMode))]

/-- Options are read from their entries in any order. -/
theorem Options.ofToml?_entries {options : Options} {entries : Toml.Entries}
    (given : entries.Perm options.entries) (origin : TableOrigin) :
    Options.ofToml? (.table origin entries) = some options := by
  have distinct : (entries.map Prod.fst).Nodup := by
    rw [(given.map Prod.fst).nodup_iff]
    change fieldNames.Nodup
    decide
  have lookup {key : String} {value : Toml} (listed : (key, value) ∈ options.entries) :
      entries.lookup key = some value := lookup_of_mem distinct (given.mem_iff.mpr listed)
  have first := lookup (List.mem_cons_self)
  have second := lookup (List.mem_cons_of_mem _ List.mem_cons_self)
  have third := lookup (List.mem_cons_of_mem _ (List.mem_cons_of_mem _ List.mem_cons_self))
  simp [Options.ofToml?, Toml.fields?, Toml.entriesOf?, fieldNames, first, second, third,
    Toml.defaulted, Toml.bool?, Toml.name?]

namespace Settings

def textEntries (pairs : List (String × String)) : Toml.Entries :=
  pairs.map fun pair => (pair.1, .string pair.2)

theorem bindings?_textEntries (pairs : List (String × String)) (origin : TableOrigin) :
    bindings? (.table origin (textEntries pairs)) = some (.ofPairs pairs) := by
  have read : ((textEntries pairs).mapM fun entry : String × Toml => do
      return (entry.1, ← entry.2.text?)) = some pairs := by
    induction pairs with
    | nil => rfl
    | cons pair rest ih =>
        change ((pair.1, Toml.string pair.2) :: textEntries rest).mapM _ = _
        rw [List.mapM_cons, ih]
        rfl
  rw [bindings?, Toml.entriesOf?, Option.bind_eq_bind, Option.bind_some]
  exact congrArg (fun found : Option (List (String × String)) => found.bind fun pairs =>
    some (Bindings.ofPairs pairs)) read

/-- The text is a document with a table of options, whose entries stand in any order, and a table
of variables with one line for each pair. -/
def Describes (options : Options) (pairs : List (String × String)) (text : String) : Prop :=
  ∃ (entries : Toml.Entries) (tables : List (String × Toml.Entries)),
    entries.Perm options.entries ∧
    tables.Perm [("options", entries), ("env", textEntries pairs)] ∧
    Toml.Written (tables.flatMap Toml.tableLines) text.toList

/-- All options and variables can be described. -/
theorem exists_describes (options : Options) (pairs : List (String × String)) :
    ∃ text, Describes options pairs text := by
  have bool (value : Bool) : ∃ chars, Toml.ValueText (.bool value) chars := by
    cases value with
    | true => exact ⟨_, .yes⟩
    | false => exact ⟨_, .no⟩
  have string (value : String) : ∃ chars, Toml.ValueText (.string value) chars := by
    obtain ⟨chars, quoted⟩ := Toml.exists_quoted value
    exact ⟨chars, .string quoted⟩
  have texts : ∀ entry ∈ options.entries ++ textEntries pairs,
      ∃ chars, Toml.ValueText entry.2 chars := by
    intro entry member
    simp only [Options.entries, textEntries, List.cons_append, List.nil_append, List.mem_cons,
      List.mem_map] at member
    rcases member with rfl | rfl | rfl | ⟨pair, -, rfl⟩
    · exact bool _
    · exact bool _
    · exact string _
    · exact string _
  have writable : ∀ line ∈ [("options", options.entries), ("env", textEntries pairs)].flatMap
      Toml.tableLines, ∃ chars, Toml.LineText line chars := by
    intro line member
    simp only [List.flatMap_cons, List.flatMap_nil, List.append_nil, Toml.tableLines,
      List.mem_append, List.mem_cons, List.mem_map] at member
    rcases member with (rfl | ⟨entry, listed, rfl⟩) | (rfl | ⟨entry, listed, rfl⟩)
    · exact Toml.exists_lineText_header _
    · exact Toml.exists_lineText_entry _ (texts entry (List.mem_append_left _ listed))
    · exact Toml.exists_lineText_header _
    · exact Toml.exists_lineText_entry _ (texts entry (List.mem_append_right _ listed))
  obtain ⟨chars, written⟩ := Toml.exists_written writable
  refine ⟨String.ofList chars, options.entries, _, .refl _, .refl _, ?_⟩
  rwa [String.toList_ofList]

theorem ofToml?_of_describes {options : Options} {pairs : List (String × String)}
    (distinct : (pairs.map Prod.fst).Nodup) {text : String}
    (describes : Describes options pairs text) :
    ofToml? text = some ⟨options, .ofPairs pairs⟩ := by
  obtain ⟨entries, tables, given, both, written⟩ := describes
  have names : (tables.map Prod.fst).Nodup := by
    rw [(both.map Prod.fst).nodup_iff]
    change ["options", "env"].Nodup
    decide
  have keys : ∀ table ∈ tables, (table.2.map Prod.fst).Nodup := by
    intro table member
    have listed := both.mem_iff.mp member
    simp only [List.mem_cons, List.not_mem_nil, or_false] at listed
    rcases listed with rfl | rfl
    · rw [(given.map Prod.fst).nodup_iff]
      change Options.fieldNames.Nodup
      decide
    · rw [textEntries, List.map_map]
      exact distinct
  have lookup {table : String × Toml.Entries}
      (listed : table ∈ [("options", entries), ("env", textEntries pairs)]) :
      (tables.map Toml.tableEntry).lookup table.1 = some (.table .header table.2) := by
    refine lookup_of_mem ?_ (List.mem_map_of_mem (both.mem_iff.mpr listed))
    rw [List.map_map]
    exact names
  have first := lookup List.mem_cons_self
  have second := lookup (List.mem_cons_of_mem _ List.mem_cons_self)
  rw [ofToml?, Toml.ofText?_written names keys written, Option.bind_eq_bind, Option.bind_some,
    first, second]
  simp only [Toml.defaulted, Options.ofToml?_entries given, bindings?_textEntries]
  rfl

end Settings

/-! ## Variables on the command line -/

theorem span_before_equals {before rest : List Char} (first : '=' ∉ before)
    (stops : ∀ char ∈ rest.head?, char = '=') :
    (before ++ rest).span (· != '=') = (before, rest) := by
  refine span_append ?_ ?_
  · intro char member
    refine bne_iff_ne.mpr ?_
    rintro rfl
    exact first member
  · intro char head
    rw [stops char head]
    rfl

/-- The first equals sign splits a text. -/
theorem splitPair_append {before : List Char} (first : '=' ∉ before) (after : List Char) :
    splitPair (before ++ '=' :: after) = (before, some after) := by
  have stops : ∀ char ∈ ('=' :: after).head?, char = '=' := by
    rintro _ ⟨⟩
    rfl
  rw [splitPair, span_before_equals first stops]

theorem splitPair_whole {chars : List Char} (missing : '=' ∉ chars) :
    splitPair chars = (chars, none) := by
  have stops : ∀ char ∈ ([] : List Char).head?, char = '=' := by
    intro char head
    cases head
  have spans := span_before_equals missing stops
  rw [List.append_nil] at spans
  rw [splitPair, spans]

theorem pair?_append {text : String} {before after : List Char} (nonempty : before ≠ [])
    (first : '=' ∉ before) (whole : text.toList = before ++ '=' :: after) :
    pair? text = some (String.ofList before, String.ofList after) := by
  rw [pair?, whole, splitPair_append first]
  cases before with
  | nil => exact absurd rfl nonempty
  | cons char rest => rfl

/-- An argument is a variable with its value exactly if a text that is not empty stands before
its first equals sign. -/
theorem pair?_eq_some_iff {text name value : String} :
    pair? text = some (name, value) ↔
      name ≠ "" ∧ '=' ∉ name.toList ∧ text = name ++ "=" ++ value := by
  constructor
  · intro accepted
    by_cases present : '=' ∈ text.toList
    · obtain ⟨before, after, whole, first⟩ := List.eq_append_cons_of_mem present
      by_cases nonempty : before = []
      · rw [pair?, whole, splitPair_append first, nonempty] at accepted
        cases accepted
      · rw [pair?_append nonempty first whole] at accepted
        obtain ⟨rfl, rfl⟩ := Prod.mk.inj (Option.some.inj accepted)
        refine ⟨?_, ?_, ?_⟩
        · simpa using nonempty
        · rwa [String.toList_ofList]
        · rw [← String.ofList_toList (s := text), whole, String.ofList_append, String.ofList_cons,
            String.append_assoc]
          rfl
    · rw [pair?, splitPair_whole present] at accepted
      cases shape : text.toList <;> rw [shape] at accepted <;> cases accepted
  · rintro ⟨nonempty, first, rfl⟩
    have filled : name.toList ≠ [] := fun empty => nonempty (String.toList_eq_nil_iff.mp empty)
    have whole : (name ++ "=" ++ value).toList = name.toList ++ '=' :: value.toList := by
      rw [String.toList_append, String.toList_append, List.append_assoc]
      rfl
    rw [pair?_append filled first whole, String.ofList_toList, String.ofList_toList]

namespace Arguments

/-- The command line gives the texts to the option for variables, each attached to the option or
as the next argument. -/
inductive Gives : List String → List String → Prop where
  | nil : Gives [] []
  | attached (text : String) {texts given : List String} (others : Gives texts given) :
      Gives (text :: texts) (("--env=" ++ text) :: given)
  | apart {text : String} (value : isValue text = true) {texts given : List String}
      (others : Gives texts given) : Gives (text :: texts) ("--env" :: text :: given)

def extend (known : Arguments) (extra : List (String × String)) : Arguments :=
  { known with bindings := known.bindings ++ extra }

theorem ofName?_env :
    Switch.ofName? (String.ofList ['e', 'n', 'v']) = none ∧
      Setting.ofName? (String.ofList ['e', 'n', 'v']) = some .binding := by
  decide

theorem parse?_attached (known : Arguments) (text : String) (rest : List String) :
    known.parse? (("--env=" ++ text) :: rest) =
      (pair? text).bind fun pair => (known.extend [pair]).parse? rest := by
  have chars : ("--env=" ++ text).toList =
      '-' :: '-' :: (['e', 'n', 'v'] ++ '=' :: text.toList) := by
    rw [String.toList_append]
    rfl
  have split := splitPair_append (by decide : '=' ∉ ['e', 'n', 'v']) text.toList
  rw [parse?, chars]
  simp only [List.cons_append, List.nil_append] at split ⊢
  rw [split]
  simp only [ofName?_env, setting?, String.ofList_toList, Option.bind_map]
  rfl

theorem parse?_apart (known : Arguments) {text : String} (value : isValue text = true)
    (rest : List String) :
    known.parse? ("--env" :: text :: rest) =
      (pair? text).bind fun pair => (known.extend [pair]).parse? rest := by
  have chars : "--env".toList = ['-', '-', 'e', 'n', 'v'] := by decide
  have split : splitPair ['e', 'n', 'v'] = (['e', 'n', 'v'], none) := splitPair_whole (by decide)
  rw [parse?, chars]
  simp only [split, ofName?_env, if_pos value, setting?, Option.bind_map]
  rfl

theorem extend_extend (known : Arguments) (first second : List (String × String)) :
    (known.extend first).extend second = known.extend (first ++ second) := by
  simp only [extend, List.append_assoc]

/-- Taking one variable and then all others is taking all of them. -/
theorem bind_extend (known : Arguments) (text : String) (texts rest : List String) :
    ((pair? text).bind fun pair =>
      (texts.mapM pair?).bind fun extra => ((known.extend [pair]).extend extra).parse? rest) =
    ((text :: texts).mapM pair?).bind fun extra => (known.extend extra).parse? rest := by
  rw [List.mapM_cons]
  cases pair? text with
  | none => rfl
  | some pair =>
      cases texts.mapM pair? with
      | none => rfl
      | some extra => exact congrArg (fun all => parse? all rest) (extend_extend known [pair] extra)

/-- Variables are added in the order of the command line, and one text that is no variable with
its value spoils all. -/
theorem parse?_gives {texts given : List String} (gives : Gives texts given) (known : Arguments)
    (rest : List String) :
    known.parse? (given ++ rest) =
      (texts.mapM pair?).bind fun extra => (known.extend extra).parse? rest := by
  induction gives generalizing known with
  | nil => simp [extend]
  | attached text others ih =>
      rw [List.cons_append, parse?_attached]
      simp only [ih]
      exact bind_extend known text _ rest
  | apart value others ih =>
      rw [List.cons_append, List.cons_append, parse?_apart known value]
      simp only [ih]
      exact bind_extend known _ _ rest

end Arguments

/-! ## The first environment -/

theorem Bindings.putPair_fresh {name : String} {pairs : List (String × String)}
    (fresh : name ∉ pairs.map Prod.fst) (value : String) :
    putPair name value pairs = pairs ++ [(name, value)] := by
  induction pairs with
  | nil => rfl
  | cons pair rest ih =>
      obtain ⟨bound, old⟩ := pair
      rw [List.map_cons, List.mem_cons, not_or] at fresh
      rw [putPair, if_neg (Ne.symm fresh.1), ih fresh.2, List.cons_append]

/-- Pairs with distinct names are kept as they are. -/
theorem Bindings.pairs_ofPairs {pairs : List (String × String)}
    (distinct : (pairs.map Prod.fst).Nodup) : (ofPairs pairs).pairs = pairs := by
  induction pairs using List.reverseRecOn with
  | nil => rfl
  | append_singleton pairs pair ih =>
      obtain ⟨name, value⟩ := pair
      rw [List.map_append, List.map_singleton] at distinct
      have kept := ih (List.nodup_append.mp distinct).1
      have fresh : name ∉ pairs.map Prod.fst := fun member =>
        (List.nodup_append.mp distinct).2.2 name member name List.mem_cons_self rfl
      rw [ofPairs_snoc]
      change putPair name value (ofPairs pairs).pairs = _
      rw [kept, putPair_fresh fresh value]

namespace CommandLine

/-- The environment that a run starts with lists the variables of the settings and then those of
the arguments. -/
theorem describes_environment (arguments : Arguments) (options : Options)
    (pairs : List (String × String)) :
    let environment := (applyArguments arguments ⟨options, .ofPairs pairs⟩).environment
    environment.layers.length = 1 ∧
      Environment.Log.Describes { writes := pairs ++ arguments.bindings } environment := by
  have top : (Bindings.ofPairs pairs).putAll arguments.bindings =
      .ofPairs (pairs ++ arguments.bindings) :=
    (Bindings.putAll_append {} pairs arguments.bindings).symm
  refine ⟨rfl, Environment.Log.describes_of_tracks ?_⟩
  change Environment.Tracks _ _ [(Bindings.ofPairs pairs).putAll arguments.bindings]
  rw [top]
  exact .base _

/-- Options and variables of a document and variables of the command line arrive unchanged and in
their order.  The run starts with one layer, which lists each name once, where it is given first,
with the value that is given last. -/
theorem settings_arrive (options : Options) {pairs : List (String × String)}
    (distinct : (pairs.map Prod.fst).Nodup) (texts : List String) :
    (∃ text, Settings.Describes options pairs text) ∧
      (∀ text, Settings.Describes options pairs text →
        ∃ settings, Settings.ofToml? text = some settings ∧ settings.options = options ∧
          settings.bindings.pairs = pairs ∧
          ∀ arguments : Arguments,
            let environment := (applyArguments arguments settings).environment
            environment.layers.length = 1 ∧
              Environment.Log.Describes { writes := pairs ++ arguments.bindings } environment) ∧
      (∀ text name value, pair? text = some (name, value) ↔
        name ≠ "" ∧ '=' ∉ name.toList ∧ text = name ++ "=" ++ value) ∧
      ∀ (given : List String), Arguments.Gives texts given →
        ∀ (known : Arguments) (rest : List String), known.parse? (given ++ rest) =
          (texts.mapM pair?).bind fun extra => (known.extend extra).parse? rest := by
  refine ⟨Settings.exists_describes options pairs, ?_, fun text name value => pair?_eq_some_iff,
    fun given gives => Arguments.parse?_gives gives⟩
  intro text describes
  refine ⟨_, Settings.ofToml?_of_describes distinct describes, rfl,
    Bindings.pairs_ofPairs distinct, fun arguments => ?_⟩
  exact describes_environment arguments options pairs

/-- Names that only a string can be the key for. -/
def oddPairs : List (String × String) :=
  [("", "\"é"), ("x.y", "😀"), ("=\n", "")]

def oddOptions : Options :=
  ⟨true, false, .count⟩

/-- The options stand in another order than their fields. -/
def oddText : String :=
  "# odd\n[options]\r\nslice_mode = \"count\"\nprint_executed=false # no\n" ++
    "\texit_on_error = true\n\n[ \"env\" ]\n\"\" = \"\\u0022é\"\n" ++
    "\"x.\\u0079\" = \"\\U0001f600\"\n\"=\\u000A\" = \"\""

def oddTables : List (String × Toml.Entries) :=
  [("options", oddOptions.entries.reverse), ("env", Settings.textEntries oddPairs)]

theorem oddText_describes : Settings.Describes oddOptions oddPairs oddText := by
  have none : Toml.Blanks [] := List.forall_mem_nil _
  have space : Toml.Blanks [' '] := by simp [Toml.Blanks]
  have tab : Toml.Blanks ['\t'] := by simp [Toml.Blanks]
  have raw {char : Char} (plain : char ≠ '"' ∧ char ≠ '\\' ∧ 0x20 ≤ char.toNat ∧
      char.toNat ≠ 0x7F) : Toml.Spelling char [char] :=
    .raw plain.1 plain.2.1 (.inr plain.2.2)
  have code (char : Char) (digits : List Char)
      (written : digits.all (Digit.isDigitOf 16) = true ∧ Digit.toNat 16 digits = char.toNat) :
      Digit.Writes 16 char.toNat digits :=
    Digit.writes_iff.mpr ⟨List.all_eq_true.mp written.1, written.2⟩
  have bare (key : String) (plain : key ≠ "" ∧ key.toList.all Toml.isBareChar = true) :
      Toml.KeyText key key.toList := .bare plain.1 (List.all_eq_true.mp plain.2)
  have note (text : List Char) (plain : text.all Toml.isPlain = true) :
      Toml.Comment ('#' :: text) := .some (List.all_eq_true.mp plain)
  have lf (rest : List Char) : Toml.Ending ('\n' :: rest) rest := .newline none .none .lf rest
  have empty : Toml.Quoted "" ['"', '"'] := ⟨[], .nil, rfl⟩
  have count : Toml.Quoted "count" ['"', 'c', 'o', 'u', 'n', 't', '"'] :=
    .of_pieces (by decide) (.cons (raw (by decide)) (.cons (raw (by decide))
      (.cons (raw (by decide)) (.cons (raw (by decide)) (.cons (raw (by decide)) .nil)))))
  have env : Toml.Quoted "env" ['"', 'e', 'n', 'v', '"'] :=
    .of_pieces (by decide)
      (.cons (raw (by decide)) (.cons (raw (by decide)) (.cons (raw (by decide)) .nil)))
  have quote : Toml.Quoted "\"é" ['"', '\\', 'u', '0', '0', '2', '2', 'é', '"'] :=
    .of_pieces (by decide)
      (.cons (.short (code '"' ['0', '0', '2', '2'] (by decide))) (.cons (raw (by decide)) .nil))
  have point : Toml.Quoted "x.y" ['"', 'x', '.', '\\', 'u', '0', '0', '7', '9', '"'] :=
    .of_pieces (by decide) (.cons (raw (by decide)) (.cons (raw (by decide))
      (.cons (.short (code 'y' ['0', '0', '7', '9'] (by decide))) .nil)))
  have face : Toml.Quoted "😀"
      ['"', '\\', 'U', '0', '0', '0', '1', 'f', '6', '0', '0', '"'] :=
    .of_pieces (by decide)
      (.cons (.long (code '😀' ['0', '0', '0', '1', 'f', '6', '0', '0'] (by decide))) .nil)
  have equals : Toml.Quoted "=\n" ['"', '=', '\\', 'u', '0', '0', '0', 'A', '"'] :=
    .of_pieces (by decide) (.cons (raw (by decide))
      (.cons (.short (code '\n' ['0', '0', '0', 'A'] (by decide))) .nil))
  have written : ∃ chars, chars = oddText.toList ∧
      Toml.Written (oddTables.flatMap Toml.tableLines) chars := by
    refine ⟨_, ?_, .blank (.newline none (note [' ', 'o', 'd', 'd'] (by decide)) .lf _)
      (.line (.header none none (bare "options" (by decide)) none) (.newline none .none .crlf _)
      (.line (.entry none (bare "slice_mode" (by decide)) space space (.string count)) (lf _)
      (.line (.entry none (bare "print_executed" (by decide)) none none .no)
        (.newline space (note [' ', 'n', 'o'] (by decide)) .lf _)
      (.line (.entry tab (bare "exit_on_error" (by decide)) space space .yes) (lf _)
      (.blank (lf _)
      (.line (.header none space (.quoted env) space) (lf _)
      (.line (.entry none (.quoted empty) space space (.string quote)) (lf _)
      (.line (.entry none (.quoted point) space space (.string face)) (lf _)
      (.line (.entry none (.quoted equals) space space (.string empty))
        (.finish none .none) .done)))))))))⟩
    decide +kernel
  obtain ⟨chars, same, written⟩ := written
  rw [same] at written
  exact ⟨oddOptions.entries.reverse, oddTables, List.reverse_perm _, .refl _, written⟩

/-- The second variable of the document gets another value, and the last of three values
holds. -/
theorem oddText_arrives :
    ∃ settings, Settings.ofToml? oddText = some settings ∧ settings.options = oddOptions ∧
      settings.bindings.pairs = oddPairs ∧
      ∃ arguments,
        Arguments.parse? {} ["--env=k=1", "--env", "x.y=2=3", "--env=k=4", "--json"] =
          some (.run arguments) ∧
        (applyArguments arguments settings).environment.bindings.pairs =
          [("", "\"é"), ("x.y", "2=3"), ("=\n", ""), ("k", "4")] := by
  obtain ⟨-, reads, -, parses⟩ :=
    settings_arrive oddOptions (by decide : (oddPairs.map Prod.fst).Nodup) ["k=1", "x.y=2=3", "k=4"]
  obtain ⟨settings, read, options, pairs, start⟩ := reads oddText oddText_describes
  have given : Arguments.Gives ["k=1", "x.y=2=3", "k=4"]
      ["--env=k=1", "--env", "x.y=2=3", "--env=k=4"] :=
    .attached "k=1" (.apart (by decide) (.attached "k=4" .nil))
  have accepted : ["k=1", "x.y=2=3", "k=4"].mapM pair? =
      some [("k", "1"), ("x.y", "2=3"), ("k", "4")] := by decide
  have parsed := parses _ given {} ["--json"]
  rw [accepted] at parsed
  refine ⟨settings, read, options, pairs, _, parsed, ?_⟩
  exact (start _).2.pairs.trans (by decide)

end CommandLine

end ShellTree
