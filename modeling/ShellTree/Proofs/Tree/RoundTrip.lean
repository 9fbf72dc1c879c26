import ShellTree.Options
import ShellTree.Proofs.Json.Fields

/-!
# Reading back written trees

Every tree is read back from its own text.  The proof follows the writer: each function
that makes a value of a tree is matched with the reader of that kind of tree, and one
induction over the tree family covers all of them.
-/

namespace ShellTree

open Json

namespace Reader

/-! ## Lists and wrappers -/

theorem writes_parts {values : List Json} {parts : List Part}
    (each : List.Forall₂ (Writes part?) values parts) : Writes parts? (.array values) parts :=
  .list (fun _ _ _ => rfl) each

theorem writes_word {values : List Json} {parts : List Part}
    (each : List.Forall₂ (Writes part?) values parts) : Writes word? (.ofParts values) parts := by
  have parts := writes_parts each
  refine .record ["parts"] [_] parts.plain fun held levels value fields fits => ?_
  simp [word?, fields, parts.back held levels fits]

theorem writes_words {values : List Json} {words : List (List Part)}
    (each : List.Forall₂ (Writes word?) values words) : Writes words? (.array values) words :=
  .list (fun _ _ _ => rfl) each

theorem writes_statements {values : List Json} {statements : List Statement}
    (each : List.Forall₂ (Writes statement?) values statements) :
    Writes statements? (.array values) statements :=
  .list (fun _ _ _ => rfl) each

theorem writes_script {values : List Json} {statements : List Statement}
    (each : List.Forall₂ (Writes statement?) values statements) :
    Writes script? (.ofStatements values) statements := by
  have statements := writes_statements each
  refine .record ["statements"] [_] statements.plain fun held levels value fields fits => ?_
  simp [script?, fields, statements.back held levels fits]

/-! ## Trees

In each case the reader meets an object of which it only knows that the kind is found, that the
fields are given and that each of them has enough levels. -/

mutual

theorem writes_part : ∀ part : Part, Writes part? part.toJson part
  | .literal text => by
      rw [Part.toJson]
      refine .node ["value"] [_] (.string text) fun held levels value rest opened fields fits => ?_
      rw [part?, opened]
      simp [fields]
  | .singleQuoted text => by
      rw [Part.toJson]
      refine .node ["value"] [_] (.string text) fun held levels value rest opened fields fits => ?_
      rw [part?, opened]
      simp [fields]
  | .doubleQuoted parts => by
      have parts := writes_parts (writes_partsJson parts)
      rw [Part.toJson]
      refine .node ["parts"] [_] parts.plain fun held levels value rest opened fields fits => ?_
      rw [part?, opened]
      simp [fields, parts.back true levels fits]
  | .parameter name operation => by
      have operation := writes_operationJson operation
      rw [Part.toJson]
      refine .node ["parameter", "operation"] [_, _] ⟨.string name, operation.plain⟩
        fun held levels value rest opened fields fits => ?_
      rw [part?, opened]
      simp [fields, operation.back true levels fits.2]
  | .arithmetic expression => by
      have expression := writes_arith expression
      rw [Part.toJson]
      refine .node ["expression"] [_] expression.plain
        fun held levels value rest opened fields fits => ?_
      rw [part?, opened]
      simp [fields, expression.back true levels fits]
  | .substitution body => by
      have body := writes_script (writes_statementsJson body)
      rw [Part.toJson]
      refine .node ["body"] [_] body.plain fun held levels value rest opened fields fits => ?_
      rw [part?, opened]
      simp [fields, body.back true levels fits]
  | .brace items => by
      have items := writes_words (writes_wordsJson items)
      rw [Part.toJson]
      refine .node ["items"] [_] items.plain fun held levels value rest opened fields fits => ?_
      rw [part?, opened]
      simp [fields, items.back true levels fits]
  | .extGlob operator pattern => by
      rw [Part.toJson]
      refine .node ["operator", "pattern"] [_, _] ⟨.string _, .string pattern⟩
        fun held levels value rest opened fields fits => ?_
      rw [part?, opened]
      simp [fields]
  | .process body direction => by
      have body := writes_script (writes_statementsJson body)
      rw [Part.toJson]
      refine .node ["body", "direction"] [_, _] ⟨body.plain, .string _⟩
        fun held levels value rest opened fields fits => ?_
      rw [part?, opened]
      simp [fields, body.back true levels fits.1]

theorem writes_partsJson : ∀ parts : List Part,
    List.Forall₂ (Writes part?) (partsJson parts) parts
  | [] => .nil
  | part :: rest => .cons (writes_part part) (writes_partsJson rest)

theorem writes_wordsJson : ∀ words : List (List Part),
    List.Forall₂ (Writes word?) (wordsJson words) words
  | [] => .nil
  | word :: rest => .cons (writes_word (writes_partsJson word)) (writes_wordsJson rest)

theorem writes_operationJson : ∀ operation : Option Operation,
    WritesOption operation? (operationJson operation) operation
  | none => .absent
  | some operation => .present (fun _ => rfl) (writes_operation operation)

theorem writes_operation : ∀ operation : Operation, Writes operation? operation.toJson operation
  | .length => by
      rw [Operation.toJson]
      refine .node [] [] trivial fun held levels value rest opened fields fits => ?_
      rw [operation?, opened]
      simp [fields]
  | .indirect => by
      rw [Operation.toJson]
      refine .node [] [] trivial fun held levels value rest opened fields fits => ?_
      rw [operation?, opened]
      simp [fields]
  | .slice offset bound => by
      have offset := writes_arith offset
      have bound := writes_boundJson bound
      rw [Operation.toJson]
      refine .node ["offset", "length"] [_, _] ⟨offset.plain, bound.plain⟩
        fun held levels value rest opened fields fits => ?_
      rw [operation?, opened]
      simp [fields, offset.back true levels fits.1,
        bound.back true levels fits.2]
  | .replace pattern replacement all => by
      have pattern := writes_word (writes_partsJson pattern)
      have replacement := writes_word (writes_partsJson replacement)
      rw [Operation.toJson]
      refine .node ["pattern", "replacement", "all"] [_, _, _]
        ⟨pattern.plain, replacement.plain, .bool all⟩
        fun held levels value rest opened fields fits => ?_
      rw [operation?, opened]
      simp [fields, pattern.back true levels fits.1,
        replacement.back true levels fits.2.1]
  | .default word checkEmpty => by
      have word := writes_word (writes_partsJson word)
      rw [Operation.toJson]
      refine .node ["word", "check_empty"] [_, _] ⟨word.plain, .bool checkEmpty⟩
        fun held levels value rest opened fields fits => ?_
      rw [operation?, opened]
      simp [fields, word.back true levels fits.1]
  | .alternate word checkEmpty => by
      have word := writes_word (writes_partsJson word)
      rw [Operation.toJson]
      refine .node ["word", "check_empty"] [_, _] ⟨word.plain, .bool checkEmpty⟩
        fun held levels value rest opened fields fits => ?_
      rw [operation?, opened]
      simp [fields, word.back true levels fits.1]
  | .modifyCase direction all => by
      rw [Operation.toJson]
      refine .node ["direction", "all"] [_, _] ⟨.string _, .bool all⟩
        fun held levels value rest opened fields fits => ?_
      rw [operation?, opened]
      simp [fields]
  | .width => by
      rw [Operation.toJson]
      refine .node [] [] trivial fun held levels value rest opened fields fits => ?_
      rw [operation?, opened]
      simp [fields]
  | .index expression => by
      have expression := writes_arith expression
      rw [Operation.toJson]
      refine .node ["index"] [_] expression.plain
        fun held levels value rest opened fields fits => ?_
      rw [operation?, opened]
      simp [fields, expression.back true levels fits]

theorem writes_boundJson : ∀ bound : Option Arith, WritesOption arith? (boundJson bound) bound
  | none => .absent
  | some expression => .present (fun _ => rfl) (writes_arith expression)

theorem writes_arith : ∀ expression : Arith, Writes arith? expression.toJson expression
  | .word parts => by
      have word := writes_word (writes_partsJson parts)
      rw [Arith.toJson]
      refine .node ["word"] [_] word.plain fun held levels value rest opened fields fits => ?_
      rw [arith?, opened]
      simp [fields, word.back true levels fits]
  | .paren expression => by
      have expression := writes_arith expression
      rw [Arith.toJson]
      refine .node ["expression"] [_] expression.plain
        fun held levels value rest opened fields fits => ?_
      rw [arith?, opened]
      simp [fields, expression.back true levels fits]
  | .unary operator operand isPostfix => by
      have operand := writes_arith operand
      rw [Arith.toJson]
      refine .node ["operator", "operand", "postfix"] [_, _, _]
        ⟨.string _, operand.plain, .bool isPostfix⟩
        fun held levels value rest opened fields fits => ?_
      rw [arith?, opened]
      simp [fields, operand.back true levels fits.2.1]
  | .binary operator left right => by
      have left := writes_arith left
      have right := writes_arith right
      rw [Arith.toJson]
      refine .node ["operator", "left", "right"] [_, _, _] ⟨.string _, left.plain, right.plain⟩
        fun held levels value rest opened fields fits => ?_
      rw [arith?, opened]
      simp [fields, left.back true levels fits.2.1,
        right.back true levels fits.2.2]

theorem writes_expressionsJson : ∀ expressions : List Arith,
    List.Forall₂ (Writes arith?) (expressionsJson expressions) expressions
  | [] => .nil
  | expression :: rest => .cons (writes_arith expression) (writes_expressionsJson rest)

theorem writes_assignment : ∀ assignment : Assignment,
    Writes assignment? assignment.toJson assignment
  | ⟨name, parts⟩ => by
      have word := writes_word (writes_partsJson parts)
      rw [Assignment.toJson]
      refine .record ["name", "value"] [_, _] ⟨.string name, word.plain⟩
        fun held levels value fields fits => ?_
      simp [assignment?, fields, word.back held levels fits.2]

theorem writes_assignmentsJson : ∀ assignments : List Assignment,
    List.Forall₂ (Writes assignment?) (assignmentsJson assignments) assignments
  | [] => .nil
  | assignment :: rest => .cons (writes_assignment assignment) (writes_assignmentsJson rest)

theorem writes_redirection : ∀ redirection : Redirection,
    Writes redirection? redirection.toJson redirection
  | ⟨descriptor, operator, parts⟩ => by
      have descriptor := WritesOption.descriptor descriptor
      have target := writes_word (writes_partsJson parts)
      rw [Redirection.toJson]
      refine .record ["fd", "operator", "target"] [_, _, _]
        ⟨descriptor.plain, .string _, target.plain⟩ fun held levels value fields fits => ?_
      simp [redirection?, fields, descriptor.back held levels fits.1,
        target.back held levels fits.2.2]

theorem writes_redirectionsJson : ∀ redirections : List Redirection,
    List.Forall₂ (Writes redirection?) (redirectionsJson redirections) redirections
  | [] => .nil
  | redirection :: rest => .cons (writes_redirection redirection) (writes_redirectionsJson rest)

theorem writes_caseItemsJson : ∀ items : List CaseItem,
    List.Forall₂ (Writes caseItem?) (caseItemsJson items) items
  | [] => .nil
  | ⟨patterns, body⟩ :: rest => by
      have patterns := writes_words (writes_wordsJson patterns)
      have body := writes_statements (writes_statementsJson body)
      refine .cons ?_ (writes_caseItemsJson rest)
      refine .record ["patterns", "body"] [_, _] ⟨patterns.plain, body.plain⟩
        fun held levels value fields fits => ?_
      simp [caseItem?, fields, patterns.back held levels fits.1, body.back held levels fits.2]

theorem writes_statementsJson : ∀ statements : List Statement,
    List.Forall₂ (Writes statement?) (statementsJson statements) statements
  | [] => .nil
  | statement :: rest => .cons (writes_statement statement) (writes_statementsJson rest)

theorem writes_statement : ∀ statement : Statement, Writes statement? statement.toJson statement
  | ⟨command, negated, background, coprocess, redirections⟩ => by
      have command := writes_commandJson command
      have redirections : Writes redirections? _ _ :=
        .list (fun _ _ _ => rfl) (writes_redirectionsJson redirections)
      rw [Statement.toJson]
      refine .record ["command", "negated", "background", "coprocess", "redirections"]
        [_, _, _, _, _]
        ⟨command.plain, .bool negated, .bool background, .bool coprocess, redirections.plain⟩
        fun held levels value fields fits => ?_
      simp [statement?, fields, command.back held levels fits.1,
        redirections.back held levels fits.2.2.2.2]

theorem writes_optionalStatementJson : ∀ statement : Option Statement,
    WritesOption statement? (optionalStatementJson statement) statement
  | none => .absent
  | some statement => .present (fun _ => rfl) (writes_statement statement)

theorem writes_optionalStatementsJson : ∀ statements : Option (List Statement),
    WritesOption statements? (optionalStatementsJson statements) statements
  | none => .absent
  | some statements =>
      .present (fun _ => rfl) (writes_statements (writes_statementsJson statements))

theorem writes_optionalWordsJson : ∀ words : Option (List (List Part)),
    WritesOption words? (optionalWordsJson words) words
  | none => .absent
  | some words => .present (fun _ => rfl) (writes_words (writes_wordsJson words))

theorem writes_commandJson : ∀ command : Option Command,
    WritesOption command? (commandJson command) command
  | none => .absent
  | some command => .present (fun _ => rfl) (writes_command command)

theorem writes_command : ∀ command : Command, Writes command? command.toJson command
  | .call assignments arguments => by
      have assignments : Writes assignments? _ _ :=
        .list (fun _ _ _ => rfl) (writes_assignmentsJson assignments)
      have arguments := writes_words (writes_wordsJson arguments)
      rw [Command.toJson]
      refine .node ["assignments", "args"] [_, _] ⟨assignments.plain, arguments.plain⟩
        fun held levels value rest opened fields fits => ?_
      rw [command?, opened]
      simp [fields, assignments.back true levels fits.1,
        arguments.back true levels fits.2]
  | .arithmetic expression => by
      have expression := writes_arith expression
      rw [Command.toJson]
      refine .node ["expression"] [_] expression.plain
        fun held levels value rest opened fields fits => ?_
      rw [command?, opened]
      simp [fields, expression.back true levels fits]
  | .binary operator left right => by
      have left := writes_statement left
      have right := writes_statement right
      rw [Command.toJson]
      refine .node ["operator", "left", "right"] [_, _, _] ⟨.string _, left.plain, right.plain⟩
        fun held levels value rest opened fields fits => ?_
      rw [command?, opened]
      simp [fields, left.back true levels fits.2.1,
        right.back true levels fits.2.2]
  | .block statements => by
      have statements := writes_statements (writes_statementsJson statements)
      rw [Command.toJson]
      refine .node ["statements"] [_] statements.plain
        fun held levels value rest opened fields fits => ?_
      rw [command?, opened]
      simp [fields, statements.back true levels fits]
  | .choice word items => by
      have word := writes_word (writes_partsJson word)
      have items : Writes caseItems? _ _ :=
        .list (fun _ _ _ => rfl) (writes_caseItemsJson items)
      rw [Command.toJson]
      refine .node ["word", "items"] [_, _] ⟨word.plain, items.plain⟩
        fun held levels value rest opened fields fits => ?_
      rw [command?, opened]
      simp [fields, word.back true levels fits.1,
        items.back true levels fits.2]
  | .coproc name body => by
      have name := WritesOption.text name
      have body := writes_statement body
      rw [Command.toJson]
      refine .node ["name", "body"] [_, _] ⟨name.plain, body.plain⟩
        fun held levels value rest opened fields fits => ?_
      rw [command?, opened]
      simp [fields, name.back true levels fits.1,
        body.back true levels fits.2]
  | .declare variant arguments => by
      have arguments := writes_words (writes_wordsJson arguments)
      rw [Command.toJson]
      refine .node ["variant", "args"] [_, _] ⟨.string variant, arguments.plain⟩
        fun held levels value rest opened fields fits => ?_
      rw [command?, opened]
      simp [fields, arguments.back true levels fits.2]
  | .forLoop name words body => by
      have words := writes_optionalWordsJson words
      have body := writes_statements (writes_statementsJson body)
      rw [Command.toJson]
      refine .node ["variable", "words", "body"] [_, _, _] ⟨.string name, words.plain, body.plain⟩
        fun held levels value rest opened fields fits => ?_
      rw [command?, opened]
      simp [fields, words.back true levels fits.2.1,
        body.back true levels fits.2.2]
  | .function name body => by
      have body := writes_statement body
      rw [Command.toJson]
      refine .node ["name", "body"] [_, _] ⟨.string name, body.plain⟩
        fun held levels value rest opened fields fits => ?_
      rw [command?, opened]
      simp [fields, body.back true levels fits.2]
  | .conditional condition thenBody elseBody => by
      have condition := writes_statements (writes_statementsJson condition)
      have thenBody := writes_statements (writes_statementsJson thenBody)
      have elseBody := writes_optionalStatementsJson elseBody
      rw [Command.toJson]
      refine .node ["condition", "then_body", "else_body"] [_, _, _]
        ⟨condition.plain, thenBody.plain, elseBody.plain⟩
        fun held levels value rest opened fields fits => ?_
      rw [command?, opened]
      simp [fields, condition.back true levels fits.1,
        thenBody.back true levels fits.2.1, elseBody.back true levels fits.2.2]
  | .letAll expressions => by
      have expressions : Writes expressions? _ _ :=
        .list (fun _ _ _ => rfl) (writes_expressionsJson expressions)
      rw [Command.toJson]
      refine .node ["expressions"] [_] expressions.plain
        fun held levels value rest opened fields fits => ?_
      rw [command?, opened]
      simp [fields, expressions.back true levels fits]
  | .subshell statements => by
      have statements := writes_statements (writes_statementsJson statements)
      rw [Command.toJson]
      refine .node ["statements"] [_] statements.plain
        fun held levels value rest opened fields fits => ?_
      rw [command?, opened]
      simp [fields, statements.back true levels fits]
  | .test words => by
      have words := writes_words (writes_wordsJson words)
      rw [Command.toJson]
      refine .node ["words"] [_] words.plain fun held levels value rest opened fields fits => ?_
      rw [command?, opened]
      simp [fields, words.back true levels fits]
  | .timed posix statement => by
      have statement := writes_optionalStatementJson statement
      rw [Command.toJson]
      refine .node ["posix", "statement"] [_, _] ⟨.bool posix, statement.plain⟩
        fun held levels value rest opened fields fits => ?_
      rw [command?, opened]
      simp [fields, statement.back true levels fits.2]
  | .whileLoop condition body isUntil => by
      have condition := writes_statements (writes_statementsJson condition)
      have body := writes_statements (writes_statementsJson body)
      rw [Command.toJson]
      refine .node ["condition", "body", "until"] [_, _, _]
        ⟨condition.plain, body.plain, .bool isUntil⟩
        fun held levels value rest opened fields fits => ?_
      rw [command?, opened]
      simp [fields, condition.back true levels fits.1,
        body.back true levels fits.2.1]

end

theorem writes_options (options : Options) : Writes Options.read? options.toJson options := by
  refine .record Options.fieldNames [_, _, _] ⟨.bool _, .bool _, .string _⟩
    fun held levels value fields fits => ?_
  simp [Options.read?, fields]

end Reader

/-! ## Layouts -/

def PartKind.fields : PartKind → List String
  | .literal => ["value"]
  | .singleQuoted => ["value"]
  | .doubleQuoted => ["parts"]
  | .parameter => ["parameter", "operation"]
  | .arithmetic => ["expression"]
  | .substitution => ["body"]
  | .brace => ["items"]
  | .extGlob => ["operator", "pattern"]
  | .process => ["body", "direction"]

def OperationKind.fields : OperationKind → List String
  | .length => []
  | .indirect => []
  | .slice => ["offset", "length"]
  | .replace => ["pattern", "replacement", "all"]
  | .default => ["word", "check_empty"]
  | .alternate => ["word", "check_empty"]
  | .modifyCase => ["direction", "all"]
  | .width => []
  | .index => ["index"]

def ArithKind.fields : ArithKind → List String
  | .word => ["word"]
  | .paren => ["expression"]
  | .unary => ["operator", "operand", "postfix"]
  | .binary => ["operator", "left", "right"]

def CommandKind.fields : CommandKind → List String
  | .call => ["assignments", "args"]
  | .arithmetic => ["expression"]
  | .binary => ["operator", "left", "right"]
  | .block => ["statements"]
  | .choice => ["word", "items"]
  | .coproc => ["name", "body"]
  | .declare => ["variant", "args"]
  | .forLoop => ["variable", "words", "body"]
  | .function => ["name", "body"]
  | .conditional => ["condition", "then_body", "else_body"]
  | .letAll => ["expressions"]
  | .subshell => ["statements"]
  | .test => ["words"]
  | .timed => ["posix", "statement"]
  | .whileLoop => ["condition", "body", "until"]

namespace Json

def HasFields (names : List String) (value : Json) : Prop :=
  ∃ members, value = .object members ∧ members.map Prod.fst = names

/-- The value is an object with the tag in front and then the fields of its kind in order. -/
def HasTag {κ : Type} [Vocabulary κ] (tag : String) (fields : κ → List String) (value : Json) :
    Prop :=
  ∃ kind members, value = .node tag kind members ∧ members.map Prod.fst = fields kind

end Json

theorem Part.toJson_hasTag (part : Part) : part.toJson.HasTag "type" PartKind.fields := by
  cases part <;> rw [Part.toJson] <;> exact ⟨_, _, rfl, rfl⟩

theorem Operation.toJson_hasTag (operation : Operation) :
    operation.toJson.HasTag "op" OperationKind.fields := by
  cases operation <;> rw [Operation.toJson] <;> exact ⟨_, _, rfl, rfl⟩

theorem Arith.toJson_hasTag (expression : Arith) :
    expression.toJson.HasTag "type" ArithKind.fields := by
  cases expression <;> rw [Arith.toJson] <;> exact ⟨_, _, rfl, rfl⟩

theorem Command.toJson_hasTag (command : Command) :
    command.toJson.HasTag "type" CommandKind.fields := by
  cases command <;> rw [Command.toJson] <;> exact ⟨_, _, rfl, rfl⟩

theorem Statement.toJson_hasFields (statement : Statement) : statement.toJson.HasFields
    ["command", "negated", "background", "coprocess", "redirections"] := by
  cases statement
  rw [Statement.toJson]
  exact ⟨_, rfl, rfl⟩

theorem Redirection.toJson_hasFields (redirection : Redirection) :
    redirection.toJson.HasFields ["fd", "operator", "target"] := by
  cases redirection
  rw [Redirection.toJson]
  exact ⟨_, rfl, rfl⟩

/-! ## Texts -/

namespace Reader

/-- Every tree has a value of the given layout, and the compact text of the value is read back
as the tree unless it nests too deep for a text. -/
def RoundTrips {α : Type} (read : Bool → Nat → Json → Option α) (json : α → Json)
    (layout : Json → Prop) : Prop :=
  ∀ tree, layout (json tree) ∧
    ((json tree).depth ≤ textLevels → ofText? read (json tree).text = some tree)

theorem RoundTrips.of_writes {α : Type} {read : Bool → Nat → Json → Option α} {json : α → Json}
    {layout : Json → Prop} (laid : ∀ tree, layout (json tree))
    (writes : ∀ tree, Writes read (json tree) tree) : RoundTrips read json layout :=
  fun tree => ⟨laid tree, (writes tree).ofText?⟩

/-- Trees of every kind are read back from their text, which has the tag of a node first and
then all fields in order, and which escapes no character that can stand for itself. -/
theorem text_read_back :
    RoundTrips script? scriptJson (HasFields ["statements"]) ∧
    RoundTrips statement? Statement.toJson
      (HasFields ["command", "negated", "background", "coprocess", "redirections"]) ∧
    RoundTrips command? Command.toJson (HasTag "type" CommandKind.fields) ∧
    RoundTrips redirection? Redirection.toJson (HasFields ["fd", "operator", "target"]) ∧
    RoundTrips word? wordJson (HasFields ["parts"]) ∧
    RoundTrips part? Part.toJson (HasTag "type" PartKind.fields) ∧
    RoundTrips operation? Operation.toJson (HasTag "op" OperationKind.fields) ∧
    RoundTrips arith? Arith.toJson (HasTag "type" ArithKind.fields) ∧
    RoundTrips Options.read? Options.toJson
      (HasFields ["exit_on_error", "print_executed", "slice_mode"]) ∧
    ∀ char, escape char = [char] ↔ char ≠ '"' ∧ char ≠ '\\' ∧ ' ' ≤ char := by
  refine ⟨?script, .of_writes Statement.toJson_hasFields writes_statement,
    .of_writes Command.toJson_hasTag writes_command,
    .of_writes Redirection.toJson_hasFields writes_redirection, ?word,
    .of_writes Part.toJson_hasTag writes_part,
    .of_writes Operation.toJson_hasTag writes_operation,
    .of_writes Arith.toJson_hasTag writes_arith, ?options, escape_eq_self_iff⟩
  case script =>
    intro script
    exact ⟨⟨_, rfl, rfl⟩, (writes_script (writes_statementsJson script)).ofText?⟩
  case word =>
    intro word
    exact ⟨⟨_, rfl, rfl⟩, (writes_word (writes_partsJson word)).ofText?⟩
  case options =>
    intro options
    exact ⟨⟨_, rfl, rfl⟩, (writes_options options).ofText?⟩

/-- A script with most kinds of node, the least file descriptor and characters to escape. -/
def nested : Script :=
  [{ command := some (.call
      [⟨"é\n\"", [.doubleQuoted [.parameter "x" (some
        (.slice (.unary .neg (.word [.literal "1"]) false) none))]]⟩]
      [[.extGlob '🦀' "a\\\x01"], [.substitution [{}]], [.brace [[], [.singleQuoted "\t"]]]])
     negated := true
     redirections := [⟨some (-2147483648), .dLessDash, [.process [] .output]⟩] }]

theorem nested_read_back :
    (scriptJson nested).depth ≤ textLevels ∧
      ofText? script? (scriptJson nested).text = some nested :=
  ⟨by decide, (text_read_back.1 nested).2 (by decide)⟩

end Reader

end ShellTree
