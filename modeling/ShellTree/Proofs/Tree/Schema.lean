import ShellTree.Proofs.Json.Given
import ShellTree.Proofs.Tree.RoundTrip

/-!
# The schema of the tree format

Which fields the records and the variants of a tree have, in which order, what they hold and
which of them may be left out, as one table.  The table tells how a value that presents a
tree is completed to the value that is written for that tree.  The readers follow it: what
they read from a value is written as the completed value, and they refuse what cannot be
completed.
-/

namespace ShellTree

open Json

/-- The kinds of tree that have fields of their own. -/
inductive TreeKind where
  | script
  | statement
  | command
  | assignment
  | redirection
  | caseItem
  | word
  | part
  | operation
  | arith
  | options

inductive Shape where
  | text
  | truth
  | character
  | descriptor
  | name (names : List String)
  | list (item : Shape)
  | tree (kind : TreeKind)

/-- Whether a field has to be given, and what stands for it if it is not. -/
inductive Presence where
  | required
  | defaulted (written : Json)
  | optional

structure Field where
  name : String
  shape : Shape
  presence : Presence := .required

/-- The fields of a record, or the variants of a node with the fields of each. -/
inductive Layout where
  | record (fields : List Field)
  | variants (tag : String) (variants : List (String × List Field))

def Shape.oneOf (α : Type) [Vocabulary α] : Shape :=
  .name ((Vocabulary.members : List α).map Vocabulary.name)

/-- A truth value that is false when it is not given. -/
def Field.flag (name : String) : Field where
  name
  shape := .truth
  presence := .defaulted (.bool false)

/-- A list that is empty when it is not given. -/
def Field.listOf (name : String) (kind : TreeKind) : Field where
  name
  shape := .list (.tree kind)
  presence := .defaulted (.array [])

def Field.wordOrEmpty (name : String) : Field where
  name
  shape := .tree .word
  presence := .defaulted (.ofParts [])

def PartKind.schema : PartKind → List Field
  | .literal => [⟨"value", .text, .required⟩]
  | .singleQuoted => [⟨"value", .text, .required⟩]
  | .doubleQuoted => [⟨"parts", .list (.tree .part), .required⟩]
  | .parameter => [⟨"parameter", .text, .required⟩, ⟨"operation", .tree .operation, .optional⟩]
  | .arithmetic => [⟨"expression", .tree .arith, .required⟩]
  | .substitution => [⟨"body", .tree .script, .required⟩]
  | .brace => [⟨"items", .list (.tree .word), .required⟩]
  | .extGlob => [⟨"operator", .character, .required⟩, ⟨"pattern", .text, .required⟩]
  | .process => [⟨"body", .tree .script, .required⟩, ⟨"direction", .oneOf Flow, .required⟩]

def OperationKind.schema : OperationKind → List Field
  | .length => []
  | .indirect => []
  | .slice => [⟨"offset", .tree .arith, .required⟩, ⟨"length", .tree .arith, .optional⟩]
  | .replace => [⟨"pattern", .tree .word, .required⟩, .wordOrEmpty "replacement", .flag "all"]
  | .default => [⟨"word", .tree .word, .required⟩, .flag "check_empty"]
  | .alternate => [⟨"word", .tree .word, .required⟩, .flag "check_empty"]
  | .modifyCase => [⟨"direction", .oneOf LetterCase, .required⟩, .flag "all"]
  | .width => []
  | .index => [⟨"index", .tree .arith, .required⟩]

def ArithKind.schema : ArithKind → List Field
  | .word => [⟨"word", .tree .word, .required⟩]
  | .paren => [⟨"expression", .tree .arith, .required⟩]
  | .unary =>
      [⟨"operator", .oneOf UnaryOperator, .required⟩, ⟨"operand", .tree .arith, .required⟩,
        .flag "postfix"]
  | .binary =>
      [⟨"operator", .oneOf BinaryOperator, .required⟩, ⟨"left", .tree .arith, .required⟩,
        ⟨"right", .tree .arith, .required⟩]

def CommandKind.schema : CommandKind → List Field
  | .call => [.listOf "assignments" .assignment, .listOf "args" .word]
  | .arithmetic => [⟨"expression", .tree .arith, .required⟩]
  | .binary =>
      [⟨"operator", .oneOf Connective, .required⟩, ⟨"left", .tree .statement, .required⟩,
        ⟨"right", .tree .statement, .required⟩]
  | .block => [⟨"statements", .list (.tree .statement), .required⟩]
  | .choice => [⟨"word", .tree .word, .required⟩, ⟨"items", .list (.tree .caseItem), .required⟩]
  | .coproc => [⟨"name", .text, .optional⟩, ⟨"body", .tree .statement, .required⟩]
  | .declare => [⟨"variant", .text, .required⟩, .listOf "args" .word]
  | .forLoop =>
      [⟨"variable", .text, .required⟩, ⟨"words", .list (.tree .word), .optional⟩,
        ⟨"body", .list (.tree .statement), .required⟩]
  | .function => [⟨"name", .text, .required⟩, ⟨"body", .tree .statement, .required⟩]
  | .conditional =>
      [⟨"condition", .list (.tree .statement), .required⟩,
        ⟨"then_body", .list (.tree .statement), .required⟩,
        ⟨"else_body", .list (.tree .statement), .optional⟩]
  | .letAll => [⟨"expressions", .list (.tree .arith), .required⟩]
  | .subshell => [⟨"statements", .list (.tree .statement), .required⟩]
  | .test => [⟨"words", .list (.tree .word), .required⟩]
  | .timed => [.flag "posix", ⟨"statement", .tree .statement, .optional⟩]
  | .whileLoop =>
      [⟨"condition", .list (.tree .statement), .required⟩,
        ⟨"body", .list (.tree .statement), .required⟩, .flag "until"]

def Layout.ofKinds {κ : Type} [Vocabulary κ] (tag : String) (schema : κ → List Field) : Layout :=
  .variants tag (Vocabulary.members.map fun kind => (Vocabulary.name kind, schema kind))

def TreeKind.layout : TreeKind → Layout
  | .script => .record [⟨"statements", .list (.tree .statement), .required⟩]
  | .statement =>
      .record [⟨"command", .tree .command, .optional⟩, .flag "negated", .flag "background",
        .flag "coprocess", .listOf "redirections" .redirection]
  | .command => .ofKinds "type" CommandKind.schema
  | .assignment => .record [⟨"name", .text, .required⟩, .wordOrEmpty "value"]
  | .redirection =>
      .record [⟨"fd", .descriptor, .optional⟩, ⟨"operator", .oneOf RedirectionOperator, .required⟩,
        ⟨"target", .tree .word, .required⟩]
  | .caseItem =>
      .record [⟨"patterns", .list (.tree .word), .required⟩,
        ⟨"body", .list (.tree .statement), .required⟩]
  | .word => .record [⟨"parts", .list (.tree .part), .required⟩]
  | .part => .ofKinds "type" PartKind.schema
  | .operation => .ofKinds "op" OperationKind.schema
  | .arith => .ofKinds "type" ArithKind.schema
  | .options =>
      .record [.flag "exit_on_error", .flag "print_executed",
        ⟨"slice_mode", .oneOf SliceMode, .defaulted (.ofName SliceMode.endIndex)⟩]

/-! ## Completion -/

namespace Json

def nameAmong? (held : Bool) (levels : Nat) (names : List String) (value : Json) :
    Option String :=
  match value with
  | .string name => names.find? (· == name)
  | .object [(name, .null)] => if levels = 0 then none else names.find? (· == name)
  | .object [(name, .object [])] =>
      if held = true ∧ 0 < levels then names.find? (· == name) else none
  | _ => none

def variant? (held : Bool) (variants : List (String × List Field)) :
    Json → Option (String × List Field)
  | .string name => variants.find? (·.1 == name)
  | .number (.integer false position) => if held then variants[position]? else none
  | _ => none

/-- A field with its value in full, from what is given for it. -/
def completeField? (complete? : Shape → Json → Option Json) (field : Field) :
    Option Json → Option (String × Json)
  | none =>
      match field.presence with
      | .required => none
      | .defaulted written => some (field.name, written)
      | .optional => some (field.name, .null)
  | some value =>
      match field.presence, value with
      | .optional, .null => some (field.name, .null)
      | _, value => (complete? field.shape value).map fun written => (field.name, written)

def completeGivens? (complete? : Shape → Json → Option Json) (fields : List Field)
    (givens : List (Option Json)) : Option (List (String × Json)) :=
  (fields.zip givens).mapM fun pair => completeField? complete? pair.1 pair.2

def completeFields? (complete? : Shape → Json → Option Json) (fields : List Field)
    (value : Json) : Option (List (String × Json)) :=
  (fields? (fields.map (·.name)) value).bind (completeGivens? complete? fields)

/-- The value in full of what a value presents. -/
def complete? : Nat → Bool → Shape → Json → Option Json
  | _, _, .text, value => (string? value).map .string
  | _, _, .truth, value => (bool? value).map .bool
  | _, _, .character, value => (char? value).map fun char => .string char.toString
  | _, _, .descriptor, value => (int32? value).map fun number => .ofInt number.toInt
  | levels, held, .name names, value => (nameAmong? held levels names value).map .string
  | 0, _, .list _, _ => none
  | levels + 1, held, .list item, value =>
      (items? value).bind fun items => (items.mapM (complete? levels held item)).map .array
  | 0, _, .tree _, _ => none
  | levels + 1, held, .tree kind, value =>
      match kind.layout with
      | .record fields => (completeFields? (complete? levels held) fields value).map .object
      | .variants tag variants => do
          guard (holds held (levels + 1) value)
          let (kind, rest) ← tagged? tag value
          let (name, fields) ← variant? held variants kind
          let members ← completeFields? (complete? levels true) fields rest
          return .object ((tag, .string name) :: members)

/-! ## Names and tags -/

theorem map_nameAmong? {α : Type} [Vocabulary α] (held : Bool) (levels : Nat) (value : Json) :
    (name? held levels value : Option α).map Vocabulary.name =
      nameAmong? held levels ((Vocabulary.members : List α).map Vocabulary.name) value := by
  have found (text : String) : (Vocabulary.ofName? text : Option α).map Vocabulary.name =
      ((Vocabulary.members : List α).map Vocabulary.name).find? (· == text) := by
    rw [List.find?_map]
    rfl
  cases value with
  | string text => exact found text
  | object members =>
      rcases members with _ | ⟨⟨text, below⟩, _ | ⟨_, _⟩⟩
      · rfl
      · cases below with
        | null =>
            rw [name?, nameAmong?]
            split
            · rfl
            · exact found text
        | object members =>
            cases members with
            | nil =>
                rw [name?, nameAmong?]
                split
                · exact found text
                · rfl
            | cons => rfl
        | _ => rfl
      · simp [name?, nameAmong?]
  | _ => rfl

theorem variant?_ofKinds {κ : Type} [Vocabulary κ] (held : Bool) (schema : κ → List Field)
    (tag : Json) :
    variant? held (Vocabulary.members.map fun kind => (Vocabulary.name kind, schema kind)) tag =
      (tag? held tag : Option κ).map fun kind => (Vocabulary.name kind, schema kind) := by
  cases tag with
  | string text =>
      rw [variant?, List.find?_map]
      rfl
  | number numeral =>
      cases numeral with
      | integer negative position =>
          cases negative with
          | false =>
              rw [variant?, tag?]
              split
              · rw [List.getElem?_map]
                rfl
              · rfl
          | true => rfl
      | decimal => rfl
  | _ => rfl

/-! ## Fields -/

section Fields

variable {α β γ δ ε τ : Type} {complete : Shape → Json → Option Json}

def CompletesField (complete : Shape → Json → Option Json) (read : Option Json → Option α)
    (json : α → Json) (field : Field) : Prop :=
  ∀ given, (read given).map (fun tree => (field.name, json tree)) =
    completeField? complete field given

namespace CompletesField

variable {name : String} {shape : Shape} {read : Json → Option α} {json : α → Json}

theorem required (reads : ∀ value, (read value).map json = complete shape value) :
    CompletesField complete (Json.required read) json ⟨name, shape, .required⟩ := by
  intro given
  cases given with
  | none => rfl
  | some value => simp [completeField?, ← reads, Function.comp_def]

theorem defaulted {default : α} {written : Json}
    (reads : ∀ value, (read value).map json = complete shape value)
    (same : json default = written) :
    CompletesField complete (Json.defaulted default read) json
      ⟨name, shape, .defaulted written⟩ := by
  intro given
  cases given with
  | none => simp [Json.defaulted, completeField?, same]
  | some value => simp [completeField?, ← reads, Function.comp_def]

theorem optional {optionJson : Option α → Json}
    (reads : ∀ value, (read value).map json = complete shape value)
    (absent : optionJson none = .null) (present : ∀ tree, optionJson (some tree) = json tree) :
    CompletesField complete (Json.optional read) optionJson ⟨name, shape, .optional⟩ := by
  intro given
  cases given with
  | none => simp [Json.optional, completeField?, absent]
  | some value =>
      cases value with
      | null => simp [Json.optional, completeField?, absent]
      | _ => simp [Json.optional, completeField?, ← reads, Function.comp_def, present]

end CompletesField

/-! A reader takes its fields one after the other.  What is left to be read and what is left to be
completed go on together, and `wrap` puts the completed fields around what is still to come. -/

variable {json : τ → Json} {wrap : List (String × Json) → Json}

theorem completes_record {fields : List Field} {names : List String}
    {read : List (Option Json) → Option τ} (value : Json)
    (named : fields.map (·.name) = names)
    (reads : ∀ givens, givens.length = fields.length →
      (read givens).map json = (completeGivens? complete fields givens).map wrap) :
    ((fields? names value).bind read).map json =
      (completeFields? complete fields value).map wrap := by
  unfold completeFields?
  rw [named]
  cases given : fields? names value with
  | none => rfl
  | some givens =>
      have length := (fields?_eq_some_iff.mp given).length_eq
      rw [← named, List.length_map] at length
      exact reads givens length

/-- A variant without fields takes no elements, and of an object it takes nothing. -/
theorem completes_empty {tree : τ} (value : Json) (written : json tree = wrap []) :
    ((fields? [] value).map fun _ => tree).map json =
      (completeFields? complete [] value).map wrap := by
  unfold completeFields?
  rw [List.map_nil]
  cases fields? [] value with
  | none => rfl
  | some givens => exact congrArg some written

theorem completes_field {field : Field} {fields : List Field} {given : Option Json}
    {givens : List (Option Json)} {read : Option Json → Option α} {fieldJson : α → Json}
    {next : α → Option τ} (reads : CompletesField complete read fieldJson field)
    (others : ∀ tree, (next tree).map json = (completeGivens? complete fields givens).map
      fun members => wrap ((field.name, fieldJson tree) :: members)) :
    ((read given).bind next).map json =
      (completeGivens? complete (field :: fields) (given :: givens)).map wrap := by
  have first := reads given
  unfold completeGivens? at others ⊢
  rw [List.zip_cons_cons, List.mapM_cons, ← first]
  cases read given with
  | none => rfl
  | some tree =>
      rw [Option.bind_some, others tree]
      cases (fields.zip givens).mapM fun pair => completeField? complete pair.1 pair.2 <;> rfl

theorem completes_done {tree : τ} (written : json tree = wrap []) :
    (some tree).map json = (completeGivens? complete [] []).map wrap :=
  congrArg some written

/-- The one field of a tree that is nothing but this field. -/
theorem completes_only {field : Field} {given : Option Json} {read : Option Json → Option τ}
    {fieldJson : τ → Json} (reads : CompletesField complete read fieldJson field)
    (written : ∀ tree, json tree = wrap [(field.name, fieldJson tree)]) :
    (read given).map json = (completeGivens? complete [field] [given]).map wrap := by
  rw [← Option.bind_fun_some (read given)]
  exact completes_field reads fun tree => completes_done (written tree)

end Fields

/-! ## Readers -/

/-- At some number of levels, what is read of a value is written as the completed value. -/
def Completes {α : Type} (levels : Nat) (read : Bool → Nat → Json → Option α) (json : α → Json)
    (shape : Shape) : Prop :=
  ∀ held value, (read held levels value).map json = complete? levels held shape value

namespace Completes

variable {α : Type} {levels : Nat} {read : Bool → Nat → Json → Option α} {json : α → Json}

theorem text : Completes levels (fun _ _ => string?) .string .text := by
  intro held value
  rw [complete?]

theorem truth : Completes levels (fun _ _ => bool?) .bool .truth := by
  intro held value
  rw [complete?]

theorem character :
    Completes levels (fun _ _ => char?) (fun char => .string char.toString) .character := by
  intro held value
  rw [complete?]

theorem descriptor :
    Completes levels (fun _ _ => int32?) (fun number => .ofInt number.toInt) .descriptor := by
  intro held value
  rw [complete?]

theorem name [Vocabulary α] : Completes levels (name? (α := α)) .ofName (.oneOf α) := by
  intro held value
  rw [Shape.oneOf, complete?, ← map_nameAmong?, Option.map_map]
  rfl

theorem mapM_map {β γ δ : Type} (read : β → Option γ) (json : γ → δ) (inputs : List β) :
    (inputs.mapM read).map (List.map json) = inputs.mapM fun input => (read input).map json := by
  induction inputs with
  | nil => rfl
  | cons input rest ih =>
      rw [List.mapM_cons, List.mapM_cons, ← ih]
      cases read input with
      | none => rfl
      | some tree => cases rest.mapM read <;> rfl

/-- A list is completed item by item. -/
theorem list {shape : Shape} {list? : Bool → Nat → Json → Option (List α)}
    {listJson : List α → List Json} (items : Completes levels read json shape)
    (reads : ∀ held value,
      list? held (levels + 1) value = (items? value).bind (·.mapM (read held levels)))
    (each : ∀ trees, listJson trees = trees.map json) :
    Completes (levels + 1) list? (fun trees => .array (listJson trees)) (.list shape) := by
  intro held value
  rw [complete?, reads]
  cases items? value with
  | none => rfl
  | some values =>
      have same : (fun value => (read held levels value).map json) =
          complete? levels held shape := funext (items held)
      rw [Option.bind_some, Option.bind_some, ← same, ← mapM_map, Option.map_map]
      simp only [each, Function.comp_def]

/-- A record is completed by its fields. -/
theorem record {kind : TreeKind} {fields : List Field} (layout : kind.layout = .record fields)
    (reads : ∀ held value, (read held (levels + 1) value).map json =
      (completeFields? (complete? levels held) fields value).map .object) :
    Completes (levels + 1) read json (.tree kind) := by
  intro held value
  rw [complete?, layout]
  exact reads held value

/-- A node is completed by the fields of its kind. -/
theorem node {κ : Type} [Vocabulary κ] {tag : String} {kind : TreeKind} {schema : κ → List Field}
    {fields : Bool → Nat → κ → Json → Option α} (layout : kind.layout = .ofKinds tag schema)
    (reads : ∀ held value, read held (levels + 1) value =
      node? tag held (levels + 1) value (fields held levels))
    (each : ∀ held kind rest, (fields held levels kind rest).map json =
      (completeFields? (complete? levels true) (schema kind) rest).map fun members =>
        .node tag kind members) :
    Completes (levels + 1) read json (.tree kind) := by
  intro held value
  rw [complete?, reads, layout]
  simp only [Layout.ofKinds, node?]
  cases holds held (levels + 1) value with
  | false => rfl
  | true =>
      cases tagged? tag value with
      | none => rfl
      | some found =>
          obtain ⟨given, rest⟩ := found
          simp only [guard, if_true, Option.pure_def, Option.bind_eq_bind, Option.bind_some,
            variant?_ofKinds]
          cases (tag? held given : Option κ) with
          | none => rfl
          | some variant =>
              simp only [Option.bind_some, Option.map_some, each held variant rest]
              cases completeFields? (complete? levels true) (schema variant) rest <;> rfl

end Completes

end Json

/-! ## Trees -/

def caseItemJson (item : CaseItem) : Json :=
  .object [("patterns", .array (wordsJson item.patterns)),
    ("body", .array (statementsJson item.body))]

theorem partsJson_eq_map (trees : List Part) : partsJson trees = trees.map Part.toJson := by
  induction trees with
  | nil => rfl
  | cons tree rest ih => rw [partsJson, ih, List.map_cons]

theorem wordsJson_eq_map (trees : List (List Part)) : wordsJson trees = trees.map wordJson := by
  induction trees with
  | nil => rfl
  | cons tree rest ih =>
      rw [wordsJson, ih, List.map_cons]
      rfl

theorem expressionsJson_eq_map (trees : List Arith) :
    expressionsJson trees = trees.map Arith.toJson := by
  induction trees with
  | nil => rfl
  | cons tree rest ih => rw [expressionsJson, ih, List.map_cons]

theorem assignmentsJson_eq_map (trees : List Assignment) :
    assignmentsJson trees = trees.map Assignment.toJson := by
  induction trees with
  | nil => rfl
  | cons tree rest ih => rw [assignmentsJson, ih, List.map_cons]

theorem redirectionsJson_eq_map (trees : List Redirection) :
    redirectionsJson trees = trees.map Redirection.toJson := by
  induction trees with
  | nil => rfl
  | cons tree rest ih => rw [redirectionsJson, ih, List.map_cons]

theorem caseItemsJson_eq_map (trees : List CaseItem) :
    caseItemsJson trees = trees.map caseItemJson := by
  induction trees with
  | nil => rfl
  | cons tree rest ih =>
      obtain ⟨patterns, body⟩ := tree
      rw [caseItemsJson, ih, List.map_cons]
      rfl

theorem statementsJson_eq_map (trees : List Statement) :
    statementsJson trees = trees.map Statement.toJson := by
  induction trees with
  | nil => rfl
  | cons tree rest ih => rw [statementsJson, ih, List.map_cons]

namespace Reader

open Completes CompletesField

mutual

theorem part_completes : ∀ levels, Completes levels part? Part.toJson (.tree .part)
  | 0 => fun _ _ => by rw [part?, complete?]; rfl
  | levels + 1 => by
      refine .node rfl (fun _ _ => by rw [part?]) fun held kind rest => ?_
      cases kind with
      | literal =>
          exact completes_record rest rfl fun
            | [_], _ =>
              completes_field (required (text true)) fun _ =>
              completes_done rfl
      | singleQuoted =>
          exact completes_record rest rfl fun
            | [_], _ =>
              completes_field (required (text true)) fun _ =>
              completes_done rfl
      | doubleQuoted =>
          exact completes_record rest rfl fun
            | [_], _ =>
              completes_field (required (parts_completes levels true)) fun _ =>
              completes_done rfl
      | parameter =>
          exact completes_record rest rfl fun
            | [_, _], _ =>
              completes_field (required (text true)) fun _ =>
              completes_field (optional (operation_completes levels true) rfl fun _ => rfl) fun _ =>
              completes_done rfl
      | arithmetic =>
          exact completes_record rest rfl fun
            | [_], _ =>
              completes_field (required (arith_completes levels true)) fun _ =>
              completes_done rfl
      | substitution =>
          exact completes_record rest rfl fun
            | [_], _ =>
              completes_field (required (script_completes levels true)) fun _ =>
              completes_done rfl
      | brace =>
          exact completes_record rest rfl fun
            | [_], _ =>
              completes_field (required (words_completes levels true)) fun _ =>
              completes_done rfl
      | extGlob =>
          exact completes_record rest rfl fun
            | [_, _], _ =>
              completes_field (required (character true)) fun _ =>
              completes_field (required (text true)) fun _ =>
              completes_done rfl
      | process =>
          exact completes_record rest rfl fun
            | [_, _], _ =>
              completes_field (required (script_completes levels true)) fun _ =>
              completes_field (required (name true)) fun _ =>
              completes_done rfl

theorem parts_completes : ∀ levels,
    Completes levels parts? (fun trees => .array (partsJson trees)) (.list (.tree .part))
  | 0 => fun _ _ => by rw [parts?, complete?]; rfl
  | levels + 1 => .list (part_completes levels) (fun _ _ => by rw [parts?]; rfl) partsJson_eq_map

theorem word_completes : ∀ levels, Completes levels word? wordJson (.tree .word)
  | 0 => fun _ _ => by rw [word?, complete?]; rfl
  | levels + 1 => by
      refine .record rfl fun held value => ?_
      rw [word?]
      exact completes_record value rfl fun
        | [_], _ =>
          completes_only (required (parts_completes levels held)) fun _ => rfl

theorem words_completes : ∀ levels,
    Completes levels words? (fun trees => .array (wordsJson trees)) (.list (.tree .word))
  | 0 => fun _ _ => by rw [words?, complete?]; rfl
  | levels + 1 => .list (word_completes levels) (fun _ _ => by rw [words?]; rfl) wordsJson_eq_map

theorem operation_completes : ∀ levels,
    Completes levels operation? Operation.toJson (.tree .operation)
  | 0 => fun _ _ => by rw [operation?, complete?]; rfl
  | levels + 1 => by
      refine .node rfl (fun _ _ => by rw [operation?]) fun held kind rest => ?_
      cases kind with
      | length => exact completes_empty rest rfl
      | indirect => exact completes_empty rest rfl
      | slice =>
          exact completes_record rest rfl fun
            | [_, _], _ =>
              completes_field (required (arith_completes levels true)) fun _ =>
              completes_field (optional (arith_completes levels true) rfl fun _ => rfl) fun _ =>
              completes_done rfl
      | replace =>
          exact completes_record rest rfl fun
            | [_, _, _], _ =>
              completes_field (required (word_completes levels true)) fun _ =>
              completes_field (defaulted (word_completes levels true) rfl) fun _ =>
              completes_field (defaulted (truth true) rfl) fun _ =>
              completes_done rfl
      | default =>
          exact completes_record rest rfl fun
            | [_, _], _ =>
              completes_field (required (word_completes levels true)) fun _ =>
              completes_field (defaulted (truth true) rfl) fun _ =>
              completes_done rfl
      | alternate =>
          exact completes_record rest rfl fun
            | [_, _], _ =>
              completes_field (required (word_completes levels true)) fun _ =>
              completes_field (defaulted (truth true) rfl) fun _ =>
              completes_done rfl
      | modifyCase =>
          exact completes_record rest rfl fun
            | [_, _], _ =>
              completes_field (required (name true)) fun _ =>
              completes_field (defaulted (truth true) rfl) fun _ =>
              completes_done rfl
      | width => exact completes_empty rest rfl
      | index =>
          exact completes_record rest rfl fun
            | [_], _ =>
              completes_field (required (arith_completes levels true)) fun _ =>
              completes_done rfl

theorem arith_completes : ∀ levels, Completes levels arith? Arith.toJson (.tree .arith)
  | 0 => fun _ _ => by rw [arith?, complete?]; rfl
  | levels + 1 => by
      refine .node rfl (fun _ _ => by rw [arith?]) fun held kind rest => ?_
      cases kind with
      | word =>
          exact completes_record rest rfl fun
            | [_], _ =>
              completes_field (required (word_completes levels true)) fun _ =>
              completes_done rfl
      | paren =>
          exact completes_record rest rfl fun
            | [_], _ =>
              completes_field (required (arith_completes levels true)) fun _ =>
              completes_done rfl
      | unary =>
          exact completes_record rest rfl fun
            | [_, _, _], _ =>
              completes_field (required (name true)) fun _ =>
              completes_field (required (arith_completes levels true)) fun _ =>
              completes_field (defaulted (truth true) rfl) fun _ =>
              completes_done rfl
      | binary =>
          exact completes_record rest rfl fun
            | [_, _, _], _ =>
              completes_field (required (name true)) fun _ =>
              completes_field (required (arith_completes levels true)) fun _ =>
              completes_field (required (arith_completes levels true)) fun _ =>
              completes_done rfl

theorem expressions_completes : ∀ levels,
    Completes levels expressions? (fun trees => .array (expressionsJson trees))
      (.list (.tree .arith))
  | 0 => fun _ _ => by rw [expressions?, complete?]; rfl
  | levels + 1 =>
      .list (arith_completes levels) (fun _ _ => by rw [expressions?]; rfl)
        expressionsJson_eq_map

theorem assignment_completes : ∀ levels,
    Completes levels assignment? Assignment.toJson (.tree .assignment)
  | 0 => fun _ _ => by rw [assignment?, complete?]; rfl
  | levels + 1 => by
      refine .record rfl fun held value => ?_
      rw [assignment?]
      exact completes_record value rfl fun
        | [_, _], _ =>
          completes_field (required (text held)) fun _ =>
          completes_field (defaulted (word_completes levels held) rfl) fun _ =>
          completes_done rfl

theorem assignments_completes : ∀ levels,
    Completes levels assignments? (fun trees => .array (assignmentsJson trees))
      (.list (.tree .assignment))
  | 0 => fun _ _ => by rw [assignments?, complete?]; rfl
  | levels + 1 =>
      .list (assignment_completes levels) (fun _ _ => by rw [assignments?]; rfl)
        assignmentsJson_eq_map

theorem redirection_completes : ∀ levels,
    Completes levels redirection? Redirection.toJson (.tree .redirection)
  | 0 => fun _ _ => by rw [redirection?, complete?]; rfl
  | levels + 1 => by
      refine .record rfl fun held value => ?_
      rw [redirection?]
      exact completes_record value rfl fun
        | [_, _, _], _ =>
          completes_field (optional (descriptor held) rfl fun _ => rfl) fun _ =>
          completes_field (required (name held)) fun _ =>
          completes_field (required (word_completes levels held)) fun _ =>
          completes_done rfl

theorem redirections_completes : ∀ levels,
    Completes levels redirections? (fun trees => .array (redirectionsJson trees))
      (.list (.tree .redirection))
  | 0 => fun _ _ => by rw [redirections?, complete?]; rfl
  | levels + 1 =>
      .list (redirection_completes levels) (fun _ _ => by rw [redirections?]; rfl)
        redirectionsJson_eq_map

theorem caseItem_completes : ∀ levels, Completes levels caseItem? caseItemJson (.tree .caseItem)
  | 0 => fun _ _ => by rw [caseItem?, complete?]; rfl
  | levels + 1 => by
      refine .record rfl fun held value => ?_
      rw [caseItem?]
      exact completes_record value rfl fun
        | [_, _], _ =>
          completes_field (required (words_completes levels held)) fun _ =>
          completes_field (required (statements_completes levels held)) fun _ =>
          completes_done rfl

theorem caseItems_completes : ∀ levels,
    Completes levels caseItems? (fun trees => .array (caseItemsJson trees))
      (.list (.tree .caseItem))
  | 0 => fun _ _ => by rw [caseItems?, complete?]; rfl
  | levels + 1 =>
      .list (caseItem_completes levels) (fun _ _ => by rw [caseItems?]; rfl)
        caseItemsJson_eq_map

theorem script_completes : ∀ levels, Completes levels script? scriptJson (.tree .script)
  | 0 => fun _ _ => by rw [script?, complete?]; rfl
  | levels + 1 => by
      refine .record rfl fun held value => ?_
      rw [script?]
      exact completes_record value rfl fun
        | [_], _ =>
          completes_only (required (statements_completes levels held)) fun _ => rfl

theorem statements_completes : ∀ levels,
    Completes levels statements? (fun trees => .array (statementsJson trees))
      (.list (.tree .statement))
  | 0 => fun _ _ => by rw [statements?, complete?]; rfl
  | levels + 1 =>
      .list (statement_completes levels) (fun _ _ => by rw [statements?]; rfl)
        statementsJson_eq_map

theorem statement_completes : ∀ levels,
    Completes levels statement? Statement.toJson (.tree .statement)
  | 0 => fun _ _ => by rw [statement?, complete?]; rfl
  | levels + 1 => by
      refine .record rfl fun held value => ?_
      rw [statement?]
      exact completes_record value rfl fun
        | [_, _, _, _, _], _ =>
          completes_field (optional (command_completes levels held) rfl fun _ => rfl) fun _ =>
          completes_field (defaulted (truth held) rfl) fun _ =>
          completes_field (defaulted (truth held) rfl) fun _ =>
          completes_field (defaulted (truth held) rfl) fun _ =>
          completes_field (defaulted (redirections_completes levels held) rfl) fun _ =>
          completes_done rfl

theorem command_completes : ∀ levels, Completes levels command? Command.toJson (.tree .command)
  | 0 => fun _ _ => by rw [command?, complete?]; rfl
  | levels + 1 => by
      refine .node rfl (fun _ _ => by rw [command?]) fun held kind rest => ?_
      cases kind with
      | call =>
          exact completes_record rest rfl fun
            | [_, _], _ =>
              completes_field (defaulted (assignments_completes levels true) rfl) fun _ =>
              completes_field (defaulted (words_completes levels true) rfl) fun _ =>
              completes_done rfl
      | arithmetic =>
          exact completes_record rest rfl fun
            | [_], _ =>
              completes_field (required (arith_completes levels true)) fun _ =>
              completes_done rfl
      | binary =>
          exact completes_record rest rfl fun
            | [_, _, _], _ =>
              completes_field (required (name true)) fun _ =>
              completes_field (required (statement_completes levels true)) fun _ =>
              completes_field (required (statement_completes levels true)) fun _ =>
              completes_done rfl
      | block =>
          exact completes_record rest rfl fun
            | [_], _ =>
              completes_field (required (statements_completes levels true)) fun _ =>
              completes_done rfl
      | choice =>
          exact completes_record rest rfl fun
            | [_, _], _ =>
              completes_field (required (word_completes levels true)) fun _ =>
              completes_field (required (caseItems_completes levels true)) fun _ =>
              completes_done rfl
      | coproc =>
          exact completes_record rest rfl fun
            | [_, _], _ =>
              completes_field (optional (text true) rfl fun _ => rfl) fun _ =>
              completes_field (required (statement_completes levels true)) fun _ =>
              completes_done rfl
      | declare =>
          exact completes_record rest rfl fun
            | [_, _], _ =>
              completes_field (required (text true)) fun _ =>
              completes_field (defaulted (words_completes levels true) rfl) fun _ =>
              completes_done rfl
      | forLoop =>
          exact completes_record rest rfl fun
            | [_, _, _], _ =>
              completes_field (required (text true)) fun _ =>
              completes_field (optional (words_completes levels true) rfl fun _ => rfl) fun _ =>
              completes_field (required (statements_completes levels true)) fun _ =>
              completes_done rfl
      | function =>
          exact completes_record rest rfl fun
            | [_, _], _ =>
              completes_field (required (text true)) fun _ =>
              completes_field (required (statement_completes levels true)) fun _ =>
              completes_done rfl
      | conditional =>
          exact completes_record rest rfl fun
            | [_, _, _], _ =>
              completes_field (required (statements_completes levels true)) fun _ =>
              completes_field (required (statements_completes levels true)) fun _ =>
              completes_field
                (optional (statements_completes levels true) rfl fun _ => rfl) fun _ =>
              completes_done rfl
      | letAll =>
          exact completes_record rest rfl fun
            | [_], _ =>
              completes_field (required (expressions_completes levels true)) fun _ =>
              completes_done rfl
      | subshell =>
          exact completes_record rest rfl fun
            | [_], _ =>
              completes_field (required (statements_completes levels true)) fun _ =>
              completes_done rfl
      | test =>
          exact completes_record rest rfl fun
            | [_], _ =>
              completes_field (required (words_completes levels true)) fun _ =>
              completes_done rfl
      | timed =>
          exact completes_record rest rfl fun
            | [_, _], _ =>
              completes_field (defaulted (truth true) rfl) fun _ =>
              completes_field (optional (statement_completes levels true) rfl fun _ => rfl) fun _ =>
              completes_done rfl
      | whileLoop =>
          exact completes_record rest rfl fun
            | [_, _, _], _ =>
              completes_field (required (statements_completes levels true)) fun _ =>
              completes_field (required (statements_completes levels true)) fun _ =>
              completes_field (defaulted (truth true) rfl) fun _ =>
              completes_done rfl

end

theorem options_completes (levels : Nat) :
    Completes levels Options.read? Options.toJson (.tree .options) := by
  cases levels with
  | zero =>
      intro _ _
      rw [Options.read?, complete?]
      rfl
  | succ levels =>
      refine .record rfl fun held value => ?_
      rw [Options.read?]
      refine completes_record value rfl fun givens length => ?_
      obtain ⟨exitOnError, printExecuted, sliceMode, rfl⟩ := List.length_eq_three.mp length
      exact completes_field (defaulted (truth held) rfl) fun _ =>
        completes_field (defaulted (truth held) rfl) fun _ =>
        completes_field (defaulted (name held) rfl) fun _ =>
        completes_done rfl

end Reader

end ShellTree
