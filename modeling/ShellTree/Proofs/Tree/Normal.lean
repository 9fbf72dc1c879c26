import ShellTree.Arithmetic.Operator
import ShellTree.Tree.Basic

/-!
# Trees without quotes and parentheses

Quotation marks and the parentheses of arithmetic matter while a script is parsed.  A tree
has them behind it, so it can be brought to a normal form: quoted text becomes literal
text, the parts of a double-quoted part take its place, literals that meet are merged and
parentheses are dropped.  Only parentheses that a counting operator is applied to stay,
because what is counted has to be a word.
-/

namespace ShellTree

/-- Put a part in front of a word; a literal is merged with a literal that it meets. -/
def Part.prepend : Part → List Part → List Part
  | .literal first, .literal second :: rest => .literal (first ++ second) :: rest
  | part, word => part :: word

mutual

def Part.norm : Part → List Part
  | .literal value => [.literal value]
  | .singleQuoted value => [.literal value]
  | .doubleQuoted parts => normWord parts
  | .parameter name none => [.parameter name none]
  | .parameter name (some operation) => [.parameter name (some operation.norm)]
  | .arithmetic expression => [.arithmetic (expression.norm false)]
  | .substitution body => [.substitution (normStatements body)]
  | .brace items => [.brace (normWords items)]
  | .extGlob operator pattern => [.extGlob operator pattern]
  | .process body direction => [.process (normStatements body) direction]

def normWord : List Part → List Part
  | [] => []
  | part :: rest => part.norm.foldr Part.prepend (normWord rest)

def normWords : List (List Part) → List (List Part)
  | [] => []
  | word :: rest => normWord word :: normWords rest

def Operation.norm : Operation → Operation
  | .length => .length
  | .indirect => .indirect
  | .slice offset none => .slice (offset.norm false) none
  | .slice offset (some bound) => .slice (offset.norm false) (some (bound.norm false))
  | .replace pattern replacement all => .replace (normWord pattern) (normWord replacement) all
  | .default word checkEmpty => .default (normWord word) checkEmpty
  | .alternate word checkEmpty => .alternate (normWord word) checkEmpty
  | .modifyCase direction all => .modifyCase direction all
  | .width => .width
  | .index expression => .index (expression.norm false)

/-- The normal form of an arithmetic expression, which may be what a counting operator is
applied to. -/
def Arith.norm : Arith → (counted : Bool) → Arith
  | .word parts, _ => .word (normWord parts)
  | .paren expression, true => .paren (expression.norm false)
  | .paren expression, false => expression.norm false
  | .unary operator operand isPostfix, _ =>
      .unary operator (operand.norm operator.assigns) isPostfix
  | .binary operator left right, _ => .binary operator (left.norm false) (right.norm false)

def normExpressions : List Arith → List Arith
  | [] => []
  | expression :: rest => expression.norm false :: normExpressions rest

def normAssignments : List Assignment → List Assignment
  | [] => []
  | ⟨name, value⟩ :: rest => ⟨name, normWord value⟩ :: normAssignments rest

def normRedirections : List Redirection → List Redirection
  | [] => []
  | ⟨descriptor, operator, target⟩ :: rest =>
      ⟨descriptor, operator, normWord target⟩ :: normRedirections rest

def normCaseItems : List CaseItem → List CaseItem
  | [] => []
  | ⟨patterns, body⟩ :: rest => ⟨normWords patterns, normStatements body⟩ :: normCaseItems rest

def Statement.norm : Statement → Statement
  | ⟨none, negated, background, coprocess, redirections⟩ =>
      ⟨none, negated, background, coprocess, normRedirections redirections⟩
  | ⟨some command, negated, background, coprocess, redirections⟩ =>
      ⟨some command.norm, negated, background, coprocess, normRedirections redirections⟩

def normStatements : List Statement → List Statement
  | [] => []
  | statement :: rest => statement.norm :: normStatements rest

def Command.norm : Command → Command
  | .call assignments arguments => .call (normAssignments assignments) (normWords arguments)
  | .arithmetic expression => .arithmetic (expression.norm false)
  | .binary operator left right => .binary operator left.norm right.norm
  | .block statements => .block (normStatements statements)
  | .choice word items => .choice (normWord word) (normCaseItems items)
  | .coproc name body => .coproc name body.norm
  | .declare variant arguments => .declare variant (normWords arguments)
  | .forLoop name none body => .forLoop name none (normStatements body)
  | .forLoop name (some words) body => .forLoop name (some (normWords words)) (normStatements body)
  | .function name body => .function name body.norm
  | .conditional condition thenBody none =>
      .conditional (normStatements condition) (normStatements thenBody) none
  | .conditional condition thenBody (some elseBody) =>
      .conditional (normStatements condition) (normStatements thenBody)
        (some (normStatements elseBody))
  | .letAll expressions => .letAll (normExpressions expressions)
  | .subshell statements => .subshell (normStatements statements)
  | .test words => .test (normWords words)
  | .timed posix none => .timed posix none
  | .timed posix (some statement) => .timed posix (some statement.norm)
  | .whileLoop condition body isUntil =>
      .whileLoop (normStatements condition) (normStatements body) isUntil

end

/-! ## Normal trees -/

def Part.meetsLiteral : Part → List Part → Bool
  | .literal _, .literal _ :: _ => true
  | _, _ => false

mutual

/-- The part is not quoted, and what is in it is normal. -/
def Part.IsNormal : Part → Prop
  | .literal _ => True
  | .singleQuoted _ => False
  | .doubleQuoted _ => False
  | .parameter _ none => True
  | .parameter _ (some operation) => operation.IsNormal
  | .arithmetic expression => expression.IsNormal false
  | .substitution body => NormalStatements body
  | .brace items => NormalWords items
  | .extGlob .. => True
  | .process body _ => NormalStatements body

/-- All parts are normal, and no literal follows another. -/
def NormalWord : List Part → Prop
  | [] => True
  | part :: rest => part.IsNormal ∧ part.meetsLiteral rest = false ∧ NormalWord rest

def NormalWords : List (List Part) → Prop
  | [] => True
  | word :: rest => NormalWord word ∧ NormalWords rest

def Operation.IsNormal : Operation → Prop
  | .slice offset none => offset.IsNormal false
  | .slice offset (some bound) => offset.IsNormal false ∧ bound.IsNormal false
  | .replace pattern replacement _ => NormalWord pattern ∧ NormalWord replacement
  | .default word _ => NormalWord word
  | .alternate word _ => NormalWord word
  | .index expression => expression.IsNormal false
  | .length | .indirect | .modifyCase .. | .width => True

/-- There are no parentheses but those that a counting operator is applied to. -/
def Arith.IsNormal : Arith → (counted : Bool) → Prop
  | .word parts, _ => NormalWord parts
  | .paren expression, counted => counted = true ∧ expression.IsNormal false
  | .unary operator operand _, _ => operand.IsNormal operator.assigns
  | .binary _ left right, _ => left.IsNormal false ∧ right.IsNormal false

def NormalExpressions : List Arith → Prop
  | [] => True
  | expression :: rest => expression.IsNormal false ∧ NormalExpressions rest

def NormalAssignments : List Assignment → Prop
  | [] => True
  | ⟨_, value⟩ :: rest => NormalWord value ∧ NormalAssignments rest

def NormalRedirections : List Redirection → Prop
  | [] => True
  | ⟨_, _, target⟩ :: rest => NormalWord target ∧ NormalRedirections rest

def NormalCaseItems : List CaseItem → Prop
  | [] => True
  | ⟨patterns, body⟩ :: rest =>
      NormalWords patterns ∧ NormalStatements body ∧ NormalCaseItems rest

def Statement.IsNormal : Statement → Prop
  | ⟨none, _, _, _, redirections⟩ => NormalRedirections redirections
  | ⟨some command, _, _, _, redirections⟩ =>
      command.IsNormal ∧ NormalRedirections redirections

def NormalStatements : List Statement → Prop
  | [] => True
  | statement :: rest => statement.IsNormal ∧ NormalStatements rest

def Command.IsNormal : Command → Prop
  | .call assignments arguments => NormalAssignments assignments ∧ NormalWords arguments
  | .arithmetic expression => expression.IsNormal false
  | .binary _ left right => left.IsNormal ∧ right.IsNormal
  | .block statements => NormalStatements statements
  | .choice word items => NormalWord word ∧ NormalCaseItems items
  | .coproc _ body => body.IsNormal
  | .declare _ arguments => NormalWords arguments
  | .forLoop _ none body => NormalStatements body
  | .forLoop _ (some words) body => NormalWords words ∧ NormalStatements body
  | .function _ body => body.IsNormal
  | .conditional condition thenBody none =>
      NormalStatements condition ∧ NormalStatements thenBody
  | .conditional condition thenBody (some elseBody) =>
      NormalStatements condition ∧ NormalStatements thenBody ∧ NormalStatements elseBody
  | .letAll expressions => NormalExpressions expressions
  | .subshell statements => NormalStatements statements
  | .test words => NormalWords words
  | .timed _ none => True
  | .timed _ (some statement) => statement.IsNormal
  | .whileLoop condition body _ => NormalStatements condition ∧ NormalStatements body

end

/-! ## Normal forms are normal -/

theorem Part.meetsLiteral_nil (part : Part) : part.meetsLiteral [] = false := by
  cases part <;> rfl

theorem NormalWord.singleton {part : Part} (normal : part.IsNormal) : NormalWord [part] := by
  rw [NormalWord, NormalWord]
  exact ⟨normal, part.meetsLiteral_nil, trivial⟩

/-- A literal behind two merged ones would follow the second of them already. -/
theorem NormalWord.prepend {part : Part} {word : List Part} (first : part.IsNormal)
    (normal : NormalWord word) : NormalWord (part.prepend word) := by
  unfold Part.prepend
  split
  · next text text' rest =>
      rw [NormalWord, Part.IsNormal] at normal ⊢
      cases rest with
      | nil => exact normal
      | cons next rest => cases next <;> exact normal
  · next apart =>
      rw [NormalWord]
      refine ⟨first, ?_, normal⟩
      unfold Part.meetsLiteral
      split
      · exact absurd rfl (apart _ _ _ rfl)
      · rfl

theorem NormalWord.foldr_prepend {parts word : List Part} (first : NormalWord parts)
    (normal : NormalWord word) : NormalWord (parts.foldr Part.prepend word) := by
  induction parts with
  | nil => exact normal
  | cons part rest ih =>
      rw [NormalWord] at first
      exact .prepend first.1 (ih first.2.2)

mutual

theorem Part.norm_normal : ∀ part : Part, NormalWord part.norm
  | .literal _ | .singleQuoted _ => by
      rw [Part.norm]
      exact .singleton trivial
  | .doubleQuoted parts => by
      rw [Part.norm]
      exact normWord_normal parts
  | .parameter _ none => by
      rw [Part.norm]
      exact .singleton trivial
  | .parameter _ (some operation) => by
      rw [Part.norm]
      exact .singleton operation.norm_normal
  | .arithmetic expression => by
      rw [Part.norm]
      exact .singleton (expression.norm_normal false)
  | .substitution body => by
      rw [Part.norm]
      exact .singleton (normStatements_normal body)
  | .brace items => by
      rw [Part.norm]
      exact .singleton (normWords_normal items)
  | .extGlob .. => by
      rw [Part.norm]
      exact .singleton trivial
  | .process body _ => by
      rw [Part.norm]
      exact .singleton (normStatements_normal body)

theorem normWord_normal : ∀ word : List Part, NormalWord (normWord word)
  | [] => trivial
  | part :: rest => by
      rw [normWord]
      exact .foldr_prepend part.norm_normal (normWord_normal rest)

theorem normWords_normal : ∀ words : List (List Part), NormalWords (normWords words)
  | [] => trivial
  | word :: rest => ⟨normWord_normal word, normWords_normal rest⟩

theorem Operation.norm_normal : ∀ operation : Operation, operation.norm.IsNormal
  | .length | .indirect | .modifyCase .. | .width => trivial
  | .slice offset none => offset.norm_normal false
  | .slice offset (some bound) => ⟨offset.norm_normal false, bound.norm_normal false⟩
  | .replace pattern replacement _ => ⟨normWord_normal pattern, normWord_normal replacement⟩
  | .default word _ | .alternate word _ => normWord_normal word
  | .index expression => expression.norm_normal false

theorem Arith.norm_normal : ∀ (expression : Arith) (counted : Bool),
    (expression.norm counted).IsNormal counted
  | .word parts, _ => normWord_normal parts
  | .paren expression, true => ⟨rfl, expression.norm_normal false⟩
  | .paren expression, false => expression.norm_normal false
  | .unary operator operand _, _ => operand.norm_normal operator.assigns
  | .binary _ left right, _ => ⟨left.norm_normal false, right.norm_normal false⟩

theorem normExpressions_normal : ∀ expressions : List Arith,
    NormalExpressions (normExpressions expressions)
  | [] => trivial
  | expression :: rest => ⟨expression.norm_normal false, normExpressions_normal rest⟩

theorem normAssignments_normal : ∀ assignments : List Assignment,
    NormalAssignments (normAssignments assignments)
  | [] => trivial
  | ⟨_, value⟩ :: rest => ⟨normWord_normal value, normAssignments_normal rest⟩

theorem normRedirections_normal : ∀ redirections : List Redirection,
    NormalRedirections (normRedirections redirections)
  | [] => trivial
  | ⟨_, _, target⟩ :: rest => ⟨normWord_normal target, normRedirections_normal rest⟩

theorem normCaseItems_normal : ∀ items : List CaseItem, NormalCaseItems (normCaseItems items)
  | [] => trivial
  | ⟨patterns, body⟩ :: rest =>
      ⟨normWords_normal patterns, normStatements_normal body, normCaseItems_normal rest⟩

theorem Statement.norm_normal : ∀ statement : Statement, statement.norm.IsNormal
  | ⟨none, _, _, _, redirections⟩ => normRedirections_normal redirections
  | ⟨some command, _, _, _, redirections⟩ =>
      ⟨command.norm_normal, normRedirections_normal redirections⟩

theorem normStatements_normal : ∀ statements : List Statement,
    NormalStatements (normStatements statements)
  | [] => trivial
  | statement :: rest => ⟨statement.norm_normal, normStatements_normal rest⟩

theorem Command.norm_normal : ∀ command : Command, command.norm.IsNormal
  | .call assignments arguments =>
      ⟨normAssignments_normal assignments, normWords_normal arguments⟩
  | .arithmetic expression => expression.norm_normal false
  | .binary _ left right => ⟨left.norm_normal, right.norm_normal⟩
  | .block statements | .subshell statements => normStatements_normal statements
  | .choice word items => ⟨normWord_normal word, normCaseItems_normal items⟩
  | .coproc _ body | .function _ body => body.norm_normal
  | .declare _ arguments => normWords_normal arguments
  | .forLoop _ none body => normStatements_normal body
  | .forLoop _ (some words) body => ⟨normWords_normal words, normStatements_normal body⟩
  | .conditional condition thenBody none =>
      ⟨normStatements_normal condition, normStatements_normal thenBody⟩
  | .conditional condition thenBody (some elseBody) =>
      ⟨normStatements_normal condition, normStatements_normal thenBody,
        normStatements_normal elseBody⟩
  | .letAll expressions => normExpressions_normal expressions
  | .test words => normWords_normal words
  | .timed _ none => trivial
  | .timed _ (some statement) => statement.norm_normal
  | .whileLoop condition body _ =>
      ⟨normStatements_normal condition, normStatements_normal body⟩

end

end ShellTree
