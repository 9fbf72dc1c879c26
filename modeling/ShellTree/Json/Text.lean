import ShellTree.Json.Token

/-!
# JSON text

A value is written as compact text, token by token.  Reading takes the tokens
one at a time and keeps the arrays and objects that are still open on a stack.
-/

namespace ShellTree.Json

mutual

def tokens : Json → List Token
  | .null => [.null]
  | .bool value => [.bool value]
  | .number value => [.number value]
  | .string value => [.string value]
  | .array items => .openBracket :: itemTokens items ++ [.closeBracket]
  | .object members => .openBrace :: memberTokens members ++ [.closeBrace]
  | .unreadable => [.halfPair]

def itemTokens : List Json → List Token
  | [] => []
  | [item] => tokens item
  | item :: next :: rest => tokens item ++ .comma :: itemTokens (next :: rest)

def memberTokens : List (String × Json) → List Token
  | [] => []
  | [(name, value)] => .string name :: .colon :: tokens value
  | (name, value) :: next :: rest =>
      .string name :: .colon :: tokens value ++ .comma :: memberTokens (next :: rest)

end

def text (value : Json) : String :=
  String.ofList (value.tokens.flatMap Token.chars)

/-- An array or object that is still open, with what it holds so far, last
first.  An object waits for the value of `name`; it cannot be read once a name
in it could not. -/
inductive Frame where
  | array (items : List Json)
  | object (members : List (String × Json)) (named : Bool) (name : String)

inductive Phase where
  | value
  | firstItem
  | firstName (members : List (String × Json)) (named : Bool)
  | name (members : List (String × Json)) (named : Bool)
  | colon (members : List (String × Json)) (named : Bool) (name : String)
  | after (value : Json)

/-- The open arrays and objects, innermost first, and what may come next. -/
structure Parser where
  stack : List Frame := []
  phase : Phase := .value

namespace Parser

/-- The finished object, or an unreadable value if one of its names was. -/
def close (members : List (String × Json)) (named : Bool) : Json :=
  if named then .object members.reverse else .unreadable

def value (stack : List Frame) : Token → Option Parser
  | .null => some ⟨stack, .after .null⟩
  | .bool value => some ⟨stack, .after (.bool value)⟩
  | .number value => some ⟨stack, .after (.number value)⟩
  | .string value => some ⟨stack, .after (.string value)⟩
  | .overflow => some ⟨stack, .after .unreadable⟩
  | .halfPair => some ⟨stack, .after .unreadable⟩
  | .openBracket => some ⟨.array [] :: stack, .firstItem⟩
  | .openBrace => some ⟨stack, .firstName [] true⟩
  | _ => none

def name (stack : List Frame) (members : List (String × Json)) (named : Bool) :
    Token → Option Parser
  | .string value => some ⟨stack, .colon members named value⟩
  | .halfPair => some ⟨stack, .colon members false ""⟩
  | _ => none

def step (parser : Parser) (token : Token) : Option Parser :=
  match parser.phase with
  | .value => value parser.stack token
  | .firstItem =>
      match parser.stack, token with
      | .array _ :: stack, .closeBracket => some ⟨stack, .after (.array [])⟩
      | stack, _ => value stack token
  | .firstName members named =>
      match token with
      | .closeBrace => some ⟨parser.stack, .after (close members named)⟩
      | _ => name parser.stack members named token
  | .name members named => name parser.stack members named token
  | .colon members named label =>
      match token with
      | .colon => some ⟨.object members named label :: parser.stack, .value⟩
      | _ => none
  | .after done =>
      match parser.stack, token with
      | .array items :: stack, .comma => some ⟨.array (done :: items) :: stack, .value⟩
      | .array items :: stack, .closeBracket =>
          some ⟨stack, .after (.array (done :: items).reverse)⟩
      | .object members named label :: stack, .comma =>
          some ⟨stack, .name ((label, done) :: members) named⟩
      | .object members named label :: stack, .closeBrace =>
          some ⟨stack, .after (close ((label, done) :: members) named)⟩
      | _, _ => none

def run (parser : Parser) : List Token → Option Parser
  | [] => some parser
  | token :: rest =>
      match parser.step token with
      | some next => next.run rest
      | none => none

def finish (parser : Parser) : Option Json :=
  match parser.stack, parser.phase with
  | [], .after value => some value
  | _, _ => none

end Parser

def ofTokens? (tokens : List Token) : Option Json :=
  (Parser.run {} tokens).bind Parser.finish

def ofText? (text : String) : Option Json :=
  (scan? text.toList).bind ofTokens?

end ShellTree.Json
