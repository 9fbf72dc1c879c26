import ShellTree.Vocabulary

/-!
# Operators

The operators that occur in a statement tree.  Each has a name, by which the
tree format refers to it, and a symbol, by which it is shown in shell text.
-/

namespace ShellTree

inductive Connective where
  | and
  | or
  | pipe
  | pipeAll
  deriving DecidableEq

inductive RedirectionOperator where
  | less
  | great
  | dGreat
  | greatAnd
  | lessAnd
  | lessGreat
  | clobber
  | andGreat
  | andDGreat
  | tLess
  | dLess
  | dLessDash
  deriving DecidableEq

inductive UnaryOperator where
  | neg
  | pos
  | not
  | bitNot
  | inc
  | dec
  deriving DecidableEq

inductive BinaryOperator where
  | add
  | sub
  | mul
  | div
  | mod
  | pow
  | lShift
  | rShift
  | lt
  | le
  | gt
  | ge
  | eq
  | ne
  | bitAnd
  | bitOr
  | bitXor
  | logAnd
  | logOr
  | comma
  deriving DecidableEq

inductive LetterCase where
  | upper
  | lower
  deriving DecidableEq

/-- Whether a process substitution is read from or written to. -/
inductive Flow where
  | input
  | output
  deriving DecidableEq

instance : Vocabulary Connective where
  members := [.and, .or, .pipe, .pipeAll]
  name
    | .and => "and"
    | .or => "or"
    | .pipe => "pipe"
    | .pipeAll => "pipe_all"

instance : Vocabulary RedirectionOperator where
  members :=
    [.less, .great, .dGreat, .greatAnd, .lessAnd, .lessGreat, .clobber, .andGreat, .andDGreat,
      .tLess, .dLess, .dLessDash]
  name
    | .less => "less"
    | .great => "great"
    | .dGreat => "d_great"
    | .greatAnd => "great_and"
    | .lessAnd => "less_and"
    | .lessGreat => "less_great"
    | .clobber => "clobber"
    | .andGreat => "and_great"
    | .andDGreat => "and_d_great"
    | .tLess => "t_less"
    | .dLess => "d_less"
    | .dLessDash => "d_less_dash"

instance : Vocabulary UnaryOperator where
  members := [.neg, .pos, .not, .bitNot, .inc, .dec]
  name
    | .neg => "neg"
    | .pos => "pos"
    | .not => "not"
    | .bitNot => "bit_not"
    | .inc => "inc"
    | .dec => "dec"

instance : Vocabulary BinaryOperator where
  members :=
    [.add, .sub, .mul, .div, .mod, .pow, .lShift, .rShift, .lt, .le, .gt, .ge, .eq, .ne, .bitAnd,
      .bitOr, .bitXor, .logAnd, .logOr, .comma]
  name
    | .add => "add"
    | .sub => "sub"
    | .mul => "mul"
    | .div => "div"
    | .mod => "mod"
    | .pow => "pow"
    | .lShift => "l_shift"
    | .rShift => "r_shift"
    | .lt => "lt"
    | .le => "le"
    | .gt => "gt"
    | .ge => "ge"
    | .eq => "eq"
    | .ne => "ne"
    | .bitAnd => "bit_and"
    | .bitOr => "bit_or"
    | .bitXor => "bit_xor"
    | .logAnd => "log_and"
    | .logOr => "log_or"
    | .comma => "comma"

instance : Vocabulary LetterCase where
  members := [.upper, .lower]
  name
    | .upper => "upper"
    | .lower => "lower"

instance : Vocabulary Flow where
  members := [.input, .output]
  name
    | .input => "input"
    | .output => "output"

def Connective.symbol : Connective → String
  | .and => "&&"
  | .or => "||"
  | .pipe => "|"
  | .pipeAll => "|&"

def RedirectionOperator.symbol : RedirectionOperator → String
  | .less => "<"
  | .great => ">"
  | .dGreat => ">>"
  | .greatAnd => ">&"
  | .lessAnd => "<&"
  | .lessGreat => "<>"
  | .clobber => ">|"
  | .andGreat => "&>"
  | .andDGreat => "&>>"
  | .tLess => "<<<"
  | .dLess => "<<"
  | .dLessDash => "<<-"

def UnaryOperator.symbol : UnaryOperator → String
  | .neg => "-"
  | .pos => "+"
  | .not => "!"
  | .bitNot => "~"
  | .inc => "++"
  | .dec => "--"

def BinaryOperator.symbol : BinaryOperator → String
  | .add => "+"
  | .sub => "-"
  | .mul => "*"
  | .div => "/"
  | .mod => "%"
  | .pow => "**"
  | .lShift => "<<"
  | .rShift => ">>"
  | .lt => "<"
  | .le => "<="
  | .gt => ">"
  | .ge => ">="
  | .eq => "=="
  | .ne => "!="
  | .bitAnd => "&"
  | .bitOr => "|"
  | .bitXor => "^"
  | .logAnd => "&&"
  | .logOr => "||"
  | .comma => ","

end ShellTree
