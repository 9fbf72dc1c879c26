import ShellTree.Tree.Basic

/-!
# Building trees

Short ways to the trees that consist of plain text.
-/

namespace ShellTree

def Word.ofText (value : String) : Word :=
  [.literal value]

def Arith.ofText (value : String) : Arith :=
  .word (Word.ofText value)

def Command.ofTexts (arguments : List String) : Command :=
  .call [] (arguments.map Word.ofText)

def Statement.ofCommand (command : Command) : Statement where
  command := some command

def Statement.negation (command : Command) : Statement where
  command := some command
  negated := true

end ShellTree
