import ShellTree.Options

/-!
# Command-line arguments

Arguments are taken from left to right, and the first one that is wrong or asks for
the version or for help decides.  Every option but `--env` may be given once.
-/

namespace ShellTree

structure Arguments where
  exitOnError : Bool := false
  printExecuted : Bool := false
  json : Bool := false
  sliceMode : Option SliceMode := none
  bindings : List (String × String) := []
  settings : Option String := none
  tree : Option String := none
  deriving DecidableEq

inductive Request where
  | run (arguments : Arguments)
  | version
  | help
  deriving DecidableEq

inductive Switch where
  | exitOnError
  | printExecuted
  | json
  | version
  | help
  deriving DecidableEq

inductive Setting where
  | sliceMode
  | binding
  | settings
  deriving DecidableEq

def Switch.ofLetter? (letter : Char) : Option Switch :=
  if letter = 'e' then some .exitOnError
  else if letter = 'x' then some .printExecuted
  else if letter = 'V' then some .version
  else if letter = 'h' then some .help
  else none

def Switch.ofName? (name : String) : Option Switch :=
  if name = "errexit" then some .exitOnError
  else if name = "xtrace" then some .printExecuted
  else if name = "json" then some .json
  else if name = "version" then some .version
  else if name = "help" then some .help
  else none

def Setting.ofName? (name : String) : Option Setting :=
  if name = "slice-mode" then some .sliceMode
  else if name = "env" then some .binding
  else if name = "config" then some .settings
  else none

def splitPair (chars : List Char) : List Char × Option (List Char) :=
  match chars.span (· != '=') with
  | (before, []) => (before, none)
  | (before, _ :: after) => (before, some after)

/-- A variable and its value with an equals sign between them; the name is not empty. -/
def pair? (text : String) : Option (String × String) :=
  match splitPair text.toList with
  | ([], _) => none
  | (_, none) => none
  | (name, some value) => some (String.ofList name, String.ofList value)

namespace Arguments

/-- Take an option that stands alone.  `inl` ends the command line. -/
def switch? (known : Arguments) : Switch → Option (Request ⊕ Arguments)
  | .exitOnError =>
      if known.exitOnError then none else some (.inr { known with exitOnError := true })
  | .printExecuted =>
      if known.printExecuted then none else some (.inr { known with printExecuted := true })
  | .json => if known.json then none else some (.inr { known with json := true })
  | .version => some (.inl .version)
  | .help => some (.inl .help)

def letters? (known : Arguments) : List Char → Option (Request ⊕ Arguments)
  | [] => some (.inr known)
  | letter :: rest => do
      match ← known.switch? (← Switch.ofLetter? letter) with
      | .inl request => return .inl request
      | .inr known => known.letters? rest

def setting? (known : Arguments) (value : String) : Setting → Option Arguments
  | .sliceMode =>
      if known.sliceMode.isSome then none
      else (Vocabulary.ofName? value).map fun mode => { known with sliceMode := some mode }
  | .binding =>
      (pair? value).map fun pair => { known with bindings := known.bindings ++ [pair] }
  | .settings =>
      if known.settings.isSome || value.isEmpty then none
      else some { known with settings := some value }

def path? (known : Arguments) (path : String) : Option Arguments :=
  if known.tree.isSome || path.isEmpty then none else some { known with tree := some path }

def paths? (known : Arguments) : List String → Option Request
  | [] => some (.run known)
  | path :: rest => (known.path? path).bind fun known => known.paths? rest

/-- Whether an argument can be the value of the option before it. -/
def isValue (argument : String) : Bool :=
  argument.toList.head? != some '-' || argument == "-"

def parse? (known : Arguments) : List String → Option Request
  | [] => some (.run known)
  | argument :: rest =>
      match argument.toList with
      | ['-', '-'] => known.paths? rest
      | '-' :: '-' :: long =>
          let (name, attached) := splitPair long
          match Switch.ofName? (String.ofList name), Setting.ofName? (String.ofList name) with
          | some switch, _ =>
              if attached.isSome then none
              else match known.switch? switch with
                | none => none
                | some (.inl request) => some request
                | some (.inr known) => known.parse? rest
          | none, some setting =>
              match attached, rest with
              | some value, rest =>
                  (known.setting? (String.ofList value) setting).bind fun known =>
                    known.parse? rest
              | none, value :: rest =>
                  if isValue value then
                    (known.setting? value setting).bind fun known => known.parse? rest
                  else none
              | none, [] => none
          | none, none => none
      | '-' :: letter :: letters =>
          match known.letters? (letter :: letters) with
          | none => none
          | some (.inl request) => some request
          | some (.inr known) => known.parse? rest
      | _ => (known.path? argument).bind fun known => known.parse? rest

end Arguments

end ShellTree
