import FeatureRefs.Files.Path
import FeatureRefs.Todo.Report.Format

/-!
# Arguments

The command line names a command, with options before and behind its name. Arguments are read from left
to right, so a request for the version counts only if nothing before it is wrong. A value may be
attached to its option; one that stands on its own must not look like an option.
-/

namespace FeatureRefs.CommandLine

/-- What the program is to do. -/
inductive Action where
  | check (paths : List Path)
  | todos (roots : List Path) (format : ReportFormat)
  | search (query : String) (limit : Nat) (explore : Bool)
  | serve
deriving Repr, DecidableEq

/-- An action and the options that every command has. -/
structure Invocation where
  root : Option Path := none
  config : Option Path := none
  action : Action
deriving Repr, DecidableEq

/-- Why no action follows from the arguments. -/
inductive Interruption where
  | version
  | help
  | usageError
deriving Repr, DecidableEq

/-- The commands. -/
inductive CommandName where
  | check
  | todos
  | search
  | lsp
deriving Repr, DecidableEq

/-- The command of a name. -/
def CommandName.ofText? : String → Option CommandName
  | "check" => some .check
  | "todos" => some .todos
  | "search" => some .search
  | "lsp" => some .lsp
  | _ => none

/-- The options. -/
inductive OptionName where
  | root
  | config
  | format
  | limit
  | explore
  | version
  | help
deriving Repr, DecidableEq

namespace OptionName

/-- Whether an option takes a value. -/
def takesValue : OptionName → Bool
  | root | config | format | limit => true
  | explore | version | help => false

/-- Whether an option may stand behind a command, or in front of all commands. -/
def isAllowed (command : Option CommandName) : OptionName → Bool
  | root | config | help => true
  | version => command.isNone
  | format => command = some .todos
  | limit | explore => command = some .search

/-- The option of a long name. -/
def ofLong? : String → Option OptionName
  | "root" => some root
  | "config" => some config
  | "format" => some format
  | "limit" => some limit
  | "explore" => some explore
  | "version" => some version
  | "help" => some help
  | _ => none

/-- The option of a letter. -/
def ofShort? : Char → Option OptionName
  | 'f' => some format
  | 'V' => some version
  | 'h' => some help
  | _ => none

end OptionName

/-- The largest number that can be given. -/
def largestNumber : Nat := UInt64.size - 1

/-- Reads a number, which may have a plus sign. -/
def number? (text : String) : Option Nat :=
  let digits :=
    match text.toList with
    | '+' :: rest => rest
    | digits => digits
  if digits.isEmpty || !digits.all Char.isDigit then none
  else
    let n := digits.foldl (fun n d => 10 * n + (d.toNat - '0'.toNat)) 0
    if n ≤ largestNumber then some n else none

/-- Whether an option must have a certain kind of value, and the value is of that kind. -/
def isValue (name : OptionName) (value : String) : Bool :=
  match name with
  | .root | .config => !value.isEmpty
  | .format => (ReportFormat.ofName? value).isSome
  | .limit => (number? value).isSome
  | .explore | .version | .help => true

/-- What was read of the arguments. -/
structure Reading where
  command : Option CommandName := none
  /-- The options in front of the command and their values. -/
  outer : List (OptionName × String) := []
  /-- The options since the command and their values. -/
  options : List (OptionName × String) := []
  /-- The other arguments of the command. -/
  operands : List String := []
  /-- Whether nothing but operands may follow. -/
  onlyOperands : Bool := false

namespace Reading

/-- Adds an option, which may stand only once on each side of the command. -/
def addOption (r : Reading) (name : OptionName) (value : String) :
    Except Interruption Reading :=
  match name with
  | .version => .error .version
  | .help => .error .help
  | name =>
      if (r.options.lookup name).isSome || !isValue name value then .error .usageError
      else .ok { r with options := r.options ++ [(name, value)] }

/-- How many operands a command takes. -/
def operandLimit : Option CommandName → Option Nat
  | some .check | some .todos => none
  | some .search => some 1
  | some .lsp | none => some 0

/-- Whether operands of a command are paths, which must not be empty. -/
def takesPaths (command : Option CommandName) : Bool :=
  command = some .check || command = some .todos

/-- Adds an operand. -/
def addOperand (r : Reading) (text : String) : Except Interruption Reading :=
  if (operandLimit r.command).any (r.operands.length + 1 > ·) ||
      (takesPaths r.command && text.isEmpty) then
    .error .usageError
  else
    .ok { r with operands := r.operands ++ [text] }

/-- Adds an argument that is no option: the command, or an operand of it. -/
def addWord (r : Reading) (text : String) : Except Interruption Reading :=
  if r.command.isNone && !r.onlyOperands then
    match CommandName.ofText? text with
    | some command => .ok { r with command := some command, outer := r.options, options := [] }
    | none => .error .usageError
  else
    r.addOperand text

/-- An option with the value that is attached to it. -/
structure Written where
  name : OptionName
  value : Option String := none

/-- Reads an option that begins with two hyphens. -/
def long? (text : List Char) : Option Written :=
  let name := text.takeWhile (· != '=')
  let value := match text.dropWhile (· != '=') with
    | [] => none
    | _ :: value => some (String.ofList value)
  (OptionName.ofLong? (String.ofList name)).map fun name => { name, value }

/-- Reads an option of one letter. What follows the letter is its value if it takes one. -/
def short? : List Char → Option Written
  | [] => none
  | letter :: rest => do
      let name ← OptionName.ofShort? letter
      if !name.takesValue || rest.isEmpty then
        return { name }
      else
        let value := if rest.head? == some '=' then rest.tail else rest
        return { name, value := some (String.ofList value) }

/-- Whether an argument looks like an option. -/
def looksLikeOption : List Char → Bool
  | '-' :: _ :: _ => true
  | _ => false

/-- Reads an option that an argument consists of, if it is one. -/
def option? (command : Option CommandName) : List Char → Except Interruption (Option Written)
  | '-' :: '-' :: text => written? (long? text)
  | '-' :: c :: text => written? (short? (c :: text))
  | _ => .ok none
where
  /-- Refuses what is no option of the command. -/
  written? : Option Written → Except Interruption (Option Written)
    | some written =>
        if written.name.isAllowed command then .ok (some written) else .error .usageError
    | none => .error .usageError

/-- The word in place of a command that asks for help. -/
def helpWord : String := "help"

/-- What follows from the word for help and all arguments behind it: they may name one command, and the
word is a command, too. -/
def helpOn : List String → Interruption
  | [] => .help
  | [name] =>
      if name == helpWord || (CommandName.ofText? name).isSome then .help else .usageError
  | _ => .usageError

/-- Reads the arguments. -/
def readAll (r : Reading) : List String → Except Interruption Reading
  | [] => .ok r
  | text :: rest =>
      if r.onlyOperands then do
        readAll (← r.addWord text) rest
      else if text == "--" then
        readAll { r with onlyOperands := true } rest
      else if r.command.isNone && text == helpWord then
        .error (helpOn rest)
      else do
        match ← option? r.command text.toList with
        | none => readAll (← r.addWord text) rest
        | some written =>
            if !written.name.takesValue then
              if written.value.isSome then .error .usageError
              else readAll (← r.addOption written.name "") rest
            else
              -- A value that is not attached is the next argument.
              match written.value with
              | some value => readAll (← r.addOption written.name value) rest
              | none =>
                  match rest with
                  | [] => .error .usageError
                  | value :: rest =>
                      if looksLikeOption value.toList then .error .usageError
                      else readAll (← r.addOption written.name value) rest

/-- The value of an option; what stands behind the command counts more. -/
def value? (r : Reading) (name : OptionName) : Option String :=
  (r.options ++ r.outer).lookup name

/-- The number of search results that are shown if it is not said. -/
def defaultLimit : Nat := 10

/-- The action that the arguments of a command make up. -/
def action? (r : Reading) : Option Action :=
  match r.command with
  | none => none
  | some .check =>
      if r.operands.isEmpty then none else some (.check (r.operands.map Path.mk))
  | some .todos =>
      let format := (r.value? .format).bind ReportFormat.ofName?
      some (.todos (r.operands.map Path.mk) (format.getD .text))
  | some .search =>
      r.operands.head?.map fun query =>
        let limit := (r.value? .limit).bind number?
        .search query (limit.getD defaultLimit) (r.value? .explore).isSome
  | some .lsp => some .serve

end Reading

/-- Reads the command line. -/
def Invocation.parse (arguments : List String) : Except Interruption Invocation := do
  let r ← Reading.readAll {} arguments
  match r.action? with
  | none => .error .usageError
  | some action =>
      return {
        root := (r.value? .root).map Path.mk
        config := (r.value? .config).map Path.mk
        action }

end FeatureRefs.CommandLine
