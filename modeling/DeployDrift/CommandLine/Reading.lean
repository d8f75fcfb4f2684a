import DeployDrift.Settings.Environment

/-!
# Command lines

What a command line may hold, and what is read from it.
-/
namespace DeployDrift.CommandLine

/-!
## The grammar of a command line

Which options a command knows and whether it takes operands, and what can be wrong with a command
line.
-/

inductive OptionKind where
  /-- It is given or not. -/
  | flag
  /-- It has a value and is given at most once. -/
  | value
  /-- It has a value and may be given again. -/
  | values
  /-- It asks for help. -/
  | help
  /-- It asks for the version. -/
  | version
  deriving DecidableEq, Repr

namespace OptionKind

def takesValue : OptionKind → Bool
  | .value | .values => true
  | .flag | .help | .version => false

end OptionKind

structure OptionRule where
  name : String
  short : Option Char := none
  kind : OptionKind
  /-- The variable that stands in for the option. -/
  variableName : Option String := none
  /-- The values that are allowed.  A flag that a variable stands for has a value too. -/
  accepts : String → Bool := fun _ => true

/-- How many operands, words that are no options, a command takes.  It cannot do without. -/
inductive Operands where
  | none
  | one
  | many
  deriving DecidableEq, Repr

structure CommandRule where
  /-- How the command calls itself. -/
  title : String
  options : List OptionRule
  operands : Operands
  /-- The words that a further command may start with. -/
  commands : List String

namespace CommandRule

def long? (c : CommandRule) (name : String) : Option OptionRule :=
  c.options.find? (·.name == name)

def short? (c : CommandRule) (name : Char) : Option OptionRule :=
  c.options.find? (·.short == some name)

end CommandRule

inductive Fault where
  /-- Help was asked for. -/
  | help
  /-- The version was asked for. -/
  | version (title : String)
  | nothingGiven
  | missingCommand
  | unknownCommand (word : String)
  | missingOperand
  | unknownArgument (word : String)
  /-- The option has no value, or one that is not allowed. -/
  | badValue (name : String)
  /-- The option was given twice. -/
  | repeated (name : String)
  /-- The option was given a value but takes none. -/
  | surplusValue (name : String)
  deriving DecidableEq, Repr

def Fault.exitCode : Fault → Nat
  | .help | .version _ => 0
  | _ => 2

def Fault.message : Fault → String
  | .help => "help was asked for"
  | .version title => "the version of " ++ title ++ " was asked for"
  | .nothingGiven => "nothing was given"
  | .missingCommand => "a command is missing"
  | .unknownCommand word => "unknown command '" ++ word ++ "'"
  | .missingOperand => "the name of an application is missing"
  | .unknownArgument word => "unknown argument '" ++ word ++ "'"
  | .badValue name => "'--" ++ name ++ "' needs another value"
  | .repeated name => "'--" ++ name ++ "' was given more than once"
  | .surplusValue name => "'--" ++ name ++ "' takes no value"

def OptionRule.usage (o : OptionRule) : String :=
  (match o.short with | some c => "-" ++ c.toString ++ ", " | none => "    ") ++ "--" ++ o.name ++
    (if o.kind.takesValue then " <value>" else "")

def CommandRule.usage (c : CommandRule) : String :=
  String.join (c.options.map fun o => "  " ++ o.usage ++ "\n")

/-!
## Reading a command line

The words of a command line are read from left to right.  Options and operands may be mixed; behind
`--` all words are operands.  An option and its value are looked at when the next option or operand
is reached, so of two faults the one that is noticed first counts.
-/

/-- What was read of a command so far. -/
structure Reading where
  /-- The values of the options that were given, in order. -/
  typed : List (String × String) := []
  /-- The values of options that come from variables. -/
  inherited : List (String × String) := []
  operands : List String := []
  /-- An option that takes a value, and the value if it was read. -/
  pending : Option (OptionRule × Option String) := none
  /-- All words that follow are operands. -/
  literal : Bool := false

namespace Reading

/-- The value of an option is still to come. -/
def awaitsValue (r : Reading) : Bool :=
  match r.pending with
  | some (_, none) => true
  | _ => false

def has (r : Reading) (name : String) : Bool := r.typed.any (·.1 == name)

def record (r : Reading) (o : OptionRule) (value : String) : Except Fault Reading :=
  if o.kind ≠ .values && r.has o.name then .error (.repeated o.name)
  else if !o.accepts value then .error (.badValue o.name)
  else .ok { r with typed := r.typed ++ [(o.name, value)] }

def settle (r : Reading) : Except Fault Reading :=
  match r.pending with
  | none => .ok r
  | some (o, none) => .error (.badValue o.name)
  | some (o, some value) => { r with pending := none }.record o value

def flag (r : Reading) (c : CommandRule) (o : OptionRule) : Except Fault Reading := do
  let r ← r.settle
  match o.kind with
  | .help => throw .help
  | .version => throw (.version c.title)
  | _ => r.record o "true"

/-- Adds an option that takes a value; it may be attached. -/
def option (r : Reading) (o : OptionRule) (attached : Option String) : Except Fault Reading := do
  let r ← r.settle
  match attached with
  | some value => r.record o value
  | none => return { r with pending := some (o, none) }

def long (r : Reading) (c : CommandRule) (word : List Char) : Except Fault Reading :=
  let (name, attached) := match Text.splitFirst? '=' word with
    | some (name, value) => (String.ofList name, some (String.ofList value))
    | none => (String.ofList word, none)
  match c.long? name with
  | none => .error (.unknownArgument name)
  | some o =>
    if o.kind.takesValue then r.option o attached
    else if attached.isSome then .error (.surplusValue name)
    else r.flag c o

/-- Reads options by their short names; what follows the name of an option that takes a value is its
value, with or without an equals sign. -/
def short (c : CommandRule) : List Char → Reading → Except Fault Reading
  | [], r => .ok r
  | name :: rest, r =>
    match c.short? name with
    | none => .error (.unknownArgument name.toString)
    | some o =>
      if o.kind.takesValue then
        r.option o (match rest with
          | [] => none
          | '=' :: value => some (String.ofList value)
          | value => some (String.ofList value))
      else do short c rest (← r.flag c o)

def operand (r : Reading) (c : CommandRule) (word : String) : Except Fault Reading :=
  if c.operands = .none || (c.operands = .one && !r.operands.isEmpty) then
    if c.commands.isEmpty || (r.literal && c.commands.contains word) then
      .error (.unknownArgument word)
    else .error (.unknownCommand word)
  else do
    let r ← r.settle
    return { r with operands := r.operands ++ [word] }

def word (r : Reading) (c : CommandRule) (word : String) : Except Fault Reading :=
  if r.literal then r.operand c word
  else
    match word.toList with
    | ['-', '-'] => .ok { r with literal := true }
    | '-' :: '-' :: name => r.long c name
    | '-' :: first :: rest => short c (first :: rest) r
    | _ =>
      match r.pending with
      | some (o, none) => .ok { r with pending := some (o, some word) }
      | _ => r.operand c word

/-- Reads words up to the one that starts a further command; it comes back with the words behind
it. -/
def words (c : CommandRule) : List String → Reading →
    Except Fault (Reading × Option (String × List String))
  | [], r => .ok (r, none)
  | w :: rest, r =>
    if !r.literal && !r.awaitsValue && c.commands.contains w then .ok (r, some (w, rest))
    else do words c rest (← r.word c w)

/-- Lets variables stand in for the options that were not given. -/
def inherit (env : Variables) : List OptionRule → Reading → Except Fault Reading
  | [], r => .ok r
  | o :: rest, r =>
    match o.variableName.bind (Table.get? env) with
    | some value =>
      if r.has o.name then inherit env rest r
      else if o.accepts value then
        inherit env rest { r with inherited := r.inherited ++ [(o.name, value)] }
      else .error (.badValue o.name)
    | none => inherit env rest r

def finish (r : Reading) (c : CommandRule) (env : Variables) : Except Fault Reading := do
  (← r.settle).inherit env c.options

end Reading

/-- A command line: the command, what was given before it, and what was given to it. -/
structure Parsed where
  command : String
  outer : Reading
  inner : Reading

namespace Parsed

/-- The value of an option: what was given last counts, and variables come after all that was
given. -/
def value? (p : Parsed) (name : String) : Option String :=
  (p.inner.typed.lookup name).or <| (p.outer.typed.lookup name).or <|
    (p.inner.inherited.lookup name).or (p.outer.inherited.lookup name)

def values (p : Parsed) (name : String) : List String :=
  p.inner.typed.filterMap fun (given, value) => if given = name then some value else none

def isSet (p : Parsed) (name : String) : Bool := p.value? name == some "true"

end Parsed

/-- Reads a command line of a program with one level of commands, among which is one for help. -/
def parse (program : CommandRule) (helpWord : String) (rule : String → CommandRule)
    (env : Variables) (args : List String) : Except Fault Parsed := do
  let (outer, next) ← Reading.words program args {}
  match next with
  | none =>
    let outer ← outer.finish program env
    if outer.typed.isEmpty && outer.inherited.isEmpty then throw .nothingGiven
    throw .missingCommand
  | some (command, rest) =>
    if command = helpWord then
      match rest with
      | [] => throw .help
      | word :: more =>
        if program.commands.contains word then
          match more with
          | [] => throw .help
          | word :: _ => throw (.unknownCommand word)
        else throw (.unknownCommand word)
    let c := rule command
    let (inner, _) ← Reading.words c rest {}
    let inner ← inner.finish c env
    if c.operands ≠ .none && inner.operands.isEmpty then throw .missingOperand
    return ⟨command, ← outer.finish program env, inner⟩

end DeployDrift.CommandLine
