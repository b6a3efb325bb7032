import ProductQuery.Query.Refusal
/-!
# Command.Arguments — what a command line asks for

There are two commands, `serve` and `query`, both with an option `--config`, and `query` with the collection as its one
operand.  Arguments are taken one by one.  The value of an option or an operand is looked at when the next argument is
known, so a fault of the next argument's form is reported first.
-/
namespace ProductQuery

inductive Invocation where
  | serve (config : String)
  | query (collection : Collection) (config : String)
  deriving DecidableEq, Repr

/-- What is shown instead of running a command. -/
inductive Usage where
  | help
  | version
  | helpForMissingCommand
  | unknownCommand
  | unknownArgument
  | invalidValue
  | tooManyValues
  | repeatedOption
  | missingOperand
  deriving DecidableEq, Repr

namespace Usage

def name : Usage → String
  | .help => "DisplayHelp"
  | .version => "DisplayVersion"
  | .helpForMissingCommand => "DisplayHelpOnMissingArgumentOrSubcommand"
  | .unknownCommand => "InvalidSubcommand"
  | .unknownArgument => "UnknownArgument"
  | .invalidValue => "InvalidValue"
  | .tooManyValues => "TooManyValues"
  | .repeatedOption => "ArgumentConflict"
  | .missingOperand => "MissingRequiredArgument"

/-- Asking for help or for the version is no error. -/
def exitCode : Usage → Nat
  | .help => 0
  | .version => 0
  | _ => 2

end Usage

inductive Argument where
  | escape
  | long (name : String) (value : Option String)
  | short (flags : List Char)
  | plain (text : String)
  deriving DecidableEq, Repr

/-- Two dashes begin a long option, whose value may follow a sign of equality; one dash begins short options. -/
def Argument.ofText (text : String) : Argument :=
  match text.toList with
  | ['-', '-'] => .escape
  | '-' :: '-' :: body =>
    let (name, rest) := body.span (· != '=')
    .long (String.ofList name) (rest.tail?.map String.ofList)
  | '-' :: c :: flags => .short (c :: flags)
  | _ => .plain text

namespace Invocation

/-- The settings that are read where no others are named. -/
def standardConfig : String := "./catalog.json"

inductive Command where
  | serve
  | query
  deriving DecidableEq, Repr

/-- A value that waits to be looked at. -/
inductive Pending where
  | config (value : Option String)
  | operand (value : String)

structure Progress where
  config : Option String
  collection : Option Collection
  pending : Option Pending
  hasOperand : Bool
  /-- Everything that follows is an operand. -/
  escaped : Bool

namespace Progress

def start : Progress := ⟨none, none, none, false, false⟩

def setConfig (p : Progress) (value : String) : Except Usage Progress :=
  if p.config.isSome then .error .repeatedOption
  else if value = "" then .error .invalidValue
  else .ok { p with config := some value }

def setCollection (p : Progress) (value : String) : Except Usage Progress :=
  match [Collection.products, Collection.attributes].find? (·.name = value) with
  | some c => .ok { p with collection := some c }
  | none => .error .invalidValue

def settle (p : Progress) : Except Usage Progress :=
  let q := { p with pending := none }
  match p.pending with
  | none => .ok p
  | some (.config none) => .error .invalidValue
  | some (.config (some value)) => q.setConfig value
  | some (.operand value) => q.setCollection value

/-- Takes an operand, if the command has one left. -/
def takeOperand (command : Command) (p : Progress) (text : String) : Except Usage Progress :=
  if command = .query ∧ !p.hasOperand then do
    let q ← p.settle
    return { q with pending := some (.operand text), hasOperand := true }
  else .error .unknownArgument

def take (command : Command) (p : Progress) (text : String) : Except Usage Progress :=
  if p.escaped then p.takeOperand command text
  else
    match Argument.ofText text with
    | .escape => .ok { p with escaped := true }
    | .long name value =>
      if name = "config" then do
        let q ← p.settle
        match value with
        | none => return { q with pending := some (.config none) }
        | some v => q.setConfig v
      else if name = "help" then
        match value with
        | none => do
          let _ ← p.settle
          .error .help
        | some _ => .error .tooManyValues
      else .error .unknownArgument
    | .short flags =>
      if flags.head? = some 'h' then do
        let _ ← p.settle
        .error .help
      else .error .unknownArgument
    | .plain text =>
      match p.pending with
      | some (.config none) => .ok { p with pending := some (.config (some text)) }
      | _ => p.takeOperand command text

/-- The command, once all arguments are taken. -/
def finish (command : Command) (p : Progress) : Except Usage Invocation := do
  let q ← p.settle
  let config := q.config.getD standardConfig
  match command, q.collection with
  | .serve, _ => return .serve config
  | .query, some c => return .query c config
  | .query, none => .error .missingOperand

end Progress

def ofCommand (command : Command) (arguments : List String) : Except Usage Invocation := do
  let p ← arguments.foldlM (Progress.take command) .start
  p.finish command

def commandNames : List String := ["serve", "query", "help"]

def helpFor : List String → Usage
  | [] => .help
  | [name] => if commandNames.contains name then .help else .unknownCommand
  | _ => .unknownCommand

/-- What stands behind an escape in front of the command. -/
def escaped : List String → Usage
  | [] => .helpForMissingCommand
  | name :: _ => if commandNames.contains name then .unknownArgument else .unknownCommand

def leadingOption (shown : Usage) (value : Option String) : Usage := if value.isSome then .tooManyValues else shown

def ofArguments : List String → Except Usage Invocation
  | [] => .error .helpForMissingCommand
  | "serve" :: rest => ofCommand .serve rest
  | "query" :: rest => ofCommand .query rest
  | "help" :: rest => .error (helpFor rest)
  | text :: rest =>
    .error (match Argument.ofText text with
      | .escape => escaped rest
      | .long "help" value => leadingOption .help value
      | .long "version" value => leadingOption .version value
      | .long _ _ => .unknownArgument
      | .short ('h' :: _) => .help
      | .short ('V' :: _) => .version
      | .short _ => .unknownArgument
      | .plain _ => .unknownCommand)

end Invocation
end ProductQuery
