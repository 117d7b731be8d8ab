import RowQuery.Command.Query
import RowQuery.Command.Row

/-!
Command lines. The first argument names the command and the others are its
options, each with its value behind it or joined to it by an equals sign.
-/

namespace RowQuery

inductive Command where
  | query (options : QueryOptions)
  | row (options : RowOptions) (pretty : Bool)

inductive UsageError where
  | noCommand
  | unknownCommand (name : String)
  | unknownOption (text : String)
  | missingValue (option : String)
  | invalidNumber (option text : String) (error : Text.NumeralError)
  | invalidName (option : String) (error : NameError)
  | typeWithoutColumn
deriving DecidableEq, Repr

def UsageError.message : UsageError → String
  | .noCommand => "expected the command 'query' or 'row'"
  | .unknownCommand name => "unrecognized command '" ++ name ++ "'"
  | .unknownOption text => "unexpected argument '" ++ text ++ "'"
  | .missingValue option => "a value is required for '" ++ option ++ "'"
  | .invalidNumber option text error =>
    "invalid value '" ++ text ++ "' for '" ++ option ++ "': " ++ error.message
  | .invalidName option error => "invalid value for '" ++ option ++ "': " ++ error.message
  | .typeWithoutColumn => "'--type' requires '--column'"

namespace Command

/-- Separates a value that is joined to a long option. -/
def separate (arg : String) : List String :=
  match Text.startsWith arg "--", Text.splitFirst? '=' arg.toList with
  | true, some (option, value) => [String.ofList option, String.ofList value]
  | _, _ => [arg]

/-- Reads a count of rows, which has thirty-two bits. -/
def readCount (option text : String) : Except UsageError Nat :=
  match Text.readInt 0 (2 ^ 32 - 1) text with
  | .ok n => .ok n.toNat
  | .error e => .error (.invalidNumber option text e)

def noQueryOptions : QueryOptions := ⟨[], [], none, 0, none, .none, []⟩

def noRowOptions : RowOptions := ⟨none, none, none⟩

def setQueryOption (o : QueryOptions) (option value : String) : Except UsageError QueryOptions :=
  match option with
  | "--eq" => .ok { o with equals := o.equals ++ [value] }
  | "--order-by" => .ok { o with orderBy := o.orderBy ++ [value] }
  | "--select" => .ok { o with select := o.select ++ [value] }
  | "--format" => .ok { o with format := some value }
  | "--top" => do return { o with top := some (← readCount option value) }
  | "--skip" => do return { o with skip := ← readCount option value }
  | "--inline-count" =>
    match CountMode.parse value with
    | .ok mode => .ok { o with inlineCount := mode }
    | .error e => .error (.invalidName option e)
  | _ => .error (.unknownOption option)

def readQuery (o : QueryOptions) : List String → Except UsageError QueryOptions
  | [] => .ok o
  | [option] => .error (.missingValue option)
  | option :: value :: rest => do
    let o ← setQueryOption o option value
    readQuery o rest

def setRowOption (o : RowOptions) (option value : String) : Except UsageError RowOptions :=
  match option with
  | "--input" | "-i" => .ok { o with input := some value }
  | "--column" | "-c" => .ok { o with column := some value }
  | "--type" | "-t" => .ok { o with columnType := some value }
  | _ => .error (.unknownOption option)

def readRow (o : RowOptions) (pretty : Bool) : List String → Except UsageError (RowOptions × Bool)
  | [] => .ok (o, pretty)
  | "--pretty" :: rest | "-p" :: rest => readRow o true rest
  | [option] => .error (.missingValue option)
  | option :: value :: rest => do
    let o ← setRowOption o option value
    readRow o pretty rest

def ofArguments : List String → Except UsageError Command
  | [] => .error .noCommand
  | "query" :: args => do
    return .query (← readQuery noQueryOptions (args.flatMap separate))
  | "row" :: args => do
    let (o, pretty) ← readRow noRowOptions false (args.flatMap separate)
    if o.columnType.isSome && o.column.isNone then throw .typeWithoutColumn
    return .row o pretty
  | name :: _ => .error (.unknownCommand name)

/-- Whether the command takes its input from the standard input if there is any. -/
def needsInput : Command → Bool
  | .query _ => false
  | .row o _ => o.input.isNone

def withInput (input : String) : Command → Command
  | .row o pretty => .row { o with input := some input } pretty
  | c => c

def run : Command → Except CommandError String
  | .query o => (o.buildText .empty).1
  | .row o pretty => do
    let json ← o.run
    return if pretty then json.pretty else json.text

end Command

end RowQuery
