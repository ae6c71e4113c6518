import FlatSum.Log.Settings

namespace FlatSum

/-! The command line: from its arguments to a request, to one of the two texts it can be asked for,
or to the reason why it is refused. -/

/-- Where arguments stand: before the command, or behind one. -/
inductive Scope where
  | top
  | eval
  | lex
  | demo
deriving DecidableEq, Repr

inductive Flag where
  | logLevel
  | logFormat
  | noColor
  | file
  | verbose
  | positions
  | help
  | version
deriving DecidableEq, Repr

namespace Flag

def long : Flag → String
  | logLevel => "log-level"
  | logFormat => "log-format"
  | noColor => "no-color"
  | file => "file"
  | verbose => "verbose"
  | positions => "positions"
  | help => "help"
  | version => "version"

def short? : Flag → Option Char
  | file => some 'f'
  | verbose => some 'v'
  | positions => some 'p'
  | help => some 'h'
  | version => some 'V'
  | logLevel | logFormat | noColor => none

def takesValue : Flag → Bool
  | logLevel | logFormat | file => true
  | noColor | verbose | positions | help | version => false

end Flag

namespace Scope

def flags : Scope → List Flag
  | top => [.logLevel, .logFormat, .noColor, .help, .version]
  | eval => [.logLevel, .logFormat, .noColor, .file, .verbose, .help]
  | lex => [.logLevel, .logFormat, .noColor, .file, .positions, .help]
  | demo => [.logLevel, .logFormat, .noColor, .help]

def ofLong? (scope : Scope) (name : String) : Option Flag := scope.flags.find? (·.long = name)

def ofShort? (scope : Scope) (letter : Char) : Option Flag :=
  scope.flags.find? (·.short? = some letter)

def ofCommand? : String → Option Scope
  | "eval" => some eval
  | "lex" => some lex
  | "demo" => some demo
  | _ => none

def takesExpression : Scope → Bool
  | eval | lex => true
  | top | demo => false

end Scope

inductive UsageError where
  | unknownArgument (argument : String)
  | unknownCommand (argument : String)
  | missingCommand
  | missingValue (flag : Flag)
  | badValue (flag : Flag) (value : String)
  | unwantedValue (flag : Flag) (value : String)
  | repeatedFlag (flag : Flag)
  | missingExpression
  | expressionAndFile
deriving DecidableEq, Repr

inductive Input where
  | expression (text : String)
  | file (path : String)
deriving DecidableEq, Repr

inductive Task where
  | eval (input : Input) (verbose : Bool)
  | lex (input : Input) (positions : Bool)
  | demo
deriving DecidableEq, Repr

structure Request where
  task : Task
  level? : Option Level
  format : LogFormat
  noColor : Bool
deriving DecidableEq, Repr

inductive Ending where
  | help
  | version
  | refused (error : UsageError)
deriving DecidableEq, Repr

/-- What the arguments read so far have settled. `given` holds the flags of the present place only;
`awaiting` is a flag whose value is to come; behind a bare double dash `literal` holds. -/
structure Reading where
  scope : Scope
  given : List Flag
  awaiting : Option Flag
  literal : Bool
  expression? : Option String
  file? : Option String
  level? : Option Level
  format? : Option LogFormat
  noColor : Bool
  verbose : Bool
  positions : Bool
deriving DecidableEq, Repr

namespace Reading

def fresh : Reading :=
  ⟨.top, [], none, false, none, none, none, none, false, false, false⟩

def refuse {α : Type} (error : UsageError) : Except Ending α := .error (.refused error)

def takeValue (reading : Reading) (flag : Flag) (value : String) : Except Ending Reading :=
  let settled := { reading with awaiting := none }
  match flag with
  | .logLevel =>
      match Level.ofName? value with
      | some level => .ok { settled with level? := some level }
      | none => refuse (.badValue flag value)
  | .logFormat =>
      match LogFormat.ofName? false value with
      | some format => .ok { settled with format? := some format }
      | none => refuse (.badValue flag value)
  | .file =>
      if value.isEmpty then refuse (.badValue flag value)
      else .ok { settled with file? := some value }
  | .noColor | .verbose | .positions | .help | .version => refuse (.unwantedValue flag value)

/-- Takes a flag that stands without a value of its own. -/
def takeBare (reading : Reading) (flag : Flag) : Except Ending Reading :=
  match flag with
  | .noColor => .ok { reading with noColor := true }
  | .verbose => .ok { reading with verbose := true }
  | .positions => .ok { reading with positions := true }
  | .help => .error .help
  | .version => .error .version
  | .logLevel | .logFormat | .file => .ok { reading with awaiting := some flag }

/-- Takes a flag, with the value attached to it if there is one. No flag may stand where the value of
another is awaited, and none twice at one place. -/
def takeFlag (reading : Reading) (flag : Flag) (attached : Option String) :
    Except Ending Reading :=
  match reading.awaiting with
  | some other => refuse (.missingValue other)
  | none =>
      if flag ∈ reading.given then refuse (.repeatedFlag flag)
      else
        let noted := { reading with given := flag :: reading.given }
        match attached with
        | some value => noted.takeValue flag value
        | none => noted.takeBare flag

/-- Takes an argument that is no flag: the value awaited, a command, or the expression. -/
def takeWord (reading : Reading) (word : String) : Except Ending Reading :=
  match reading.awaiting with
  | some flag => if reading.literal then refuse (.missingValue flag) else reading.takeValue flag word
  | none =>
      match reading.scope with
      | .top =>
          if reading.literal then refuse (.unknownArgument word)
          else
            match Scope.ofCommand? word with
            | some scope => .ok { reading with scope, given := [] }
            | none => if word = "help" then .error .help else refuse (.unknownCommand word)
      | .demo => refuse (.unknownArgument word)
      | .eval | .lex =>
          match reading.expression? with
          | none => .ok { reading with expression? := some word }
          | some _ => refuse (.unknownArgument word)

/-- Whether an argument that looks like a flag and is none may still be a value or the expression. -/
def admitsHyphen (reading : Reading) : Bool :=
  reading.scope.takesExpression && reading.expression?.isNone

/-- Takes the letters behind a single dash one after the other. The first that takes a value has the
letters behind it for its value, if there are any. -/
def takeLetters (reading : Reading) (argument : String) : List Char → Except Ending Reading
  | [] => .ok reading
  | letter :: rest =>
      match reading.scope.ofShort? letter with
      | none => refuse (.unknownArgument argument)
      | some flag =>
          if flag.takesValue then
            reading.takeFlag flag (if rest = [] then none else some (String.ofList rest))
          else
            match reading.takeFlag flag none with
            | .ok next => next.takeLetters argument rest
            | .error ending => .error ending

/-- Takes an argument of two dashes and a name, with a value behind an equals sign or without. -/
def takeLong (reading : Reading) (argument : String) (body : List Char) : Except Ending Reading :=
  let name := String.ofList (body.takeWhile (· ≠ '='))
  let attached :=
    match body.dropWhile (· ≠ '=') with
    | [] => none
    | _ :: value => some (String.ofList value)
  match reading.scope.ofLong? name with
  | some flag => reading.takeFlag flag attached
  | none =>
      if reading.admitsHyphen then reading.takeWord argument
      else refuse (.unknownArgument argument)

/-- Takes an argument of one dash and letters. Where an expression may stand, letters that are not
all known make one. -/
def takeShort (reading : Reading) (argument : String) (letters : List Char) :
    Except Ending Reading :=
  if reading.admitsHyphen && letters.any fun letter => (reading.scope.ofShort? letter).isNone then
    reading.takeWord argument
  else reading.takeLetters argument letters

def take (reading : Reading) (argument : String) : Except Ending Reading :=
  if reading.literal then reading.takeWord argument
  else
    match argument.toList with
    | ['-', '-'] => .ok { reading with literal := true }
    | '-' :: '-' :: body => reading.takeLong argument body
    | '-' :: letter :: letters => reading.takeShort argument (letter :: letters)
    | _ => reading.takeWord argument

/-- The source of expressions: one has to be given, and only one. -/
def input (reading : Reading) : Except Ending Input :=
  match reading.expression?, reading.file? with
  | some text, none => .ok (.expression text)
  | none, some path => .ok (.file path)
  | none, none => refuse .missingExpression
  | some _, some _ => refuse .expressionAndFile

def task (reading : Reading) : Except Ending Task :=
  match reading.scope with
  | .top => refuse .missingCommand
  | .eval => reading.input.map fun input => .eval input reading.verbose
  | .lex => reading.input.map fun input => .lex input reading.positions
  | .demo => .ok .demo

def finish (reading : Reading) : Except Ending Request :=
  match reading.awaiting with
  | some flag => refuse (.missingValue flag)
  | none =>
      reading.task.map fun task =>
        ⟨task, reading.level?, reading.format?.getD .compact, reading.noColor⟩

end Reading

def Request.ofArguments (arguments : List String) : Except Ending Request :=
  match arguments.foldlM Reading.take Reading.fresh with
  | .ok reading => reading.finish
  | .error ending => .error ending

end FlatSum
