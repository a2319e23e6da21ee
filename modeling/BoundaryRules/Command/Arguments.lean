import BoundaryRules.Command.Basic

/-!
Reading of command line arguments. Options have a long and a short name; short ones may share an
argument, and a value may stand in the argument of its option or in the next one.
-/
namespace BoundaryRules.Arguments

/-- Why arguments are no command, or what they ask for instead of one. -/
inductive Usage where
  | help
  | version
  | helpForNothing
  | invalidSubcommand
  | unknownArgument
  | invalidValue
  | valueValidation
  | tooManyValues
  | argumentConflict
  | missingArgument
deriving DecidableEq, Repr

inductive OptionName where
  | input
  | wordsOnly
  | top
  | lowercase
  | allSegments
  | threads
  | grammar
  | output
  | format
  | quiet
  | verbose
  | help
deriving DecidableEq, Repr

namespace OptionName

def short : OptionName → Char
  | input => 'i'
  | wordsOnly => 'w'
  | top => 'n'
  | lowercase => 'l'
  | allSegments => 'a'
  | threads => 'j'
  | grammar => 'g'
  | output => 'o'
  | format => 'f'
  | quiet => 'q'
  | verbose => 'v'
  | help => 'h'

def long : OptionName → String
  | input => "input"
  | wordsOnly => "words-only"
  | top => "top"
  | lowercase => "lowercase"
  | allSegments => "all-segments"
  | threads => "threads"
  | grammar => "grammar"
  | output => "output"
  | format => "format"
  | quiet => "quiet"
  | verbose => "verbose"
  | help => "help"

def takesValue : OptionName → Bool
  | input | top | threads | grammar | output | format => true
  | wordsOnly | lowercase | allSegments | quiet | verbose | help => false

/-- Whether an option may be given more than once. -/
def repeatable : OptionName → Bool
  | input | verbose => true
  | _ => false

end OptionName

/-- The values given so far. -/
structure Given where
  seen : List OptionName := []
  inputs : List String := []
  top : UInt64 := 10
  threads : Option UInt64 := none
  grammar : Option String := none
  output : Option String := none
  format : Format := .plain
deriving DecidableEq, Repr

/-- An unsigned number of sixty-four bits. -/
def readNumber? (text : String) : Option UInt64 :=
  let digits := match text.toList with
    | '+' :: digits => digits
    | digits => digits
  if !digits.isEmpty && digits.all Char.isDigit then
    let n := digits.foldl (fun n c => n * 10 + (c.toNat - '0'.toNat)) 0
    if n < UInt64.size then some (.ofNat n) else none
  else none

namespace Given

def has (given : Given) (option : OptionName) : Bool := given.seen.contains option

def readNumber (text : String) : Except Usage UInt64 :=
  match readNumber? text with
  | some n => .ok n
  | none => .error .valueValidation

def readPath (text : String) : Except Usage String :=
  if text = "" then .error .invalidValue else .ok text

def readFormat (text : String) : Except Usage Format :=
  match Format.all.find? (·.name = text) with
  | some format => .ok format
  | none => .error .invalidValue

/-- Sets the value of an option. -/
def assign (given : Given) (option : OptionName) (text : String) : Except Usage Given := do
  match option with
  | .input => return { given with inputs := given.inputs ++ [text] }
  | .top => return { given with top := ← readNumber text }
  | .threads => return { given with threads := some (← readNumber text) }
  | .grammar => return { given with grammar := some (← readPath text) }
  | .output => return { given with output := some (← readPath text) }
  | .format => return { given with format := ← readFormat text }
  | _ => return given

/-- Takes an option with its value; most options may be taken only once. -/
def take (given : Given) (option : OptionName) (text : String) : Except Usage Given :=
  if option = .help then .error .help
  else if given.has option && !option.repeatable then .error .argumentConflict
  else { given with seen := option :: given.seen }.assign option text

end Given

/-- Values given, and the option whose value was not taken yet; it may still be missing. -/
structure Progress where
  given : Given := {}
  pending : Option (OptionName × Option String) := none
deriving DecidableEq, Repr

namespace Progress

/-- Takes the pending option. -/
def settle (progress : Progress) : Except Usage Given :=
  match progress.pending with
  | none => .ok progress.given
  | some (_, none) => .error .invalidValue
  | some (option, some text) => progress.given.take option text

/-- Takes an option whose value is known. -/
def take (progress : Progress) (option : OptionName) (text : String) : Except Usage Progress := do
  let given ← progress.settle
  return { given := ← given.take option text }

/-- Leaves the value of an option to the next argument. -/
def await (progress : Progress) (option : OptionName) : Except Usage Progress := do
  let given ← progress.settle
  return { given, pending := some (option, none) }

end Progress

/-- Splits at the first equals sign. -/
def splitEquals (text : List Char) : List Char × Option (List Char) :=
  (text.takeWhile (· != '='), ((text.dropWhile (· != '=')).tail?))

/-- Reads a long option without its dashes. -/
def readLong (options : List OptionName) (progress : Progress) (text : List Char) :
    Except Usage Progress :=
  let (name, value) := splitEquals text
  match options.find? (·.long.toList = name), value with
  | none, _ => .error .unknownArgument
  | some option, some value =>
    if option.takesValue then progress.take option (String.ofList value) else .error .tooManyValues
  | some option, none =>
    if option.takesValue then progress.await option else progress.take option ""

/-- Reads short options that share an argument. What follows one with a value is that value, with
or without an equals sign. -/
def readShort (options : List OptionName) (progress : Progress) : List Char → Except Usage Progress
  | [] => .ok progress
  | c :: text =>
    match options.find? (·.short = c) with
    | none => .error .unknownArgument
    | some option =>
      if !option.takesValue then do readShort options (← progress.take option "") text
      else match text with
        | [] => progress.await option
        | '=' :: value => progress.take option (String.ofList value)
        | value => progress.take option (String.ofList value)

/-- Reads the options of a command. Nothing but option values may stand between them, and nothing
after two dashes. -/
def readOptions (options : List OptionName) (progress : Progress) : List String → Except Usage Given
  | [] => progress.settle
  | argument :: arguments =>
    match argument.toList with
    | ['-', '-'] => if arguments.isEmpty then progress.settle else .error .unknownArgument
    | '-' :: '-' :: text => do readOptions options (← readLong options progress text) arguments
    | '-' :: c :: text => do
      readOptions options (← readShort options progress (c :: text)) arguments
    | _ =>
      match progress.pending with
      | some (option, none) =>
        readOptions options { progress with pending := some (option, some argument) } arguments
      | _ => .error .unknownArgument

/-- The subcommands of the program and of those of its subcommands that have any. -/
def subcommands : List String → List String
  | [] => ["split", "count", "validate", "list", "help"]
  | ["list"] => ["classes", "rules", "formats", "help"]
  | _ => []

/-- What a request for help on a subcommand comes to. -/
def helpOn (path : List String) : List String → Usage
  | [] => .help
  | word :: words =>
    if (subcommands path).contains word then helpOn (path ++ [word]) words else .invalidSubcommand

/-- Reads the arguments up to a subcommand: its name and what follows. -/
def readSubcommand (path : List String) (arguments : List String) :
    Except Usage (String × List String) :=
  match arguments with
  | [] => .error .helpForNothing
  | argument :: arguments =>
    if argument = "help" then .error (helpOn path arguments)
    else if (subcommands path).contains argument then .ok (argument, arguments)
    else match argument.toList with
      | ['-', '-'] =>
        match arguments with
        | [] => .error .helpForNothing
        | word :: _ =>
          .error (if (subcommands path).contains word then .unknownArgument else .invalidSubcommand)
      | '-' :: '-' :: text =>
        let (name, value) := splitEquals text
        if name = "help".toList then .error (if value.isSome then .tooManyValues else .help)
        else if name = "version".toList ∧ path = [] then
          .error (if value.isSome then .tooManyValues else .version)
        else .error .unknownArgument
      | '-' :: c :: _ =>
        if c = 'h' then .error .help
        else if c = 'V' ∧ path = [] then .error .version
        else .error .unknownArgument
      | _ => .error .invalidSubcommand

def outputOptions : List OptionName := [.grammar, .output, .format, .quiet, .verbose, .help]

namespace Given

def target (given : Given) : Target := ⟨given.output, given.format⟩

def toSplit (given : Given) : Except Usage Command :=
  if given.inputs.isEmpty then .error .missingArgument
  else .ok (.split ⟨given.inputs, given.has .wordsOnly, given.grammar, given.target⟩)

def toCount (given : Given) : Except Usage Command :=
  if given.inputs.isEmpty then .error .missingArgument
  else .ok (.count ⟨given.inputs, given.top, given.has .lowercase, given.has .allSegments,
    given.threads, given.grammar, given.target⟩)

def toValidate (given : Given) : Except Usage Command :=
  match given.grammar with
  | some grammar => .ok (.validate grammar)
  | none => .error .missingArgument

end Given

/-- Reads a subcommand of `list`. -/
def readList (arguments : List String) : Except Usage Command := do
  let (name, arguments) ← readSubcommand ["list"] arguments
  if name = "classes" then
    return .listClasses (← readOptions [.grammar, .help] {} arguments).grammar
  else if name = "rules" then
    return .listRules (← readOptions [.grammar, .help] {} arguments).grammar
  else
    let _ ← readOptions [.help] {} arguments
    return .listFormats

/-- Reads the arguments after the program's name. -/
def read (arguments : List String) : Except Usage Command := do
  let (name, arguments) ← readSubcommand [] arguments
  if name = "split" then
    (← readOptions ([.input, .wordsOnly] ++ outputOptions) {} arguments).toSplit
  else if name = "count" then
    let own : List OptionName := [.input, .top, .lowercase, .allSegments, .threads]
    (← readOptions (own ++ outputOptions) {} arguments).toCount
  else if name = "validate" then
    (← readOptions [.grammar, .help] {} arguments).toValidate
  else readList arguments

end BoundaryRules.Arguments
