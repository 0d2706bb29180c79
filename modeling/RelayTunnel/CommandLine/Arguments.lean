import RelayTunnel.Config.Basic

/-!
# Command-line arguments

The arguments are read from left to right. A switch is given by its long name, with its value in the
same argument behind `=` or in the next one, or by its letter, with the value directly behind it, behind
`=`, or in the next argument; letters without a value can be joined. Behind `--` nothing is a switch.
Help and version end the reading where they stand; so does anything that makes no sense.
-/

set_option autoImplicit false

namespace RelayTunnel

/-- The switches of the command line. -/
inductive Switch where
  | config
  | maxConnections
  | idleTimeout
  | retryCount
  | retryDelay
  | disconnectIsFatal
  | insecure
  | verbose
  | help
  | version
  deriving DecidableEq

namespace Switch

def all : List Switch :=
  [.config, .maxConnections, .idleTimeout, .retryCount, .retryDelay, .disconnectIsFatal, .insecure,
    .verbose, .help, .version]

def longName : Switch → String
  | .config => "config"
  | .maxConnections => "max-connections"
  | .idleTimeout => "idle-timeout"
  | .retryCount => "retry-count"
  | .retryDelay => "retry-delay"
  | .disconnectIsFatal => "disconnect-is-fatal"
  | .insecure => "insecure"
  | .verbose => "verbose"
  | .help => "help"
  | .version => "version"

/-- The letter of a switch, if it has one. -/
def letter? : Switch → Option Char
  | .config => some 'c'
  | .verbose => some 'v'
  | .help => some 'h'
  | .version => some 'V'
  | _ => none

def takesValue : Switch → Bool
  | .config | .maxConnections | .idleTimeout | .retryCount | .retryDelay => true
  | _ => false

def ofLongName? (name : String) : Option Switch := all.find? (·.longName == name)

def ofLetter? (letter : Char) : Option Switch := all.find? (·.letter? == some letter)

end Switch

/-- What the command line asks for. Options that are not given are taken from the configuration. -/
structure Arguments where
  url : Option String := none
  /-- The path of a configuration file. -/
  config : Option String := none
  maxConnections : Option UInt64 := none
  /-- In milliseconds. -/
  idleTimeout : Option Nat := none
  retryCount : Option UInt32 := none
  /-- In milliseconds. -/
  retryDelay : Option Nat := none
  disconnectIsFatal : Bool := false
  insecure : Bool := false
  verbose : Bool := false
  deriving DecidableEq

/-- Why the program does not get to work. -/
inductive EarlyExit where
  | help
  | version
  /-- The arguments make no sense. -/
  | misuse (reason : String)
  deriving DecidableEq

namespace Arguments

/-- How far the arguments have been read. -/
structure Progress where
  arguments : Arguments := {}
  /-- The switches that were given. -/
  given : List Switch := []
  /-- The switch whose value comes next. -/
  awaiting : Option Switch := none
  /-- Whether nothing is a switch any more. -/
  onlyValues : Bool := false

/-- Numbers from here on are not read. -/
def numberBound : Nat := UInt64.size

/-- A count of retries; a zero may have a minus sign. -/
def retryCount? (text : String) : Option UInt32 :=
  match text.toList with
  | '-' :: digits => ((Text.decimal? digits).filter (· = 0)).map (·.toUInt32)
  | cs => (Text.unsigned? UInt32.size cs).map (·.toUInt32)

/-- What is said of a value that makes no sense. -/
def badValue (name value : String) : EarlyExit :=
  .misuse ("invalid value '" ++ value ++ "' for '--" ++ name ++ "'")

def setValue (a : Arguments) (switch : Switch) (value : String) : Except EarlyExit Arguments :=
  let number := Text.unsigned? numberBound value.toList
  let found : Option Arguments := match switch with
    | .config => if value.isEmpty then none else some { a with config := some value }
    | .maxConnections => number.map fun n => { a with maxConnections := some n.toUInt64 }
    | .idleTimeout => number.map fun n => { a with idleTimeout := some n }
    | .retryDelay => number.map fun n => { a with retryDelay := some n }
    | .retryCount => (retryCount? value).map fun n => { a with retryCount := some n }
    | _ => none
  match found with
  | some a => .ok a
  | none => .error (badValue switch.longName value)

def setFlag (a : Arguments) : Switch → Except EarlyExit Arguments
  | .help => .error .help
  | .version => .error .version
  | .disconnectIsFatal => .ok { a with disconnectIsFatal := true }
  | .insecure => .ok { a with insecure := true }
  | .verbose => .ok { a with verbose := true }
  | _ => .ok a

namespace Progress

/-- Notes that a switch is given. It may be given only once, and not in place of another's value. -/
def give (p : Progress) (switch : Switch) : Except EarlyExit Progress :=
  match p.awaiting with
  | some other => .error (.misuse ("a value is required for '--" ++ other.longName ++ "'"))
  | none =>
      if switch ∈ p.given then
        .error (.misuse ("'--" ++ switch.longName ++ "' cannot be used multiple times"))
      else .ok { p with given := switch :: p.given }

/-- Takes a switch and the value that stands in the same argument, if there is one. -/
def takeSwitch (p : Progress) (switch : Switch) (attached : Option String) :
    Except EarlyExit Progress := do
  let p ← p.give switch
  if switch.takesValue then
    match attached with
    | some value => return { p with arguments := ← p.arguments.setValue switch value }
    | none => return { p with awaiting := some switch }
  else
    match attached with
    | some value => .error (badValue switch.longName value)
    | none => return { p with arguments := ← p.arguments.setFlag switch }

/-- Takes an argument without its two hyphens. -/
def takeLong (p : Progress) (text : List Char) : Except EarlyExit Progress :=
  let name := String.ofList (text.takeWhile (· != '='))
  let attached := match text.dropWhile (· != '=') with
    | _ :: value => some (String.ofList value)
    | [] => none
  match Switch.ofLongName? name with
  | some switch => p.takeSwitch switch attached
  | none => .error (.misuse ("unexpected argument '--" ++ name ++ "'"))

/-- Takes the letters of an argument without its hyphen. -/
def takeLetters (p : Progress) : List Char → Except EarlyExit Progress
  | [] => .ok p
  | letter :: rest =>
      match Switch.ofLetter? letter with
      | none => .error (.misuse ("unexpected argument '-" ++ String.singleton letter ++ "'"))
      | some switch =>
          if switch.takesValue then
            let attached := match rest with
              | [] => none
              | '=' :: value => some (String.ofList value)
              | value => some (String.ofList value)
            p.takeSwitch switch attached
          else
            match p.takeSwitch switch none with
            | .error exit => .error exit
            | .ok p => p.takeLetters rest

/-- Takes an argument that is not a switch. -/
def takeValue (p : Progress) (text : String) : Except EarlyExit Progress := do
  match p.awaiting with
  | some switch =>
      return { p with
        arguments := ← p.arguments.setValue switch text
        awaiting := none }
  | none =>
      if p.arguments.url.isSome then .error (.misuse ("unexpected argument '" ++ text ++ "'"))
      else return { p with arguments := { p.arguments with url := some text } }

def take (p : Progress) (text : String) : Except EarlyExit Progress :=
  if p.onlyValues then p.takeValue text
  else
    match text.toList with
    | ['-', '-'] =>
        match p.awaiting with
        | some other => .error (.misuse ("a value is required for '--" ++ other.longName ++ "'"))
        | none => .ok { p with onlyValues := true }
    | '-' :: '-' :: rest => p.takeLong rest
    | '-' :: letter :: rest => p.takeLetters (letter :: rest)
    | _ => p.takeValue text

/-- The arguments, if no value is missing. -/
def finish (p : Progress) : Except EarlyExit Arguments :=
  match p.awaiting with
  | some switch => .error (.misuse ("a value is required for '--" ++ switch.longName ++ "'"))
  | none => .ok p.arguments

end Progress

/-- What the environment gives for options that are not on the command line. -/
structure Environment where
  url : Option String := none
  maxConnections : Option String := none

/-- Fills in what only the environment gives. -/
def complete (a : Arguments) (env : Environment) : Except EarlyExit Arguments :=
  let a := { a with url := a.url.or env.url }
  match a.maxConnections, env.maxConnections with
  | none, some value => a.setValue .maxConnections value
  | _, _ => .ok a

def parse (texts : List String) (env : Environment) : Except EarlyExit Arguments := do
  let progress ← texts.foldlM Progress.take {}
  (← progress.finish).complete env

/-- The configuration with what the command line says put over it. -/
def override (a : Arguments) (config : Config) : Config :=
  { config with
    url := a.url.getD config.url
    maxConnections := a.maxConnections.getD config.maxConnections
    idleTimeout := (a.idleTimeout.map Duration.ofMillis).getD config.idleTimeout
    retryCount := a.retryCount.getD config.retryCount
    retryDelay := (a.retryDelay.map Duration.ofMillis).getD config.retryDelay
    disconnectIsFatal := config.disconnectIsFatal || a.disconnectIsFatal
    insecure := config.insecure || a.insecure }

end Arguments

end RelayTunnel
