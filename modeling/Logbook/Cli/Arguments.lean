/-!
The arguments of a command line. Options may stand anywhere; a short one may be joined to others
that take no value, or to its value. The first thing that ends the reading counts.
-/

namespace Logbook.Cli

inductive Output where
  | json
  | table
deriving DecidableEq, Repr

/-- What is asked for. -/
inductive Action where
  | normalize (file rules : Option String) (output : Output)
  | query (text : String) (output : Output)
  | rules (file : Option String)
deriving DecidableEq, Repr

/-- Why no action can be read from the arguments. -/
inductive Halt where
  | version
  | help
  | usage
deriving DecidableEq, Repr

/-- An option by its two names. -/
structure Flag where
  short : Char
  long : String
  takesValue : Bool
deriving DecidableEq, Repr

namespace Flag

def verbose : Flag := ⟨'v', "verbose", false⟩

def help : Flag := ⟨'h', "help", false⟩

def version : Flag := ⟨'V', "version", false⟩

def rules : Flag := ⟨'r', "rules", true⟩

def output : Flag := ⟨'o', "output", true⟩

end Flag

/-- What has been read. -/
structure Given where
  /-- Options with their values, empty for one that takes none. -/
  options : List (String × String)
  positionals : List String
deriving DecidableEq, Repr

namespace Given

def empty : Given := ⟨[], []⟩

/-- A value an option may have. -/
def isAcceptable (flag : Flag) (value : String) : Bool :=
  if flag = .output then value == "json" || value == "table" else !flag.takesValue || value != ""

/-- An option may be given once. -/
def addOption (g : Given) (flag : Flag) (value : String) : Except Halt Given :=
  if flag = .help then .error .help
  else if flag = .version then .error .version
  else if (g.options.lookup flag.long).isSome ∨ !isAcceptable flag value then .error .usage
  else .ok { g with options := (flag.long, value) :: g.options }

/-- The options of a cluster, and the one that still needs a value. -/
def addCluster (flags : List Flag) (g : Given) : List Char → Except Halt (Given × Option Flag)
  | [] => .ok (g, none)
  | c :: rest =>
    match flags.find? fun flag => flag.short == c with
    | none => .error .usage
    | some flag =>
      if flag.takesValue then
        match rest with
        | [] => .ok (g, some flag)
        | '=' :: value => (g.addOption flag (String.ofList value)).map fun g => (g, none)
        | value => (g.addOption flag (String.ofList value)).map fun g => (g, none)
      else do addCluster flags (← g.addOption flag "") rest

/-- An option by its long name. -/
def addLong (flags : List Flag) (g : Given) (s : List Char) :
    Except Halt (Given × Option Flag) :=
  let name := s.takeWhile (· != '=')
  let value := s.drop name.length
  match flags.find? fun flag => flag.long == String.ofList name with
  | none => .error .usage
  | some flag =>
    if flag.takesValue then
      match value with
      | [] => .ok (g, some flag)
      | _ :: value => (g.addOption flag (String.ofList value)).map fun g => (g, none)
    else if value.isEmpty then (g.addOption flag "").map fun g => (g, none)
    else .error .usage

end Given

/-- Whether an argument is an option rather than a value. -/
def isOption (arg : String) : Bool := arg.toList.head? == some '-' && arg != "-"

/-- Reads options and positional arguments, of which `isFree` tells whether the next one may
come; with `stopping`, the first positional argument ends the reading and is kept with what
follows it. -/
def scan (flags : List Flag) (isFree : Given → String → Bool) (stopping : Bool) :
    Option Flag → Given → List String → Except Halt (Given × List String)
  | some _, _, [] => .error .usage
  | none, g, [] => .ok (g, [])
  | some flag, g, arg :: rest =>
    if isOption arg then .error .usage
    else do scan flags isFree stopping none (← g.addOption flag arg) rest
  | none, g, arg :: rest =>
    if arg = "--" then
      rest.foldlM (fun (r : Given × List String) arg =>
        if isFree r.1 arg then .ok ({ r.1 with positionals := r.1.positionals ++ [arg] }, [])
        else .error .usage) (g, [])
    else if isOption arg then do
      let s := arg.toList.drop 1
      let (g, waiting) ←
        if s.head? = some '-' then g.addLong flags (s.drop 1) else g.addCluster flags s
      scan flags isFree stopping waiting g rest
    else if stopping then .ok (g, arg :: rest)
    else if isFree g arg then
      scan flags isFree stopping none { g with positionals := g.positionals ++ [arg] } rest
    else .error .usage

def outputOf (g : Given) : Output :=
  if g.options.lookup "output" = some "table" then .table else .json

/-- The rules file; an environment variable stands in for the option. -/
def rulesOf (g : Given) (preset : Option String) : Except Halt (Option String) :=
  match (g.options.lookup "rules").or preset with
  | some "" => .error .usage
  | file => .ok file

/-- The name of a file is not empty. -/
def isFreeFile (g : Given) (arg : String) : Bool := g.positionals.isEmpty && arg != ""

def readCommand (preset : Option String) (command : String) (rest : List String) :
    Except Halt Action :=
  match command with
  | "normalize" => do
    let (g, _) ← scan [.verbose, .help, .rules, .output] isFreeFile false none .empty rest
    return .normalize g.positionals.head? (← rulesOf g preset) (outputOf g)
  | "query" => do
    let (g, _) ← scan [.verbose, .help, .output] (fun g _ => g.positionals.isEmpty) false none
      .empty rest
    match g.positionals with
    | text :: _ => return .query text (outputOf g)
    | [] => throw .usage
  | "rules" => do
    let (g, _) ← scan [.verbose, .help, .rules] (fun _ _ => false) false none .empty rest
    return .rules (← rulesOf g preset)
  | "help" =>
    match rest with
    | [] | ["normalize"] | ["query"] | ["rules"] | ["help"] => .error .help
    | _ => .error .usage
  | _ => .error .usage

/-- Reads the arguments; `preset` is the value of the variable that names a rules file. -/
def readArguments (preset : Option String) (args : List String) : Except Halt Action := do
  let (_, rest) ← scan [.verbose, .help, .version] (fun _ _ => false) true none .empty args
  match rest with
  | command :: rest => readCommand preset command rest
  | [] => throw .usage

end Logbook.Cli
