/-
USAGE: how the arguments of the program are read.

The program has options, and subcommands with options of their own. `Reading.step` reads one argument: the value that
an option waits for, an option, a subcommand, or an argument without a name. An option is written out after two dashes,
with its value after an equals sign or in the next argument, or as a letter after one dash, with its value right behind
it or in the next argument; letters without values may share a dash. Two dashes alone end the options. A subcommand with
free arguments takes everything from the first of them on, and takes what it does not know as an option for one.
-/
import Trialbook.Number.Integer

namespace Trialbook.Usage

/-! ## Options -/

/-- the options of the program and its subcommands -/
inductive Flag where
  | workspace
  | verbose
  | quiet
  | help
  | version
  | experimentName
  | runName
  | maxRepeats
  | projectName
  | experiment
  deriving DecidableEq, Repr

namespace Flag

def words : Flag → List String
  | workspace => ["workspace"]
  | verbose => ["verbose"]
  | quiet => ["quiet"]
  | help => ["help"]
  | version => ["version"]
  | experimentName => ["experiment_name", "experiment-name"]
  | runName => ["run_name", "run-name"]
  | maxRepeats => ["max_repeats", "max-repeats"]
  | projectName => ["project_name", "project-name"]
  | experiment => ["experiment"]

def letter? : Flag → Option Char
  | workspace => some 'w'
  | verbose => some 'v'
  | quiet => some 'q'
  | help => some 'h'
  | version => some 'V'
  | experiment => some 'e'
  | _ => none

def takesValue : Flag → Bool
  | verbose | quiet | help | version => false
  | _ => true

/-- whether the option may be given more than once -/
def mayRepeat : Flag → Bool
  | verbose => true
  | _ => false

/-- whether a text is a value of the option -/
def accepts (f : Flag) (value : String) : Bool :=
  match f with
  | workspace => !value.isEmpty
  | maxRepeats => (Integer.readInt64? value.toList).isSome
  | _ => true

end Flag

/-- the arguments without names that a subcommand takes -/
inductive Operands where
  | none
  | one
  | free
  deriving DecidableEq, Repr

/-- the program or a subcommand -/
structure Level where
  flags : List Flag
  subcommands : List String
  operands : Operands

namespace Level

/-- options of every subcommand -/
def common : List Flag := [.verbose, .quiet, .help]

def program : Level :=
  ⟨[.workspace, .verbose, .quiet, .help, .version], ["run", "list", "inspect", "render", "config", "help"], .none⟩

def run : Level := ⟨[.experimentName, .runName, .maxRepeats, .projectName] ++ common, [], .free⟩

def list : Level := ⟨common, [], .none⟩

def inspect : Level := ⟨common, [], .one⟩

def render : Level := ⟨.experiment :: common, [], .none⟩

def config : Level := ⟨common, ["init", "show", "help"], .none⟩

def word? (l : Level) (word : String) : Option Flag := l.flags.find? fun f => f.words.contains word

def letter? (l : Level) (c : Char) : Option Flag := l.flags.find? fun f => f.letter? == some c

end Level

/-! ## Reading -/

/-- why there is nothing to be done -/
inductive Stop where
  | misuse
  | help
  | version
  deriving DecidableEq, Repr

/-- arguments that have been read -/
structure Reading where
  given : List (Flag × String)
  operands : List String
  /-- an option that waits for its value -/
  waiting : Option Flag
  /-- no more options -/
  ended : Bool
  deriving DecidableEq, Repr

namespace Reading

def start : Reading := ⟨[], [], none, false⟩

/-- takes an option with its value, which is empty if it has none -/
def give (r : Reading) (f : Flag) (value : String) : Except Stop Reading :=
  if f = .help then .error .help
  else if f = .version then .error .version
  else if !f.mayRepeat && (r.given.lookup f).isSome then .error .misuse
  else if f.accepts value then .ok { r with given := r.given ++ [(f, value)], waiting := none }
  else .error .misuse

/-- takes an argument without a name -/
def operand (l : Level) (r : Reading) (a : String) : Except Stop Reading :=
  match r.waiting, l.operands with
  | some _, _ | none, .none => .error .misuse
  | none, .one => if r.operands.isEmpty then .ok { r with operands := [a] } else .error .misuse
  | none, .free => .ok { r with operands := r.operands ++ [a], ended := true }

/-- takes an argument as the value that is waited for, else as one without a name -/
def value (l : Level) (r : Reading) (a : String) : Except Stop Reading :=
  match r.waiting with
  | some f => r.give f a
  | none => r.operand l a

/-- takes an option, with what is attached to it -/
def option (r : Reading) (f : Flag) (attached : Option String) : Except Stop Reading :=
  match r.waiting, f.takesValue, attached with
  | some _, _, _ => .error .misuse
  | none, true, some v => r.give f v
  | none, true, none => .ok { r with waiting := some f }
  | none, false, some _ => .error .misuse
  | none, false, none => r.give f ""

/-- takes options written as letters -/
def letters (l : Level) : Reading → List Char → Except Stop Reading
  | r, [] => .ok r
  | r, c :: cs =>
    match l.letter? c with
    | none => .error .misuse
    | some f =>
      if f.takesValue then
        r.option f <| match cs with
          | [] => none
          | '=' :: value => some (String.ofList value)
          | value => some (String.ofList value)
      else
        match r.option f none with
        | .ok r => letters l r cs
        | .error e => .error e

/-- digits, at most one point after the first of them, and perhaps an exponent -/
def isNumber (cs : List Char) : Bool :=
  let shape : Nat × Bool × Option Nat → Char → Option (Nat × Bool × Option Nat) := fun (i, point, exponent) c =>
    if c.isDigit then some (i + 1, point, exponent)
    else if c == '.' && !point && exponent.isNone && 0 < i then some (i + 1, true, exponent)
    else if c == 'e' && exponent.isNone && 0 < i then some (i + 1, point, some i)
    else none
  match cs.foldlM shape (0, false, none) with
  | some (n, _, some i) => i + 1 != n
  | some (_, _, none) => true
  | none => false

/-- reads one argument that is no subcommand -/
def step (l : Level) (r : Reading) (a : String) : Except Stop Reading :=
  if r.ended then r.operand l a
  else match a.toList with
    | ['-', '-'] => .ok { r with ended := true }
    | '-' :: '-' :: cs =>
      let word := cs.takeWhile (· != '=')
      match l.word? (String.ofList word) with
      | some f => r.option f <| match cs.drop word.length with
        | _ :: value => some (String.ofList value)
        | [] => none
      | none => if l.operands = .free then r.value l a else .error .misuse
    | '-' :: c :: cs =>
      if r.waiting = some .maxRepeats && isNumber (c :: cs) then r.value l a
      else if l.operands = .free && (c :: cs).any fun c => (l.letter? c).isNone then r.value l a
      else r.letters l (c :: cs)
    | _ => r.value l a

/-- reads arguments up to a subcommand: what was read, and the subcommand with the arguments behind it -/
def readAll (l : Level) : Reading → List String → Except Stop (Reading × Option (String × List String))
  | r, [] => if r.waiting.isSome then .error .misuse else .ok (r, none)
  | r, a :: rest =>
    if !r.ended && r.waiting.isNone && l.subcommands.contains a then .ok (r, some (a, rest))
    else match r.step l a with
      | .ok r => readAll l r rest
      | .error e => .error e

end Reading

/-! ## Commands -/

/-- what the program is asked to do -/
inductive Command where
  | run (experiment run : String) (maxRepeats : Int64) (project : Option String) (arguments : List String)
  | list
  | inspect (path : String)
  | render (experiment : Option String)
  | configInit
  | configShow
  deriving DecidableEq, Repr

/-- a command, and the directory of the project -/
structure Request where
  workspace : String
  command : Command
  deriving DecidableEq, Repr

/-- reads the arguments of a subcommand that has none of its own -/
def readLast (l : Level) (args : List String) : Except Stop Reading := Prod.fst <$> Reading.readAll l .start args

/-- what help for a way of subcommands comes to -/
def helpOn (subcommands : List String) : List String → Stop
  | [] => .help
  | a :: rest =>
    if subcommands.contains a then
      (if a = "config" then helpOn Level.config.subcommands rest else helpOn [] rest)
    else .misuse

def readRun (args : List String) : Except Stop Command := do
  let r ← readLast .run args
  match r.given.lookup .experimentName, r.given.lookup .runName with
  | some experiment, some run =>
    let maxRepeats := ((r.given.lookup .maxRepeats).bind fun v => Integer.readInt64? v.toList).getD (-1)
    return .run experiment run maxRepeats (r.given.lookup .projectName) r.operands
  | _, _ => throw .misuse

def readInspect (args : List String) : Except Stop Command := do
  match (← readLast .inspect args).operands with
  | [path] => if path.isEmpty then throw .misuse else return .inspect path
  | _ => throw .misuse

def readRender (args : List String) : Except Stop Command := do
  return .render ((← readLast .render args).given.lookup .experiment)

def readConfig (args : List String) : Except Stop Command := do
  match (← Reading.readAll .config .start args).2 with
  | some ("init", rest) => return (← (fun _ => .configInit) <$> readLast .list rest)
  | some ("show", rest) => return (← (fun _ => .configShow) <$> readLast .list rest)
  | some ("help", rest) => throw (helpOn Level.config.subcommands rest)
  | _ => throw .misuse

/-- reads the arguments of the program -/
def read (args : List String) : Except Stop Request := do
  let (r, sub) ← Reading.readAll .program .start args
  let workspace := (r.given.lookup .workspace).getD "."
  match sub with
  | some ("run", rest) => return ⟨workspace, ← readRun rest⟩
  | some ("list", rest) => return ⟨workspace, ← (fun _ => .list) <$> readLast .list rest⟩
  | some ("inspect", rest) => return ⟨workspace, ← readInspect rest⟩
  | some ("render", rest) => return ⟨workspace, ← readRender rest⟩
  | some ("config", rest) => return ⟨workspace, ← readConfig rest⟩
  | some ("help", rest) => throw (helpOn Level.program.subcommands rest)
  | _ => throw .misuse

end Trialbook.Usage
