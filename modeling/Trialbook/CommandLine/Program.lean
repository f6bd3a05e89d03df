/-
PROGRAM: what each command does.

`Program.invoke` takes the files, the session and the arguments that the program is started with, and says what it
leaves behind. Variables that a file in the directory, or the nearest directory above it that has one, provides are set
first. All commands but the inspection of a file work on a project: the directory that is given, else the one that the
program is started in.
-/
import Trialbook.CommandLine.Report
import Trialbook.CommandLine.Usage
import Trialbook.Declaration.Survey
import Trialbook.Environment.File
import Trialbook.Launch.Launcher

namespace Trialbook.Program

/-- what a command leaves behind, apart from files -/
structure Result where
  output : String
  notice : String
  error : Option Complaint

namespace Result

def ofOutput (output : String) : Result := ⟨output, "", none⟩

def ofError (c : Complaint) : Result := ⟨"", "", some c⟩

end Result

/-! ## Texts -/

/-- where an experiment is declared, and what it takes -/
def listLine (workspace : String) (d : Declared) : String :=
  let location := (d.file.map (Path.relativeTo workspace)).getD ""
  s!"  {d.name} ({d.function} at {location}:{Nat.repr d.line}, {Nat.repr d.parameters.length} params)\n"

def listing (workspace : String) (ds : List Declared) : String :=
  s!"Experiments ({Nat.repr ds.length}):\n" ++ String.join (ds.map (listLine workspace))

/-- the command that runs an experiment, and its form -/
def rendered (d : Declared) : String :=
  let fieldLines := d.formFields.flatMap fun field => (Text.lines field.toList).map String.ofList
  s!"# {d.name}\nrun: {d.runArguments}\ninputs:\n" ++ String.join (fieldLines.map fun line => "  " ++ line ++ "\n")

def skippedNotice (n : Nat) : String :=
  if n = 0 then ""
  else s!"Skipped {Nat.repr n} declaration(s) that could not be read statically (run with -v for details)\n"

/-! ## Commands -/

/-- does something with the configuration and the experiments of a project -/
def withProject (files : Files) (s : Session) (workspace : String)
    (use : Config → List Declared → Except String String) : Result :=
  match Config.load files s (some workspace) .empty with
  | .error err => .ofError (.ofConfig err)
  | .ok config =>
    let root := config.root workspace
    if !files.isDirectory root then .ofError ⟨s!"Declarations directory not found: {root}", []⟩
    else
      let survey := Survey.ofDirectory files root config.fileExtension
      match survey.result with
      | .error f => .ofError (.ofFailure f)
      | .ok ds =>
        let notice := skippedNotice survey.skipped.length
        match use config ds with
        | .ok output => ⟨output, notice, none⟩
        | .error message => ⟨"", notice, some ⟨message, []⟩⟩

def list (files : Files) (s : Session) (workspace : String) : Result :=
  withProject files s workspace fun config ds =>
    if ds.isEmpty then .ok s!"No experiments declared in: {config.root workspace}\n" else .ok (listing workspace ds)

def render (files : Files) (s : Session) (workspace : String) (only : Option String) : Result :=
  withProject files s workspace fun _ ds =>
    match only with
    | none => .ok (String.join (ds.map fun d => rendered d ++ "\n"))
    | some name =>
      let chosen := ds.filter fun d => d.name == name
      if chosen.isEmpty then .error s!"Experiment '{name}' not found"
      else .ok (String.join (chosen.map fun d => rendered d ++ "\n"))

def inspect (files : Files) (path : String) : Result :=
  match (Survey.ofFile files path).result with
  | .error f => .ofError (.ofFailure f)
  | .ok ds => .ofOutput ((Json.arr (ds.map Declared.toJson)).pretty 0 ++ "\n")

/-- stands for every declared function: its bundle is the output -/
def printer : Handler := ⟨"print", fun _ => .ok ()⟩

def run (files : Files) (s : Session) (workspace : String) (experiment run : String) (maxRepeats : Int64)
    (project : Option String) (arguments : List String) : Result :=
  match Config.load files s (some workspace) { Layer.empty with projectName := project.map .text } with
  | .error err => .ofError (.ofConfig err)
  | .ok config =>
    match config.resolvedName files workspace with
    | none => .ofError ⟨"No project name configured; pass --project_name", []⟩
    | some project =>
      let o := dispatchOnce files s.environment.get? (config.root workspace) config.fileExtension
        ⟨.empty, some printer⟩ { project, experiment, run, maxRepeats, arguments }
      { output := String.join (o.calls.map fun c => c.bundle.toJson.pretty 0 ++ "\n"), notice := "",
        error := match o.result with
          | .ok () => none
          | .error f => some (.ofFailure f) }

def configShow (files : Files) (s : Session) (workspace : String) : Result :=
  match Config.load files s (some workspace) .empty with
  | .error err => .ofError (.ofConfig err)
  | .ok config => .ofOutput (config.written ++ "\n")

/-- the configuration that a new project gets -/
def initial (files : Files) (workspace : String) : Config :=
  { Config.standard with projectName := Config.standard.resolvedName files workspace }

/-! ## The program -/

def Result.report (files : Files) (r : Result) : Report :=
  { code := if r.error.isSome then 1 else 0, output := r.output,
    notice := r.notice ++ (r.error.map Complaint.text).getD "", files, saved := none }

def configInit (files : Files) (workspace : String) : Report :=
  let path := Config.path workspace
  if files.isThere path then
    (Result.ofOutput s!"Configuration file already exists at: {path}\n").report files
  else
    let config := initial files workspace
    match config.save files workspace with
    | .error err => (Result.ofError (.ofFailure (.file err))).report files
    | .ok files =>
      { (Result.ofOutput s!"Created default configuration at: {path}\n").report files with
        saved := some (path, config.written) }

/-- carries out a command on a project -/
def perform (files : Files) (s : Session) (workspace : String) : Usage.Command → Report
  | .run experiment name maxRepeats project arguments =>
    (run files s workspace experiment name maxRepeats project arguments).report files
  | .list => (list files s workspace).report files
  | .inspect path => (inspect files path).report files
  | .render only => (render files s workspace only).report files
  | .configInit => configInit files workspace
  | .configShow => (configShow files s workspace).report files

/-- the text of the nearest environment file, from the innermost of directories given by their names outwards -/
def environmentFile? (files : Files) : List String → Option String
  | [] => found []
  | name :: above => (found (name :: above)).or (environmentFile? files above)
where
  found (names : List String) : Option String :=
    let path := String.join (names.reverse.map fun name => "/" ++ name) ++ "/.env"
    if files.isFile path then some path else none

/-- the session with the variables of the nearest environment file -/
def session (files : Files) (s : Session) : Session :=
  let names := (Path.parts files.here).filter fun part => !Path.isStay part
  match (environmentFile? files names.reverse).map files.readText with
  | some (.ok text) => { s with environment := EnvironmentFile.read text s.environment }
  | _ => s

def version : String := "expkit 0.3.0"

/-- what the program does with its arguments -/
def invoke (files : Files) (s : Session) (args : List String) : Report :=
  match Usage.read args with
  | .error .misuse => ⟨2, "", "", files, none⟩
  | .error .help => ⟨0, "", "", files, none⟩
  | .error .version => ⟨0, version ++ "\n", "", files, none⟩
  | .ok request =>
    let workspace := match files.find request.workspace with
      | .ok place => place.path
      | .error _ => files.here
    perform files (session files s) workspace request.command

end Trialbook.Program
