/-
SURVEYS: extraction from files.

A survey goes through files in order, as one extraction, so a name that two files declare is a collision. It stops at
the first file that cannot be read, and keeps what was skipped before.
-/
import Trialbook.Failure
import Trialbook.Files.Walk

namespace Trialbook

/-- an extraction from files -/
structure Survey where
  extraction : Extraction
  /-- why a file could not be read -/
  unread : Option FileError
  deriving DecidableEq, Repr

namespace Survey

def empty : Survey := ⟨.empty, none⟩

/-- declarations left out so far -/
def skipped (s : Survey) : List Skipped := s.extraction.skipped

/-- the experiments found, unless something stopped the survey -/
def result (s : Survey) : Except Failure (List Declared) :=
  match s.extraction.result, s.unread with
  | .error e, _ => .error (.extraction e)
  | .ok _, some e => .error (.file e)
  | .ok found, none => .ok found

/-- goes on with the file at a path -/
def addFile (files : Files) (s : Survey) (path : String) : Survey :=
  if s.unread.isSome || s.extraction.error.isSome then s
  else match files.readText path with
    | .error e => { s with unread := some e }
    | .ok text => { s with extraction := s.extraction.addText (some path) text }

/-- surveys one file -/
def ofFile (files : Files) (path : String) : Survey := empty.addFile files path

/-- surveys the declaration files at or below a directory -/
def ofDirectory (files : Files) (root extension : String) : Survey :=
  (files.declarationFiles root extension).foldl (addFile files) empty

end Survey

end Trialbook
