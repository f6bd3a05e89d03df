/-
EXTRACTORS: extraction call after call.

An extractor remembers the declarations that were left out. A call forgets those of the calls before it and then adds its
own, also when it fails.
-/
import Trialbook.Declaration.Survey

namespace Trialbook

/-- the declarations that were left out by the last call -/
structure Extractor where
  skipped : List Skipped
  deriving DecidableEq, Repr

namespace Extractor

def start : Extractor := ⟨[]⟩

/-- forgets the declarations that were left out -/
def clear (x : Extractor) : Extractor := { x with skipped := [] }

/-- an extraction that goes on with the declarations that were left out -/
def begin (x : Extractor) : Extraction := { Extraction.empty with skipped := x.skipped }

/-- extracts from a text that is in no file -/
def extractText (x : Extractor) (text : String) : Extractor × Except ExtractError (List Declared) :=
  let e := x.clear.begin.addText none text
  (⟨e.skipped⟩, e.result)

/-- extracts from one file -/
def extractFile (files : Files) (x : Extractor) (path : String) : Extractor × Except Failure (List Declared) :=
  let s := (⟨x.clear.begin, none⟩ : Survey).addFile files path
  (⟨s.skipped⟩, s.result)

/-- extracts from the declaration files at or below a directory -/
def extractDirectory (files : Files) (x : Extractor) (root extension : String) :
    Extractor × Except Failure (List Declared) :=
  let s := (files.declarationFiles root extension).foldl (Survey.addFile files) ⟨x.clear.begin, none⟩
  (⟨s.skipped⟩, s.result)

end Extractor

end Trialbook
