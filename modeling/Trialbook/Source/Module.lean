/-
MODULES: a whole declaration file as a list of its statements.

`Module.read?` reads a file or refuses it. `Module.functions` lists the functions defined at the top level: those inside
classes, functions and branches do not count.
-/
import Trialbook.Source.Statement

namespace Trialbook.Source

namespace Reads

/-- reads statements up to the end of the file -/
def fileStatements (statement : Reads (List Statement)) : Reads (List Statement) := do
  let (statements, _) ← repeatFrom ([], true) fun (statements, more) => do
    if !more then return none
    else match ← peek .statement with
    | .token there =>
      if there.rest.isEmpty then return some (statements, false)
      else return some ((← statement).reverse ++ statements, true)
    | .string _ => return some ((← statement).reverse ++ statements, true)
    | _ => failure
  return statements.reverse

end Reads

/-- the statements of a file; none if it is no module -/
def Module.read? (text : String) : Option Module :=
  let start := Cursor.start text.toList
  let expr := Reads.nested start.bound
  ((Reads.fileStatements (Reads.statement expr (Reads.bodyWithin expr start.bound))).run start).map Prod.fst

/-- the functions defined at the top level of a file, in the order of the file -/
def Module.functions (m : Module) : List Function :=
  m.filterMap fun
    | .function f => some f
    | _ => none

end Trialbook.Source
