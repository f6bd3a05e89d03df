/-
ITEMS of TOML documents: the tables that lines build, and what they may not do twice.

A line `a.b = v` puts a value under a dotted key. It may go on tables that dotted keys made, but a table that has a
header of its own, or only exists because a header leads through it, is not extended by the last step of a dotted key.
A header may name a table once, and a table that it leads to may already exist because of other headers.
-/
namespace Trialbook.Toml

/-- where a table comes from -/
inductive Origin where
  /-- a header names it -/
  | header
  /-- a header leads through it -/
  | implied
  /-- a dotted key leads through it -/
  | dotted
  deriving DecidableEq, Repr

/-- what stands under a key -/
inductive Item where
  | text (s : String)
  /-- a value that is no text -/
  | other
  | table (origin : Origin) (entries : List (String × Item))
  /-- tables one after the other, of which only the last can still change -/
  | tables (last : List (String × Item))

/-- what stands under the keys of a table -/
abbrev Entries := List (String × Item)

namespace Entries

/-- changes what is under a key -/
def replace (key : String) (item : Item) : Entries → Entries
  | [] => [(key, item)]
  | (k, i) :: rest => if k = key then (k, item) :: rest else (k, i) :: replace key item rest

/-- puts an item under a dotted key; the key must be free -/
def put (item : Item) (key : String) : List String → Entries → Option Entries
  | [], entries => if (entries.lookup key).isSome then none else some (entries ++ [(key, item)])
  | k :: way, entries =>
    match entries.lookup k with
    | none => (put item key way []).map fun inner => entries ++ [(k, .table .dotted inner)]
    | some (.table .dotted inner) => (put item key way inner).map fun inner => entries.replace k (.table .dotted inner)
    | some (.table .implied inner) =>
      if way.isEmpty then none
      else (put item key way inner).map fun inner => entries.replace k (.table .implied inner)
    | some _ => none

/-- changes the table that a header names, making those it leads through -/
def within (change : Entries → Option Entries) : List String → Entries → Option Entries
  | [], entries => change entries
  | k :: way, entries =>
    match entries.lookup k with
    | none => (within change way []).map fun inner => entries ++ [(k, .table .implied inner)]
    | some (.table origin inner) => (within change way inner).map fun inner => entries.replace k (.table origin inner)
    | some (.tables inner) => (within change way inner).map fun inner => entries.replace k (.tables inner)
    | some _ => none

/-- makes the table of a header -/
def openTable (key : String) (entries : Entries) : Option Entries :=
  match entries.lookup key with
  | none => some (entries ++ [(key, .table .header [])])
  | some (.table .implied inner) => some (entries.replace key (.table .header inner))
  | some _ => none

/-- makes one more table of those under a header -/
def openNext (key : String) (entries : Entries) : Option Entries :=
  match entries.lookup key with
  | none => some (entries ++ [(key, .tables [])])
  | some (.tables _) => some (entries.replace key (.tables []))
  | some _ => none

end Entries

end Trialbook.Toml
