import Forecast.Binary64.Basic

/-!
# Settings documents

A document is a tree of tables.  A table comes into being under a header, on the way to the table of
a header, on the way to the last part of a dotted key, or inside braces, and this decides what may
still be added to it.  No key is defined twice.
-/

namespace Forecast

/-- How a table came into being. -/
inductive TableOrigin where
  /-- Under a header of its own. -/
  | header
  /-- On the way to the table of a header. -/
  | implied
  /-- On the way to the last part of a dotted key. -/
  | dotted
  | inBraces
deriving DecidableEq, Inhabited

/-- A value in a document. -/
inductive Node where
  | text (value : String)
  /-- A whole number of 64 bits. -/
  | integer (value : Int)
  /-- A number with a fraction or an exponent, or one that is not finite. -/
  | decimal (value : Binary64)
  | truth (value : Bool)
  /-- A date or a time of day, as it is written. -/
  | moment (written : String)
  | list (items : List Node)
  | table (origin : TableOrigin) (entries : List (String × Node))
  | tables (items : List (List (String × Node)))
deriving Inhabited

/-- The entries of a table, in the order in which their keys first occurred. -/
abbrev Entries := List (String × Node)

namespace Entries

/-- Change what is at a key, or put something at a new key behind all others. -/
def alter (key : String) (change : Option Node → Option Node) : Entries → Option Entries
  | [] => do
      let node ← change none
      pure [(key, node)]
  | (name, old) :: rest =>
      if name = key then do
        let node ← change (some old)
        pure ((name, node) :: rest)
      else do
        let rest ← alter key change rest
        pure ((name, old) :: rest)

/-- Change the last of several tables. -/
def alterLast (change : Entries → Option Entries) : List Entries → Option (List Entries)
  | [] => none
  | [last] => do pure [← change last]
  | first :: rest => do pure (first :: (← alterLast change rest))

/-- Change the table at the end of a path.  Missing tables on the path are created, and of several
tables the last is taken.  Tables in braces are closed to every path, and tables under headers of
their own to the paths of dotted keys. -/
def descend (isDotted : Bool) (change : TableOrigin → Entries → Option Entries)
    (origin : TableOrigin) (path : List String) (entries : Entries) : Option Entries :=
  match path with
  | [] => change origin entries
  | key :: rest =>
      let pass : Option Node → Option Node
        | none => do
            let origin := if isDotted then TableOrigin.dotted else .implied
            pure (.table origin (← descend isDotted change origin rest []))
        | some (.table origin entries) =>
            if origin = .inBraces ∨ isDotted ∧ origin = .header then none
            else do pure (.table origin (← descend isDotted change origin rest entries))
        | some (.tables items) => do
            pure (.tables (← alterLast (descend isDotted change .header rest) items))
        | some _ => none
      alter key pass entries

/-- Put a value at a new key. -/
def define (key : String) (node : Node) (entries : Entries) : Option Entries :=
  entries.alter key fun
    | none => some node
    | some _ => none

/-- Put a value at the end of a dotted key.  All but its last part name tables of dotted keys. -/
def defineAt (path : List String) (key : String) (node : Node) (entries : Entries) :
    Option Entries :=
  descend true
    (fun origin entries =>
      if path.isEmpty ∨ origin = .dotted then entries.define key node else none)
    .header path entries

/-- Open the table of a header. -/
def openTable (path : List String) (key : String) (entries : Entries) : Option Entries :=
  descend false
    (fun _ entries => entries.alter key fun
      | none => some (.table .header [])
      | some (.table .implied entries) => some (.table .header entries)
      | some _ => none)
    .header path entries

/-- Open one more table of a repeated header. -/
def openNext (path : List String) (key : String) (entries : Entries) : Option Entries :=
  descend false
    (fun _ entries => entries.alter key fun
      | none => some (.tables [[]])
      | some (.tables items) => some (.tables (items ++ [[]]))
      | some _ => none)
    .header path entries

/-- Put a value at the end of a dotted key in the table of a header. -/
def defineUnder (header path : List String) (key : String) (node : Node) (entries : Entries) :
    Option Entries :=
  descend false (fun _ entries => entries.defineAt path key node) .header header entries

end Entries

end Forecast
