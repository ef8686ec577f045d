/-!
# TOML documents as data

A TOML document is a tree of tables. A table can be written in several ways,
and the way decides which later lines may still add to it:

* a table with a header of its own is *explicit*; no second header may name it,
  and no dotted key may reach into it;
* a table that only occurs in the path of a header is *implied*; a header may
  still make it explicit;
* a table that only occurs in the path of a dotted key is *dotted*; further
  dotted keys may add to it, a header for it may not.

An inline table is complete where it is written.

* `Node`: the values, `Entries`: the keys of a table with their values;
* `Entries.find?`, `Entries.set`: a key of a table;
* `Entries.updateAt`: adds to the table at a path, creating tables on the way;
* `Entries.addValue`, `Entries.openTable`, `Entries.openArray`: what a key with
  its value, a table header and an array header do.
-/

namespace Endorsement.Toml

/-- How a table came to be. -/
inductive Origin where
  | explicit
  | implied
  | dotted
  deriving DecidableEq, Repr

/-- A value of a document. -/
inductive Node where
  | text (value : String)
  | integer (value : Int)
  | boolean (value : Bool)
  /-- A fractional number. -/
  | float
  /-- A date, a time of day or both. -/
  | dateTime
  | array (items : List Node)
  /-- A table; an inline one is complete where it is written. -/
  | table (inline : Bool) (origin : Origin) (entries : List (String × Node))
  /-- Tables that share an array header. -/
  | tableArray (tables : List Node)
  deriving Repr

/-- The keys of a table with their values, in the order of the document. -/
abbrev Entries := List (String × Node)

namespace Entries

/-- The value of a key. -/
def find? (key : String) : Entries → Option Node
  | [] => none
  | (k, node) :: rest => if k = key then some node else find? key rest

/-- The entries with a key set to a value: in its place, or at the end. -/
def set (key : String) (node : Node) : Entries → Entries
  | [] => [(key, node)]
  | (k, old) :: rest => if k = key then (k, node) :: rest else (k, old) :: set key node rest

/-- Whether a table of an origin can be entered: a dotted key does not reach
    into explicit tables. -/
def canEnter (byDottedKey : Bool) (origin : Origin) : Bool :=
  !(byDottedKey && origin = .explicit)

/-- What a change does to the last table that shares an array header. -/
def updateLast (f : Origin → Entries → Option Entries) : List Node → Option (List Node)
  | [] => none
  | [.table inline origin entries] => do return [.table inline origin (← f origin entries)]
  | node :: rest => do return node :: (← updateLast f rest)

/-- Changes the table at a path, starting from a table of the given origin.
    Tables that are missing on the way are created; of tables that share an
    array header the last one is entered. -/
def updateAt (inline byDottedKey : Bool) (f : Origin → Entries → Option Entries) :
    List String → Origin → Entries → Option Entries
  | [], origin, entries => f origin entries
  | key :: path, _, entries =>
    match entries.find? key with
    | none => do
      -- A table that is missing is of the kind of path it is found missing on.
      let origin : Origin := if byDottedKey then .dotted else .implied
      return entries.set key (.table inline origin (← updateAt inline byDottedKey f path origin []))
    | some (.table inline' origin sub) =>
      if inline' = inline ∧ canEnter byDottedKey origin then do
        return entries.set key
          (.table inline' origin (← updateAt inline byDottedKey f path origin sub))
      else none
    | some (.tableArray tables) => do
      return entries.set key
        (.tableArray (← updateLast (fun origin => updateAt inline byDottedKey f path origin) tables))
    | some _ => none

/-- Adds a key with its value, below a dotted path. The key must be new, and a
    path must not be mixed with other ways to write the table at its end. -/
def addValue (inline : Bool) (path : List String) (key : String) (node : Node) (origin : Origin)
    (entries : Entries) : Option Entries :=
  updateAt inline true
    (fun origin entries =>
      if decide (origin = .dotted) = path.isEmpty ∨ (entries.find? key).isSome then none
      else some (entries.set key node))
    path origin entries

/-- Opens the table that a header names. -/
def openTable (path : List String) (key : String) (entries : Entries) : Option Entries :=
  updateAt false false
    (fun _ entries =>
      match entries.find? key with
      | none => some (entries.set key (.table false .explicit []))
      | some (.table false .implied sub) => some (entries.set key (.table false .explicit sub))
      | some _ => none)
    path .explicit entries

/-- Opens a further table of the array that a header names. -/
def openArray (path : List String) (key : String) (entries : Entries) : Option Entries :=
  updateAt false false
    (fun _ entries =>
      match entries.find? key with
      | none => some (entries.set key (.tableArray [.table false .explicit []]))
      | some (.tableArray tables) =>
        some (entries.set key (.tableArray (tables ++ [.table false .explicit []])))
      | some _ => none)
    path .explicit entries

end Entries

end Endorsement.Toml
