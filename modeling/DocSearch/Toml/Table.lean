/- Tables of a TOML document while it is read: which keys a line may still add depends on how a
table came to be. -/
namespace DocSearch

inductive TableOrigin
  /-- It has a header of its own, or is the document itself. -/
  | header
  /-- It stands on the way to another table's header. -/
  | passed
  /-- A dotted key has made it. -/
  | dotted
  /-- It stands in braces and takes no more keys. -/
  | inline
deriving DecidableEq, Repr

inductive Toml
  | text (s : String)
  | number (n : Int)
  /-- A truth value, a number with a fraction, a date, a time, or a number that only looks like one:
  no setting takes it. -/
  | other
  | list (items : List Toml)
  | table (origin : TableOrigin) (members : List (String × Toml))
  /-- Tables that headers in double brackets have added one by one. -/
  | tables (items : List (List (String × Toml)))

namespace Toml

abbrev Members := List (String × Toml)

def assign (key : String) (value : Toml) : Members → Members
  | [] => [(key, value)]
  | (k, v) :: rest => if k = key then (k, value) :: rest else (k, v) :: assign key value rest

/-- Changes the table at the end of a path, making the tables on the way. A dotted path may not
enter a table that has a header. -/
def descend (dotted : Bool) (change : TableOrigin → Members → Option Members) :
    (path : List String) → TableOrigin → Members → Option Members
  | [], origin, members => change origin members
  | key :: path, _, members =>
    match members.lookup key with
    | none =>
      let origin := if dotted then .dotted else .passed
      (descend dotted change path origin []).map fun inner => assign key (.table origin inner) members
    | some (.table origin inner) =>
      if origin = .inline || (dotted && origin = .header) then none
      else (descend dotted change path origin inner).map fun inner =>
        assign key (.table origin inner) members
    | some (.tables items) =>
      match items.getLast? with
      | none => none
      | some last =>
        (descend dotted change path .header last).map fun inner =>
          assign key (.tables (items.dropLast ++ [inner])) members
    | some _ => none

def addKey (dottedPath : Bool) (key : String) (value : Toml) (origin : TableOrigin)
    (members : Members) : Option Members :=
  if (origin = .dotted) ≠ dottedPath then none
  else if (members.lookup key).isSome then none
  else some (assign key value members)

def addEntry (header path : List String) (key : String) (value : Toml) (root : Members) :
    Option Members :=
  descend false (descend true (addKey (!path.isEmpty) key value) path) header .header root

/-- A header in single brackets: its table must be new, or only passed so far. -/
def openTable (path : List String) (key : String) (root : Members) : Option Members :=
  descend false (fun _ members =>
    match members.lookup key with
    | none => some (assign key (.table .header []) members)
    | some (.table .passed inner) => some (assign key (.table .header inner) members)
    | some _ => none) path .header root

def openItem (path : List String) (key : String) (root : Members) : Option Members :=
  descend false (fun _ members =>
    match members.lookup key with
    | none => some (assign key (.tables [[]]) members)
    | some (.tables items) => some (assign key (.tables (items ++ [[]])) members)
    | some _ => none) path .header root

end Toml
end DocSearch
