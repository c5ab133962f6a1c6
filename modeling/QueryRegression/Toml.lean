/-!
# TOML documents

The data of a TOML document. Integers and strings are kept; of other scalars only that they are
there. A table knows how it came about, because that decides what may still be added to it.
-/

namespace QueryRegression

/-- How a table came about. -/
inductive TableOrigin where
  /-- It has a heading of its own. -/
  | heading
  /-- It lies on the way to a heading. -/
  | path
  /-- It lies on the way of a dotted key. -/
  | dotted
  /-- It is written as a value and is complete. -/
  | inline
deriving DecidableEq

/-- A value of a TOML document. -/
inductive Toml where
  | string (s : String)
  | integer (n : Int)
  /-- A truth value, a number with a fraction, a date or a time. -/
  | scalar
  | array (elements : List Toml)
  | table (origin : TableOrigin) (members : List (String × Toml))
  /-- Tables under one repeated heading. -/
  | tables (elements : List (List (String × Toml)))

namespace Toml

/-- The members of a table. -/
abbrev Members := List (String × Toml)

/-- Replaces the member of the given name, or puts a new one at the end. -/
def setMember (name : String) (value : Toml) : Members → Members
  | [] => [(name, value)]
  | (key, old) :: rest =>
    if key = name then (key, value) :: rest else (key, old) :: setMember name value rest

/-- Changes the members of the table at the end of a path, of which `change` is told the origin. On
the way, tables that are missing are made, and of tables under a repeated heading the last is
meant. A dotted key must not enter a table that has a heading. -/
def changeAt (dotted : Bool) (change : TableOrigin → Members → Option Members)
    (origin : TableOrigin) : List String → Members → Option Members
  | [], members => change origin members
  | name :: path, members => do
    let next ←
      match members.lookup name with
      | none =>
        let origin := if dotted then TableOrigin.dotted else .path
        (changeAt dotted change origin path []).map (table origin)
      | some (.table origin inner) =>
        if origin = .inline ∨ dotted ∧ origin = .heading then none
        else (changeAt dotted change origin path inner).map (.table origin)
      | some (.tables elements) =>
        match elements.reverse with
        | [] => none
        | last :: before =>
          (changeAt dotted change .heading path last).map fun last =>
            .tables (last :: before).reverse
      | some _ => none
    return setMember name next members

/-- Adds a member that must be new. -/
def addNew (name : String) (value : Toml) (members : Members) : Option Members :=
  if (members.lookup name).isSome then none else some (members ++ [(name, value)])

/-- Adds the value of a key, which is a path of at least one name. All tables that a dotted key
adds to are made by dotted keys. -/
def addValue (key : List String) (value : Toml) (members : Members) : Option Members :=
  match key.reverse with
  | [] => none
  | [name] => addNew name value members
  | name :: path =>
    changeAt true (fun origin inner => if origin = .dotted then addNew name value inner else none)
      .heading path.reverse members

/-- Begins the table under a heading. A table that so far only lay on the way to others is meant
by it. -/
def openTable (key : List String) (members : Members) : Option Members :=
  match key.reverse with
  | [] => none
  | name :: path =>
    changeAt false (fun _ inner =>
      match inner.lookup name with
      | none => some (inner ++ [(name, .table .heading [])])
      | some (.table .path old) => some (setMember name (.table .heading old) inner)
      | some _ => none) .heading path.reverse members

/-- Begins another table under a repeated heading. -/
def openElement (key : List String) (members : Members) : Option Members :=
  match key.reverse with
  | [] => none
  | name :: path =>
    changeAt false (fun _ inner =>
      match inner.lookup name with
      | none => some (inner ++ [(name, .tables [[]])])
      | some (.tables elements) => some (setMember name (.tables (elements ++ [[]])) inner)
      | some _ => none) .heading path.reverse members

end Toml
end QueryRegression
