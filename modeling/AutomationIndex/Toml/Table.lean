import AutomationIndex.Toml.Fault

/-! TOML tables under construction: reaching a table through a key, and what may still be added. -/

namespace AutomationIndex.Toml

/-- The entries of a table. -/
abbrev Entries := List (String × Json)

/-- Applies a change to the table that a key leads to, with the tables on the way created where they
are missing. Of a list of tables the last one counts, where lists are looked through. -/
def changeTable (throughLists : Bool) (change : Entries → Except Cause Entries) :
    Key → Entries → Except Cause Entries
  | [], entries => change entries
  | part :: key, entries => do
    match Json.lookup part entries with
    | none =>
      let inner ← changeTable throughLists change key []
      return Json.setField part (.object inner) entries
    | some (.object inner) =>
      let inner ← changeTable throughLists change key inner
      return Json.setField part (.object inner) entries
    | some (.list items) =>
      match throughLists, items.getLast? with
      -- A key that passes a list of tables means the table added last.
      | true, some (.object inner) =>
        let inner ← changeTable throughLists change key inner
        return Json.setField part (.list (items.dropLast ++ [.object inner])) entries
      | _, _ => .error .overwritten
    | some _ => .error .overwritten

/-- Adds an entry to a table that has none of its name. -/
def addEntry (name : String) (value : Json) (clash : Cause) (entries : Entries) :
    Except Cause Entries :=
  match Json.lookup name entries with
  -- Nothing is ever replaced: a name that is taken is the caller's clash.
  | some _ => .error clash
  | none => .ok (Json.setField name value entries)

/-- Adds an empty table to the end of the list of tables with a name. -/
def addListed (name : String) (entries : Entries) : Except Cause Entries :=
  match Json.lookup name entries with
  | none => .ok (Json.setField name (.list [.object []]) entries)
  -- Each header opens one more table in the list.
  | some (.list items) => .ok (Json.setField name (.list (items ++ [.object []])) entries)
  | some _ => .error .overwritten

/-- The keys about which there is something to remember. -/
structure Marks where
  /-- Values written in place, to which nothing is added later. -/
  immutable : List Key := []
  /-- Tables that have been declared, which are not declared again. -/
  declared : List Key := []
  /-- Tables that count as declared from the next declaration on. -/
  pending : List Key := []

/-- Whether a key is or lies below one of the keys. -/
def isAtOrBelow (keys : List Key) (key : Key) : Bool :=
  keys.any fun k => k.isPrefixOf key

namespace Marks

/-- Whether nothing may be added at a key. -/
def isImmutable (marks : Marks) (key : Key) : Bool :=
  isAtOrBelow marks.immutable key

/-- Whether the table at a key has been declared. -/
def isDeclared (marks : Marks) (key : Key) : Bool :=
  marks.declared.contains key

/-- Lets the pending declarations count. -/
def settle (marks : Marks) : Marks :=
  { marks with declared := marks.pending ++ marks.declared, pending := [] }

/-- Remembers a declaration. -/
def declare (marks : Marks) (key : Key) : Marks :=
  { marks with declared := key :: marks.declared }

/-- Forgets all about a key and what is below it. -/
def forget (marks : Marks) (key : Key) : Marks :=
  { marks with
    immutable := marks.immutable.filter fun k => !key.isPrefixOf k
    declared := marks.declared.filter fun k => !key.isPrefixOf k }

/-- Remembers the tables that a dotted key passes through. -/
def pass (marks : Marks) (keys : List Key) : Marks :=
  { marks with pending := keys ++ marks.pending }

/-- Remembers a value that was written in place, if it is a table or a list. -/
def freeze (marks : Marks) (key : Key) : Json → Marks
  | .object _ => { marks with immutable := key :: marks.immutable }
  | .list _ => { marks with immutable := key :: marks.immutable }
  | _ => marks

end Marks

end AutomationIndex.Toml
