import ReplyActions.Datum.Basic

/-!
# Tables under construction

A TOML document builds its tables piece by piece: by headers, by dotted keys, and all at once in
braces. What may still be added to a table depends on how it came about.
-/

namespace ReplyActions.Toml

/-- What a key stands for while its document is being read. -/
inductive Node where
  | value (datum : Datum)
  /-- A table. `implied` tables have only been named on the way to another one; `dotted` ones come
  from dotted keys. -/
  | table (implied dotted : Bool) (entries : List (String × Node))
  | array (elements : List (List (String × Node)))

abbrev Entries := List (String × Node)

mutual

def Node.toDatum : Node → Datum
  | .value datum => datum
  | .table _ _ entries => .record (entriesToFields entries)
  | .array elements => .list (elementsToItems elements)

def entriesToFields : List (String × Node) → List (String × Datum)
  | [] => []
  | (key, node) :: rest => (key, node.toDatum) :: entriesToFields rest

def elementsToItems : List (List (String × Node)) → List Datum
  | [] => []
  | entries :: rest => .record (entriesToFields entries) :: elementsToItems rest

end

namespace Entries

def get? (entries : Entries) (key : String) : Option Node :=
  (entries.find? fun e => e.1 = key).map (·.2)

/-- The entries with a key set, at its place if it has one. -/
def put (entries : Entries) (key : String) (node : Node) : Entries :=
  match entries with
  | [] => [(key, node)]
  | (k, n) :: rest => if k = key then (k, node) :: rest else (k, n) :: put rest key node

def remove (entries : Entries) (key : String) : Entries := entries.filter fun e => e.1 ≠ key

/-- A change to a table, which is told whether the table comes from dotted keys. -/
abbrev Change (α : Type) := Bool → Entries → Option (Entries × α)

/-- Makes a change to the table that a path leads to. Tables that are missing on the way are made.
The way leads through the last table of an array; it ends at a value and, for dotted keys, at a
table that has been written out. -/
def changeAt {α : Type} (viaDots : Bool) (change : Change α) (isDotted : Bool) :
    List String → Entries → Option (Entries × α)
  | [], entries => change isDotted entries
  | key :: path, entries =>
    match entries.get? key with
    | none => do
      let (inner, result) ← changeAt viaDots change viaDots path []
      return (entries.put key (.table true viaDots inner), result)
    | some (.value _) => none
    | some (.table implied dotted inner) =>
      -- dots may not reach into a table that has a header of its own
      if viaDots && !implied then none
      else do
        let (inner, result) ← changeAt viaDots change dotted path inner
        return (entries.put key (.table implied dotted inner), result)
    | some (.array elements) =>
      match elements.getLast? with
      | none => none
      | some last => do
        let (inner, result) ← changeAt viaDots change false path last
        return (entries.put key (.array (elements.dropLast ++ [inner])), result)

/-- Sets a key to a value, unless the key is taken. A table that a path leads to has to come from
dotted keys itself. -/
def addValue (path : List String) (key : String) (node : Node) : Change Unit :=
  fun isDotted entries =>
    -- a plain key in a dotted table, or dots into a table that is not
    if isDotted = path.isEmpty then none
    else if (entries.get? key).isSome then none
    else some (entries.put key node, ())

def withValue (entries : Entries) (path : List String) (key : String) (node : Node) :
    Option Entries :=
  (changeAt true (addValue path key node) false path entries).map (·.1)

end Entries

/-! ### Tables in braces -/

/-- Finds the table that the dots of a key lead to, among tables in braces, and sets its last
key. -/
def braceValue (key : String) (node : Node) (path : List String) :
    Bool → List String → Entries → Option Entries
  | isDotted, [], entries => (Entries.addValue path key node isDotted entries).map (·.1)
  | _, part :: rest, entries =>
    match entries.get? part with
    | none => (braceValue key node path true rest []).map fun inner =>
        entries.put part (.table true true inner)
    | some (.table true dotted inner) =>
      (braceValue key node path dotted rest inner).map fun inner =>
        entries.put part (.table true dotted inner)
    | some _ => none

def braceEntries (pairs : List ((List String × String) × Datum)) : Option Entries :=
  pairs.foldlM (fun entries pair =>
    braceValue pair.1.2 (.value pair.2) pair.1.1 false pair.1.1 entries) []

/-! ### Tables with headers -/

inductive Header where
  | top
  | table (path : List String) (key : String)
  | element (path : List String) (key : String)

/-- A document that has been read up to some line. -/
structure Draft where
  root : Entries
  header : Header
  current : Entries

namespace Draft

def start : Draft := ⟨[], .top, []⟩

def withValue (d : Draft) (path : List String) (key : String) (datum : Datum) : Option Draft :=
  (d.current.withValue path key (.value datum)).map fun entries => { d with current := entries }

/-- The tables of the draft, with the present one put in its place. -/
def closed (d : Draft) : Option Entries :=
  match d.header with
  | .top => some d.current
  | .table path key =>
    let place : Entries.Change Unit := fun _ entries =>
      some (entries.put key (.table false false d.current), ())
    (Entries.changeAt false place false path d.root).map (·.1)
  | .element path key =>
    let place : Entries.Change Unit := fun _ entries =>
      match entries.get? key with
      | none => some (entries.put key (.array [d.current]), ())
      | some (.array elements) => some (entries.put key (.array (elements ++ [d.current])), ())
      | some _ => none
    (Entries.changeAt false place false path d.root).map (·.1)

/-- The draft after the header of a table. A table that has only been implied is taken up again. -/
def withTable (d : Draft) (path : List String) (key : String) : Option Draft := do
  let reopen : Entries.Change Entries := fun _ entries =>
    match entries.get? key with
    | none => some (entries, [])
    | some (.table true false inner) => some (entries.remove key, inner)
    | some _ => none
  -- the present table leaves its place until the next header closes it
  let (root, current) ← Entries.changeAt false reopen false path (← d.closed)
  return ⟨root, .table path key, current⟩

/-- The draft after the header of the next table of an array. -/
def withElement (d : Draft) (path : List String) (key : String) : Option Draft := do
  let reserve : Entries.Change Unit := fun _ entries =>
    match entries.get? key with
    | none => some (entries.put key (.array []), ())
    | some (.array _) => some (entries, ())
    | some _ => none
  let (root, ()) ← Entries.changeAt false reserve false path (← d.closed)
  return ⟨root, .element path key, []⟩

def toDatum? (d : Draft) : Option Datum :=
  d.closed.map fun entries => .record (entriesToFields entries)

end Draft

end ReplyActions.Toml
