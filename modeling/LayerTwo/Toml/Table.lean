import LayerTwo.Toml.Scalar
import LayerTwo.Value

/-! The tables of a TOML document and the rules on who may add to them. A table is opened by its
header once; an array or inline table is never added to; what a dotted key passes through cannot be
opened by a later header. -/
namespace LayerTwo.Toml

/-- A dotted key: the names it passes through and its last name. -/
structure Path where
  parents : List String
  name : String

def Path.names (path : Path) : List String := path.parents ++ [path.name]

/-- Changes the table at the end of a path. A missing table is made on the way, and an array of
tables stands for its last one. -/
def modifyAt (change : Table → Except Fault Table) : (names : List String) → Table →
    Except Fault Table
  | [], table => change table
  | name :: names, table =>
    match table.lookup name with
    | none => (modifyAt change names []).map fun inner => insertAt name (.table inner) table
    | some (.table inner) =>
      (modifyAt change names inner).map fun inner => insertAt name (.table inner) table
    | some (.array items) =>
      match items.getLast? with
      | some (.table inner) =>
        (modifyAt change names inner).map fun inner =>
          insertAt name (.array (items.dropLast ++ [.table inner])) table
      | _ => .error .malformed
    | some _ => .error .malformed

/-- A name that is taken does not get another item. -/
def addPair (name : String) (item : Item) (table : Table) : Except Fault Table :=
  if (table.lookup name).isSome then .error .malformed else .ok (insertAt name item table)

/-- Adds an empty table to an array of tables. -/
def extend (name : String) (table : Table) : Except Fault Table :=
  match table.lookup name with
  | none => .ok (insertAt name (.array [.table []]) table)
  | some (.array items) => .ok (insertAt name (.array (items ++ [.table []])) table)
  | some _ => .error .malformed

def isCollection : Item → Bool
  | .array _ | .table _ => true
  | _ => false

/-- The tables so far, the header that is open, the paths that no header may open, those that join
them at the next header, and those that nothing is added to or below. -/
structure Document where
  tables : Table
  header : List String
  closed : List (List String)
  passed : List (List String)
  frozen : List (List String)

namespace Document

def empty : Document := ⟨[], [], [], [], []⟩

def isFrozen (document : Document) (names : List String) : Bool :=
  document.frozen.any (·.isPrefixOf names)

/-- Adds an item under the open header. -/
def addItem (path : Path) (item : Item) (document : Document) : Except Fault Document := do
  let parents := document.header ++ path.parents
  let passed := (List.range path.parents.length).map fun n =>
    document.header ++ path.parents.take (n + 1)
  if passed.any document.closed.contains || document.isFrozen parents then throw .malformed
  let tables ← modifyAt (addPair path.name item) parents document.tables
  return { document with
    tables := tables
    passed := passed ++ document.passed
    frozen := if isCollection item then (parents ++ [path.name]) :: document.frozen
      else document.frozen }

/-- The paths that no header may open once the next one is read. -/
def closedNow (document : Document) : List (List String) := document.passed ++ document.closed

def openTable (path : Path) (document : Document) : Except Fault Document := do
  if document.closedNow.contains path.names || document.isFrozen path.names then throw .malformed
  let tables ← modifyAt .ok path.names document.tables
  return { document with
    tables := tables
    header := path.names
    closed := path.names :: document.closedNow
    passed := [] }

/-- A new table of an array starts without what is known of the one before it. -/
def openNext (path : Path) (document : Document) : Except Fault Document := do
  if document.isFrozen path.names then throw .malformed
  let tables ← modifyAt (extend path.name) path.parents document.tables
  let isOutside (names : List String) : Bool := !path.names.isPrefixOf names
  return {
    tables := tables
    header := path.names
    closed := path.names :: document.closedNow.filter isOutside
    passed := []
    frozen := document.frozen.filter isOutside }

end Document

/-- Adds an item to an inline table; what is written as an array or as another inline table is
complete. -/
def addInline (path : Path) (item : Item) (frozen : List (List String)) (table : Table) :
    Except Fault Table :=
  if frozen.any (·.isPrefixOf path.names) then .error .malformed
  else modifyAt (addPair path.name item) path.parents table

end LayerTwo.Toml
