import LayerTwo.Toml.Table

/-! TOML documents: lines that open a table, open the next table of an array or give a name its
item. An item that stands inside too many others, or a key of too many names, is a fault of its own,
whatever comes after it. -/
namespace LayerTwo.Toml

def isBare (c : Char) : Bool := c.isAlphanum || c == '_' || c == '-'

/-- A name of a key, bare or quoted. -/
def readName (text : List Char) : Reading String :=
  match text with
  | [] => .error .malformed
  | c :: _ =>
    if isBare c then .ok (String.ofList (text.takeWhile isBare), text.dropWhile isBare)
    else readLine text

/-- The number of names of the longest key. -/
def maxNames : Nat := 1000

/-- A dotted key of at most `fuel` names, and the spaces after it. -/
def readNames : (fuel : Nat) → List Char → Reading Path
  | 0, text =>
    match readName text with
    | .error fault => .error fault
    | .ok _ => .error .tooDeep
  | fuel + 1, text =>
    match readName text with
    | .error fault => .error fault
    | .ok (name, rest) =>
      match skip rest with
      | '.' :: rest =>
        (readNames fuel (skip rest)).map fun (path, rest) =>
          ({ path with parents := name :: path.parents }, rest)
      | rest => .ok (⟨[], name⟩, rest)

def readPath (text : List Char) : Reading Path := readNames maxNames text

/-- The text after spaces, line ends and comments. -/
def skipLayout : (inComment : Bool) → List Char → Except Fault (List Char)
  | _, [] => .ok []
  | true, c :: rest =>
    if c = '\n' then skipLayout false rest
    else if isControl c then .error .malformed
    else skipLayout true rest
  | false, c :: rest =>
    if isSpaceOrLine c then skipLayout false rest
    else if c = '#' then skipLayout true rest
    else .ok (c :: rest)

/-- The mark that opens an inline table and the one that closes it. -/
def tableMark : Char := '\x7b'
def tableEnd : Char := '\x7d'

/-- The number of arrays and inline tables that an item can stand inside. A fixed number is only an
approximation: what stops a deep document is the room for nested calls, which lasts for some 330
inline tables or 500 arrays, and for fewer where the reader itself is called from deep inside. -/
def maxDepth : Nat := 400

mutual

/-- An item inside `depth` others. The fuel is more than twice the length of the text. -/
def readItem : (fuel depth : Nat) → List Char → Reading Item
  | 0, _, _ => .error .malformed
  | fuel + 1, depth, text =>
    if maxDepth < depth then .error .tooDeep
    else
      match text with
      | [] => .error .malformed
      | c :: rest =>
        if c = quotationMark ∨ c = apostrophe then
          (readString text).map fun (string, rest) => (.text string, rest)
        else if c = '[' then
          (readItems fuel (depth + 1) rest).map fun (items, rest) => (.array items, rest)
        else if c = tableMark then
          (readPairs fuel (depth + 1) rest [] []).map fun (table, rest) => (.table table, rest)
        else
          match after? "true".toList text, after? "false".toList text with
          | some rest, _ => .ok (.boolean true, rest)
          | none, some rest => .ok (.boolean false, rest)
          | none, none => readPlain text

/-- The items of an array after its opening mark or after a comma. -/
def readItems : (fuel depth : Nat) → List Char → Except Fault (List Item × List Char)
  | 0, _, _ => .error .malformed
  | fuel + 1, depth, text => do
    match ← skipLayout false text with
    | ']' :: rest => return ([], rest)
    | text =>
      let (item, rest) ← readItem fuel depth text
      match ← skipLayout false rest with
      | ']' :: rest => return ([item], rest)
      | ',' :: rest =>
        let (items, rest) ← readItems fuel depth rest
        return (item :: items, rest)
      | _ => throw .malformed

/-- The pairs of an inline table after its opening mark or after a comma, added to those before
them. -/
def readPairs : (fuel depth : Nat) → List Char → (frozen : List (List String)) → Table →
    Except Fault (Table × List Char)
  | 0, _, _, _, _ => .error .malformed
  | fuel + 1, depth, text, frozen, table => do
    let text ← skipLayout false text
    if text.head? = some tableEnd then return (table, text.drop 1)
    let (path, rest) ← readPath text
    match rest with
    | '=' :: rest =>
      let (item, rest) ← readItem fuel depth (skip rest)
      let table ← addInline path item frozen table
      match ← skipLayout false rest with
      | ',' :: rest =>
        let frozen := if isCollection item then path.names :: frozen else frozen
        readPairs fuel depth rest frozen table
      | c :: rest => if c = tableEnd then return (table, rest) else throw .malformed
      | [] => throw .malformed
    | _ => throw .malformed

end

/-- The rest of a line after its statement: spaces and a comment. -/
def readLineEnd (text : List Char) : Except Fault (List Char) :=
  match skip text with
  | '#' :: comment =>
    if (comment.takeWhile (· != '\n')).any isControl then .error .malformed
    else .ok (comment.dropWhile (· != '\n'))
  | [] => .ok []
  | '\n' :: rest => .ok ('\n' :: rest)
  | _ => .error .malformed

/-- The statement at the start of a line, and the text after it. -/
def readStatement (fuel : Nat) (text : List Char) (document : Document) :
    Except Fault (Document × List Char) :=
  match text with
  | '[' :: '[' :: rest => do
    let (path, rest) ← readPath (skip rest)
    match rest with
    | ']' :: ']' :: rest => return (← document.openNext path, rest)
    | _ => throw .malformed
  | '[' :: rest => do
    let (path, rest) ← readPath (skip rest)
    match rest with
    | ']' :: rest => return (← document.openTable path, rest)
    | _ => throw .malformed
  | c :: rest =>
    if c = '\n' ∨ c = '#' then .ok (document, c :: rest)
    else do
      let (path, rest) ← readPath (c :: rest)
      match rest with
      | '=' :: rest =>
        let (item, rest) ← readItem fuel 0 (skip rest)
        return (← document.addItem path item, rest)
      | _ => throw .malformed
  | [] => .ok (document, [])

/-- The lines of a document. The fuel is more than twice the length of the text. -/
def readLines : (fuel : Nat) → List Char → Document → Except Fault Document
  | 0, _, _ => .error .malformed
  | fuel + 1, text, document => do
    let (document, rest) ← readStatement (fuel + 1) (skip text) document
    match ← readLineEnd rest with
    | [] => return document
    | _ :: rest => readLines fuel rest document

/-- A return before a line feed is no part of a document. -/
def joinLineEnds : List Char → List Char
  | '\r' :: '\n' :: rest => '\n' :: joinLineEnds rest
  | c :: rest => c :: joinLineEnds rest
  | [] => []

/-- The table that a document describes. -/
def read (text : List Char) : Except Fault Table :=
  let text := joinLineEnds text
  (readLines (2 * text.length + 1) text .empty).map (·.tables)

end LayerTwo.Toml
