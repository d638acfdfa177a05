import TensorExchange.Toml.Moment
import TensorExchange.Toml.Value

/-!
Documents: lines that assign values to keys, under headers that open tables.

Values nest less than `depthLimit` deep and keys have fewer parts than that.
`read?` gives the table at the root, none for a text that is no document.
-/

namespace TensorExchange.Toml

/-- How deep values may nest, and how many parts a key may have. -/
def depthLimit : Nat := 80

namespace Scan

/-! ## Keys -/

def isBareKey (c : Char) : Bool := c.isAlphanum || c == '_' || c == '-'

def simpleKey : Scan String := do
  match ← peek with
  | some '"' => basicText
  | some '\'' => literalText
  | _ => return String.ofList (← takeSome isBareKey)

/-- A key of one or several parts: the path to its table, and the last part. -/
def key : Scan (List String × String) := do
  let parts ← separated (do blanks; let k ← simpleKey; blanks; return k) '.'
  if depthLimit ≤ parts.length then failure
  match Table.unsnoc? parts with
  | some split => return split
  | none => failure

/-! ## Values -/

/-- The items of an array, up to its bracket. -/
def arrayItems (item : Scan Value) : Scan (List Value) := do
  let items ← separated (do gap; let v ← item; gap; return v) ','
  if !items.isEmpty then
    let _ ← optional (char ',')
  gap
  char ']'
  return items

/-- One assignment of a table between braces. -/
def inlineEntry (item : Scan Value) : Scan ((List String × String) × Value) := do
  let k ← key
  char '='
  blanks
  let v ← item
  blanks
  return (k, v)

/-- The entries of a table between braces, up to its brace. -/
def inlineEntries (item : Scan Value) : Scan Table := do
  let entries ← separated (inlineEntry item) ','
  blanks
  char '}'
  match entries.foldlM (fun t (k, v) => t.assign? k.1 k.2 v) (Table.empty .opened) with
  | some t => return { t with marks := .inline }
  | none => failure

/-- A value that does not nest. -/
def plainValue : Scan Value := do
  match ← peek with
  | some '"' | some '\'' => return .text (← quoted)
  | some 't' => word "true"; return .flag true
  | some 'f' => word "false"; return .flag false
  | _ =>
    (do moment; return .moment) <|> (do digitFloat; return .float) <|>
      (do specialFloat; return .float) <|> (do return .integer (← integer))

/-- A value with arrays and tables nested at most `room` deep. -/
def value : Nat → Scan Value
  | 0 => plainValue
  | room + 1 => do
    match ← peek with
    | some '[' => char '['; return .array (← arrayItems (value room))
    | some '{' => char '{'; return (← inlineEntries (value room)).toValue
    | _ => plainValue

/-! ## Lines -/

/-- What a line says. -/
inductive Line where
  | blank
  | assign (path : List String) (key : String) (v : Value)
  | header (path : List String) (key : String)
  | arrayHeader (path : List String) (key : String)

def headerLine : Scan Line := do
  match (← get).take 2 with
  | ['[', '['] =>
    word "[["
    let (path, k) ← key
    word "]]"
    trailing
    return .arrayHeader path k
  | _ =>
    char '['
    let (path, k) ← key
    char ']'
    trailing
    return .header path k

def assignment : Scan Line := do
  let (path, k) ← key
  char '='
  blanks
  let v ← value (depthLimit - 1)
  trailing
  return .assign path k v

/-- A line and the blanks before the next one. -/
def line : Scan Line := do
  let l ← (do
    match ← peek with
    | some '#' => comment; lineEnd; return .blank
    | some '[' => headerLine
    | some '\n' | some '\r' => newline; return .blank
    | _ => assignment)
  blanks
  return l

/-- The lines of a document; a byte order mark may precede them. -/
def lines : Scan (List Line) := do
  let _ ← optional (char '\uFEFF')
  blanks
  let ls ← many line
  atEnd
  return ls

end Scan

/-! ## Tables -/

/-- A document being read: the tables closed so far, and the one that is open, with its place. -/
structure Reading where
  root : Table
  current : Table
  /-- Where the open table goes, none for the root itself. -/
  place : Option (List String × String)
  /-- Whether the open table is one of several under its key. -/
  isArray : Bool

namespace Reading

def start : Reading := ⟨Table.empty .opened, Table.empty .opened, none, false⟩

/-- Adds a table after those under a key. -/
def pushTable (k : String) (t : Table) (parent : Table) : Option Table :=
  match parent.get? k with
  | none => parent.insert? k (.tables [(t.marks, t.entries)])
  | some (.tables items) => some (parent.replace k (.tables (items ++ [(t.marks, t.entries)])))
  | some _ => none

/-- Puts a table under a key that has none, or an implicit one. -/
def putTable (k : String) (t : Table) (parent : Table) : Option Table :=
  match parent.get? k with
  | none => parent.insert? k t.toValue
  | some (.table marks _) =>
    if !marks.isInline && marks.isImplicit then some (parent.replace k t.toValue) else none
  | some _ => none

/-- Closes the open table and gives the root with it. -/
def close (r : Reading) : Option Table :=
  match r.place with
  | none => some r.current
  | some (path, k) =>
    Table.editAt false ((if r.isArray then pushTable else putTable) k r.current) path r.root

/-- What a header finds under its key: nothing, or an implicit table that it takes over. -/
def takeOver (k : String) (parent : Table) : Option Table :=
  match parent.get? k with
  | none => some (Table.empty .opened)
  | some (.table marks entries) =>
    if !marks.isInline && marks.isImplicit && !marks.isDotted then some ⟨.opened, entries⟩
    else none
  | some _ => none

/-- The table at the end of a path, which need not exist. -/
def tableAt (path : List String) : Table → Option Table
  | t =>
    match path with
    | [] => some t
    | k :: path =>
      match t.get? k with
      | none => some (Table.empty (.passed false))
      | some (.table marks entries) =>
        if marks.isInline then none else tableAt path ⟨marks, entries⟩
      | some (.tables items) => do
        let (_, last) ← Table.unsnoc? items
        tableAt path ⟨last.1, last.2⟩
      | some _ => none

/-- Takes in one line. -/
def step (r : Reading) : Scan.Line → Option Reading
  | .blank => some r
  | .assign path k v => do return { r with current := ← r.current.assign? path k v }
  | .header path k => do
    let root ← r.close
    let current ← takeOver k (← tableAt path root)
    let root ← Table.editAt false (fun t => some (t.erase k)) path root
    return ⟨root, current, some (path, k), false⟩
  | .arrayHeader path k => do
    let root ← r.close
    match (← tableAt path root).get? k with
    | none | some (.tables _) =>
      let root ← Table.editAt false some path root
      return ⟨root, Table.empty .opened, some (path, k), true⟩
    | some _ => none

end Reading

/-- The root table of a document. -/
def read? (s : String) : Option Table := do
  let (ls, _) ← Scan.lines.run s.toList
  let r ← ls.foldlM Reading.step Reading.start
  r.close

end TensorExchange.Toml
