/-!
Values of a configuration document, and how its tables grow.

A document builds its tables piece by piece: a header opens a table, a dotted
key reaches into one, and a table that only lies on the way to another is
implicit until a header opens it.  `Table.editAt` follows a path of keys and
edits the table at its end; it refuses a path through something that is closed.
-/

namespace TensorExchange.Toml

/-- What a table may still become. -/
structure Marks where
  /-- Written between braces; nothing is added to it later. -/
  isInline : Bool
  /-- Not opened by a header of its own so far. -/
  isImplicit : Bool
  /-- Made by a dotted key. -/
  isDotted : Bool
deriving DecidableEq, Repr

namespace Marks

def inline : Marks := ⟨true, false, false⟩

/-- A table that a header opened. -/
def opened : Marks := ⟨false, false, false⟩

/-- A table on the way to another one. -/
def passed (dotted : Bool) : Marks := ⟨false, true, dotted⟩

end Marks

/-- The values of a document.  The value of a float or a date is not kept, since nothing that is
configured is one. -/
inductive Value where
  | text (s : String)
  | integer (n : Int)
  | float
  | flag (b : Bool)
  | moment
  | array (items : List Value)
  | table (marks : Marks) (entries : List (String × Value))
  /-- The tables that headers in double brackets opened, in order. -/
  | tables (items : List (Marks × List (String × Value)))

/-- A table: its marks and its entries in the order in which they were made. -/
structure Table where
  marks : Marks
  entries : List (String × Value)

namespace Table

def empty (marks : Marks) : Table := ⟨marks, []⟩

def toValue (t : Table) : Value := .table t.marks t.entries

def get? (t : Table) (key : String) : Option Value := t.entries.lookup key

/-- Puts a value under a key that has none. -/
def insert? (t : Table) (key : String) (v : Value) : Option Table :=
  if (t.get? key).isSome then none else some { t with entries := t.entries ++ [(key, v)] }

/-- Replaces the value under a key. -/
def replace (t : Table) (key : String) (v : Value) : Table :=
  { t with entries := t.entries.map fun e => if e.1 == key then (key, v) else e }

def erase (t : Table) (key : String) : Table :=
  { t with entries := t.entries.filter fun e => e.1 != key }

/-- The list without its last item, and that item. -/
def unsnoc? {α : Type} : List α → Option (List α × α)
  | [] => none
  | [a] => some ([], a)
  | a :: as => do
    let (front, last) ← unsnoc? as
    return (a :: front, last)

/-- Edits the table at the end of a path.  Tables that are missing on the way are made; the path
leads through the last of several tables; it does not lead through a table between braces nor,
when it belongs to a dotted key, through one that a header opened. -/
def editAt (dotted : Bool) (edit : Table → Option Table) : List String → Table → Option Table
  | [], t => edit t
  | key :: path, t =>
    match t.get? key with
    | none => do
      let sub ← editAt dotted edit path (empty (.passed dotted))
      t.insert? key sub.toValue
    | some (.table marks entries) =>
      if marks.isInline || (dotted && !marks.isImplicit) then none
      else do
        let sub ← editAt dotted edit path ⟨marks, entries⟩
        return t.replace key sub.toValue
    | some (.tables items) => do
      let (front, last) ← unsnoc? items
      let sub ← editAt dotted edit path ⟨last.1, last.2⟩
      return t.replace key (.tables (front ++ [(sub.marks, sub.entries)]))
    | some _ => none

/-- Puts a value under a dotted key.  A key without dots is refused in a table that dotted keys
made, and a key with dots in one that they did not make. -/
def assign? (t : Table) (path : List String) (key : String) (v : Value) : Option Table :=
  editAt true
    (fun sub => if sub.marks.isDotted == path.isEmpty then none else sub.insert? key v) path t

end Table

end TensorExchange.Toml
