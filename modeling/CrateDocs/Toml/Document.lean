import CrateDocs.Toml.Fault
import CrateDocs.Toml.Value

/-!
The tables of a settings document while it is read. A table that has a header or was made by a
dotted key is not opened again, and values that are written whole are not added to.
-/

namespace CrateDocs.Toml

/-- `closed` are the keys of tables that no header may open; `pending` are those that become closed
with the next header. What stands under a key of `whole` does not change. -/
structure Document where
  root : Table
  closed : List Key
  pending : List Key
  whole : List Key

namespace Document

def empty : Document := ⟨[], [], [], []⟩

def isWhole (d : Document) (key : Key) : Bool := d.whole.any fun k => k.isPrefixOf key

def settle (d : Document) : Document := { d with closed := d.pending ++ d.closed, pending := [] }

def release (d : Document) (key : Key) : Document :=
  { d with
    closed := d.closed.filter fun k => !key.isPrefixOf k
    whole := d.whole.filter fun k => !key.isPrefixOf k }

def openTable (d : Document) (key : Key) : Except Fault Document :=
  if d.closed.contains key || d.isWhole key then .error (.declaredTwice key)
  else
    match Table.change true some key d.root with
    | some t => .ok { d with root := t, closed := key :: d.closed }
    | none => .error .overwritten

def openNext (d : Document) (key : Key) : Except Fault Document :=
  if d.isWhole key then .error (.immutable key)
  else
    let d := d.release key
    match Table.change true (Table.append (key.getLast?.getD "")) key.dropLast d.root with
    | some t => .ok { d with root := t, closed := key :: d.closed }
    | none => .error .overwritten

def waypoints (header key : Key) : List Key := (List.range key.length).tail.map fun n =>
  header ++ key.take n

/-- Sets a value under a header. A list or a table that is written as a value is whole. -/
def assign (d : Document) (header key : Key) (v : Value) : Except Fault Document :=
  let way := waypoints header key
  let home := header ++ key.dropLast
  match way.find? fun k => d.closed.contains k with
  | some k => .error (.redefined k)
  | none =>
    if d.isWhole home then .error (.immutable home)
    else
      match Table.change true (Table.insert (key.getLast?.getD "") v) home d.root with
      | none => .error .overwritten
      | some t =>
        let isWhole := match v with
          | .list _ => true
          | .table _ => true
          | _ => false
        .ok { d with
          root := t
          pending := way ++ d.pending
          whole := if isWhole then (header ++ key) :: d.whole else d.whole }

end Document

/-- A table that is written in one line, while it is read. What stands under a key of `whole` does
not change. -/
structure Line where
  entries : Table
  whole : List Key

namespace Line

def assign (x : Line) (key : Key) (v : Value) : Except Fault Line :=
  let name := key.getLast?.getD ""
  if x.whole.any fun k => k.isPrefixOf key then .error (.immutable key)
  else
    match Table.change false some key.dropLast x.entries with
    | none => .error .overwritten
    | some _ =>
      match Table.change false (Table.insert name v) key.dropLast x.entries with
      | none => .error (.repeatedName name)
      | some t =>
        let isWhole := match v with
          | .list _ => true
          | .table _ => true
          | _ => false
        .ok ⟨t, if isWhole then key :: x.whole else x.whole⟩

end Line

end CrateDocs.Toml
