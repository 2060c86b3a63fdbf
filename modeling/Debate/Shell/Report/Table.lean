import Debate.Number.Power
import Debate.Shell.Report.Value

/-!
# Arrays of scripts that report on records

An element is found by a text or by an integer. Elements stand in rows: a row for the texts whose hashes end
alike, and one for the integers that do; the one that was used last stands in front. An element that has only
been used by its integer gets its text when texts are asked for. So the order in which elements are gone through
depends on how they were used, and on nothing else.

* `Report.hash`          the hash of a text;
* `Report.Table`         an array;
* `Report.Table.find`    an element, which is created if it is wanted;
* `Report.Table.keys`    the texts of all elements, in the order in which they are gone through.
-/

namespace Debate.Shell.Report

open Debate.Number.Power

/-- the hash of a text -/
def hash (cs : Octets) : Nat :=
  (cs.foldl (fun (h : UInt32) c => (h ^^^ c.toNat.toUInt32) * 16777619) 2166136261).toNat

/-- an element: its text with its hash, its integer, and its value -/
structure Node where
  text : Option Octets := none
  hash : Nat := 0
  integer : Option Int := none
  value : Value := .absent
  deriving Inhabited

/-- how the elements of an array are kept -/
inductive Shape where
  /-- there are none -/
  | empty
  /-- as a list, from the first one on -/
  | list
  /-- in rows; there are texts, or not yet -/
  | rows (texts : Bool)
  deriving DecidableEq, Repr, Inhabited

/-- an array -/
structure Table where
  shape : Shape := .empty
  /-- how many elements there are -/
  size : Nat := 0
  nodes : Array Node := #[]
  /-- the numbers of the nodes, by what their hashes and what their integers leave -/
  texts : Array (List Nat) := #[]
  integers : Array (List Nat) := #[]
  deriving Inhabited

namespace Table

/-- how many rows there are at first -/
def firstRows : Nat := 64

/-- how many elements there are for each row before there are more rows -/
def rowLength : Nat := 12

/-- a node -/
def node (t : Table) (i : Nat) : Node := (t.nodes[i]?).getD {}

/-- the row of a hash -/
def textRow (t : Table) (hash : Nat) : Nat := hash % t.texts.size

/-- the row of an integer -/
def integerRow (t : Table) (n : Int) : Nat := (n % t.integers.size).toNat

/-- a node stands in front of those with such a hash -/
def frontText (t : Table) (i : Nat) : Table :=
  let row := t.textRow (t.node i).hash
  { t with texts := t.texts.modify row fun is => i :: is.filter (· ≠ i) }

/-- a node stands in front of those with such an integer -/
def frontInteger (t : Table) (i : Nat) (n : Int) : Table :=
  let row := t.integerRow n
  { t with integers := t.integers.modify row fun is => i :: is.filter (· ≠ i) }

/-- a table with rows, but without elements -/
def withRows (t : Table) (rows : Nat) (texts : Bool) : Table :=
  { t with
    shape := .rows texts, texts := Array.replicate rows [], integers := Array.replicate rows [] }

/-- how many rows a list of so many elements gets -/
def rowsFor (size : Nat) : Nat → Nat → Nat
  | 0, rows => rows
  | fuel + 1, rows => if rows * rowLength < size then rowsFor size fuel (2 * rows) else rows

/-- a list with its elements in rows -/
def ofList (t : Table) : Table :=
  let start := t.withRows (rowsFor t.size t.size firstRows) false
  (List.range t.size).foldl (fun t i => t.frontInteger i (i + 1)) start

/-- a list of values -/
def list (values : List Value) : Table :=
  let nodes := (values.zipIdx 1).map fun (v : Value × Nat) => ({ integer := some (v.2 : Int), value := v.1 } : Node)
  if values.isEmpty then {} else { shape := .list, size := values.length, nodes := nodes.toArray }

/-- twice as many rows -/
def double (t : Table) : Table :=
  let rows := t.texts.size
  let far (row : Nat → Nat) (lists : Array (List Nat)) : Array (List Nat) :=
    let stay := lists.mapIdx fun k is => is.filter fun i => row i = k
    let go := lists.mapIdx fun k is => is.filter fun i => row i ≠ k
    stay ++ go
  { t with
    texts := far (fun i => (t.node i).hash % (2 * rows)) t.texts
    integers := far (fun i => (((t.node i).integer.getD 0) % (2 * rows : Nat)).toNat) t.integers }

/-- a new element -/
def add (t : Table) (n : Node) : Table × Nat :=
  let i := t.nodes.size
  let t := { t with size := t.size + 1, nodes := t.nodes.push n }
  (if t.texts.size * rowLength < t.size then t.double else t, i)

/-- every element has its text -/
def withTexts (t : Table) : Table :=
  match t.shape with
  | .rows true => t
  | .empty => t.withRows firstRows true
  | shape =>
    let t := if shape = .list then t.ofList else t
    let t := t.integers.foldl (fun t is => is.foldl (fun t i =>
      let n := t.node i
      match n.text, n.integer with
      | none, some k =>
        let text := Octets.ofInt k
        let t := { t with nodes := t.nodes.setIfInBounds i { n with text := some text, hash := hash text } }
        t.frontText i
      | _, _ => t) t) t
    { t with shape := .rows true }

/-- the element of a text -/
def findText (t : Table) (text : Octets) (create : Bool) : Table × Option Nat :=
  let t := t.withTexts
  let h := hash text
  match ((t.texts[t.textRow h]?).getD []).find? fun i => (t.node i).hash = h ∧ (t.node i).text = some text with
  | some i => (t.frontText i, some i)
  | none =>
    if create then
      let (t, i) := t.add { text := some text, hash := h }
      (t.frontText i, some i)
    else (t, none)

/-- the element of an integer -/
def findInteger (t : Table) (k : Int) (create : Bool) : Table × Option Nat :=
  let inRows (t : Table) : Table × Option Nat :=
    match ((t.integers[t.integerRow k]?).getD []).find? fun i => (t.node i).integer = some k with
    | some i => (t.frontInteger i k, some i)
    | none =>
      if t.shape = .rows true then
        match t.findText (Octets.ofInt k) create with
        | (t, some i) =>
          let t := { t with nodes := t.nodes.modify i fun n => { n with integer := some k } }
          (t.frontInteger i k, some i)
        | r => r
      else if create then
        let (t, i) := t.add { integer := some k }
        (t.frontInteger i k, some i)
      else (t, none)
  match t.shape with
  | .list =>
    if 1 ≤ k ∧ k ≤ t.size then (t, some (k - 1).toNat)
    else if create then inRows t.ofList
    else (t, none)
  | .empty => inRows (t.withRows firstRows false)
  | .rows _ => inRows t

/-- the element of a value, which is created if it is wanted -/
def find (t : Table) (format : Octets) (key : Value) (create : Bool) : Table × Option Nat :=
  if t.size = 0 ∧ !create then (t, none)
  else
    match key with
    | .number x =>
      match whole? x with
      | some k =>
        if -(2 ^ (63 : Nat)) ≤ k ∧ k < 2 ^ (63 : Nat) then t.findInteger k create
        else t.findText (key.toText format) create
      | none => t.findText (key.toText format) create
    | key => t.findText (key.toText format) create

/-- the value of an element, which is created if it is missing -/
def get (t : Table) (format : Octets) (key : Value) : Table × Value :=
  match t.find format key true with
  | (t, some i) => (t, (t.node i).value)
  | (t, none) => (t, .absent)

/-- an element gets a value -/
def put (t : Table) (format : Octets) (key v : Value) : Table :=
  match t.find format key true with
  | (t, some i) => { t with nodes := t.nodes.modify i fun n => { n with value := v } }
  | (t, none) => t

/-- without an element -/
def remove (t : Table) (format : Octets) (key : Value) : Table :=
  match t.find format key false with
  | (t, none) => t
  | (t, some i) =>
    if t.size = 1 then {}
    else
      let t := if t.shape = .list then t.ofList else t
      let n := t.node i
      let texts := match n.text with
        | some _ => t.texts.modify (t.textRow n.hash) (·.filter (· ≠ i))
        | none => t.texts
      let integers := match n.integer with
        | some k => t.integers.modify (t.integerRow k) (·.filter (· ≠ i))
        | none => t.integers
      { t with size := t.size - 1, texts, integers }

/-- the texts of all elements, in the order in which they are gone through -/
def keys (t : Table) : Table × List Octets :=
  if t.size = 0 then (t, [])
  else
    let t := t.withTexts
    (t, t.texts.toList.flatten.filterMap fun i => (t.node i).text)

example : (Table.list [.absent, .absent, .absent]).keys.2.length = 3 := by decide +kernel

end Table

end Debate.Shell.Report
