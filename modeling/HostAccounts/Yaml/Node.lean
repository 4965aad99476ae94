import HostAccounts.Yaml.Token

/-!
# Nodes

What a document holds: scalars, sequences and mappings, and references to nodes that have been given
a name.
-/

set_option autoImplicit false

namespace HostAccounts.Yaml

/-- A node. A tag matters on scalars only, so other nodes keep none. A tag may be nothing but an
exclamation mark; a scalar with that one stands for what is written, and not for nothing. -/
inductive Node where
  /-- A reference to the node whose anchor has the number. -/
  | reference (anchor : Nat)
  | scalar (tag : Option TagBytes) (style : Style) (text : String)
  | sequence (items : List Node)
  | mapping (entries : List (Node × Node))

/-- The node that is left out. -/
def Node.empty (tag : Option TagBytes) : Node := .scalar tag .plain ""

mutual

/-- The number of marks by which a reader goes through the node: one for a scalar or a reference,
and one at each end of a collection. -/
def Node.marks : Node → Nat
  | .reference _ => 1
  | .scalar .. => 1
  | .sequence items => 2 + itemMarks items
  | .mapping entries => 2 + entryMarks entries

/-- The marks of the items of a sequence. -/
def itemMarks : List Node → Nat
  | [] => 0
  | n :: ns => n.marks + itemMarks ns

/-- The marks of the entries of a mapping. -/
def entryMarks : List (Node × Node) → Nat
  | [] => 0
  | (k, v) :: rest => k.marks + v.marks + entryMarks rest

end

/-! ## Anchors -/

/-- The anchors of a document. An anchor has a number and the place at which its node begins. -/
structure Anchors where
  /-- The number of each name. -/
  numbers : List (String × Nat) := []
  /-- The places for each number, the latest first. -/
  places : List (Nat × Nat) := []
  /-- The nodes at the places. -/
  nodes : List (Nat × Node) := []

namespace Anchors

/-- Names the node that begins at the place. Its number is how many names there have been; a name
that is given anew does not count as another one. -/
def name (a : Anchors) (name : String) (place : Nat) : Anchors :=
  let number := a.numbers.length
  { a with
    numbers := (name, number) :: a.numbers.filter (·.1 != name)
    places := (number, place) :: a.places }

/-- Keeps the node that began at the place. -/
def keep (a : Anchors) (place : Nat) (n : Node) : Anchors :=
  { a with nodes := (place, n) :: a.nodes }

/-- The number that a name refers to. -/
def number? (a : Anchors) (name : String) : Option Nat :=
  a.numbers.lookup name

/-- The node that a number refers to: the last one that took it. -/
def node? (a : Anchors) (number : Nat) : Option Node := do
  let place ← a.places.lookup number
  a.nodes.lookup place

end Anchors

/-- A document. -/
structure Document where
  /-- A text without anything in it has no root. -/
  root : Option Node
  anchors : Anchors

namespace Document

/-- The number of marks by which a reader goes through the document. -/
def marks (d : Document) : Nat :=
  match d.root with
  | some n => n.marks
  | none => 1

/-- How often references may be followed in all. This keeps a short document from standing for an
enormous one. -/
def followLimit (d : Document) : Nat :=
  100 * d.marks

/-- The node itself, or the one that it refers to. The state is how many references may still be
followed. -/
def follow (d : Document) (n : Node) : StateT Nat Option Node :=
  match n with
  | .reference number => do
    match ← get with
    | 0 => failure
    | left + 1 =>
      set left
      d.anchors.node? number
  | _ => pure n

end Document

end HostAccounts.Yaml
