import Sift.Yaml.Scalar.Basic

/-!
# YAML documents

A document is a tree of nodes together with the nodes that its anchors name. A reference holds a
place in the tree for one of them. What an anchor names may contain a reference to itself, so a
document need not unfold to a finite tree, and even a short one can unfold to a huge one. Whoever
reads a document may therefore follow references only so often.

Main statement: `left_le_of_follow`, nothing is gained by following.
-/

namespace Sift.Yaml

structure Scalar where
  text : String
  style : Style
  tag : Option String
  deriving DecidableEq, Repr

inductive Node where
  | scalar (s : Scalar)
  | sequence (items : List Node)
  | mapping (entries : List (Node × Node))
  /-- The node with a number among those that have an anchor. -/
  | reference (target : Nat)
  deriving Repr, Inhabited

def Node.empty : Node := .scalar ⟨"", .plain, none⟩

mutual

/-- The number of scalars and references in a node, and of the ends of collections. -/
def Node.size : Node → Nat
  | .scalar _ | .reference _ => 1
  | .sequence items => itemsSize items + 2
  | .mapping entries => entriesSize entries + 2

def itemsSize : List Node → Nat
  | [] => 0
  | v :: items => v.size + itemsSize items

def entriesSize : List (Node × Node) → Nat
  | [] => 0
  | (k, v) :: entries => k.size + v.size + entriesSize entries

end

/-- A tree of nodes and those of them that have an anchor. -/
structure Document where
  root : Node
  /-- The nodes with an anchor, by number. -/
  anchored : List (Nat × Node)

/-- Reads something from a document, being left with a number of references to follow. -/
abbrev Reading := StateT Nat Option

namespace Document

/-- How many references may be followed: a hundred for every part of the document. -/
def allowance (d : Document) : Nat := 100 * d.root.size

/-- The node itself, or the one a reference stands for, if there is a reference left to follow. -/
def follow (d : Document) : Node → Reading Node
  | .reference target => fun
    | 0 => none
    | left + 1 => some ((d.anchored.lookup target).getD .empty, left)
  | v => pure v

/-- Following aliases spends the allowance for them and never adds to it. -/
theorem left_le_of_follow {d : Document} {v w : Node} {left more : Nat}
    (h : d.follow v left = some (w, more)) : more ≤ left := by
  unfold follow at h
  split at h
  · cases left with
    | zero => simp at h
    | succ left => simp at h; omega
  · have h' : (v, left) = (w, more) := Option.some.inj h
    exact Nat.le_of_eq (congrArg Prod.snd h').symm

end Document

end Sift.Yaml
