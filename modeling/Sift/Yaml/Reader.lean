import Sift.Yaml.Node
import Sift.Yaml.Token

/-!
# Reading YAML

The grammatical half of reading YAML. The tokens of a text are taken one at a time by a machine
whose state is what it expects next and the stack of the collections that are still open. Some
things are written by nothing at all: an empty node, the missing value of a key, the end of a block
sequence that stands at the column of its mapping, and the end of a mapping of one entry in a flow
sequence. They are supplied before the token that shows that they are there is taken.

Names of anchors are numbered, and a reference stands for a number. A name that is used anew gets a
new number, which is how many names there are by then, so that it may share it with the next new
name. Of the nodes with one number the last to begin is the one meant, wherever the reference is.

A text holds one document, or none, which reads as an empty node.
-/

namespace Sift.Yaml

inductive SequenceForm where
  | block
  /-- A block sequence at the column of the mapping that it is a value of. -/
  | level
  | flow
  deriving DecidableEq

inductive MappingForm where
  | block
  | flow
  /-- An entry of a flow sequence that is a mapping of one entry. -/
  | single
  deriving DecidableEq

/-- A collection that is still open, by what the node that belongs to it next is. If it has an
anchor, it knows how many nodes with one began before it. What it holds is in reverse. -/
inductive Frame where
  | item (form : SequenceForm) (anchor : Option Nat) (items : List Node)
  /-- The key of an entry, and whether it may have a value. -/
  | key (form : MappingForm) (anchor : Option Nat) (entries : List (Node × Node))
    (hasValue : Bool)
  | value (form : MappingForm) (anchor : Option Nat) (entries : List (Node × Node)) (key : Node)

structure Properties where
  anchor : Option String
  tag : Option Tag

inductive Expect where
  /-- The document, after some directives. -/
  | document (directives : List Directive)
  | node (properties : Properties)
  /-- The mark of a value. -/
  | colon
  /-- The first item or entry of a flow collection, or its end. -/
  | first
  /-- What follows an item or an entry. -/
  | next
  /-- Nothing but the end, after the root. -/
  | ending (root : Node)
  /-- Nothing at all. -/
  | done (root : Node)

/-- What is expected next, what is still open around it, and what has been declared. -/
structure ReaderState where
  expect : Expect
  stack : List Frame
  /-- What handles of tags stand for. -/
  handles : List (String × String)
  /-- The numbers of the names of anchors. -/
  names : List (String × Nat)
  /-- The numbers of the nodes with an anchor, the last to begin first. -/
  begun : List Nat
  /-- The complete nodes with an anchor, by how many began before them. -/
  anchored : List (Nat × Node)

namespace ReaderState

def start : ReaderState := ⟨.document [], [], [], [], [], []⟩

def expectNode (s : ReaderState) : ReaderState := { s with expect := .node ⟨none, none⟩ }

def push (s : ReaderState) (f : Frame) (e : Expect) : ReaderState :=
  { s with expect := e, stack := f :: s.stack }

/-! ### Complete nodes -/

/-- Puts a node in its place in the innermost collection. -/
def give (s : ReaderState) (v : Node) : ReaderState :=
  match s.stack with
  | [] => { s with expect := .ending v }
  | .item form anchor items :: rest =>
    { s with expect := .next, stack := .item form anchor (v :: items) :: rest }
  | .key form anchor entries true :: rest =>
    { s with expect := .colon, stack := .value form anchor entries v :: rest }
  | .key form anchor entries false :: rest =>
    { s with expect := .next, stack := .key form anchor ((v, .empty) :: entries) true :: rest }
  | .value form anchor entries k :: rest =>
    { s with expect := .next, stack := .key form anchor ((k, v) :: entries) true :: rest }

def note (s : ReaderState) (anchor : Option Nat) (v : Node) : ReaderState :=
  match anchor with
  | some earlier => { s with anchored := (earlier, v) :: s.anchored }
  | none => s

def name (s : ReaderState) : Option String → Option Nat × ReaderState
  | some a =>
    -- A name that is used anew leaves the count as it is, so the next new name gets this number
    -- too.
    let number := s.names.length
    (some s.begun.length, { s with
      names := (a, number) :: s.names.filter (·.1 != a)
      begun := number :: s.begun })
  | none => (none, s)

def giveScalar (s : ReaderState) (anchor : Option String) (v : Scalar) : ReaderState :=
  let (n, s) := s.name anchor
  (s.note n (.scalar v)).give (.scalar v)

def close (s : ReaderState) : ReaderState :=
  match s.stack with
  | .item _ anchor items :: rest =>
    let v := Node.sequence items.reverse
    (note { s with stack := rest } anchor v).give v
  | .key _ anchor entries _ :: rest =>
    let v := Node.mapping entries.reverse
    (note { s with stack := rest } anchor v).give v
  | _ => s

/-! ### What is not written -/

/-- Whether a node is empty if this token stands in its place. -/
def isEmptyBefore (s : ReaderState) (t : Token) : Bool :=
  match s.stack with
  | [] => (t matches .directive _ | .documentStart | .documentEnd | .finish)
  | .item .block .. :: _ => (t matches .dash | .blockEnd)
  | .item .level .. :: _ => (t matches .dash | .key | .value | .blockEnd)
  | .item .flow .. :: _ => false
  | .key .block .. :: _ | .value .block .. :: _ => (t matches .key | .value | .blockEnd)
  | .key .flow _ _ true :: _ => (t matches .value | .comma | .flowMappingEnd)
  | .value .flow .. :: _ => (t matches .comma | .flowMappingEnd)
  | .value .single .. :: _ => (t matches .comma | .flowSequenceEnd)
  | .key .. :: _ => false

/-- Whether block collections may stand in the innermost collection. -/
def isInBlock (s : ReaderState) : Bool :=
  match s.stack with
  | [] => true
  | .item .block .. :: _ | .item .level .. :: _ => true
  | .key .block .. :: _ | .value .block .. :: _ => true
  | _ => false

def isInBlockMapping (s : ReaderState) : Bool :=
  match s.stack with
  | .key .block .. :: _ | .value .block .. :: _ => true
  | _ => false

/-- Whether a token continues a node that has these properties. -/
def continues (s : ReaderState) (p : Properties) : Token → Bool
  | .anchor _ => p.anchor.isNone
  | .tag _ => p.tag.isNone
  | .scalar .. | .flowSequence | .flowMapping => true
  | .blockSequence | .blockMapping => s.isInBlock
  | .dash => s.isInBlockMapping
  | _ => false

def expand? (s : ReaderState) (t : Tag) : Option String :=
  if t.handle.isEmpty then some t.suffix
  else
    let standard := [("!", "!"), ("!!", "tag:yaml.org,2002:")]
    ((s.handles ++ standard).lookup t.handle).map (· ++ t.suffix)

def expandTag? (s : ReaderState) : Option Tag → Option (Option String)
  | some t => (s.expand? t).map some
  | none => some none

/-- Supplies an empty node, if the token shows that one is there. -/
def supplyNode (s : ReaderState) (t : Token) : Option ReaderState :=
  match s.expect with
  | .node ⟨none, none⟩ => some (if s.isEmptyBefore t then s.give .empty else s)
  | .node p =>
    if s.continues p t then some s
    else (s.expandTag? p.tag).map fun tag => s.giveScalar p.anchor ⟨"", .plain, tag⟩
  | _ => some s

def supplyValue (s : ReaderState) (t : Token) : ReaderState :=
  match s.expect with
  | .colon => if t = .value then s else s.give .empty
  | _ => s

/-- Closes a collection whose end is not written. -/
def supplyEnd (s : ReaderState) (t : Token) : ReaderState :=
  match s.expect, s.stack with
  | .next, .item .level .. :: _ => if t = .dash then s else s.close
  | .next, .key .single .. :: _ => s.close
  | _, _ => s

/-! ### Taking a token -/

def beginNode (s : ReaderState) (p : Properties) (t : Token) : Option ReaderState := do
  match t with
  | .reference name =>
    let target ← s.names.lookup name
    return s.give (.reference target)
  | .anchor name => return { s with expect := .node { p with anchor := some name } }
  | .tag tag => return { s with expect := .node { p with tag := some tag } }
  | .scalar text style => return s.giveScalar p.anchor ⟨text, style, ← s.expandTag? p.tag⟩
  | _ =>
    -- The tag of a collection means nothing here, but its handle must be known.
    let _ ← s.expandTag? p.tag
    let (anchor, s) := s.name p.anchor
    match t with
    | .flowSequence => return s.push (.item .flow anchor []) .first
    | .flowMapping => return s.push (.key .flow anchor [] true) .first
    | .blockSequence =>
      if s.isInBlock then return s.push (.item .block anchor []) .next
      else none
    | .blockMapping =>
      if s.isInBlock then return s.push (.key .block anchor [] true) .next
      else none
    | .dash =>
      if s.isInBlockMapping then return (s.push (.item .level anchor []) .next).expectNode
      else none
    | _ => none

def beginEntry (s : ReaderState) (t : Token) : Option ReaderState :=
  match s.stack, t with
  | .item .flow .. :: _, .flowSequenceEnd => some s.close
  | .item .flow .. :: _, .key => some (s.push (.key .single none [] true) .next).expectNode
  | .item .flow .. :: _, t => s.beginNode ⟨none, none⟩ t
  | .key .flow .. :: _, .flowMappingEnd => some s.close
  | .key .flow .. :: _, .key => some s.expectNode
  | .key .flow anchor entries _ :: rest, t =>
    beginNode { s with stack := .key .flow anchor entries false :: rest } ⟨none, none⟩ t
  | _, _ => none

def continueAfter (s : ReaderState) (t : Token) : Option ReaderState :=
  match s.stack, t with
  | .item .block .. :: _, .dash | .item .level .. :: _, .dash | .key .block .. :: _, .key =>
    some s.expectNode
  | .item .block .. :: _, .blockEnd | .key .block .. :: _, .blockEnd
  | .item .flow .. :: _, .flowSequenceEnd | .key .flow .. :: _, .flowMappingEnd => some s.close
  | .item .flow .. :: _, .comma | .key .flow .. :: _, .comma => some { s with expect := .first }
  | _, _ => none

def declare (s : ReaderState) : Directive → Option ReaderState
  | .version major minor => if major = 1 && (minor = 1 || minor = 2) then some s else none
  | .handle name expansion =>
    if (s.handles.lookup name).isSome then none
    else some { s with handles := (name, expansion) :: s.handles }

def isVersion : Directive → Bool
  | .version .. => true
  | .handle .. => false

def beginDocument (s : ReaderState) (directives : List Directive) (t : Token) :
    Option ReaderState :=
  match t with
  | .directive d =>
    if isVersion d && directives.any isVersion then none
    else (s.declare d).map fun s => { s with expect := .document (d :: directives) }
  | .documentStart => some s.expectNode
  | .documentEnd => none
  | .finish => if directives.isEmpty then some { s with expect := .done .empty } else none
  | t => if directives.isEmpty then s.expectNode.beginNode ⟨none, none⟩ t else none

/-- Takes a token, when all that is not written has been supplied. In a flow sequence, a key that is
announced but not written takes the token after it along. -/
def take (s : ReaderState) (t : Token) : Option ReaderState :=
  match s.expect with
  | .document directives => s.beginDocument directives t
  | .node p =>
    match s.stack, t with
    -- _, .value | .key .single .. :: _, .comma :: Here the key is announced but not written.
    | .key .single .. :: _, .value | .key .single .. :: _, .comma
    | .key .single .. :: _, .flowSequenceEnd => some (s.give .empty)
    | _, t => s.beginNode p t
  | .colon => if t = .value then some s.expectNode else none
  | .first => s.beginEntry t
  | .next => s.continueAfter t
  | .ending root =>
    match t with
    | .documentEnd => some s
    | .finish => some { s with expect := .done root }
    | _ => none
  | .done _ => none

def step (s : ReaderState) (t : Token) : Option ReaderState :=
  match s.supplyNode t with
  | some s => ((s.supplyValue t).supplyEnd t).take t
  | none => none

/-- The complete nodes with an anchor, by its number, the last to begin first. -/
def numbered (s : ReaderState) : List (Nat × Node) :=
  s.begun.reverse.zipIdx.reverse.filterMap fun (number, earlier) =>
    (s.anchored.lookup earlier).map (number, ·)

def document? (s : ReaderState) : Option Document :=
  match s.expect with
  | .done root => some ⟨root, s.numbered⟩
  | _ => none

end ReaderState

def Document.ofTokens? (tokens : List Token) : Option Document :=
  (tokens.foldlM ReaderState.step .start).bind ReaderState.document?

def Document.ofText? (s : String) : Option Document := (tokens? s).bind Document.ofTokens?

end Sift.Yaml
