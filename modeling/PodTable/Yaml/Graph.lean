import PodTable.Text.Codes
import PodTable.Yaml.Plain

/-!
# Graphs of nodes

A node is a scalar, a sequence of nodes, or a mapping with nodes as keys and values, and has a
tag. Nodes refer to one another by their numbers in a graph, so that a node may occur in several
places and even inside itself.
-/

namespace PodTable

namespace Yaml

/-- The number of a node in a graph. -/
abbrev NodeId := Nat

/-- What a node holds. -/
inductive Content where
  | scalar (text : Text.Codes)
  | sequence (items : List NodeId)
  | mapping (entries : List (NodeId × NodeId))
deriving DecidableEq, Repr

/-- A node. -/
structure Node where
  tag : Tag
  content : Content
deriving DecidableEq, Repr

namespace Node

/-- The node that stands where nothing is written. -/
def empty : Node := ⟨.null, .scalar []⟩

end Node

/-- A graph of nodes. -/
structure Graph where
  nodes : Array Node := #[]

namespace Graph

/-- The node with a number. -/
def node (g : Graph) (i : NodeId) : Node := (g.nodes[i]?).getD .empty

/-- The kind of the node with a number. -/
def tag (g : Graph) (i : NodeId) : Tag := (g.node i).tag

/-- What the node with a number holds. -/
def content (g : Graph) (i : NodeId) : Content := (g.node i).content

/-- The entries of the node with a number, if it is a mapping. -/
def entries (g : Graph) (i : NodeId) : List (NodeId × NodeId) :=
  match g.content i with
  | .mapping entries => entries
  | _ => []

/-- Add a node, which gets the next number. -/
def add (n : Node) (g : Graph) : NodeId × Graph := (g.nodes.size, ⟨g.nodes.push n⟩)

/-- Put other content into the node with a number. -/
def fill (i : NodeId) (c : Content) (g : Graph) : Graph :=
  ⟨g.nodes.modify i (fun n => { n with content := c })⟩

/-- Change the kind of the node with a number. -/
def retag (i : NodeId) (t : Tag) (g : Graph) : Graph :=
  ⟨g.nodes.modify i (fun n => { n with tag := t })⟩

/-- The number of nodes. -/
def size (g : Graph) : Nat := g.nodes.size

end Graph

end Yaml

end PodTable
