import PodTable.Yaml.Defect
import PodTable.Yaml.Graph

/-!
# Merging

A mapping may ask for the entries of another mapping, or of several in a list, by an entry with the
key `<<`. Such an entry is taken out, and the entries merged come before those of the mapping
itself. What is merged has its own entries merged first, and of several mappings the first one
comes last.

A key that is the mark of a value becomes a text on the way.

A mapping may ask for its own entries. Each entry that asks for others is taken out of the graph
before they are looked up, so that merging comes to an end. The merges of what is merged are calls
within calls.
-/

namespace PodTable

namespace Yaml

namespace Graph

/-- Whether an entry asks for others to be merged. -/
def asksForMerge (g : Graph) (e : NodeId × NodeId) : Bool := g.tag e.1 == .merge

/-- Turn the marks of values among the keys of entries into texts. -/
def nameMarks (es : List (NodeId × NodeId)) (g : Graph) : Graph :=
  es.foldl (fun g e => if g.tag e.1 == .value then g.retag e.1 .text else g) g

/-- The number of entries that ask for others to be merged. -/
def mergeCount (g : Graph) : Nat :=
  (List.range g.size).foldr (fun i n => (g.entries i).countP g.asksForMerge + n) 0

/-- Merge into a mapping what its entries from position `n` on ask for, after the entries `merged`
that are found already, with room for `room` merges within this one. The fuel is greater than the
number of entries that ask for merging. -/
def mergeFrom : Nat → Nat → NodeId → Nat → List (NodeId × NodeId) → Graph → Except Defect Graph
  | 0, _, _, _, _, _ => .error .malformed
  | fuel + 1, room, i, n, merged, g =>
    let es := g.entries i
    let kept := (es.drop n).takeWhile (fun e => !g.asksForMerge e)
    let rest := (es.drop n).dropWhile (fun e => !g.asksForMerge e)
    let g := g.nameMarks kept
    match rest with
    | [] => .ok (if merged.isEmpty then g else g.fill i (.mapping (merged ++ es)))
    | (_, v) :: rest => do
      let n := n + kept.length
      let g := g.fill i (.mapping (es.take n ++ rest))
      let ask (i : NodeId) (g : Graph) : Except Defect (List (NodeId × NodeId) × Graph) :=
        match g.content i, room with
        | .mapping _, room + 1 =>
          (mergeFrom fuel room i 0 [] g).map (fun g => (g.entries i, g))
        | .mapping _, 0 => .error .tooDeep
        | _, _ => .error .malformed
      let (more, g) ←
        match g.content v with
        | .sequence items =>
          items.foldlM (fun (es, g) i => (ask i g).map (fun (more, g) => (more ++ es, g))) ([], g)
        | _ => ask v g
      mergeFrom fuel room i n (merged ++ more) g

/-- Merge into a mapping what its entries ask for. -/
def merge (room : Room) (i : NodeId) (g : Graph) : Except Defect Graph :=
  mergeFrom (g.mergeCount + 1) room.merges i 0 [] g

end Graph

end Yaml

end PodTable
