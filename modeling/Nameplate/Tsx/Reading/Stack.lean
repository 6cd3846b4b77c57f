import Nameplate.Tsx.Reading.Derivation

/-!
# Stacks that share their parts

A text that may be read in several ways has several stacks of derivations. They are kept in one
graph: a vertex holds a state and the place up to which the text is read, and its links lead to the
vertices below it, each with the derivation between the two.

* `Stacks.push`: a vertex on top of another;
* `Stacks.addLink`: another way down from a vertex;
* `Stacks.pathsDown`: the ways down over a number of derivations.
-/

namespace Nameplate.Tsx

/-- A way down: the derivation on top, and the vertex below it. -/
structure Link where
  below : Nat
  top : Derivation

/-- A state that was reached, up to a place of the text. -/
structure Vertex where
  state : Nat
  position : Nat
  weight : Int
  links : List Link

instance : Inhabited Vertex := ⟨⟨0, 0, 0, []⟩⟩

/-- All stacks; a stack is given by the number of the vertex on its top. -/
structure Stacks where
  vertices : Array Vertex

/-- A way down under construction: where it has come to, and the derivations above. -/
structure Path where
  vertex : Nat
  above : List Derivation
  /-- The number of the derivations above, the extra ones left out. -/
  count : Nat

namespace Stacks

/-- The empty stack, with number zero. -/
def initial : Stacks := ⟨#[⟨0, 0, 0, []⟩]⟩

def vertex (g : Stacks) (v : Nat) : Vertex := g.vertices.getD v default

/-- A derivation on top of a stack. -/
def push (g : Stacks) (v : Nat) (d : Derivation) (state : Nat) : Nat × Stacks :=
  let below := g.vertex v
  let top : Vertex := ⟨state, d.stem.stop, below.weight + d.stem.weight, [⟨v, d⟩]⟩
  (g.vertices.size, ⟨g.vertices.push top⟩)

/-- Two vertices have read the same part of the text and go on alike. -/
def agree (g : Stacks) (v w : Nat) : Bool :=
  (g.vertex v).state == (g.vertex w).state && (g.vertex v).position == (g.vertex w).position

/-- What a stack with this link on top weighs. -/
def weightOver (g : Stacks) (l : Link) : Int := (g.vertex l.below).weight + l.top.stem.weight

/-- The vertex weighs at least as much as a number. -/
def raise (g : Stacks) (v : Nat) (weight : Int) : Stacks :=
  ⟨g.vertices.modify v fun x => if x.weight < weight then { x with weight } else x⟩

/-- The most links that a vertex has. -/
def maxLinks : Nat := 8

/-- Another way down from a vertex. A link with a similar derivation to the same vertex is replaced
if it weighs less; if it leads to another vertex that agrees, the two are joined instead. -/
def addLink : Nat → Nat → Link → Stacks → Stacks
  | 0, _, _, g => g
  | fuel + 1, v, l, g =>
    if l.below == v then g
    else
      let links := (g.vertex v).links
      let alike (x : Link) : Bool :=
        x.top.similar l.top && (x.below == l.below || g.agree x.below l.below)
      match links.find? alike with
      | none =>
        if links.length < maxLinks then
          let g : Stacks := ⟨g.vertices.modify v fun x => { x with links := x.links ++ [l] }⟩
          g.raise v (g.weightOver l)
        else g
      | some x =>
        if x.below == l.below then
          if x.top.stem.weight < l.top.stem.weight then
            ⟨g.vertices.modify v fun y =>
              { y with
                links := y.links.map fun z =>
                  if z.below == l.below && z.top.similar l.top then l else z
                weight := g.weightOver l }⟩
          else g
        else
          let g := (g.vertex l.below).links.foldl (fun g m => addLink fuel x.below m g) g
          g.raise v (g.weightOver l)

/-- The links of a vertex are added to another that agrees with it. -/
def join (g : Stacks) (v w : Nat) : Stacks :=
  (g.vertex w).links.foldl (fun g l => g.addLink (g.vertices.size + 1) v l) g

/-! ## Ways down -/

/-- The most ways down that are followed at a time. -/
def maxPaths : Nat := 64

/-- Goes one derivation down on every path. Those that have come to their end are `done`; where
several links lead on, the first one replaces the path and the others come behind all paths. -/
def descend (g : Stacks) (count : Nat) :
    List Path → Array Path → Array Path → Array Path → List Path × Array Path
  | [], kept, added, done => ((kept ++ added).toList, done)
  | p :: rest, kept, added, done =>
    if p.count == count then descend g count rest kept added (done.push p)
    else
      let across (l : Link) : Path :=
        ⟨l.below, l.top :: p.above, if l.top.stem.extra then p.count else p.count + 1⟩
      match (g.vertex p.vertex).links with
      | [] => descend g count rest kept added done
      | l :: others =>
        let room := maxPaths - (kept.size + 1 + rest.length + added.size)
        descend g count rest (kept.push (across l))
          (added ++ ((others.take room).map across).toArray) done

/-- Goes down until all paths have come to their end. -/
def follow (g : Stacks) (count : Nat) : Nat → List Path → Array Path → Array Path
  | 0, _, done => done
  | _, [], done => done
  | fuel + 1, paths, done =>
    let (paths, done) := g.descend count paths #[] #[] done
    follow g count fuel paths done

/-- The ways down from a vertex over a number of derivations, those that end at the same vertex
together. -/
def pathsDown (g : Stacks) (v count : Nat) : List (Nat × List (List Derivation)) :=
  let done := (g.follow count (g.vertices.size + 1) [⟨v, [], 0⟩] #[]).toList
  ((done.map Path.vertex).eraseDups).map fun w =>
    (w, (done.filter fun p => p.vertex == w).map Path.above)

/-- The derivations of a stack from the bottom to the top, by the first link of each vertex. -/
def derivations (g : Stacks) : Nat → Nat → List Derivation → List Derivation
  | 0, _, above => above
  | fuel + 1, v, above =>
    match (g.vertex v).links with
    | [] => above
    | l :: _ => derivations g fuel l.below (l.top :: above)

end Stacks

end Nameplate.Tsx
