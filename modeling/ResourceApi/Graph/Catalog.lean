import ResourceApi.Graph.Basic
import ResourceApi.Schema.Reading

/-!
Catalogs: resources as they are declared one after another, from which a graph is made.
-/

namespace ResourceApi

structure Catalog.Node where
  resource : Resource
  parents : List Nat

/-- Every resource has a place among the nodes. The listed ones are those that were declared on their own, the others
were written in place as parents. -/
structure Catalog where
  nodes : List Catalog.Node
  listed : List Nat

namespace Catalog

def empty : Catalog := ⟨[], []⟩

mutual

/-- Puts a declared resource behind its parents and gives its place, if it has one. -/
def place (c : Catalog) : Declaration → Catalog × Option Nat
  | .known i => (c, c.listed[i]?)
  | .inline r parents =>
    let (c, places) := placeAll c parents
    ({ c with nodes := c.nodes ++ [⟨r, places⟩] }, some c.nodes.length)

def placeAll (c : Catalog) : List Declaration → Catalog × List Nat
  | [] => (c, [])
  | d :: ds =>
    let (c, place?) := place c d
    let (c, places) := placeAll c ds
    (c, place?.toList ++ places)

end

def add (c : Catalog) (d : Declaration) : Catalog :=
  let (c, place?) := c.place d
  { c with listed := c.listed ++ place?.toList }

/-- Reads declarations in order up to the first that has faults, which is reported with its index. -/
def addAll (c : Catalog) : List Raw → Except (Nat × List Fault) Catalog
  | [] => .ok c
  | raw :: raws => match Declaration.ofRaw raw with
    | .ok d => (c.add d).addAll raws
    | .faulty fs => .error (c.listed.length, fs)

def ofRaws (raws : List Raw) : Except (Nat × List Fault) Catalog := empty.addAll raws

/-- Gives a listed resource other parents, which are listed too. -/
def link (c : Catalog) (child : Nat) (parents : List Nat) : Catalog :=
  match c.listed[child]? with
  | none => c
  | some place => { c with
      nodes := c.nodes.modify place fun node => { node with parents := parents.filterMap fun p => c.listed[p]? } }

def size (c : Catalog) : Nat := c.nodes.length

def inside? (c : Catalog) (place : Nat) : Option (Fin c.size) :=
  if h : place < c.size then some ⟨place, h⟩ else none

def graph (c : Catalog) : Graph c.size where
  resource i := (c.nodes.get i).resource
  parents i := (c.nodes.get i).parents.filterMap c.inside?

/-- The listed resources of the graph. -/
def roots (c : Catalog) : List (Fin c.size) := c.listed.filterMap c.inside?

/-- The listed resources with the given indexes. -/
def select (c : Catalog) (indexes : List Nat) : List (Fin c.size) := indexes.filterMap fun i => c.roots[i]?

/-- The index of a listed resource. -/
def indexOf (c : Catalog) (i : Fin c.size) : Nat := c.roots.idxOf i

end Catalog

end ResourceApi
