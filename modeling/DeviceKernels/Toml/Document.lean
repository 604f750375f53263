import DeviceKernels.Toml.Value

/-
A document keeps what stands under each path of names and how each table came to be there, because
that decides what may still be added to it: no table is opened twice, and a dotted name adds only
to tables that dotted names have made.
-/

namespace DeviceKernels.Toml

inductive TableOrigin where
  /-- The table has a header of its own. -/
  | header
  /-- The table lies above one with a header. -/
  | above
  /-- The table lies on the way of a dotted name. -/
  | dotted
  deriving DecidableEq, Repr

inductive Node where
  | leaf (value : Toml)
  | branch (origin : TableOrigin)

/-- A path is below the paths that were added before it. -/
structure Document where
  nodes : List (List String × Node)

namespace Document

def empty : Document := ⟨[]⟩

def at? (document : Document) (path : List String) : Option Node := document.nodes.lookup path

def add (document : Document) (path : List String) (node : Node) : Document :=
  ⟨document.nodes ++ [(path, node)]⟩

/-- The paths strictly between the root and a path, the shortest first. -/
def waypoints (path : List String) : List (List String) :=
  (List.range path.length).tail.map path.take

/-- Goes through a table on the way to a header. -/
def passHeader (document : Document) (path : List String) : Option Document :=
  match document.at? path with
  | none => some (document.add path (.branch .above))
  | some (.branch _) => some document
  | some (.leaf _) => none

/-- Opens the table of a header. -/
def openTable (document : Document) (path : List String) : Option Document := do
  let document ← (waypoints path).foldlM passHeader document
  match document.at? path with
  | none => some (document.add path (.branch .header))
  | some (.branch .above) =>
      some ⟨document.nodes.map fun entry =>
        if entry.1 == path then (path, .branch .header) else entry⟩
  | _ => none

/-- Goes through a table on the way of a dotted name. -/
def passDotted (document : Document) (path : List String) : Option Document :=
  match document.at? path with
  | none => some (document.add path (.branch .dotted))
  | some (.branch .dotted) => some document
  | some (.branch .above) => some document
  | _ => none

/-- Whether a dotted name may add to the table at a path. -/
def takesDotted (document : Document) (path : List String) : Bool :=
  match document.at? path with
  | some (.branch .dotted) => true
  | _ => false

/-- Adds a value under a name, which may be dotted, to the table at a path. -/
def insert (document : Document) (table name : List String) (value : Toml) : Option Document := do
  let document ← ((waypoints name).map (table ++ ·)).foldlM passDotted document
  if name.length != 1 && !document.takesDotted (table ++ name.dropLast) then none
  else
    match document.at? (table ++ name) with
    | none => some (document.add (table ++ name) (.leaf value))
    | some _ => none

/-- The whole document as one table. -/
def toValue (document : Document) : Toml :=
  document.nodes.foldl
    (fun whole entry =>
      match entry.2 with
      | .leaf value => put value entry.1 whole
      | .branch _ => put (.table []) entry.1 whole)
    (.table [])

end Document

end DeviceKernels.Toml
