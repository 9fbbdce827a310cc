import Templating.References

/-!
# Dependencies inside a batch

The nodes are the entries that templates can stand in, and an entry points to the entries that its
templates name. Names outside the batch are kept apart.
-/

namespace Templating

structure Graph where
  /-- The entries that each node names, in the order in which it first names them. -/
  edges : NameMap (List String)
  /-- Names outside the batch, in the order in which they are first met. -/
  missing : List String

namespace Graph

def empty : Graph := ⟨NameMap.empty, []⟩

def nodes (graph : Graph) : List String := graph.edges.names

def contains (graph : Graph) (name : String) : Bool := graph.edges.contains name

def dependencies (graph : Graph) (name : String) : List String := (graph.edges.get? name).getD []

/-- The dependencies that are nodes themselves. -/
def successors (graph : Graph) (name : String) : List String :=
  (graph.dependencies name).filter graph.contains

/-- Appends the names that are not there yet. -/
def addNew (known : List String) (names : List String) : List String :=
  names.foldl (fun known name => if known.contains name then known else known ++ [name]) known

/-- Adds a node for an entry of the batch, with the names that its templates refer to. -/
def addNode (graph : Graph) (batch : Bindings) (name : String) (references : List String) : Graph :=
  { edges := graph.edges.insert name (addNew [] (references.filter batch.contains))
    missing := addNew graph.missing (references.filter fun name => !batch.contains name) }

/-- Adds the nodes of the entries one after the other. -/
def addEntries (tokenizer : Tokenizer) (batch : Bindings) (graph : Graph) :
    List (String × Value) → Except TemplateError Graph
  | [] => .ok graph
  | (name, value) :: rest =>
      if value.isTemplated then
        match value.references tokenizer with
        | .error error => .error (.inVariable name error)
        | .ok references =>
            addEntries tokenizer batch (graph.addNode batch name references) rest
      else addEntries tokenizer batch graph rest

/-- The graph of a batch; only strict reading can fail. -/
def build (tokenizer : Tokenizer) (batch : Bindings) : Except TemplateError Graph :=
  addEntries tokenizer batch empty batch.entries

end Graph

end Templating
