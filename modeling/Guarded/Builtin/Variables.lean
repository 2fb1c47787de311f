import Guarded.Settings.Configuration

set_option autoImplicit false

/-! # Settings from variables

`Configuration.builtin` is a `Configuration` that can be run. A builder is the list of what was put
into it, and of a tree only the names at its root are kept, each with its `Node`. -/

namespace Guarded.Settings

/-! ## Keys -/

/-- The lower case of a character as far as it matters for keys. Apart from the letters `A` to `Z`
    there is one character whose lower case is in `a` to `z`, the Kelvin sign. -/
def lowerChar (c : Char) : Char := if c = '\u212a' then 'k' else c.toLower

/-- A name in lower case. -/
def lowerName (name : String) : List Char := name.toList.map lowerChar

/-- The path that a key stands for. A key that `KeyPath.ofText?` does not read is a name. -/
def keyPathOf (key : List Char) : KeyPath := (KeyPath.ofText? key).getD ⟨key, []⟩

/-- Keys with values as a map holds them: of several values for one key, the last. This makes an
    `IsMapOf` of what it is given. -/
def latest : List (List Char × String) → List (List Char × String)
  | [] => []
  | (key, value) :: rest =>
    if key ∈ rest.map Prod.fst then latest rest else (key, value) :: latest rest

/-! ## Trees -/

/-- What stands at the root of a path when `value` is put at the path: a text only where there are
    no steps, and else what the first step needs. -/
def Node.ofSteps (value : String) : List KeyStep → Node
  | [] => .text value
  | .member _ :: _ => .map
  | .element _ :: _ => .sequence

/-- The names at the root of a tree, each with its `Node` if it has one. -/
abbrev Roots : Type := List Char → Option Node

/-- The roots with a text put at a path: `placement.1.root` has a new node, the other names keep
    theirs. -/
def Roots.put (roots : Roots) (placement : Placement) : Roots := fun name =>
  if placement.1.root = name then some (.ofSteps placement.2 placement.1.steps) else roots name

/-! ## The library -/

/-- A `Configuration` whose builder is the list of its `placements`. -/
def Configuration.builtin : Configuration where
  Builder := List Placement
  Tree := Roots
  builder := []
  setDefault builder key value := .ok (builder ++ [(keyPathOf key, value)])
  addVariables builder namePrefix environment :=
    builder ++ (latest (keysGiven lowerName namePrefix environment)).map fun (key, value) =>
      (keyPathOf key, value)
  build builder := .ok (builder.foldl Roots.put fun _ => none)
  text roots name := Node.text? name (roots name)
  lower := lowerName
  keyPath := keyPathOf
  placements builder := builder
  empty := fun _ => none
  put := Roots.put
  node? roots name := roots name

end Guarded.Settings
