import Guarded.CommandLine.Environment
import Guarded.Settings.KeyPath

set_option autoImplicit false

/-! # Loading settings through a library

Settings are put together by a library: a builder is told a default and that the variables of the
environment come on top of it, a tree of values is built from this, and the text of the setting is
taken out of the tree. The library is a parameter, a `Configuration`; what is relied on is
`Configuration.Documented`. `Configuration.load` is what the program does with it. -/

namespace Guarded.Settings

open CommandLine (Environment)

/-! ## Values and errors -/

/-- What stands in a tree of values at a name. Of a `map` or a `sequence` nothing more is kept. -/
inductive Node where
  | text (value : String)
  | map
  | sequence
  /-- A place that was made to fill a sequence up, and that nothing was put into. -/
  | unit
  deriving DecidableEq, Repr, Inhabited

/-- An error of the library, by its message. -/
structure ConfigError where
  message : String
  deriving DecidableEq, Repr, Inhabited

/-- The error of a value of the kind `found` in the place of a text. -/
def ConfigError.invalidType (found : String) (name : List Char) : ConfigError :=
  ⟨"invalid type: " ++ found ++ ", expected a string for key `" ++ String.ofList name ++ "`"⟩

/-- The text that is expected at `name`, by the node that is found there. -/
def Node.text? (name : List Char) : Option Node → Except ConfigError String
  | some (.text value) => .ok value
  | some .map => .error (.invalidType "map" name)
  | some .sequence => .error (.invalidType "sequence" name)
  | some .unit => .error (.invalidType "unit value" name)
  | none => .error ⟨"missing field `" ++ String.ofList name ++ "`"⟩

/-! ## Keys -/

/-- The key that a variable gives, if its name begins with `namePrefix` and an underscore: what
    follows them, all of it in lower case. -/
def keyOf? (lower : String → List Char) (namePrefix name : String) : Option (List Char) :=
  let start := lower namePrefix ++ ['_']
  if start.isPrefixOf (lower name) then some ((lower name).drop start.length) else none

/-- The keys that the variables of an environment give by `keyOf?`, with their values. -/
def keysGiven (lower : String → List Char) (namePrefix : String) (environment : Environment) :
    List (List Char × String) :=
  environment.filterMap fun (name, value) =>
    (keyOf? lower namePrefix name).map fun key => (key, value)

/-- The `entries` of a map that is made of keys with values, in the order in which the map hands
    them out: each key that is given is there once, with a value that is given for it. -/
structure IsMapOf (given entries : List (List Char × String)) : Prop where
  distinct : (entries.map Prod.fst).Nodup
  sound : ∀ entry ∈ entries, entry ∈ given
  complete : ∀ entry ∈ given, ∃ other ∈ entries, other.1 = entry.1

/-! ## The library -/

/-- Something put at a place: a path and a text. -/
abbrev Placement : Type := KeyPath × String

/-- A library that puts settings together. The program calls `setDefault`, `addVariables`, `build`
    and `text`; the members after them give names to what the library does inside. -/
structure Configuration where
  /-- What a builder was told. -/
  Builder : Type
  /-- A tree of values. -/
  Tree : Type
  /-- The builder that was told nothing. -/
  builder : Builder
  /-- Set the default at `key`. -/
  setDefault : Builder → (key : List Char) → (value : String) → Except ConfigError Builder
  /-- Add the variables of an environment whose names begin with `namePrefix`. -/
  addVariables : Builder → (namePrefix : String) → Environment → Builder
  build : Builder → Except ConfigError Tree
  /-- Take out the text at `name`. -/
  text : Tree → (name : List Char) → Except ConfigError String
  /-- A name in lower case. -/
  lower : String → List Char
  /-- The path that a key stands for. -/
  keyPath : List Char → KeyPath
  /-- What `build` puts into the tree, in order. -/
  placements : Builder → List Placement
  /-- The tree without values. -/
  empty : Tree
  /-- The tree with a text put at a path. -/
  put : Tree → Placement → Tree
  /-- What stands in a tree at a name. -/
  node? : Tree → (name : List Char) → Option Node

namespace Configuration

/-- What is documented of a `Configuration`. -/
structure Documented (configuration : Configuration) : Prop where
  /-- Of the first 128 characters, letters are put in lower case and others stay as they are. -/
  lower_ascii {name : String} (ascii : ∀ char ∈ name.toList, char.toNat < 128) :
    configuration.lower name = name.toList.map Char.toLower
  /-- A key that is written as a path stands for the path. -/
  keyPath_written {path : KeyPath} {key : List Char} (written : PathWritten path key) :
    configuration.keyPath key = path
  /-- Any other `key` is a name as a whole. -/
  keyPath_other {key : List Char} (other : ∀ path, ¬ PathWritten path key) :
    configuration.keyPath key = ⟨key, []⟩
  /-- A default can be set at a key that is written as a path. -/
  setDefault_written {path : KeyPath} {key : List Char} (written : PathWritten path key)
    (value : String) :
    ∃ builder, configuration.setDefault configuration.builder key value = .ok builder ∧
      configuration.placements builder = [(path, value)]
  /-- What a source gives comes on top of what was there. The variables go through a map from their
      keys, which has an order of its own; see `IsMapOf`. -/
  placements_addVariables (builder : configuration.Builder) (namePrefix : String)
    (environment : Environment) :
    ∃ entries, IsMapOf (keysGiven configuration.lower namePrefix environment) entries ∧
      configuration.placements (configuration.addVariables builder namePrefix environment) =
        configuration.placements builder ++
          entries.map fun (key, value) => (configuration.keyPath key, value)
  /-- Building puts one thing after another, by `put`. It fails only where a source does, and
      variables are texts as they stand; every sequence is taken to have the element that a path
      asks for. -/
  build_eq (builder : configuration.Builder) :
    configuration.build builder =
      .ok ((configuration.placements builder).foldl configuration.put configuration.empty)
  /-- At the name itself there is then the text. -/
  node?_put_name (tree : configuration.Tree) (name : List Char) (value : String) :
    configuration.node? (configuration.put tree (⟨name, []⟩, value)) name = some (.text value)
  /-- A `member` has to stand in a map, and an `element` in a sequence. -/
  node?_put_member (tree : configuration.Tree) (name member : List Char) (steps : List KeyStep)
    (value : String) :
    configuration.node? (configuration.put tree (⟨name, .member member :: steps⟩, value)) name =
      some .map
  node?_put_element (tree : configuration.Tree) (name : List Char) {index : Int} (h : 0 ≤ index)
    (steps : List KeyStep) (value : String) :
    configuration.node? (configuration.put tree (⟨name, .element index :: steps⟩, value)) name =
      some .sequence
  /-- Whatever the path, what stands at its root depends on what stood there and on nothing else. -/
  node?_put_congr {tree tree' : configuration.Tree} {path : KeyPath}
    (h : configuration.node? tree path.root = configuration.node? tree' path.root)
    (value : String) :
    configuration.node? (configuration.put tree (path, value)) path.root =
      configuration.node? (configuration.put tree' (path, value)) path.root
  /-- At other names nothing changes. -/
  node?_put_of_ne (tree : configuration.Tree) {path : KeyPath} {name : List Char}
    (h : path.root ≠ name) (value : String) :
    configuration.node? (configuration.put tree (path, value)) name =
      configuration.node? tree name
  /-- The text of a tree at a name is that of its node, by `Node.text?`. -/
  text_eq (tree : configuration.Tree) (name : List Char) :
    configuration.text tree name = Node.text? name (configuration.node? tree name)

end Configuration

end Guarded.Settings
