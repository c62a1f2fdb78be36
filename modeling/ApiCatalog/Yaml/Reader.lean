import ApiCatalog.Document.Extent
import ApiCatalog.Yaml.Node

/-! # Reading YAML

The document tree of a YAML text, as far as a reader looks at it. There every alias is replaced by
the node it stands for, and what the reader passes over is left out.

Aliases let a short text stand for a huge tree, or for one that never ends. So the number of aliases
that are followed is limited by the length of the document.
-/

namespace ApiCatalog.Yaml

def depthLimit : Nat := 128

namespace Document

/-- A step that follows aliases, and may only follow as many as the state tells. -/
abbrev Expansion (α : Type) := StateT Nat Option α

def spend : Expansion Unit := fun left => if left = 0 then none else some ((), left - 1)

/-- The tree of a node, as far as an extent goes. `fuel` bounds the nesting of collections, tags
and aliases. -/
def expand (d : Document) : Nat → Extent → Node → Expansion Tree
  | 0, _, _ => failure
  | fuel + 1, extent, node =>
    match node with
    | .scalar s => return .scalar s
    | .tagged name content => return .tagged name (← d.expand fuel extent content)
    | .list items => return .list false (← items.mapM (d.expand fuel extent.ofItem))
    | .map entries => do
      let entries ← entries.mapM fun (key, value) => do
        let key ← d.expand fuel .whole key
        match extent.ofKey? key with
        | some extent => return (key, ← d.expand fuel extent value)
        | none => return (key, .scalar .null)
      return .map entries
    | .aliasOf number => do
      spend
      match d.node? number with
      | some node => d.expand fuel extent node
      | none => failure

def aliasLimit (d : Document) : Nat := 100 * d.root.events

/-- The tree of a document, as far as an extent goes. Each level of nesting is a collection, which
may have a tag and stand behind an alias. -/
def tree? (d : Document) (extent : Extent) : Option Tree :=
  (d.expand (3 * (depthLimit + 1)) extent d.root).run' d.aliasLimit

end Document

/-- The tree of a YAML text, as far as an extent goes. A text without a document is an empty one. -/
def tree? (extent : Extent) (cs : List Char) : Option Tree := do
  let tokens ← Token.ofText? cs
  let document ← Composer.ofTokens? tokens
  document.tree? extent

end ApiCatalog.Yaml
