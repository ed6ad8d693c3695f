import TestHistory.Yaml.Schema

/-!
# Nodes

What a document says before its aliases are followed. Anchors and aliases meet by number, and of
the nodes with one number the last one counts, also for the aliases in front of it. So a node may
hold itself; `value?` still ends, since values nest only so deep.
-/

namespace TestHistory.Yaml

inductive Node where
  | scalar (number : Option Nat) (value : Value)
  | alias (number : Nat)
  | sequence (number : Option Nat) (tag : Option (List UInt8)) (items : List Node)
  | mapping (number : Option Nat) (tag : Option (List UInt8)) (entries : List (Node × Node))

namespace Node

def withNumber (number : Option Nat) (node : Node) : List (Nat × Node) :=
  (number.map fun number => (number, node)).toList

mutual

/-- The nodes that have numbers, in the order in which they begin. -/
def numbered : Node → List (Nat × Node)
  | .alias _ => []
  | .scalar number value => withNumber number (.scalar number value)
  | .sequence number tag items =>
    withNumber number (.sequence number tag items) ++ numberedItems items
  | .mapping number tag entries =>
    withNumber number (.mapping number tag entries) ++ numberedEntries entries

def numberedItems : List Node → List (Nat × Node)
  | [] => []
  | item :: items => item.numbered ++ numberedItems items

def numberedEntries : List (Node × Node) → List (Nat × Node)
  | [] => []
  | (key, value) :: entries => key.numbered ++ value.numbered ++ numberedEntries entries

end

/-- The state is the number of aliases that may still be followed. -/
abbrev Following := StateT Nat Option

/-- The node that an alias stands for. -/
def follow (targets : List (Nat × Node)) : Node → Following Node
  | .alias number => do
    match ← get with
    | 0 => failure
    | uses + 1 => set uses; targets.lookup number
  | node => return node

def hasTwin : List Value → Bool
  | [] => false
  | key :: keys => keys.any key.same || hasTwin keys

/-- The value of a node within so many levels of collections. No key may stand twice. -/
def expand (targets : List (Nat × Node)) : Nat → Node → Following Value
  | 0, node => do
    match ← node.follow targets with
    | .scalar _ value => return value
    | _ => failure
  | levels + 1, node => do
    match ← node.follow targets with
    | .alias _ => failure
    | .scalar _ value => return value
    | .sequence _ tag items =>
      return Schema.ofCollection tag (.sequence (← items.mapM (expand targets levels)))
    | .mapping _ tag entries =>
      let entries ← entries.mapM fun (key, value) => do
        let key ← expand targets levels key
        return (key, ← expand targets levels value)
      if hasTwin (entries.map Prod.fst) then failure
      else return Schema.ofCollection tag (.mapping entries)

/-- No collection nests deeper than this. -/
def maxDepth : Nat := 128

/-- The value of the whole document, for which so many aliases may be followed. -/
def value? (root : Node) (maxAliases : Nat) : Option Value :=
  ((expand root.numbered.reverse maxDepth root).run maxAliases).map Prod.fst

end Node

end TestHistory.Yaml
