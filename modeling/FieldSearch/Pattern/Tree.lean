import FieldSearch.Pattern.Matching

namespace FieldSearch.Pattern

/-!
# Syntax trees of patterns

A pattern as it is written: with its groups, and with sequences and choices of
any number of parts. What it matches is a node (`Tree.node`).
-/

/-- A pattern as it is written. -/
inductive Tree where
  | empty
  /-- A setting of flags, which stands for nothing that could be repeated. -/
  | setting
  /-- A class of characters, and how deeply brackets are nested in its notation. -/
  | chars (set : CharClass) (depth : Nat)
  | look (condition : Look)
  /-- A group, which may capture what it matches. -/
  | group (isCapture : Bool) (inner : Tree)
  | sequence (parts : List Tree)
  | choice (branches : List Tree)
  /-- At least and, unless there is no limit, at most so many repetitions. -/
  | repeated (inner : Tree) (least : Nat) (most : Option Nat)
  deriving Repr

namespace Tree

/-- Parts one after the other. -/
def ofParts : List Tree → Tree
  | [] => empty
  | [part] => part
  | parts => sequence parts

/-- One of several branches. -/
def ofBranches : List Tree → Tree
  | [] => empty
  | [branch] => branch
  | branches => choice branches

mutual

/-- What a pattern matches. -/
def node : Tree → Node
  | empty => .empty
  | setting => .empty
  | chars set _ => .chars set
  | look condition => .look condition
  | group _ inner => inner.node
  | sequence parts => sequenceNode parts
  | choice branches => choiceNode branches
  | repeated inner least most => .repeated inner.node least most

/-- What parts match one after the other. -/
def sequenceNode : List Tree → Node
  | [] => .empty
  | [part] => part.node
  | part :: rest => .seq part.node (sequenceNode rest)

/-- What one of several branches matches. -/
def choiceNode : List Tree → Node
  | [] => .empty
  | [branch] => branch.node
  | branch :: rest => .alt branch.node (choiceNode rest)

end

mutual

/-- How deeply the parts of a pattern are nested. -/
def depth : Tree → Nat
  | empty => 0
  | setting => 0
  | chars _ depth => depth
  | look _ => 0
  | group _ inner => inner.depth + 1
  | sequence parts => maxDepth parts + 1
  | choice branches => maxDepth branches + 1
  | repeated inner _ _ => inner.depth + 1

/-- The greatest depth among several patterns. -/
def maxDepth : List Tree → Nat
  | [] => 0
  | tree :: rest => max tree.depth (maxDepth rest)

end

end Tree

end FieldSearch.Pattern
