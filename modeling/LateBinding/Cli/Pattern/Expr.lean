import LateBinding.Cli.Pattern.Token

/-!
# Regular expressions

* `CharSet`, `Expr` — sets of characters and regular expressions as trees;
* `Expr.ofTokens?` — the tree that tokens make: groups and sets are closed, and repetition has
  something to repeat;
* `CharSet.depth`, `Expr.depth` — how deep a tree is;
* `Flags`, `Expr.run?` — which expressions can be matched.  Characters match in either case only
  within ASCII, and words are known only there; where bytes are meant, only whole characters match.
-/

namespace LateBinding

namespace Pattern

/-! ### Trees -/

/-- A set of characters. -/
inductive CharSet where
  | nothing
  | member (m : Member)
  | union (parts : List CharSet)
  /-- A set in brackets. -/
  | bracket (negated : Bool) (s : CharSet)
  | operation (left right : CharSet)

/-- A regular expression. -/
inductive Expr where
  | empty
  /-- Flags for what follows in the group. -/
  | flags (change : FlagChange)
  | atom (a : Atom)
  | set (negated : Bool) (s : CharSet)
  | repetition (e : Expr)
  | group (change : FlagChange) (e : Expr)
  | sequence (es : List Expr)
  | choice (es : List Expr)

/-- The union of parts, the last of which comes first. -/
def CharSet.ofParts : List CharSet → CharSet
  | [] => nothing
  | [s] => s
  | parts => union parts.reverse

/-- The sequence of expressions, the last of which comes first. -/
def Expr.ofItems : List Expr → Expr
  | [] => empty
  | [e] => e
  | items => sequence items.reverse

/-- The choice between expressions, the last of which comes first. -/
def Expr.ofBranches : List Expr → Expr
  | [] => empty
  | [e] => e
  | branches => choice branches.reverse

/-! ### Trees from tokens -/

/-- A set that is not closed yet: the left side of the operator in front of the parts, and the
parts, the last one first. -/
structure OpenSet where
  negated : Bool
  left : Option CharSet := none
  parts : List CharSet := []

namespace OpenSet

def add (o : OpenSet) (s : CharSet) : OpenSet := { o with parts := s :: o.parts }

/-- All that has been read of the set.  Operators group to the left. -/
def contents (o : OpenSet) : CharSet :=
  match o.left with
  | none => .ofParts o.parts
  | some left => .operation left (.ofParts o.parts)

def operator (o : OpenSet) : OpenSet := { o with left := some o.contents, parts := [] }

end OpenSet

/-- A group that is not closed yet: its branches and the items of the last one, the last ones
first. -/
structure OpenGroup where
  change : FlagChange := {}
  branches : List Expr := []
  items : List Expr := []

namespace OpenGroup

def add (g : OpenGroup) (e : Expr) : OpenGroup := { g with items := e :: g.items }

def bar (g : OpenGroup) : OpenGroup :=
  { g with branches := .ofItems g.items :: g.branches, items := [] }

def contents (g : OpenGroup) : Expr := .ofBranches (.ofItems g.items :: g.branches)

/-- Repeat the last item. -/
def repeat? (g : OpenGroup) : Option OpenGroup :=
  match g.items with
  | [] | .flags _ :: _ => none
  | e :: items => some { g with items := .repetition e :: items }

end OpenGroup

/-- What has been read of an expression: open sets and groups from the inside out. -/
structure Building where
  sets : List OpenSet := []
  group : OpenGroup := {}
  outer : List OpenGroup := []

namespace Building

def step (b : Building) (token : Token) : Option Building :=
  match token, b.sets with
  | .openSet negated, sets => some { b with sets := { negated } :: sets }
  | .member m, o :: sets => some { b with sets := o.add (.member m) :: sets }
  | .operator, o :: sets => some { b with sets := o.operator :: sets }
  | .closeSet, [o] =>
    some { b with sets := [], group := b.group.add (.set o.negated o.contents) }
  | .closeSet, o :: around :: sets =>
    some { b with sets := around.add (.bracket o.negated o.contents) :: sets }
  | .atom a, [] => some { b with group := b.group.add (.atom a) }
  | .flags change, [] => some { b with group := b.group.add (.flags change) }
  | .bar, [] => some { b with group := b.group.bar }
  | .repetition, [] => b.group.repeat?.map fun group => { b with group }
  | .openGroup change _, [] => some { b with group := { change }, outer := b.group :: b.outer }
  | .closeGroup, [] =>
    match b.outer with
    | around :: outer =>
      some { b with group := around.add (.group b.group.change b.group.contents), outer }
    | [] => none
  | _, _ => none

/-- The expression, if nothing is open. -/
def finish? (b : Building) : Option Expr :=
  match b.sets, b.outer with
  | [], [] => some b.group.contents
  | _, _ => none

end Building

def Expr.ofTokens? (tokens : List Token) : Option Expr :=
  (tokens.foldlM Building.step {}).bind Building.finish?

/-! ### Depth -/

mutual

/-- How deep unions, brackets and operations lie in each other. -/
def CharSet.depth : CharSet → Nat
  | .nothing | .member _ => 0
  | .union parts => depthAll parts + 1
  | .bracket _ s => s.depth + 1
  | .operation left right => max left.depth right.depth + 1

def CharSet.depthAll : List CharSet → Nat
  | [] => 0
  | s :: rest => max s.depth (depthAll rest)

end

mutual

/-- How deep all but the leaves lie in each other. -/
def Expr.depth : Expr → Nat
  | .empty | .flags _ | .atom _ => 0
  | .set _ s => s.depth + 1
  | .repetition e => e.depth + 1
  | .group _ e => e.depth + 1
  | .sequence es => depthAll es + 1
  | .choice es => depthAll es + 1

def Expr.depthAll : List Expr → Nat
  | [] => 0
  | e :: rest => max e.depth (depthAll rest)

end

/-! ### Matching -/

/-- The flags that an expression is read under. -/
structure Flags where
  /-- Characters match in either case. -/
  folding : Bool := false
  /-- Characters are meant, and not bytes. -/
  unicode : Bool := true
  deriving DecidableEq, Repr

/-- The flags after a change. -/
def Flags.apply (f : Flags) (change : FlagChange) : Flags :=
  { folding := change.folding.getD f.folding, unicode := change.unicode.getD f.unicode }

/-- Whether an atom can be matched.  Beyond ASCII, a byte is no whole character. -/
def Atom.matchable (f : Flags) : Atom → Bool
  | literal c asByte => if f.unicode then !f.folding else c.toNat < 0x80 || !asByte
  | any => f.unicode
  | edge => true
  | wordEdge => !f.unicode
  | shorthand negated => !f.unicode && !negated

/-- Whether a member of a set can be matched.  A set of bytes has no characters beyond ASCII. -/
def Member.matchable (f : Flags) : Member → Bool
  | range _ last => if f.unicode then !f.folding else last.toNat < 0x80
  | named negated => if f.unicode then !f.folding else !negated
  | shorthand negated => !f.unicode && !negated

mutual

/-- Whether a set can be matched.  A negated set of bytes would have some beyond ASCII. -/
def CharSet.matchable (f : Flags) : CharSet → Bool
  | .nothing => true
  | .member m => m.matchable f
  | .union parts => allMatchable f parts
  | .bracket negated s => (f.unicode || !negated) && s.matchable f
  | .operation left right => left.matchable f && right.matchable f

def CharSet.allMatchable (f : Flags) : List CharSet → Bool
  | [] => true
  | s :: rest => s.matchable f && allMatchable f rest

end

mutual

/-- The flags behind an expression, if it can be matched under the flags in front of it. -/
def Expr.run? (f : Flags) : Expr → Option Flags
  | .empty => some f
  | .flags change => some (f.apply change)
  | .atom a => if a.matchable f then some f else none
  | .set negated s => if (f.unicode || !negated) && s.matchable f then some f else none
  | .repetition e => e.run? f
  | .group change e => (e.run? (f.apply change)).map fun _ => f
  | .sequence es => runAll? f es
  | .choice es => runAll? f es

/-- The flags behind several expressions, each read under the flags behind the one in front of
it. -/
def Expr.runAll? (f : Flags) : List Expr → Option Flags
  | [] => some f
  | e :: rest =>
    match e.run? f with
    | some f => runAll? f rest
    | none => none

end

end Pattern

end LateBinding
