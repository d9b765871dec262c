import TransactSql.Relation.Traverse

/-!
# Rules for operations without a handler

Some operations are written in terms of others: `between` as two comparisons, `not_null` as the
negation of `is_null`, and `if_null` as `coalesce`. A rule replaces a node by an expression, and
a rule set has at most one rule per operation.

A pass goes from the root down: a node that has a rule is replaced, and then the operands and the
filter of what replaced it are visited. The replacement itself is not looked at again. How many
rules can fire inside one another is bounded by a budget, and `RuleSet.normalize` takes one that
is large enough for rules which do not bring back their own operation.
-/

namespace TransactSql

/-- What a node is replaced by. -/
abbrev Rule := Node → Scalar

/-- At most one rule for each operation. -/
structure RuleSet where
  rule? : Operation → Option Rule

namespace Rule

/-- `x between lo and hi` as `x >= lo and x <= hi`. -/
def between : Rule := fun node =>
  match node.args with
  | [x, lo, hi] => (x.atLeast lo).and (x.atMost hi)
  | args => .apply .between args

/-- `x is not null` as `not (x is null)`. -/
def notNull : Rule := fun node =>
  (Scalar.apply .isNull node.args).not

/-- `x`, or a fallback where it is null, as the first of both that is not null. -/
def ifNull : Rule := fun node =>
  .apply .coalesce node.args

end Rule

/-- Whether a rule can take a node apart. A node with the wrong number of operands stays as it
is, so that lowering reports it. -/
def Node.wellFormed (node : Node) : Bool :=
  match node.kind with
  | .between => node.args.length == 3
  | .notNull => node.args.length == 1
  | .ifNull => node.args.length == 2
  | _ => true

namespace RuleSet

/-- The rules that every compilation applies. -/
def base : RuleSet where
  rule?
    | .between => some .between
    | .notNull => some .notNull
    | .ifNull => some .ifNull
    | _ => none

/-- The set with a rule for an operation, over the one that it had. -/
def insert (rules : RuleSet) (op : Operation) (rule : Rule) : RuleSet :=
  ⟨fun o => if o = op then some rule else rules.rule? o⟩

/-- The set with further rules; a later one replaces an earlier one for the same operation. -/
def extend (rules : RuleSet) (extra : List (Operation × Rule)) : RuleSet :=
  extra.foldl (fun rules entry => rules.insert entry.1 entry.2) rules

/-- Whether an operation has a rule. -/
def covers (rules : RuleSet) (op : Operation) : Bool :=
  (rules.rule? op).isSome

/-- The operations that have a rule, in the order of listings. -/
def kinds (rules : RuleSet) : List Operation :=
  Operation.all.filter rules.covers

/-- What replaces a node, if its rule can take it apart. -/
def replacement? (rules : RuleSet) (node : Node) : Option Scalar :=
  if node.wellFormed then (rules.rule? node.kind).map (· node) else none

end RuleSet

/-- Changes the operands and the filter of a node, and leaves a leaf as it is. -/
def Scalar.mapChildren (f : Scalar → Scalar) : Scalar → Scalar
  | .op kind args type filter => .op kind (args.map f) type (filter.map f)
  | leaf => leaf

namespace RuleSet

mutual

/-- One pass, in which `next` visits what lies below a replacement. -/
def visit (rules : RuleSet) (next : Scalar → Scalar) : Scalar → Scalar
  | .op kind args type filter =>
    match rules.replacement? ⟨kind, args, type, filter⟩ with
    | some e => e.mapChildren next
    | none => .op kind (visitArgs rules next args) type (visitFilter rules next filter)
  | leaf => leaf

/-- `visit` for operands. -/
def visitArgs (rules : RuleSet) (next : Scalar → Scalar) : List Scalar → List Scalar
  | [] => []
  | arg :: rest => visit rules next arg :: visitArgs rules next rest

/-- `visit` for a filter. -/
def visitFilter (rules : RuleSet) (next : Scalar → Scalar) : Option Scalar → Option Scalar
  | none => none
  | some filter => some (visit rules next filter)

end

/-- A pass in which at most `budget` rules fire inside one another. -/
def pass (rules : RuleSet) : (budget : Nat) → Scalar → Scalar
  | 0, e => e
  | budget + 1, e => visit rules (pass rules budget) e

/-- The budget for an expression: on each level of it every rule may fire once. -/
def budget (rules : RuleSet) (e : Scalar) : Nat :=
  (rules.kinds.length + 1) * e.depth

/-- Applies the rules to an expression. -/
def normalize (rules : RuleSet) (e : Scalar) : Scalar :=
  pass rules (rules.budget e) e

/-- Applies the rules to every expression of a relation. -/
def normalizeRelation (rules : RuleSet) (r : Relation) : Relation :=
  r.mapExpressions rules.normalize

end RuleSet

end TransactSql
