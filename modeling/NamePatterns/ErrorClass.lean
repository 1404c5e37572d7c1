/-!
# Classes of Errors

Classes that errors belong to, each with all its ancestors in a fixed order.

A class is made from one or more base classes. Its ancestors are merged from
the orders of its bases and from the order in which the bases are given: the
next ancestor is the first one in front of an order that stands further back
in none. So every class comes before its own ancestors. Where no such ancestor
is left, the class cannot be made.

## Main definitions

* `ErrorClass`: A class and its ancestors.
* `ErrorClass.merge`: Several orders as one.
* `ErrorClass.derive`: A class made from its bases.
-/

namespace NamePatterns

/-- A class of errors. -/
structure ErrorClass where
  /-- The name of the class. -/
  name : String
  /-- The names of its ancestors, in order. -/
  ancestors : List String
  deriving DecidableEq, Repr

namespace ErrorClass

/-- The names of a class and its ancestors, in order. -/
def lineage (c : ErrorClass) : List String :=
  c.name :: c.ancestors

/-- What stands in front of orders. -/
def heads (orders : List (List String)) : List String :=
  orders.filterMap List.head?

/-- Whether a name stands further back in no order. -/
def isFree (orders : List (List String)) (name : String) : Bool :=
  orders.all fun order => !order.tail.contains name

/-- Orders without a name in front of them. -/
def dropHead (name : String) (orders : List (List String)) : List (List String) :=
  orders.map fun order => if order.head? = some name then order.tail else order

/-- Several orders as one; the names in front of them, if none of these can
    come next. -/
def merge : (fuel : Nat) → List (List String) → Except (List String) (List String)
  | 0, _ => .ok []
  | fuel + 1, orders =>
    match (heads orders).find? (isFree orders) with
    | some name => (merge fuel (dropHead name orders)).map (name :: ·)
    | none => if (heads orders).isEmpty then .ok [] else .error (heads orders).eraseDups

/-- Why a class cannot be made. -/
inductive DeriveError where
  /-- A base is given twice. -/
  | duplicateBase (name : String)
  /-- The orders contradict each other from these names on. -/
  | inconsistent (names : List String)
  deriving DecidableEq, Repr

/-- The wording of the report. -/
def DeriveError.message : DeriveError → String
  | duplicateBase name => "duplicate base class " ++ name
  | inconsistent names =>
    "Cannot create a consistent method resolution\norder (MRO) for bases "
      ++ ", ".intercalate names

/-- The first name that a list repeats. -/
def repeated? : List String → Option String
  | [] => none
  | name :: names => if names.contains name then some name else repeated? names

/-- A class made from its bases. -/
def derive (name : String) (bases : List ErrorClass) : Except DeriveError ErrorClass :=
  let names := bases.map ErrorClass.name
  match repeated? names with
  | some twice => .error (.duplicateBase twice)
  | none =>
    let orders := bases.map lineage ++ [names]
    match merge (orders.flatten.length + 1) orders with
    | .ok ancestors => .ok ⟨name, ancestors⟩
    | .error names => .error (.inconsistent names)

end ErrorClass

end NamePatterns
