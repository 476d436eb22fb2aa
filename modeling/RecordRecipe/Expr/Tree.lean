/-!
# Expressions and templates as trees

A `Term` gives a value and a `Statement` writes text or changes variables. Chains of filters and
calls are resolved into nested terms; a chain of comparisons is one term.
-/

namespace RecordRecipe.Expr

/-- A value that is written out. -/
inductive Literal where
  | null
  | bool (flag : Bool)
  | int (n : Nat)
  | float (x : Float)
  | text (content : String)

/-- The operators with two operands that are always both evaluated. -/
inductive Operator where
  | add | subtract | multiply | divide | floorDivide | remainder | power | join
deriving DecidableEq, Repr

/-- The questions that are asked about two values. -/
inductive Comparison where
  | equal | unequal | less | lessEqual | greater | greaterEqual
  | within | notWithin
deriving DecidableEq, Repr

/-- How an argument is passed: by position, by name, or many at once from a list or a map. -/
inductive Passing where
  | position
  | name (name : String)
  | spread
  | spreadNamed
deriving DecidableEq, Repr

/-- A term. -/
inductive Term where
  | literal (value : Literal)
  | name (name : String)
  | list (items : List Term)
  | map (entries : List (Term × Term))
  | field (base : Term) (name : String)
  | item (base subscript : Term)
  | slice (base : Term) (start stop step : Option Term)
  | call (callee : Term) (arguments : List (Passing × Term))
  | not (operand : Term)
  | negate (operand : Term)
  | both (left right : Term)
  | either (left right : Term)
  | operation (operator : Operator) (left right : Term)
  /-- A chain of comparisons holds if each of them holds between neighbours. -/
  | compare (first : Term) (links : List (Comparison × Term))
  | conditional (test holds : Term) (otherwise : Option Term)
  | filter (name : String) (operand : Term) (arguments : List (Passing × Term))
  | test (name : String) (operand : Term) (arguments : List (Passing × Term))

/-- What an assignment sets: a variable, several at once, or an attribute. -/
inductive Target where
  | name (name : String)
  | tuple (targets : List Target)
  | field (base : Term) (name : String)

/-- A filter to apply, with its further arguments. -/
structure FilterStep where
  name : String
  arguments : List (Passing × Term)

/-- A parameter of a macro and its default. -/
structure Parameter where
  name : String
  default : Option Term

/-- A piece of a template. -/
inductive Statement where
  | text (content : String)
  | value (term : Term)
  | branch (test : Term) (holds otherwise : List Statement)
  | loop (target : Target) (items : Term) (condition : Option Term) (recursive : Bool)
      (body otherwise : List Statement)
  | set (target : Target) (value : Term)
  | setBlock (target : Target) (filters : List FilterStep) (body : List Statement)
  | bind (bindings : List (Target × Term)) (body : List Statement)
  | filtered (filters : List FilterStep) (body : List Statement)
  | define (name : String) (parameters : List Parameter) (body : List Statement)
  /-- A call that passes a body along, as a macro of its own. -/
  | call (callee : Term) (arguments : List (Passing × Term)) (parameters : List Parameter)
      (body : List Statement)
  /-- A body with a name, under which it can be written again. -/
  | block (name : String) (body : List Statement)
  | insert (source : Term)
  /-- What an included text sets, as one map or by names, each with the variable that takes it. -/
  | fetch (source : Term) (target : Target)
  | fetchNames (source : Term) (names : List (String × String))
  | perform (action : Term)

end RecordRecipe.Expr
