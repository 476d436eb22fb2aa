import RecordRecipe.Expr.Tree

/-!
# The names that a template mentions

A macro takes with it the variables that its body mentions before it sets them, as they are where
it is defined.
-/

namespace RecordRecipe.Expr

mutual

/-- The variables that a term mentions. -/
def Term.names : Term → List String
  | .literal _ => []
  | .name word => [word]
  | .list items => Term.listNames items
  | .map entries => Term.entryNames entries
  | .field base _ => base.names
  | .item base subscript => base.names ++ subscript.names
  | .slice base start stop step =>
      base.names ++ Term.optionNames start ++ Term.optionNames stop ++ Term.optionNames step
  | .call callee arguments => callee.names ++ Term.argumentNames arguments
  | .not operand => operand.names
  | .negate operand => operand.names
  | .both left right => left.names ++ right.names
  | .either left right => left.names ++ right.names
  | .operation _ left right => left.names ++ right.names
  | .compare first links => first.names ++ Term.linkNames links
  | .conditional question holds otherwise =>
      question.names ++ holds.names ++ Term.optionNames otherwise
  | .filter _ operand arguments => operand.names ++ Term.argumentNames arguments
  | .test _ operand arguments => operand.names ++ Term.argumentNames arguments

/-- The variables that some terms mention. -/
def Term.listNames : List Term → List String
  | [] => []
  | first :: rest => first.names ++ Term.listNames rest

/-- The variables that the entries of a map mention. -/
def Term.entryNames : List (Term × Term) → List String
  | [] => []
  | (key, value) :: rest => key.names ++ value.names ++ Term.entryNames rest

/-- The variables that the links of a chain of comparisons mention. -/
def Term.linkNames : List (Comparison × Term) → List String
  | [] => []
  | (_, operand) :: rest => operand.names ++ Term.linkNames rest

/-- The variables that an optional term mentions. -/
def Term.optionNames : Option Term → List String
  | none => []
  | some present => present.names

/-- The variables that arguments mention. -/
def Term.argumentNames : List (Passing × Term) → List String
  | [] => []
  | (_, term) :: rest => term.names ++ Term.argumentNames rest

end

/-- The names among some that are not bound. -/
def unbound (bound names : List String) : List String :=
  names.filter fun name => !bound.contains name

mutual

/-- The variables that a target sets. -/
def Target.names : Target → List String
  | .name word => [word]
  | .tuple targets => Target.listNames targets
  | .field _ _ => []

/-- The variables that some targets set. -/
def Target.listNames : List Target → List String
  | [] => []
  | first :: rest => first.names ++ Target.listNames rest

end

/-- The names of parameters. -/
def Parameter.names (parameters : List Parameter) : List String := parameters.map Parameter.name

/-- The variables that the defaults of parameters mention. -/
def Parameter.defaultNames (parameters : List Parameter) : List String :=
  parameters.flatMap fun parameter => Term.optionNames parameter.default

/-- The unbound variables of the bindings of a block. Each binding counts as bound in its own
value. -/
def unboundInBindings : List String → List (Target × Term) → List String
  | _, [] => []
  | bound, (target, term) :: rest =>
      let bound := target.names ++ bound
      unbound bound term.names ++ unboundInBindings bound rest

mutual

/-- The variables that the statements behind a statement find set by it. Those inside a macro
count, too. -/
def Statement.binds : Statement → List String
  | .set target _ => target.names
  | .setBlock target _ _ => target.names
  | .fetch _ target => target.names
  | .fetchNames _ names => names.map Prod.snd
  | .define word parameters body => word :: Parameter.names parameters ++ Statement.listBinds body
  | .call _ _ parameters body => Parameter.names parameters ++ Statement.listBinds body
  | _ => []

/-- The variables that are set by some statements. -/
def Statement.listBinds : List Statement → List String
  | [] => []
  | first :: rest => first.binds ++ Statement.listBinds rest

end

mutual

/-- The variables that a statement mentions and does not find bound. -/
def Statement.names (bound : List String) : Statement → List String
  | .text _ => []
  | .value shown => unbound bound shown.names
  | .branch question holds otherwise =>
      unbound bound question.names ++ Statement.listNames bound holds ++
        Statement.listNames bound otherwise
  | .loop target items condition _ body otherwise =>
      let inside := "loop" :: bound
      let each := target.names ++ inside
      unbound inside items.names ++ unbound each (Term.optionNames condition) ++
        Statement.listNames each body ++ Statement.listNames bound otherwise
  | .set target assigned => unbound (target.names ++ bound) assigned.names
  | .setBlock target _ body => Statement.listNames (target.names ++ bound) body
  | .bind bindings body =>
      unboundInBindings bound bindings ++
        Statement.listNames (bindings.flatMap (fun binding => binding.1.names) ++ bound) body
  | .filtered _ body => Statement.listNames bound body
  | .define word parameters body =>
      let inside := word :: "caller" :: Parameter.names parameters ++ bound
      unbound inside (Parameter.defaultNames parameters) ++ Statement.listNames inside body
  | .call callee arguments parameters body =>
      let inside := "caller" :: Parameter.names parameters ++ bound
      unbound bound (callee.names ++ Term.argumentNames arguments) ++
        unbound inside (Parameter.defaultNames parameters) ++ Statement.listNames inside body
  | .block _ body => Statement.listNames ("super" :: bound) body
  | .insert _ => []
  | .fetch _ _ => []
  | .fetchNames _ _ => []
  | .perform action => unbound bound action.names

/-- The variables that some statements mention and do not find bound. -/
def Statement.listNames (bound : List String) : List Statement → List String
  | [] => []
  | first :: rest =>
      first.names bound ++ Statement.listNames (first.binds ++ bound) rest

end

/-- The variables that a macro takes from around it. -/
def Statement.macroNames (parameters : List Parameter) (body : List Statement) : List String :=
  let bound := Parameter.names parameters
  unbound bound (Parameter.defaultNames parameters) ++ Statement.listNames bound body

end RecordRecipe.Expr
