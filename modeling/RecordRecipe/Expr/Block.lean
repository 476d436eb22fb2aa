import RecordRecipe.Assoc
import RecordRecipe.Expr.Tree

/-!
# The blocks of a template

A block is a body with a name. It is written where it stands and wherever else the template calls
for it, so all blocks of a template are known before any of it runs, those inside other statements
too.
-/

namespace RecordRecipe.Expr

mutual

/-- The blocks of a statement, with those inside its bodies. Macros have none. -/
def Statement.blocks : Statement → Assoc (List Statement)
  | .block name body => (name, body) :: Statement.listBlocks body
  | .branch _ holds otherwise => Statement.listBlocks holds ++ Statement.listBlocks otherwise
  | .loop _ _ _ _ body otherwise => Statement.listBlocks body ++ Statement.listBlocks otherwise
  | .setBlock _ _ body => Statement.listBlocks body
  | .bind _ body => Statement.listBlocks body
  | .filtered _ body => Statement.listBlocks body
  | _ => []

/-- The blocks of some statements. -/
def Statement.listBlocks : List Statement → Assoc (List Statement)
  | [] => []
  | first :: rest => first.blocks ++ Statement.listBlocks rest

end

end RecordRecipe.Expr
