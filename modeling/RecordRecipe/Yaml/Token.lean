import RecordRecipe.Yaml.Cursor

/-!
# The tokens of YAML

A text is read into a list of tokens, each with the line where it begins. Reading may stop at a
fault; the tokens in front of it stand, because a document that ends before the fault is sound.
-/

namespace RecordRecipe.Yaml

/-- A token. The tokens that open and close block collections come from the indentation. -/
inductive Token where
  | streamStart
  | streamEnd
  | versionDirective
  | tagDirective (handle : String)
  | documentStart
  | documentEnd
  | blockSequenceStart
  | blockMappingStart
  | blockEnd
  | blockEntry
  | flowSequenceStart
  | flowSequenceEnd
  | flowMappingStart
  | flowMappingEnd
  | flowEntry
  | key
  | value
  | alias (name : String)
  | anchor (name : String)
  | tag (handle : String)
  | scalar (plain : Bool) (content : String)
deriving DecidableEq, Repr

/-- A thing with the line and column where it begins. -/
structure Marked (α : Type) where
  content : α
  line : Nat
  column : Nat
deriving Repr

/-- A thing at a cursor. -/
def Cursor.mark {α : Type} (cursor : Cursor) (content : α) : Marked α :=
  ⟨content, cursor.line, cursor.column⟩

/-- The tokens of a text, and the fault that ended the reading early. -/
structure TokenStream where
  tokens : List (Marked Token)
  fault : Fault

end RecordRecipe.Yaml
