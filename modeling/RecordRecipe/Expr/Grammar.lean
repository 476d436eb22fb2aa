import RecordRecipe.Expr.Token
import RecordRecipe.Expr.Tree

/-!
# Reading templates

The grammar of templates. The binary operators stand on levels, all of them grouping to the left;
below them come signs, then attributes, subscripts and calls, then filters and tests, which apply
to everything before them down to the sign. Every step of the reader spends fuel, and there is
enough of it for any list of tokens; what limits the nesting of expressions is `nestingLimit`.
-/

namespace RecordRecipe.Expr

/-- The tokens that are left, and where the reader stands. -/
structure Reading where
  input : Lexed
  /-- How deeply the reader is nested in constructs. -/
  depth : Nat := 0
  /-- Is the reader inside a macro or the body that a call passes along? -/
  inMacro : Bool := false
  /-- The names of the blocks so far. -/
  blocks : List String := []

/-- A reader of tokens. -/
abbrev Parse := StateT Reading (Except Fault)

namespace Parse

/-- Fail for the reason that the text is no template. -/
def fail {α : Type} (detail : String) : Parse α := throw (.malformed detail)

/-- The next token, if there is one. A fault in the text shows when it is reached. -/
def peek : Parse (Option Token) := do
  let reading ← get
  match reading.input.tokens, reading.input.fault with
  | token :: _, _ => return some token
  | [], some fault => throw fault
  | [], none => return none

/-- The next token where it is only asked about. A fault in its place is lost, and with it all the
text behind it. -/
def glance : Parse (Option Token) := do
  let reading ← get
  if reading.input.tokens.isEmpty then set { reading with input := .done }
  return reading.input.tokens.head?

/-- Is the next token, which is only asked about, a given symbol? -/
def glimpses (symbol : Symbol) : Parse Bool := do
  match ← glance with
  | some (.symbol s) => return s = symbol
  | _ => return false

/-- Pass the next token. -/
def skip : Parse Unit :=
  modify fun reading =>
    { reading with input := { reading.input with tokens := reading.input.tokens.tail } }

/-- Take the next token, if there is one. -/
def next : Parse (Option Token) := do
  let token ← peek
  skip
  return token

/-- Is the next token a given symbol? -/
def sees (symbol : Symbol) : Parse Bool := do
  match ← peek with
  | some (.symbol s) => return s = symbol
  | _ => return false

/-- Is the next token a given word? -/
def seesWord (word : String) : Parse Bool := do
  match ← peek with
  | some (.word w) => return w = word
  | _ => return false

/-- Pass a symbol if it is next. -/
def accepts (symbol : Symbol) : Parse Bool := do
  let found ← sees symbol
  if found then skip
  return found

/-- Pass a word if it is next. -/
def acceptsWord (word : String) : Parse Bool := do
  let found ← seesWord word
  if found then skip
  return found

/-- Pass a symbol that has to be next. -/
def expect (symbol : Symbol) (description : String) : Parse Unit := do
  if !(← accepts symbol) then fail ("expected " ++ description)

/-- How deeply constructs may be nested. -/
def nestingLimit : Nat := 150

/-- Read a construct that counts as a level of nesting. -/
def nested {α : Type} (construct : Parse α) : Parse α := do
  let depth := (← get).depth
  if nestingLimit ≤ depth then fail "template exceeds maximum recursion limits"
  modify ({ · with depth := depth + 1 })
  let result ← construct
  modify ({ · with depth := depth })
  return result

/-- Take a name, which has to be next. -/
def name : Parse String := do
  match ← next with
  | some (.word w) => return w
  | _ => fail "expected identifier"

/-- Read the further names behind a name, with the points between them. -/
def dottedRest : Nat → String → Parse String
  | 0, read => return read
  | fuel + 1, read => do
      if ← accepts .dot then
        let more ← name
        dottedRest fuel (read ++ "." ++ more)
      else return read

/-- Is the end of a statement next? -/
def atStatementEnd : Parse Bool := do
  match ← glance with
  | some .statementEnd => return true
  | _ => return false

/-- Pass the end of a statement, which has to be next. -/
def statementEnd : Parse Unit := do
  match ← next with
  | some .statementEnd => return ()
  | _ => fail "expected end of block"

/-- The levels of operators, the loosest first. -/
inductive Level where
  | either
  | both
  | negation
  | comparison
  | sum
  | join
  | product
  | power
deriving DecidableEq, Repr

/-- The operator that a symbol stands for on a level. -/
def Level.operator? : Level → Symbol → Option Operator
  | .sum, .plus => some .add
  | .sum, .minus => some .subtract
  | .join, .tilde => some .join
  | .product, .times => some .multiply
  | .product, .slash => some .divide
  | .product, .floorSlash => some .floorDivide
  | .product, .percent => some .remainder
  | .power, .power => some .power
  | _, _ => none

/-- The comparison that a symbol stands for. -/
def comparison? : Symbol → Option Comparison
  | .equal => some .equal
  | .unequal => some .unequal
  | .less => some .less
  | .lessEqual => some .lessEqual
  | .greater => some .greater
  | .greaterEqual => some .greaterEqual
  | _ => none

/-- Take a comparison if one is next. -/
def takeComparison : Parse (Option Comparison) := do
  match ← peek with
  | some (.word "in") =>
      skip
      return some .within
  | some (.word "not") =>
      skip
      if !(← acceptsWord "in") then fail "expected in"
      return some .notWithin
  | some (.symbol symbol) =>
      let found := comparison? symbol
      if found.isSome then skip
      return found
  | _ => return none

/-- Adjacent texts are one. -/
def adjacentTexts : Nat → String → Parse String
  | 0, text => return text
  | fuel + 1, text => do
      match ← peek with
      | some (.text more _) =>
          skip
          adjacentTexts fuel (text ++ more)
      | _ => return text

/-- May an argument of a test follow without parentheses? -/
def startsTestArgument : Token → Bool
  | .word w => !(["and", "or", "else", "is"].contains w)
  | .text _ _ | .int _ | .float _ => true
  | .symbol s => [Symbol.plus, .minus, .bracketOpen, .braceOpen].contains s
  | _ => false

/-- The most arguments that a call may have. -/
def argumentLimit : Nat := 2000

mutual

/-- Read an expression. -/
def expression : Nat → Parse Term
  | 0 => fail "template exceeds maximum recursion limits"
  | fuel + 1 => nested (conditional fuel)

/-- Read operators, then any number of conditions. -/
def conditional : Nat → Parse Term
  | 0 => fail "template exceeds maximum recursion limits"
  | fuel + 1 => do
      let first ← level fuel .either
      conditions fuel first

/-- Read the conditions behind an expression. -/
def conditions : Nat → Term → Parse Term
  | 0, _ => fail "template exceeds maximum recursion limits"
  | fuel + 1, holds => do
      if ← acceptsWord "if" then
        let test ← level fuel .either
        let otherwise ←
          if ← acceptsWord "else" then do
            let term ← conditional fuel
            pure (some term)
          else pure none
        conditions fuel (.conditional test holds otherwise)
      else return holds

/-- Read an expression of a level. -/
def level : Nat → Level → Parse Term
  | 0, _ => fail "template exceeds maximum recursion limits"
  | fuel + 1, .either => do
      let first ← level fuel .both
      operators fuel .either first
  | fuel + 1, .both => do
      let first ← level fuel .negation
      operators fuel .both first
  | fuel + 1, .negation => do
      if ← acceptsWord "not" then
        let operand ← level fuel .negation
        return .not operand
      else level fuel .comparison
  | fuel + 1, .comparison => do
      let first ← level fuel .sum
      let found ← links fuel
      return if found.isEmpty then first else .compare first found
  | fuel + 1, .sum => do
      let first ← level fuel .join
      operators fuel .sum first
  | fuel + 1, .join => do
      let first ← level fuel .product
      operators fuel .join first
  | fuel + 1, .product => do
      let first ← level fuel .power
      operators fuel .product first
  | fuel + 1, .power => do
      let first ← signed fuel
      operators fuel .power first

/-- Read the comparisons behind an operand, with their right operands. -/
def links : Nat → Parse (List (Comparison × Term))
  | 0 => fail "template exceeds maximum recursion limits"
  | fuel + 1 => do
      match ← takeComparison with
      | none => return []
      | some comparison => do
          let right ← level fuel .sum
          let rest ← links fuel
          return (comparison, right) :: rest

/-- Read the operators of a level behind an operand, with their right operands. -/
def operators : Nat → Level → Term → Parse Term
  | 0, _, _ => fail "template exceeds maximum recursion limits"
  | fuel + 1, at_, left => do
      match ← peek, at_ with
      | some (.word "or"), .either => do
          skip
          let right ← level fuel .both
          operators fuel at_ (.either left right)
      | some (.word "and"), .both => do
          skip
          let right ← level fuel .negation
          operators fuel at_ (.both left right)
      | some (.symbol symbol), at_ =>
          match at_.operator? symbol with
          | none => return left
          | some operator => do
              skip
              let right ← match at_ with
                | .sum => level fuel .join
                | .join => level fuel .product
                | .product => level fuel .power
                | _ => signed fuel
              operators fuel at_ (.operation operator left right)
      | _, _ => return left

/-- Read a signed operand with what is attached to it. -/
def signed : Nat → Parse Term
  | 0 => fail "template exceeds maximum recursion limits"
  | fuel + 1 => do
      let operand ← attached fuel
      filters fuel operand

/-- Read a signed operand with its attributes, subscripts and calls. -/
def attached : Nat → Parse Term
  | 0 => fail "template exceeds maximum recursion limits"
  | fuel + 1 => do
      let operand ← sign fuel
      attachments fuel operand

/-- Read the signs in front of an operand. -/
def sign : Nat → Parse Term
  | 0 => fail "template exceeds maximum recursion limits"
  | fuel + 1 => do
      if ← accepts .minus then
        let operand ← sign fuel
        return .negate operand
      else nested (primary fuel)

/-- Read the attributes, subscripts and calls behind a term. -/
def attachments : Nat → Term → Parse Term
  | 0, _ => fail "template exceeds maximum recursion limits"
  | fuel + 1, base => do
      match ← peek with
      | some (.symbol .dot) => do
          skip
          match ← next with
          | some (.word fieldName) => attachments fuel (.field base fieldName)
          | some (.int n) => attachments fuel (.item base (.literal (.int n)))
          | _ => fail "expected identifier"
      | some (.symbol .bracketOpen) => do
          skip
          let term ← subscript fuel base
          attachments fuel term
      | some (.symbol .parenOpen) => do
          let arguments ← arguments fuel
          attachments fuel (.call base arguments)
      | _ => return base

/-- Read a subscript or a slice behind its bracket. -/
def subscript : Nat → Term → Parse Term
  | 0, _ => fail "template exceeds maximum recursion limits"
  | fuel + 1, base => do
      let start ←
        if ← glimpses .colon then pure none
        else do
          let term ← expression fuel
          pure (some term)
      if ← accepts .colon then
        let stop ←
          if (← glimpses .bracketClose) || (← glimpses .colon) then pure none
          else do
            let term ← expression fuel
            pure (some term)
        let step ←
          if ← accepts .colon then
            if ← glimpses .bracketClose then pure none
            else do
              let term ← expression fuel
              pure (some term)
          else pure none
        expect .bracketClose "]"
        return .slice base start stop step
      else
        expect .bracketClose "]"
        match start with
        | some index => return .item base index
        | none => fail "empty subscript"

/-- Read the filters and tests behind a term. -/
def filters : Nat → Term → Parse Term
  | 0, _ => fail "template exceeds maximum recursion limits"
  | fuel + 1, operand => do
      if ← accepts .pipe then
        let filter ← dottedRest fuel (← name)
        let arguments ← if ← glimpses .parenOpen then arguments fuel else pure []
        filters fuel (.filter filter operand arguments)
      else if ← acceptsWord "is" then
        let negated ← acceptsWord "not"
        let test ← dottedRest fuel (← name)
        let arguments ← do
          match ← glance with
          | some (.symbol .parenOpen) => arguments fuel
          | some token =>
              if startsTestArgument token then
                let argument ← attached fuel
                pure [(Passing.position, argument)]
              else pure []
          | none => pure []
        let result := Term.test test operand arguments
        filters fuel (if negated then .not result else result)
      else return operand

/-- Read the arguments of a call with their parentheses. -/
def arguments : Nat → Parse (List (Passing × Term))
  | 0 => fail "template exceeds maximum recursion limits"
  | fuel + 1 => do
      expect .parenOpen "("
      moreArguments fuel 0 false

/-- Read the arguments that are left, up to the closing parenthesis; a number of them has been read
before, and the flag tells whether some by name. -/
def moreArguments : Nat → Nat → Bool → Parse (List (Passing × Term))
  | 0, _, _ => fail "template exceeds maximum recursion limits"
  | fuel + 1, count, named => do
      if ← accepts .parenClose then return []
      if 0 < count then
        expect .comma ","
        if ← accepts .parenClose then return []
      if ← accepts .power then
        let term ← expression fuel
        furtherArguments fuel (.spreadNamed, term) count true
      else if ← accepts .times then
        let term ← expression fuel
        furtherArguments fuel (.spread, term) count named
      else
        let term ← expression fuel
        match term, ← sees .assign with
        | .name parameter, true => do
            skip
            let value ← expression fuel
            furtherArguments fuel (.name parameter, value) count true
        | _, _ =>
            if named then fail "non-keyword arg after keyword arg"
            furtherArguments fuel (.position, term) count named

/-- Read the arguments behind one of them. -/
def furtherArguments : Nat → Passing × Term → Nat → Bool → Parse (List (Passing × Term))
  | 0, _, _, _ => fail "template exceeds maximum recursion limits"
  | fuel + 1, argument, count, named => do
      if argumentLimit ≤ count then fail "Too many arguments in function call"
      let rest ← moreArguments fuel (count + 1) named
      return argument :: rest

/-- Read a literal, a name, or something in brackets. -/
def primary : Nat → Parse Term
  | 0 => fail "template exceeds maximum recursion limits"
  | fuel + 1 => do
      match ← next with
      | none => fail "unexpected end of input, expected expression"
      | some (.word w) =>
          if w = "true" || w = "True" then return .literal (.bool true)
          else if w = "false" || w = "False" then return .literal (.bool false)
          else if w = "none" || w = "None" then return .literal .null
          else return .name w
      | some (.text text escaped) => do
          let alone ← if escaped then pure false else do
            match ← glance with
            | some (.text _ _) => pure false
            | _ => pure true
          if alone then return .literal (.text text)
          let text ← adjacentTexts fuel text
          return .literal (.text text)
      | some (.int n) => return .literal (.int n)
      | some (.float x) => return .literal (.float x)
      | some (.symbol .parenOpen) => tuple fuel
      | some (.symbol .bracketOpen) => do
          let items ← listItems fuel true
          return .list items
      | some (.symbol .braceOpen) => do
          let entries ← mapEntries fuel true
          return .map entries
      | some _ => fail "unexpected token, expected expression"

/-- Read what stands between parentheses: one expression, or a list of them. -/
def tuple : Nat → Parse Term
  | 0 => fail "template exceeds maximum recursion limits"
  | fuel + 1 => do
      if ← accepts .parenClose then return .list []
      let first ← expression fuel
      if ← sees .comma then
        let rest ← tupleItems fuel
        return .list (first :: rest)
      else
        expect .parenClose ")"
        return first

/-- Read the further items of a tuple, each behind a comma. -/
def tupleItems : Nat → Parse (List Term)
  | 0 => fail "template exceeds maximum recursion limits"
  | fuel + 1 => do
      if ← accepts .parenClose then return []
      expect .comma ","
      if ← accepts .parenClose then return []
      let item ← expression fuel
      let rest ← tupleItems fuel
      return item :: rest

/-- Read the items of a list that are left, up to the closing bracket. -/
def listItems : Nat → Bool → Parse (List Term)
  | 0, _ => fail "template exceeds maximum recursion limits"
  | fuel + 1, first => do
      if ← accepts .bracketClose then return []
      if !first then
        expect .comma ","
        if ← accepts .bracketClose then return []
      let item ← expression fuel
      let rest ← listItems fuel false
      return item :: rest

/-- Read the entries of a map that are left, up to the closing brace. -/
def mapEntries : Nat → Bool → Parse (List (Term × Term))
  | 0, _ => fail "template exceeds maximum recursion limits"
  | fuel + 1, first => do
      if ← accepts .braceClose then return []
      if !first then
        expect .comma ","
        if ← accepts .braceClose then return []
      let key ← expression fuel
      expect .colon ":"
      let value ← expression fuel
      let rest ← mapEntries fuel false
      return (key, value) :: rest

end

/-- The names that nothing can be assigned to. -/
def reservedNames : List String :=
  ["true", "True", "false", "False", "none", "None", "loop", "self"]

/-- Read the name of a variable to be assigned. -/
def assignedName : Parse String := do
  let word ← name
  if reservedNames.contains word then
    fail ("cannot assign to reserved variable name " ++ word)
  return word

/-- Does the next token end a list of targets? An assignment does so behind a comma. -/
def atTargetsEnd (first : Bool) : Parse Bool := do
  match ← glance with
  | some (.symbol .parenClose) | some .valueEnd | some .statementEnd | some (.word "in") =>
      return true
  | some (.symbol .assign) => return !first
  | _ => return false

mutual

/-- Read one target or several with commas between them. -/
def targets : Nat → Parse Target
  | 0 => fail "template exceeds maximum recursion limits"
  | fuel + 1 => do
      let (found, isTuple) ← targetItems fuel true
      match found, isTuple with
      | [target], false => return target
      | many, _ => return .tuple many

/-- Read the targets that are left; the flag tells whether there was a comma. -/
def targetItems : Nat → Bool → Parse (List Target × Bool)
  | 0, _ => fail "template exceeds maximum recursion limits"
  | fuel + 1, first => do
      if !first then expect .comma ","
      if ← atTargetsEnd first then return ([], false)
      let target ←
        if ← accepts .parenOpen then do
          let inner ← targets fuel
          expect .parenClose ")"
          pure inner
        else do
          let word ← assignedName
          pure (Target.name word)
      if ← glimpses .comma then
        let (rest, _) ← targetItems fuel false
        return (target :: rest, true)
      else return ([target], false)

end

/-- Read the attributes behind the name of an assigned variable. -/
def dottedTarget : Nat → Target → Parse Target
  | 0, _ => fail "template exceeds maximum recursion limits"
  | fuel + 1, target => do
      if ← accepts .dot then
        let fieldName ← name
        let base := match target with
          | .field base name => Term.field base name
          | .name name => Term.name name
          | .tuple _ => Term.list []
        dottedTarget fuel (.field base fieldName)
      else return target

/-- Read what an assignment sets: one target, or several with commas between them. -/
def setTarget : Nat → Parse Target
  | 0 => fail "template exceeds maximum recursion limits"
  | fuel + 1 => do
      if ← atTargetsEnd true then return .tuple []
      let first ←
        if ← accepts .parenOpen then do
          let inner ← targets fuel
          expect .parenClose ")"
          pure inner
        else do
          let word ← assignedName
          dottedTarget fuel (.name word)
      if ← glimpses .comma then
        let (rest, _) ← targetItems fuel false
        return .tuple (first :: rest)
      else return first

/-- Read the further values of an assignment, each behind a comma. -/
def setValues : Nat → Parse (List Term)
  | 0 => fail "template exceeds maximum recursion limits"
  | fuel + 1 => do
      if !(← accepts .comma) || (← atStatementEnd) then return []
      let value ← expression fuel
      let rest ← setValues fuel
      return value :: rest

/-- Read the value of an assignment; several with commas between them are a list. -/
def setValue (fuel : Nat) : Parse Term := do
  let first ← expression fuel
  if ← sees .comma then
    let rest ← setValues fuel
    return .list (first :: rest)
  else return first

/-- Pass the words that say whether an included text sees the variables around it. It always
does. -/
def contextClause : Parse Unit := do
  let stated ← if ← acceptsWord "with" then pure true else acceptsWord "without"
  if stated then
    if !(← acceptsWord "context") then fail "expected missing keyword"

/-- Read a chain of filters up to the end of the statement. -/
def filterChain : Nat → Bool → Parse (List FilterStep)
  | 0, _ => fail "template exceeds maximum recursion limits"
  | fuel + 1, first => do
      if ← atStatementEnd then
        if first then fail "expected a filter" else return []
      if !first then expect .pipe "|"
      let filter ← dottedRest fuel (← name)
      let arguments ← if ← glimpses .parenOpen then arguments fuel else pure []
      let rest ← filterChain fuel false
      return ⟨filter, arguments⟩ :: rest

/-- Read the parameters of a macro that are left, up to the closing parenthesis. Once one has a
default, so have the others. -/
def parameters : Nat → Bool → Bool → Parse (List Parameter)
  | 0, _, _ => fail "template exceeds maximum recursion limits"
  | fuel + 1, first, defaults => do
      if ← accepts .parenClose then return []
      if !first then
        expect .comma ","
        if ← accepts .parenClose then return []
      let parameter ← assignedName
      if ← accepts .assign then
        let default ← expression fuel
        let rest ← parameters fuel false true
        return ⟨parameter, some default⟩ :: rest
      else
        if defaults then fail "expected \x60=\x60"
        let rest ← parameters fuel false false
        return ⟨parameter, none⟩ :: rest

/-- Read the names of variables to be fetched, with the variables that take them. -/
def fetchedNames : Nat → Bool → Parse (List (String × String))
  | 0, _ => fail "template exceeds maximum recursion limits"
  | fuel + 1, first => do
      if ← atStatementEnd then return []
      if !first then
        expect .comma ","
        if ← atStatementEnd then return []
      let word ← assignedName
      let taker ← if ← acceptsWord "as" then assignedName else pure word
      let rest ← fetchedNames fuel false
      return (word, taker) :: rest

/-- Read a construct inside a macro. -/
def insideMacro {α : Type} (construct : Parse α) : Parse α := do
  let before := (← get).inMacro
  modify ({ · with inMacro := true })
  let result ← construct
  modify ({ · with inMacro := before })
  return result

/-- Read the name of a block, which no other block has. Macros have no blocks. -/
def blockName : Parse String := do
  if (← get).inMacro then fail "block tags in macros are not allowed"
  let word ← name
  if (← get).blocks.contains word then fail ("block '" ++ word ++ "' defined twice")
  modify fun reading => { reading with blocks := word :: reading.blocks }
  return word

/-- Read the bindings of a block. -/
def bindings : Nat → Bool → Parse (List (Target × Term))
  | 0, _ => fail "template exceeds maximum recursion limits"
  | fuel + 1, first => do
      if ← atStatementEnd then return []
      if !first then expect .comma "comma"
      let target ←
        if ← accepts .parenOpen then do
          let inner ← targets fuel
          expect .parenClose ")"
          pure inner
        else do
          let word ← assignedName
          pure (Target.name word)
      expect .assign "assignment operator"
      let value ← expression fuel
      let rest ← bindings fuel false
      return (target, value) :: rest

mutual

/-- Read statements up to one that begins with a closing word, or to the end. The opening of that
statement has been passed. -/
def body : Nat → List String → Parse (List Statement)
  | 0, _ => fail "template exceeds maximum recursion limits"
  | fuel + 1, closing => do
      match ← next with
      | none => return []
      | some (.data content) => do
          let rest ← body fuel closing
          return .text content :: rest
      | some .valueStart => do
          let term ← expression fuel
          match ← next with
          | some .valueEnd => pure ()
          | _ => fail "expected end of variable block"
          let rest ← body fuel closing
          return .value term :: rest
      | some .statementStart => do
          match ← peek with
          | none => fail "unexpected end of input, expected keyword"
          | some (.word w) =>
              if closing.contains w then return []
              skip
              let first ← nested (statement fuel w)
              statementEnd
              let rest ← body fuel closing
              return first :: rest
          | some _ => fail "unknown token, expected statement"
      | some _ => fail "unexpected token"

/-- Read the statement that begins with a word. -/
def statement : Nat → String → Parse Statement
  | 0, _ => fail "template exceeds maximum recursion limits"
  | fuel + 1, "if" => branch fuel
  | fuel + 1, "for" => do
      let target ← targets fuel
      if !(← acceptsWord "in") then fail "expected in"
      let items ← level fuel .either
      let condition ←
        if ← acceptsWord "if" then do
          let term ← expression fuel
          pure (some term)
        else pure none
      let recursive ← acceptsWord "recursive"
      statementEnd
      let inner ← body fuel ["endfor", "else"]
      let otherwise ←
        if ← acceptsWord "else" then do
          statementEnd
          body fuel ["endfor"]
        else pure []
      skip
      return .loop target items condition recursive inner otherwise
  | fuel + 1, "set" => do
      let inParens ← sees .parenOpen
      let target ← setTarget fuel
      if !inParens && ((← atStatementEnd) || (← glimpses .pipe)) then
        let filters ← if ← accepts .pipe then filterChain fuel true else pure []
        statementEnd
        let inner ← body fuel ["endset"]
        skip
        return .setBlock target filters inner
      else
        expect .assign "assignment operator"
        let value ← setValue fuel
        return .set target value
  | fuel + 1, "with" => do
      let found ← bindings fuel true
      statementEnd
      let inner ← body fuel ["endwith"]
      skip
      return .bind found inner
  | fuel + 1, "filter" => do
      let filters ← filterChain fuel true
      statementEnd
      let inner ← body fuel ["endfilter"]
      skip
      return .filtered filters inner
  | fuel + 1, "macro" => do
      let defined ← name
      expect .parenOpen "("
      let found ← parameters fuel true false
      statementEnd
      let inner ← insideMacro (body fuel ["endmacro"])
      skip
      return .define defined found inner
  | fuel + 1, "call" => do
      let found ← if ← accepts .parenOpen then parameters fuel true false else pure []
      match ← expression fuel with
      | .call callee arguments => do
          statementEnd
          let inner ← insideMacro (body fuel ["endcall"])
          skip
          return .call callee arguments found inner
      | _ => fail "expected call expression in call block"
  | fuel + 1, "block" => do
      let word ← blockName
      statementEnd
      let inner ← body fuel ["endblock"]
      skip
      match ← peek with
      | some (.word trailing) => do
          if trailing ≠ word then fail ("mismatching name on block. Got \x60" ++ trailing ++ "\x60")
          skip
      | _ => pure ()
      return .block word inner
  | fuel + 1, "import" => do
      let source ← expression fuel
      if !(← acceptsWord "as") then fail "expected as"
      let word ← assignedName
      return .fetch source (.name word)
  | fuel + 1, "from" => do
      let source ← expression fuel
      if !(← acceptsWord "import") then fail "expected import"
      let names ← fetchedNames fuel true
      return .fetchNames source names
  | fuel + 1, "include" => do
      let source ← expression fuel
      contextClause
      if ← acceptsWord "ignore" then
        if !(← acceptsWord "missing") then fail "expected missing keyword"
        contextClause
      return .insert source
  | fuel + 1, "do" => do
      match ← expression fuel with
      | .call callee arguments => return .perform (.call callee arguments)
      | _ => fail "expected call expression in do block"
  | _ + 1, word => fail ("unknown statement " ++ word)

/-- Read a condition with its branches. -/
def branch : Nat → Parse Statement
  | 0 => fail "template exceeds maximum recursion limits"
  | fuel + 1 => do
      let test ← level fuel .either
      statementEnd
      let holds ← body fuel ["endif", "else", "elif"]
      match ← next with
      | some (.word "else") => do
          statementEnd
          let otherwise ← body fuel ["endif"]
          skip
          return .branch test holds otherwise
      | some (.word "elif") => do
          let inner ← branch fuel
          return .branch test holds [inner]
      | _ => return .branch test holds []

end

end Parse

/-- Read a template. -/
def Statement.ofText (text : String) : Except Fault (List Statement) :=
  let input := Lexed.ofText text
  Parse.body (32 * (input.tokens.length + 2)) [] |>.run' { input }

end RecordRecipe.Expr
