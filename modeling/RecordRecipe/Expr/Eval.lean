import RecordRecipe.Expr.Call
import RecordRecipe.Expr.Grammar
import RecordRecipe.Expr.Slice

/-!
# Evaluating templates

Terms and statements are evaluated along their structure. Code that lies elsewhere is run by
handlers, which are stacked up to the depth that calls may reach.
-/

namespace RecordRecipe.Expr

namespace Evaluation

/-- Is the term the template itself? -/
def isTemplate : Term → Bool
  | .name word => word = templateName
  | _ => false

/-- Apply a filter to a value. -/
def applyFilter (scope : Scope) (name : String) (value : Value) (arguments : Arguments) :
    Evaluation Value := do
  lift ((← resolve value).applyFilter scope.fieldOf name (← resolveAll arguments))

/-- The value of a literal. -/
def literal : Literal → Value
  | .null => .null
  | .bool flag => .bool flag
  | .int n => .ofNat n
  | .float x => .number (.ofFloat x)
  | .text content => .text content

mutual

/-- Evaluate a term. -/
def term (scope : Scope) (handler : Handler) : Term → Evaluation Value
  | .literal value => return literal value
  | .name name => do return (← lookup? scope name).getD .missing
  | .list items => do return .list (← terms scope handler items)
  | .map entries => do return Value.mapOf (← termPairs scope handler entries)
  | .field base name => do
      let value ← term scope handler base
      orMissing value (← attribute? scope value name)
  | .item base subscript => do
      let value ← term scope handler base
      let index ← term scope handler subscript
      orMissing value (← subscript? scope value index)
  | .slice base start stop step => do
      let value ← term scope handler base
      let start ← optionalTerm scope handler start
      let stop ← optionalTerm scope handler stop
      let step ← optionalTerm scope handler step
      lift (sliceValue value start stop step)
  | .call (.name name) arguments => do
      let arguments ← evaluateArguments (argumentActions scope handler arguments)
      callTo scope handler (.named name) arguments
  | .call (.field base name) arguments => do
      if isTemplate base then callBlock handler name
      else
        let value ← term scope handler base
        let arguments ← evaluateArguments (argumentActions scope handler arguments)
        callTo scope handler (.method value name) arguments
  | .call callee arguments => do
      let value ← term scope handler callee
      let arguments ← evaluateArguments (argumentActions scope handler arguments)
      callTo scope handler (.value value) arguments
  | .not operand => do
      let value ← term scope handler operand
      return .bool !(← holds value)
  | .negate operand => do lift (← term scope handler operand).negate
  | .both left right => do
      let value ← term scope handler left
      if ← holds value then term scope handler right else return value
  | .either left right => do
      let value ← term scope handler left
      if ← holds value then return value else term scope handler right
  | .operation operator left right => do
      let a ← term scope handler left
      let b ← term scope handler right
      lift (Value.operate operator (← resolve a) (← resolve b))
  | .compare first links => do
      let value ← term scope handler first
      return .bool (← compareLinks scope handler value links)
  | .conditional test yes otherwise => do
      let value ← term scope handler test
      if ← holds value then term scope handler yes
      else match otherwise with
        | some other => term scope handler other
        | none => return .undefined true
  | .filter name operand arguments => do
      let value ← term scope handler operand
      let arguments ← evaluateArguments (argumentActions scope handler arguments)
      applyFilter scope name value arguments
  | .test name operand arguments => do
      let value ← term scope handler operand
      let arguments ← evaluateArguments (argumentActions scope handler arguments)
      lift ((← resolve value).applyTest name (← resolveAll arguments)) >>= (return .bool ·)
termination_by structural t => t

/-- Does a chain of comparisons hold? What stands behind the first that does not is not
evaluated. -/
def compareLinks (scope : Scope) (handler : Handler) (left : Value) :
    List (Comparison × Term) → Evaluation Bool
  | [] => return true
  | (comparison, operand) :: rest => do
      let right ← term scope handler operand
      if ← compare scope comparison left right then compareLinks scope handler right rest
      else return false

/-- Evaluate terms from left to right. -/
def terms (scope : Scope) (handler : Handler) : List Term → Evaluation (List Value)
  | [] => return []
  | first :: rest => do
      let value ← term scope handler first
      return value :: (← terms scope handler rest)

/-- Evaluate the keys and values of a map. -/
def termPairs (scope : Scope) (handler : Handler) :
    List (Term × Term) → Evaluation (List (Value × Value))
  | [] => return []
  | (key, value) :: rest => do
      let key ← term scope handler key
      let value ← term scope handler value
      return (key, value) :: (← termPairs scope handler rest)

/-- Evaluate a term that may be absent. -/
def optionalTerm (scope : Scope) (handler : Handler) : Option Term → Evaluation Value
  | none => return .null
  | some present => term scope handler present

/-- How the arguments of a call are evaluated. -/
def argumentActions (scope : Scope) (handler : Handler) :
    List (Passing × Term) → List (Passing × Evaluation Value)
  | [] => []
  | (passing, argument) :: rest =>
      (passing, term scope handler argument) :: argumentActions scope handler rest
termination_by structural ts => ts

end

/-- Evaluate what is called. -/
def calleeTerm (scope : Scope) (handler : Handler) : Term → Evaluation Callee
  | .name name => return .named name
  | .field base name => do return .method (← term scope handler base) name
  | other => do return .value (← term scope handler other)

/-- Set a variable in the innermost frame, and in the closure that its macros share. -/
def store (name : String) (value : Value) : Evaluation Unit :=
  modify fun store =>
    match store.frames with
    | [] => store
    | frame :: rest =>
        let closures := match frame.closure with
          | some number => store.closures.modify number (Assoc.put name value)
          | none => store.closures
        { store with
          closures := closures
          frames := { frame with locals := Assoc.put name value frame.locals } :: rest }

mutual

/-- Assign a value to a target. -/
def assign (scope : Scope) (handler : Handler) (value : Value) : Target → Evaluation Unit
  | .name name => store name value
  | .field base name => do
      match ← term scope handler base with
      | .space number =>
          modify fun store => { store with
            spaces := store.spaces.modify number (Assoc.put name value) }
      | owner => throw (.invalid ("can only assign to namespaces, not " ++ owner.kind.words))
  | .tuple targets => do
      let items ← match (← resolve value).members? with
        | some items => pure items
        | none => throw ⟨.cannotUnpack, some "value is not iterable"⟩
      if items.length ≠ targets.length then
        throw ⟨.cannotUnpack, some ("sequence of wrong length (expected " ++
          toString targets.length ++ ", got " ++ toString items.length ++ ")")⟩
      assignAll scope handler items targets

/-- Assign values to targets one by one. -/
def assignAll (scope : Scope) (handler : Handler) (values : List Value) :
    List Target → Evaluation Unit
  | [] => return ()
  | target :: rest =>
      match values with
      | [] => return ()
      | value :: more => do
          assign scope handler value target
          assignAll scope handler more rest

end

/-- Write text. -/
def write (content : String) : Evaluation Unit :=
  modify fun store => { store with out := store.out ++ content }

/-- Write a value. An undefined one cannot be written. -/
def print (value : Value) : Evaluation Unit := do
  match ← resolve value with
  | .undefined false => throw .undefinedValue
  | other => write other.display

/-- How deeply calls may be nested; a macro counts six levels, an included text ten and every
further frame one. -/
def depthLimit : Nat := 500

/-- Check that a call that counts a number of levels is not too deep. -/
def checkDepth (levels : Nat) : Evaluation Unit := do
  let store ← get
  if depthLimit < store.depth + store.frames.length + levels then
    throw (.invalid "recursion limit exceeded")

/-- Run something with a further frame. -/
def inFrame {α : Type} (frame : Frame) (body : Evaluation α) : Evaluation α := do
  checkDepth 0
  modify fun store => { store with frames := frame :: store.frames }
  let result ← body
  modify fun store => { store with frames := store.frames.tail }
  return result

/-- Go on to an item of the loop of the innermost frame; the variables of the frame are gone. -/
def nextRound (state : Value) : Evaluation Unit :=
  modify fun store =>
    match store.frames with
    | [] => store
    | frame :: rest =>
        let loop := frame.loop.map ({ · with state := state })
        { store with frames := { frame with locals := [], loop := loop } :: rest }

/-- Apply a chain of filters. -/
def filterAll (scope : Scope) (handler : Handler) : List FilterStep → Value → Evaluation Value
  | [], value => return value
  | filter :: rest, value => do
      let arguments ← evaluateArguments (argumentActions scope handler filter.arguments)
      filterAll scope handler rest (← applyFilter scope filter.name value arguments)

/-- Run the body of a loop for every item; the state of the loop hangs on the position and the
items next to the current one. -/
def iterate (body : Value → Evaluation Unit) (state : Nat → Value → Value → Value) :
    Nat → Value → List Value → Evaluation Unit
  | _, _, [] => return ()
  | index, previous, item :: rest => do
      nextRound (state index previous (rest.headD .missing))
      body item
      iterate body state (index + 1) item rest

/-- The number of items that a loop knows of. The characters of a text are not counted. -/
def knownLength (value : Value) (items : List Value) : Option Nat :=
  match value with
  | .text _ => none
  | _ => some items.length

/-- Run a loop over items in a frame of its own. -/
def runRounds (recursion : Option (Target × List Statement)) (length : Option Nat)
    (items : List Value) (body : Value → Evaluation Unit) : Evaluation Unit := do
  let depth := match ← runningLoop? with
    | some outer => if outer.recursion.isSome then outer.depth + 1 else 0
    | none => 0
  let loop : RunningLoop := { state := .missing, recursion, depth }
  let number := (← get).loops
  modify fun store => { store with loops := number + 1 }
  inFrame { loop := some loop } <|
    iterate body (fun index => .loop number index length depth) 0 .missing items

/-- Run the body of a block in a frame of its own. -/
def runBlock (body : Evaluation Unit) : Evaluation Unit := do
  let inBlock := (← get).inBlock
  modify ({ · with inBlock := true })
  inFrame {} body
  modify ({ · with inBlock := inBlock })

/-- The items that satisfy a condition. -/
def select (condition : Value → Evaluation Bool) : List Value → Evaluation (List Value)
  | [] => return []
  | item :: rest => do
      let kept ← condition item
      let others ← select condition rest
      return if kept then item :: others else others

/-- The number of the closure of the innermost frame, which is made when it is first needed. -/
def ownClosure : Evaluation Nat := do
  let store ← get
  match store.frames with
  | frame :: rest =>
      match frame.closure with
      | some number => return number
      | none =>
          let number := store.closures.length
          set { store with
            closures := store.closures ++ [[]]
            frames := { frame with closure := some number } :: rest }
          return number
  | [] => return 0

/-- Take variables into a closure unless they are there already. -/
def enclose (scope : Scope) (number : Nat) : List String → Evaluation Unit
  | [] => return ()
  | name :: rest => do
      if (((← get).closures.getD number []).find? name).isNone then
        let value := (← lookup? scope name).getD .missing
        modify fun store =>
          { store with closures := store.closures.modify number (Assoc.put name value) }
      enclose scope number rest

/-- The macro of some statements. It takes the variables that it mentions with it; its caller is
not one of them. -/
def makeRoutine (scope : Scope) (name : String) (parameters : List Parameter)
    (body : List Statement) : Evaluation Value := do
  let number ← ownClosure
  enclose scope number ((Statement.macroNames parameters body).filter (· != callerName))
  return .routine name parameters body number

/-- The variables of the innermost frame as a map. -/
def ownVariables : Evaluation Value := do
  let locals := ((← get).frames.head?.map Frame.locals).getD []
  return Value.mapOf (locals.map fun entry => (.text entry.1, entry.2))

/-- The source of an included text: a text, or the first one that a value holds. A function holds
none. -/
def sourceText? (source : Value) : Except Fault (Option String) :=
  let named (value : Value) : Except Fault (Option String) :=
    match value with
    | .text content => .ok (some content)
    | _ => .error (.invalid "template name was not a string")
  match source.members?, source with
  | some [], _ | none, .function _ => .ok none
  | some (first :: _), _ => named first
  | none, _ => named source

/-- Run the text that a term names. -/
def insert (scope : Scope) (handler : Handler) (source : Term) : Evaluation Unit := do
  match ← lift (sourceText? (← resolve (← term scope handler source))) with
  | some text => handler.runSource text
  | none => return ()

/-- Run an included text for the variables that it sets; what it writes is dropped. -/
def fetched {α : Type} (scope : Scope) (handler : Handler) (source : Term)
    (found : Evaluation α) : Evaluation α := do
  let before := (← get).out
  let result ← inFrame {} do
    insert scope handler source
    found
  modify ({ · with out := before })
  return result

mutual

/-- Run a statement. -/
def statement (scope : Scope) (handler : Handler) : Statement → Evaluation Unit
  | .text content => write content
  | .value value => do print (← term scope handler value)
  | .branch test yes otherwise => do
      let value ← term scope handler test
      if ← holds value then statements scope handler yes
      else statements scope handler otherwise
  | .loop target items condition recursive body otherwise => do
      let value ← resolve (← term scope handler items)
      let all ← lift value.items
      let (chosen, length) ← match condition with
        | none => pure (all, knownLength value all)
        | some condition => do
            let chosen ← inFrame {} <| select (fun item => do
              assign scope handler item target
              holds (← term scope handler condition)) all
            pure (chosen, some chosen.length)
      let recursion := if recursive then some (target, body) else none
      runRounds recursion length chosen fun item => do
        assign scope handler item target
        statements scope handler body
      if chosen.isEmpty then statements scope handler otherwise
  | .set target value => do
      let value ← term scope handler value
      assign scope handler value target
  | .setBlock target filters body => do
      let written ← capture (statements scope handler body)
      let value ← filterAll scope handler filters (.text written)
      assign scope handler value target
  | .bind bindings body =>
      inFrame {} do
        bindings.forM fun binding => do
          let value ← term scope handler binding.2
          assign scope handler value binding.1
        statements scope handler body
  | .filtered filters body => do
      let written ← capture (statements scope handler body)
      print (← filterAll scope handler filters (.text written))
  | .define name parameters body => do
      store name (← makeRoutine scope name parameters body)
  | .call callee arguments parameters body => do
      let callee ← calleeTerm scope handler callee
      let arguments ← evaluateArguments (argumentActions scope handler arguments)
      let caller ← makeRoutine scope callerName parameters body
      print (← callTo scope handler callee (arguments.withNamed callerName caller))
  | .block _ body => runBlock (statements scope handler body)
  | .insert source => insert scope handler source
  | .fetch source target => do
      assign scope handler (← fetched scope handler source ownVariables) target
  | .fetchNames source names => do
      let values ← fetched scope handler source <| names.mapM fun entry => do
        return (← lookup? scope entry.1).getD .missing
      (names.zip values).reverse.forM fun entry => store entry.1.2 entry.2
  | .perform action => do
      let _ ← term scope handler action
termination_by structural s => s

/-- Run statements in order. -/
def statements (scope : Scope) (handler : Handler) : List Statement → Evaluation Unit
  | [] => return ()
  | first :: rest => do
      statement scope handler first
      statements scope handler rest
termination_by structural ss => ss

end

/-- Set the parameters of a macro, the last one first; a default replaces an undefined value. -/
def setParameters (scope : Scope) (handler : Handler) : List Parameter → List Value →
    Evaluation Unit
  | [], _ => return ()
  | parameter :: rest, values => do
      setParameters scope handler rest values.tail
      let given := values.headD .missing
      let value ← match given, parameter.default with
        | .undefined _, some default => term scope handler default
        | _, _ => pure given
      store parameter.name value

/-- Run the body of a macro over its own frame, its closure and the scope; it gives what it
writes. -/
def runMacro (scope : Scope) (handler : Handler) (parameters : List Parameter)
    (body : List Statement) (closure : Nat) (values : List Value) (caller : Option Value) :
    Evaluation Value := do
  checkDepth 6
  let before ← get
  modify fun store => { store with
    frames := [{}], within := some closure, blocks := [], inBlock := false
    depth := before.depth + before.frames.length + 5 }
  let written ← capture do
    caller.forM (store callerName)
    setParameters scope handler parameters values
    statements scope handler body
  modify fun store => { store with
    frames := before.frames, within := before.within, blocks := before.blocks
    inBlock := before.inBlock, depth := before.depth }
  return .text written

/-- Replace the closure of the innermost frame. -/
def setClosure (closure : Option Nat) : Evaluation Unit :=
  modify fun store =>
    match store.frames with
    | [] => store
    | frame :: rest => { store with frames := { frame with closure := closure } :: rest }

/-- Run an included text over the variables of the place that includes it. -/
def includeText (scope : Scope) (handler : Handler) (text : String) : Evaluation Unit := do
  let body ← lift (Statement.ofText text)
  checkDepth 10
  let before ← get
  setClosure none
  modify fun store => { store with
    depth := store.depth + 10, blocks := Statement.listBlocks body }
  try statements scope handler body
  catch _ => throw ⟨.badInclude, some ("error in \"" ++ text ++ "\"")⟩
  setClosure (before.frames.head?.bind Frame.closure)
  modify fun store => { store with depth := before.depth, blocks := before.blocks }

/-- Run the body of a loop that calls itself, over further items. -/
def runLoop (scope : Scope) (handler : Handler) (target : Target) (body : List Statement)
    (value : Value) : Evaluation Unit := do
  let value ← resolve value
  let items ← lift value.items
  runRounds (some (target, body)) (knownLength value items) items fun item => do
    assign scope handler item target
    statements scope handler body

/-- The handler that allows a number of nested calls. -/
def handler (scope : Scope) : Nat → Handler
  | 0 =>
      { runMacro := fun _ _ _ _ _ => throw (.invalid "recursion limit exceeded")
        runBlock := fun _ => throw (.invalid "recursion limit exceeded")
        runSource := fun _ => throw (.invalid "recursion limit exceeded")
        runLoop := fun _ _ _ => throw (.invalid "recursion limit exceeded") }
  | levels + 1 =>
      { runMacro := runMacro scope (handler scope levels)
        runBlock := fun body => runBlock (statements scope (handler scope levels) body)
        runSource := includeText scope (handler scope levels)
        runLoop := runLoop scope (handler scope levels) }

/-- Run a template. Every call counts levels against the limit, so that many handlers suffice. -/
def template (scope : Scope) (body : List Statement) : Evaluation Unit := do
  modify ({ · with blocks := Statement.listBlocks body })
  statements scope (handler scope depthLimit) body

end Evaluation

end RecordRecipe.Expr
