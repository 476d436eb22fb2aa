import RecordRecipe.Numeral
import RecordRecipe.Sink.Basic
import RecordRecipe.Value.Coerce

/-!
# Arguments of the command

The words behind the command fall into uses of flags and one positional word, the recipe. A flag
takes a fixed number of words; one that takes a single word may have it attached. Flags of one
letter can be run together, the last of them taking what is left. No word that a flag takes may
begin with a hyphen unless it is attached, and no flag but the one for options may be used twice.
-/

namespace RecordRecipe.Command

/-- How rows are written. -/
inductive Format where
  | lines
  | json
  | csv
  | dot
deriving DecidableEq, Repr

/-- The format of a name. -/
def Format.ofName? : String → Option Format
  | "txt" => some .lines
  | "json" => some .json
  | "csv" => some .csv
  | "dot" => some .dot
  | _ => none

/-- What the command is told. -/
structure Arguments where
  recipe : String
  count : Nat := 1
  /-- Names and values of options in the order given. -/
  options : List (String × FieldValue) := []
  format : Format := .lines
  outputFile : Option String := none
  seed : Option Nat := none
  flushEvery : Nat := defaultFlushEvery
  commitEvery : Nat := defaultCommitEvery
  debugInternals : Bool := false
  mappingFile : Option String := none
  verbose : Bool := false
  noColor : Bool := false

/-- The flags. -/
inductive Flag where
  | count
  | option
  | outputFormat
  | outputFile
  | seed
  | flushEvery
  | commitEvery
  | debugInternals
  | mappingFile
  | verbose
  | noColor
deriving DecidableEq, Repr

namespace Flag

/-- All flags. -/
def all : List Flag :=
  [count, option, outputFormat, outputFile, seed, flushEvery, commitEvery, debugInternals,
   mappingFile, verbose, noColor]

/-- The name behind two hyphens. -/
def name : Flag → String
  | count => "count"
  | option => "option"
  | outputFormat => "output-format"
  | outputFile => "output-file"
  | seed => "seed"
  | flushEvery => "flush-every"
  | commitEvery => "commit-every"
  | debugInternals => "debug-internals"
  | mappingFile => "mapping-file"
  | verbose => "verbose"
  | noColor => "no-color"

/-- The letter behind one hyphen. -/
def letter? : Flag → Option Char
  | count => some 'n'
  | outputFile => some 'o'
  | verbose => some 'v'
  | _ => none

/-- How many words a flag takes. -/
def arity : Flag → Nat
  | debugInternals | verbose | noColor => 0
  | option => 2
  | _ => 1

/-- The flag of a name. -/
def ofName? (name : List Char) : Option Flag :=
  all.find? fun flag => flag.name.toList = name

/-- The flag of a letter. -/
def ofLetter? (letter : Char) : Option Flag :=
  all.find? fun flag => flag.letter? = some letter

end Flag

/-- A use of a flag with the words that it takes, or a positional word. -/
inductive Use where
  | flag (flag : Flag) (words : List String)
  | word (word : String)

/-- A flag that still waits for words. -/
structure Waiting where
  flag : Flag
  words : List String
  missing : Nat

/-- What a flag that was just met comes to. -/
def meet (flag : Flag) : List Use × Option Waiting :=
  if flag.arity = 0 then ([.flag flag []], none) else ([], some ⟨flag, [], flag.arity⟩)

/-- A flag with an attached word. -/
def attach (flag : Flag) (word : List Char) : Option (List Use × Option Waiting) :=
  if flag.arity = 1 then some ([.flag flag [String.ofList word]], none) else none

/-- The flag behind two hyphens, perhaps with an attached word. -/
def readLong (text : List Char) : Option (List Use × Option Waiting) :=
  match Text.splitOnce '=' text with
  | some (name, word) => do attach (← Flag.ofName? name) word
  | none => (Flag.ofName? text).map meet

/-- The flags behind one hyphen. -/
def readLetters : List Char → Option (List Use × Option Waiting)
  | [] => some ([], none)
  | letter :: rest => do
      let flag ← Flag.ofLetter? letter
      if flag.arity = 0 then
        let (uses, waiting) ← readLetters rest
        return (.flag flag [] :: uses, waiting)
      else match rest with
        | [] => return meet flag
        | '=' :: word => attach flag word
        | word => attach flag word

/-- A flag that has received a word. -/
def Waiting.take (waiting : Waiting) (word : String) : List Use × Option Waiting :=
  let words := waiting.words ++ [word]
  if waiting.missing ≤ 1 then ([.flag waiting.flag words], none)
  else ([], some ⟨waiting.flag, words, waiting.missing - 1⟩)

/-- The uses in some words, a flag before them perhaps waiting. After two hyphens alone every word
is positional. -/
def readUses : Option Waiting → List String → Option (List Use)
  | none, [] => some []
  | some _, [] => none
  | waiting, word :: rest =>
      match waiting, word.toList with
      | none, ['-', '-'] => some (rest.map .word)
      | none, '-' :: '-' :: text => do
          let (uses, waiting) ← readLong text
          return uses ++ (← readUses waiting rest)
      | some _, '-' :: _ :: _ => none
      | none, '-' :: letter :: text => do
          let (uses, waiting) ← readLetters (letter :: text)
          return uses ++ (← readUses waiting rest)
      | some flag, _ => do
          let (uses, waiting) := flag.take word
          return uses ++ (← readUses waiting rest)
      | none, _ => do return .word word :: (← readUses none rest)

/-- The positional words. -/
def positional (uses : List Use) : List String :=
  uses.filterMap fun use => match use with
    | .word word => some word
    | .flag _ _ => none

/-- What a flag was given every time it was used. -/
def given (flag : Flag) (uses : List Use) : List (List String) :=
  uses.filterMap fun use => match use with
    | .flag used words => if used = flag then some words else none
    | .word _ => none

/-- Is a flag used more often than it may be? -/
def isRepeated (uses : List Use) (flag : Flag) : Bool :=
  flag ≠ .option && 1 < (given flag uses).length

/-- The word of a flag as a value; a flag that is not used has its default. -/
def valueOf {α : Type} (read : String → Option α) (uses : List Use) (flag : Flag) (default : α) :
    Option α :=
  match given flag uses with
  | [word] :: _ => read word
  | _ => some default

/-- A number of 64 bits. -/
def readNumber (word : String) : Option Nat := Numeral.readNat? 64 word.toList

/-- A path, which may not be empty. -/
def readPath (word : String) : Option String := if word = "" then none else some word

/-- Is a flag used? -/
def isUsed (uses : List Use) (flag : Flag) : Bool := !(given flag uses).isEmpty

/-- An option with its value. -/
def readOption : List String → Option (String × FieldValue)
  | [name, value] => some (name, .ofOptionText value)
  | _ => none

/-- Read the words behind the command. -/
def Arguments.ofWords? (words : List String) : Option Arguments := do
  let uses ← readUses none words
  if Flag.all.any (isRepeated uses) then none
  let recipe ← match positional uses with
    | [word] => readPath word
    | _ => none
  return {
    recipe
    count := ← valueOf readNumber uses .count 1
    options := (given .option uses).filterMap readOption
    format := ← valueOf Format.ofName? uses .outputFormat .lines
    outputFile := ← valueOf (fun word => (readPath word).map some) uses .outputFile none
    seed := ← valueOf (fun word => (readNumber word).map some) uses .seed none
    flushEvery := ← valueOf readNumber uses .flushEvery defaultFlushEvery
    commitEvery := ← valueOf readNumber uses .commitEvery defaultCommitEvery
    debugInternals := isUsed uses .debugInternals
    mappingFile := ← valueOf (fun word => (readPath word).map some) uses .mappingFile none
    verbose := isUsed uses .verbose
    noColor := isUsed uses .noColor }

/-- The counter that decides on flushes and commits. -/
def Arguments.batchCounter (arguments : Arguments) : BatchCounter :=
  { flushEvery := arguments.flushEvery, commitEvery := arguments.commitEvery }

end RecordRecipe.Command
