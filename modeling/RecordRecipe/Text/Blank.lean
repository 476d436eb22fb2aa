import RecordRecipe.Text.Range

/-!
# Blank characters

The characters that count as white space in recipe text, and trimming by them. The set is the
Unicode property of that name.
-/

namespace RecordRecipe.Text

/-- The ranges of white-space characters. -/
def blankRanges : List CodeRange :=
  [(0x09, 0x0D), (0x20, 0x20), (0x85, 0x85), (0xA0, 0xA0), (0x1680, 0x1680), (0x2000, 0x200A),
   (0x2028, 0x2029), (0x202F, 0x202F), (0x205F, 0x205F), (0x3000, 0x3000)]

/-- A white-space character. -/
def isBlank (c : Char) : Bool := inRanges blankRanges c

/-- The characters without the leading ones that satisfy a test. -/
def trimStart (test : Char → Bool) (text : List Char) : List Char :=
  text.dropWhile test

/-- The characters without the trailing ones that satisfy a test. -/
def trimEnd (test : Char → Bool) (text : List Char) : List Char :=
  (text.reverse.dropWhile test).reverse

/-- The characters without blanks at either end. -/
def trimChars (text : List Char) : List Char :=
  trimEnd isBlank (trimStart isBlank text)

/-- A text without blanks at either end. -/
def trim (text : String) : String :=
  String.ofList (trimChars text.toList)

/-- The characters without a line break at their end. -/
def withoutLastBreak (text : List Char) : List Char :=
  let unfed := if text.getLast? = some '\n' then text.dropLast else text
  if unfed.getLast? = some '\r' then unfed.dropLast else unfed

/-- Split at every character that satisfies a test; between two neighbouring ones lies an empty
piece. -/
def splitWhere (test : Char → Bool) : List Char → List (List Char)
  | [] => [[]]
  | c :: rest =>
      if test c then [] :: splitWhere test rest
      else match splitWhere test rest with
        | [] => [[c]]
        | piece :: pieces => (c :: piece) :: pieces

/-- The parts before and after the first occurrence of a character. -/
def splitOnce (mark : Char) : List Char → Option (List Char × List Char)
  | [] => none
  | c :: rest =>
      if c = mark then some ([], rest)
      else (splitOnce mark rest).map fun parts => (c :: parts.1, parts.2)

/-- Does a pattern occur somewhere in the characters? -/
def occursIn (pattern : List Char) : List Char → Bool
  | [] => pattern.isEmpty
  | c :: rest => pattern.isPrefixOf (c :: rest) || occursIn pattern rest

/-- Does one text contain another? -/
def contains (text pattern : String) : Bool :=
  occursIn pattern.toList text.toList

/-- Join texts with a separator between neighbours. -/
def joinWith (separator : String) (parts : List String) : String :=
  String.intercalate separator parts

/-- A number with zeros in front up to a least width. -/
def padded (width n : Nat) : String :=
  let digits := Nat.toDigits 10 n
  String.ofList (List.replicate (width - digits.length) '0' ++ digits)

end RecordRecipe.Text
