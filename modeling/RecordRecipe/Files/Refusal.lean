import RecordRecipe.Error

/-!
# Why the file system refuses

A path can be refused for its form alone, before it is followed: for a zero character, for its
length, or because it is empty. All other refusals depend on what lies where the path leads.
-/

namespace RecordRecipe

/-- Why the file system refuses. -/
inductive Refusal where
  | missing
  | fileExists
  | notAFolder
  | isAFolder
  | nameTooLong
  | zeroInName
  | notText
deriving DecidableEq, Repr

namespace Refusal

/-- The text of a refusal. -/
def text : Refusal → String
  | missing => "No such file or directory (os error 2)"
  | fileExists => "File exists (os error 17)"
  | notAFolder => "Not a directory (os error 20)"
  | isAFolder => "Is a directory (os error 21)"
  | nameTooLong => "File name too long (os error 36)"
  | zeroInName => "file name contained an unexpected NUL byte"
  | notText => "stream did not contain valid UTF-8"

/-- A refusal as an error. -/
def error (refusal : Refusal) : Error := .io refusal.text

end Refusal

namespace Path

/-- The most bytes of a path. -/
def lengthLimit : Nat := 4095

/-- The most bytes of a part of a path. -/
def partLimit : Nat := 255

/-- Why a path is refused for its form. -/
def malformed? (path : String) : Option Refusal :=
  if path.toList.contains '\x00' then some .zeroInName
  else if path = "" then some .missing
  else if lengthLimit < path.utf8ByteSize then some .nameTooLong
  else none

end Path

end RecordRecipe
