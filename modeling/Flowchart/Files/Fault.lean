import Flowchart.Text.Digit

/-!
Faults: why the operating system refuses an operation on files or the start of a program.
-/

namespace Flowchart

/-- Why the operating system refuses something. -/
inductive Fault where
  | notPermitted
  | notFound
  | notExecutable
  | denied
  | alreadyThere
  | notDirectory
  | isDirectory
  | invalid
  | noSpace
  | nameTooLong
  | notEmpty
  | tooManyLinks
  /-- Any other reason of the system, by its number and its words. -/
  | other (number : Nat) (words : Text)
  /-- A path holds a null character. -/
  | nullInPath
  /-- A program or one of its arguments holds a null character. -/
  | nullInCommand
  /-- What was read is not UTF-8. -/
  | notUtf8
deriving DecidableEq, Repr

namespace Fault

/-- The words for a fault. -/
def name : Fault → Text
  | notPermitted => "Operation not permitted".toList
  | notFound => "No such file or directory".toList
  | notExecutable => "Exec format error".toList
  | denied => "Permission denied".toList
  | alreadyThere => "File exists".toList
  | notDirectory => "Not a directory".toList
  | isDirectory => "Is a directory".toList
  | invalid => "Invalid argument".toList
  | noSpace => "No space left on device".toList
  | nameTooLong => "File name too long".toList
  | notEmpty => "Directory not empty".toList
  | tooManyLinks => "Too many levels of symbolic links".toList
  | other _ words => words
  | nullInPath => "file name contained an unexpected NUL byte".toList
  | nullInCommand => "nul byte found in provided data".toList
  | notUtf8 => "stream did not contain valid UTF-8".toList

/-- The number that the system gives a fault; what is refused before the system is asked has none. -/
def number? : Fault → Option Nat
  | notPermitted => some 1
  | notFound => some 2
  | notExecutable => some 8
  | denied => some 13
  | alreadyThere => some 17
  | notDirectory => some 20
  | isDirectory => some 21
  | invalid => some 22
  | noSpace => some 28
  | nameTooLong => some 36
  | notEmpty => some 39
  | tooManyLinks => some 40
  | other number _ => some number
  | nullInPath | nullInCommand | notUtf8 => none

def message (f : Fault) : Text :=
  match f.number? with
  | some n => f.name ++ " (os error ".toList ++ Text.decimal n ++ [')']
  | none => f.name

end Fault

end Flowchart
