/-! # Faults of the operating system

What can go wrong with a file or a program, and the text that is shown for it. -/
namespace InlineRemote

/-- What went wrong. -/
inductive Fault where
  | notFound
  | permissionDenied
  | alreadyExists
  | notDirectory
  | isDirectory
  | nameTooLong
  | notEmpty
  | tooManyLinks
  | noDevice
  | notRunnable
  | argumentsTooLong
  /-- A file holds bytes that are no text. -/
  | notText
  /-- A path holds the character with code zero. -/
  | zeroInPath
  /-- An argument of a program holds the character with code zero. -/
  | zeroInArgument
  deriving DecidableEq, Repr

/-- The words for a fault and the number that the system gives it, if it is one of the system. -/
def Fault.reason : Fault → String × Option Nat
  | notFound => ("No such file or directory", some 2)
  | noDevice => ("No such device or address", some 6)
  | argumentsTooLong => ("Argument list too long", some 7)
  | notRunnable => ("Exec format error", some 8)
  | permissionDenied => ("Permission denied", some 13)
  | alreadyExists => ("File exists", some 17)
  | notDirectory => ("Not a directory", some 20)
  | isDirectory => ("Is a directory", some 21)
  | nameTooLong => ("File name too long", some 36)
  | notEmpty => ("Directory not empty", some 39)
  | tooManyLinks => ("Too many levels of symbolic links", some 40)
  | notText => ("stream did not contain valid UTF-8", none)
  | zeroInPath => ("file name contained an unexpected NUL byte", none)
  | zeroInArgument => ("nul byte found in provided data", none)

def Fault.message (f : Fault) : String :=
  match f.reason with
  | (words, some n) => words ++ " (os error " ++ toString n ++ ")"
  | (words, none) => words

end InlineRemote
