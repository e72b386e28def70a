set_option autoImplicit false

/-! # Storage errors

Why a file or directory could not be used.
-/

namespace CiPipeline.Storage

/-- What went wrong. The last case is any other error of the operating system, with its
number. -/
inductive Error where
  | notFound
  | alreadyExists
  | notADirectory
  | isADirectory
  | nameTooLong
  | nulInName
  | notText
  | system (number : Nat) (message : String)
  deriving DecidableEq, Inhabited

namespace Error

/-- The words of the operating system for an error with a number. -/
def numbered (message : String) (number : Nat) : String :=
  message ++ " (os error " ++ toString number ++ ")"

/-- The message shown. -/
def message : Error → String
  | notFound => numbered "No such file or directory" 2
  | alreadyExists => numbered "File exists" 17
  | notADirectory => numbered "Not a directory" 20
  | isADirectory => numbered "Is a directory" 21
  | nameTooLong => numbered "File name too long" 36
  | nulInName => "file name contained an unexpected NUL byte"
  | notText => "stream did not contain valid UTF-8"
  | system number message => numbered message number

/-- The name of the kind of error. -/
def kind : Error → String
  | notFound => "NotFound"
  | alreadyExists => "AlreadyExists"
  | notADirectory => "NotADirectory"
  | isADirectory => "IsADirectory"
  | nameTooLong => "InvalidFilename"
  | nulInName => "InvalidInput"
  | notText => "InvalidData"
  | system _ _ => "Other"

end Error

end CiPipeline.Storage
