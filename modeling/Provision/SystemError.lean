namespace Provision

/-!
# Errors of the system

What the system answers when it does not carry out a step. Errors of the
operating system are reported with their numbers.
-/

/-- Why the system did not carry out a step. -/
inductive SystemError where
  | notFound
  | permissionDenied
  | alreadyExists
  | notADirectory
  | isADirectory
  /-- A program file that the system cannot run. -/
  | notAProgram
  | tooManyLinks
  | nameTooLong
  | notEmpty
  | invalidArgument
  | badDescriptor
  /-- A step that would lead to another disk. -/
  | crossDevice
  | noSpace
  /-- A device that is not there. -/
  | noDevice
  /-- A write that nobody will read. -/
  | brokenPipe
  | notPermitted
  /-- A path with a NUL, which no path can have. -/
  | pathHoldsNul
  /-- The contents of a file are not text. -/
  | notText
  /-- A command with a NUL, which no command can have. -/
  | holdsNul
  /-- Any other reason, in the words in which it is reported. -/
  | other (reason : String)
  deriving Repr, DecidableEq

namespace SystemError

/-- The reason in words. -/
def words : SystemError → String
  | notFound => "No such file or directory"
  | permissionDenied => "Permission denied"
  | alreadyExists => "File exists"
  | notADirectory => "Not a directory"
  | isADirectory => "Is a directory"
  | notAProgram => "Exec format error"
  | tooManyLinks => "Too many levels of symbolic links"
  | nameTooLong => "File name too long"
  | notEmpty => "Directory not empty"
  | invalidArgument => "Invalid argument"
  | badDescriptor => "Bad file descriptor"
  | crossDevice => "Invalid cross-device link"
  | noSpace => "No space left on device"
  | noDevice => "No such device or address"
  | brokenPipe => "Broken pipe"
  | notPermitted => "Operation not permitted"
  | pathHoldsNul => "file name contained an unexpected NUL byte"
  | notText => "stream did not contain valid UTF-8"
  | holdsNul => "nul byte found in provided data"
  | other reason => reason

/-- The number that the operating system gives a reason, if it is one of its own. -/
def number? : SystemError → Option Nat
  | notPermitted => some 1
  | notFound => some 2
  | noDevice => some 6
  | notAProgram => some 8
  | badDescriptor => some 9
  | permissionDenied => some 13
  | alreadyExists => some 17
  | crossDevice => some 18
  | notADirectory => some 20
  | isADirectory => some 21
  | invalidArgument => some 22
  | noSpace => some 28
  | brokenPipe => some 32
  | nameTooLong => some 36
  | notEmpty => some 39
  | tooManyLinks => some 40
  | pathHoldsNul => none
  | notText => none
  | holdsNul => none
  | other _ => none

/-- What is reported to users. -/
def message (error : SystemError) : String :=
  match error.number? with
  | some number => error.words ++ " (os error " ++ toString number ++ ")"
  | none => error.words

end SystemError

end Provision
