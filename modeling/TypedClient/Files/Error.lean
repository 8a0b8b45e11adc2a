/-!
# Errors of file access

Why the operating system does not do what is asked of it, and the sentence in which it says so.
-/

namespace TypedClient

/-- Why something is not done to a file or a directory. -/
inductive FileError where
  /-- There is nothing at the place. -/
  | notFound
  /-- It is not allowed. -/
  | denied
  /-- There is something at the place already. -/
  | taken
  /-- What has to be a directory is a file. -/
  | notDirectory
  /-- What has to be a file is a directory. -/
  | isDirectory
  /-- A name is longer than a directory can hold. -/
  | nameTooLong
  /-- Another reason, in the system's own words. -/
  | other (text : String)
deriving DecidableEq

/-- The sentence that reports an error, with the number that the system gives it. -/
def FileError.message : FileError → String
  | .notFound => "No such file or directory (os error 2)"
  | .denied => "Permission denied (os error 13)"
  | .taken => "File exists (os error 17)"
  | .notDirectory => "Not a directory (os error 20)"
  | .isDirectory => "Is a directory (os error 21)"
  | .nameTooLong => "File name too long (os error 36)"
  | .other text => text

/-- Whether an error means that the path leads to nothing. -/
def FileError.isAbsence : FileError → Bool
  | .notFound | .notDirectory | .nameTooLong => true
  | _ => false

end TypedClient
