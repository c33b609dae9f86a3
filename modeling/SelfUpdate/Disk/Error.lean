/-!
# File system errors
-/

namespace SelfUpdate

inductive IoError where
  | notFound
  | permissionDenied
  | busy
  | alreadyExists
  | notADirectory
  | isADirectory
  | invalidArgument
  | nameTooLong
  | notEmpty
  | tooManyLinks
  | nulInName
  | notUtf8
  | noParent
  deriving DecidableEq, Repr

def IoError.message : IoError → String
  | notFound => "No such file or directory (os error 2)"
  | permissionDenied => "Permission denied (os error 13)"
  | busy => "Device or resource busy (os error 16)"
  | alreadyExists => "File exists (os error 17)"
  | notADirectory => "Not a directory (os error 20)"
  | isADirectory => "Is a directory (os error 21)"
  | invalidArgument => "Invalid argument (os error 22)"
  | nameTooLong => "File name too long (os error 36)"
  | notEmpty => "Directory not empty (os error 39)"
  | tooManyLinks => "Too many levels of symbolic links (os error 40)"
  | nulInName => "file name contained an unexpected NUL byte"
  | notUtf8 => "stream did not contain valid UTF-8"
  | noParent => "path has no parent"

end SelfUpdate
