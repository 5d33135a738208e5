/-!
Reasons for which the system refuses something.
-/

namespace HeapGraph

inductive OsError where
  | noEntry
  | denied
  | entryExists
  | notDirectory
  | isDirectory
  | nameTooLong
  | nulInPath
  | nulInCommand
  | badFormat
  deriving Repr, DecidableEq

def OsError.message : OsError → String
  | noEntry => "No such file or directory (os error 2)"
  | denied => "Permission denied (os error 13)"
  | entryExists => "File exists (os error 17)"
  | notDirectory => "Not a directory (os error 20)"
  | isDirectory => "Is a directory (os error 21)"
  | nameTooLong => "File name too long (os error 36)"
  | nulInPath => "file name contained an unexpected NUL byte"
  | nulInCommand => "nul byte found in provided data"
  | badFormat => "Exec format error (os error 8)"

end HeapGraph
