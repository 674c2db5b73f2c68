import Xref.Text.Quoted

namespace Xref

inductive SystemCause where
  | noEntry
  | denied
  | notDirectory
  | isDirectory
  | nameTooLong
  deriving DecidableEq, Repr

namespace SystemCause

def isAbsence (cause : SystemCause) : Bool := cause = .noEntry || cause = .notDirectory

def description : SystemCause → Text
  | .noEntry => "[Errno 2] No such file or directory"
  | .denied => "[Errno 13] Permission denied"
  | .notDirectory => "[Errno 20] Not a directory"
  | .isDirectory => "[Errno 21] Is a directory"
  | .nameTooLong => "[Errno 36] File name too long"

end SystemCause

structure SystemError where
  cause : SystemCause
  name : Text
  deriving DecidableEq, Repr

def SystemError.message (error : SystemError) : Text :=
  error.cause.description ++ ": " ++ error.name.quoted

end Xref
