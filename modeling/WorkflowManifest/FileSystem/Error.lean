namespace WorkflowManifest

inductive SystemError where
  | notFound
  | outOfMemory
  | exists
  | notDirectory
  | isDirectory
  | noSpace
  | nameTooLong
  | nullInPath
  | other (description : String)
  deriving DecidableEq

def SystemError.message : SystemError → String
  | .notFound => "No such file or directory (os error 2)"
  | .outOfMemory => "Cannot allocate memory (os error 12)"
  | .exists => "File exists (os error 17)"
  | .notDirectory => "Not a directory (os error 20)"
  | .isDirectory => "Is a directory (os error 21)"
  | .noSpace => "No space left on device (os error 28)"
  | .nameTooLong => "File name too long (os error 36)"
  | .nullInPath => "file name contained an unexpected NUL byte"
  | .other description => description

end WorkflowManifest
