/-!
# Failures of the outside world

What can go wrong when a file or a console is used, and the text reported for it.
-/

namespace LC3

/-- Why a file or console operation failed. -/
inductive IoError where
  /-- The name leads nowhere. -/
  | notFound
  /-- A file was needed where there is a directory. -/
  | isDirectory
  /-- A directory was needed where there is a file. -/
  | notDirectory
  /-- A name, or a part of one, has too many bytes. -/
  | nameTooLong
  /-- A name holds the character that ends names. -/
  | zeroInName
  /-- The bytes of a text file are not well-formed UTF-8. -/
  | notText
  /-- A device that has stopped working. -/
  | broken (device : String)
  deriving DecidableEq, Repr

/-- The text reported for a failure. -/
def IoError.message : IoError → String
  | .notFound => "No such file or directory (os error 2)"
  | .isDirectory => "Is a directory (os error 21)"
  | .notDirectory => "Not a directory (os error 20)"
  | .nameTooLong => "File name too long (os error 36)"
  | .zeroInName => "file name contained an unexpected NUL byte"
  | .notText => "stream did not contain valid UTF-8"
  | .broken device => device ++ " broken"

end LC3
