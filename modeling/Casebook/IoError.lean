import Casebook.IoError.Wording

/-! Causes for which a file operation fails. Most come from the operating system and have a
number there; the others are found before or after it is asked.
-/

namespace Casebook

/-- Why a file operation failed. No tree denies a permission, and only what a tree is kept on may
run out of space.
-/
inductive IoError where
  | notFound
  | permissionDenied
  | alreadyExists
  | notDirectory
  | isDirectory
  | noSpace
  | nameTooLong
  | tooManyLinks
  | system (code : Int)
  | invalidText
  | nulInName
  | linkLoop
  | noParent
  | other (text : String)
deriving DecidableEq, Repr, Inhabited

namespace IoError

/-- The cause that the operating system gives a number to. -/
def ofCode : Int → IoError
  | 2 => .notFound
  | 13 => .permissionDenied
  | 17 => .alreadyExists
  | 20 => .notDirectory
  | 21 => .isDirectory
  | 28 => .noSpace
  | 36 => .nameTooLong
  | 40 => .tooManyLinks
  | code => .system code

/-- The message for an error of the operating system. -/
def systemMessage (code : Int) : String :=
  s!"{wording code} (os error {code})"

/-- The message for a cause. -/
def message : IoError → String
  | .notFound => systemMessage 2
  | .permissionDenied => systemMessage 13
  | .alreadyExists => systemMessage 17
  | .notDirectory => systemMessage 20
  | .isDirectory => systemMessage 21
  | .noSpace => systemMessage 28
  | .nameTooLong => systemMessage 36
  | .tooManyLinks => systemMessage 40
  | .system code => systemMessage code
  | .invalidText => "stream did not contain valid UTF-8"
  | .nulInName => "file name contained an unexpected NUL byte"
  | .linkLoop => "filesystem loop detected while walking directory"
  | .noParent => "failed to create whole tree"
  | .other text => text

end IoError

end Casebook
