/-!
# Errors of file access

The ways in which a file cannot be read or written, and the words for each. A refusal of the
operating system is worded with its number.
-/
namespace Handbook

/-- Why a file could not be read or written. -/
inductive FileError where
  /-- Nothing is at the path. -/
  | notFound
  /-- The path goes on below something that is not a folder. -/
  | notFolder
  /-- A folder is where a file is needed. -/
  | isFolder
  /-- The path or one of its names is longer than the system allows. -/
  | nameTooLong
  /-- The path has a NUL character, which the system cannot take. -/
  | nulByte
  /-- The content of the file is not UTF-8 text. -/
  | notText
  /-- Any other refusal, in its own words. -/
  | other (reason : String)
deriving DecidableEq

/-- The words for an error of file access. -/
def FileError.message : FileError → String
  | notFound => "No such file or directory (os error 2)"
  | notFolder => "Not a directory (os error 20)"
  | isFolder => "Is a directory (os error 21)"
  | nameTooLong => "File name too long (os error 36)"
  | nulByte => "file name contained an unexpected NUL byte"
  | notText => "stream did not contain valid UTF-8"
  | other reason => reason

end Handbook
