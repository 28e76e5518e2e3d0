import SchemaBinding.Source.Files

/-! # Reading files
Manifests, configurations and sources are read by their paths. A file store answers for each path
with the text of the file, or with the reason why there is none. -/

namespace SchemaBinding

/-- Why a file has no text. -/
inductive ReadError where
  | notFound
  | isDirectory
  /-- A file stands where the path needs a directory. -/
  | notDirectory
  | nameTooLong
  /-- A path with a NUL character, which no file has. -/
  | nulInPath
  /-- The bytes of the file are not UTF-8. -/
  | notText
  /-- Any other reason, in the words of the system. -/
  | failed (reason : String)
  deriving DecidableEq, Repr

/-- The message of a reading error. -/
def ReadError.message : ReadError → String
  | notFound => "No such file or directory (os error 2)"
  | isDirectory => "Is a directory (os error 21)"
  | notDirectory => "Not a directory (os error 20)"
  | nameTooLong => "File name too long (os error 36)"
  | nulInPath => "file name contained an unexpected NUL byte"
  | notText => "stream did not contain valid UTF-8"
  | failed reason => reason

/-- A **file store** gives the text of a path. -/
abbrev FileStore := String → Except ReadError String

/-- The text of a file's bytes. -/
def textOfBytes (bytes : ByteArray) : Except ReadError String :=
  match String.fromUTF8? bytes with
  | some text => .ok text
  | none => .error .notText

/-- Reads a source, which is registered by its path. -/
def SourceFile.read (files : FileStore) (path : String) : Except ReadError SourceFile :=
  (files path).map fun text => { name := path, text }

end SchemaBinding
