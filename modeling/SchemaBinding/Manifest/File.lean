import SchemaBinding.Manifest.Load
import SchemaBinding.Source.Reading

/-! # Manifest files -/

namespace SchemaBinding

/-- Why a manifest file gives no schema set. -/
inductive ManifestFileError where
  | unreadable (path : String) (cause : ReadError)
  | rejected (cause : ManifestError)
  deriving DecidableEq, Repr

/-- The message of such an error. -/
def ManifestFileError.message : ManifestFileError → String
  | unreadable path cause => "cannot read manifest '" ++ path ++ "': " ++ cause.message
  | rejected cause => cause.message

/-- The schema set of a manifest file; its schemas are located by its path. -/
def SchemaSet.ofManifestFile (files : FileStore) (path : String) :
    Except ManifestFileError SchemaSet :=
  match files path with
  | .ok text => (SchemaSet.ofManifest text path).mapError .rejected
  | .error cause => .error (.unreadable path cause)

end SchemaBinding
