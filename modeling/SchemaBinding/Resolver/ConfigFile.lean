import SchemaBinding.Resolver.Config
import SchemaBinding.Source.Reading

/-! # Configuration files -/

namespace SchemaBinding

/-- Why a configuration file gives no configuration. -/
inductive ConfigFileError where
  | unreadable (path : String) (cause : ReadError)
  | malformed (cause : Toml.DecodeError)
  deriving DecidableEq, Repr

/-- The message of such an error. -/
def ConfigFileError.message : ConfigFileError → String
  | unreadable path cause => "cannot read config '" ++ path ++ "': " ++ cause.message
  | malformed cause => "invalid config: " ++ cause.message?.getD ""

/-- The configuration of a file. -/
def Config.ofFile (files : FileStore) (path : String) : Except ConfigFileError Config :=
  match files path with
  | .ok text => (Config.ofToml text).mapError .malformed
  | .error cause => .error (.unreadable path cause)

end SchemaBinding
