import FormatterConfig.ConfigFile
import FormatterConfig.Toml.Document

set_option autoImplicit false

/-! # Project metadata

The metadata of a project stand in a file of their own. A file that is missing or cannot be decoded
stands for an empty one, so that whoever looks something up in it finds nothing and gets
no error. -/

namespace FormatterConfig.Project

/-- The metadata in a file's bytes, none if there is no such file. -/
def readMetadata (bytes : Option (List UInt8)) : Mapping :=
  match bytes with
  | none => []
  | some bytes =>
    match ConfigFile.textOfBytes bytes with
    | .ok text => (Toml.decode text).getD []
    | .error _ => []

end FormatterConfig.Project
