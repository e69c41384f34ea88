import FormatterConfig.File.Fault

set_option autoImplicit false

/-! # File systems

What the library asks of a file system: whether a path is a directory, whether it is a regular file,
and what a file holds. Each question follows links. Where nothing is, the first two answers are no;
any other fault, such as a path that is too long or may not be looked at, is no answer. -/

namespace FormatterConfig

/-- A file system as it is seen from outside. -/
structure FileSystem where
  isDirectory : Path → Except PathFault Bool
  isFile : Path → Except PathFault Bool
  read : Path → Except ReadFault (List UInt8)

end FormatterConfig
