/-!
# Paths

A path is written without empty parts and without parts that stay where they are. Two slashes in front
are kept as they are.
-/

namespace DiceNotation.CommandLine

/-- A path as it is shown. -/
def tidyPath (path : String) : String :=
  let parts := (path.splitOn "/").filter fun part => part != "" && part != "."
  let body := "/".intercalate parts
  match path.toList with
  | '/' :: '/' :: '/' :: _ => "/" ++ body
  | '/' :: '/' :: _ => "//" ++ body
  | '/' :: _ => "/" ++ body
  | _ => if body.isEmpty then "." else body

/-- Whether a path has more bytes than the system looks up, 4095. -/
def isPathTooLong (path : String) : Bool := 4095 < path.utf8ByteSize

/-- Whether a part of a path has more bytes than a name may have, 255. -/
def isNameTooLong (part : String) : Bool := 255 < part.utf8ByteSize

end DiceNotation.CommandLine
