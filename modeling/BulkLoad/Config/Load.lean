import BulkLoad.Config.Text
import BulkLoad.Files

/-!
A configuration from a file, in the format that the file's name tells.
-/
namespace BulkLoad

def Format.ofPath (path : String) : Except Fault Format :=
  match extension? path with
  | none => .error (.configText "cannot determine file format from extension")
  | some extension =>
    match Format.ofExtension? extension with
    | some format => .ok format
    | none => .error (.configText ("unsupported config format: ." ++ extension))

/-- The format is known before the file is touched. -/
def Config.load (fs : Files) (path : String) : Except Fault Config := do
  let format ← Format.ofPath path
  match fs.readText path with
  | .error e => .error (.io e.message)
  | .ok text => ofText format text

end BulkLoad
