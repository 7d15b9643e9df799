/-!
Values of the TOML data format.

Which date or time a value holds is of no use here; that it is one keeps it apart from the other
kinds. A number may be well written and yet too large for every type of number: it is a value, but
nobody can read it.
-/
namespace BulkLoad

inductive Toml where
  | text (value : String)
  | integer (value : Int)
  | float (value : Float)
  | bool (value : Bool)
  | moment
  | huge
  | array (items : List Toml)
  | table (entries : List (String × Toml))

namespace Toml

/-- The entry of that name. -/
def get? (name : String) (entries : List (String × Toml)) : Option Toml :=
  (entries.find? fun e => e.1 == name).map Prod.snd

end Toml
end BulkLoad
