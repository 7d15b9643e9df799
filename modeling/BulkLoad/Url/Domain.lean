import BulkLoad.Url.Domain.Direction
import BulkLoad.Url.Domain.Joining
import BulkLoad.Url.Domain.Mapping
import BulkLoad.Url.Form
import BulkLoad.Url.Punycode

/-!
Domain names of all scripts, brought to ASCII. A label with other characters is written with a mark
in front and in digits of its own.
-/
namespace BulkLoad.Url.Domain

/-- A label as it is written in ASCII, and what it stands for. -/
structure Label where
  written : List Char
  meant : List Char
  deriving DecidableEq, Repr

namespace Label

def mark : List Char := "xn--".toList

/-- No label with more characters is written in ASCII. -/
def longest : Nat := 1000

/-- Behind the mark no more characters are read. -/
def longestWritten : Nat := 2000

/-- What stands behind the mark must need the mark and be mapped already. -/
def ofWritten? (written : List Char) : Option Label := do
  let digits := written.drop mark.length
  if longestWritten < digits.length then none
  else
    let meant ← Punycode.decode? digits
    if meant.all Punycode.isBasic || mark.isPrefixOf meant || mapped? meant ≠ some meant then none
    else return { written, meant }

/-- A label of a mapped name. -/
def ofMapped? (label : List Char) : Option Label :=
  if mark.isPrefixOf label then ofWritten? label
  else if label.all Punycode.isBasic then some { written := label, meant := label }
  else if longest < label.length then none
  else some { written := mark ++ Punycode.encode label, meant := label }

/-- No label begins with a mark that joins the character before. -/
def isFit (l : Label) : Bool := !l.meant.head?.any Text.isMark && Joining.fits [] l.meant

end Label

/-- A name in ASCII, if it can be mapped and its labels are fit for a name. -/
def toAscii? (name : List Char) : Option (List Char) := do
  let labels ← (Form.splitOn '.' (← mapped? name)).mapM Label.ofMapped?
  if labels.all Label.isFit && Direction.fits (labels.map Label.meant) then
    return ((labels.map Label.written).intersperse ['.']).flatten
  else none

end BulkLoad.Url.Domain
