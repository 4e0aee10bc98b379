import Parley.Text.ScriptsAK
import Parley.Text.ScriptsLZ

/-!
# Scripts

The scripts of writing by their names.
-/

namespace Parley.Text

/-- A script by one of its names, with all of them and its characters. -/
def script? (name : String) : Option (List String × Ranges) :=
  (scriptsAToK ++ scriptsLToZ).find? fun entry => entry.1.contains name

end Parley.Text
