import Metasearch.Json.Printer
import Metasearch.Text.Quoted

set_option autoImplicit false

/-! # Values in filters

The text of a value in a filter: a string as a quoted literal, a number or truth value bare,
and a list or object by its JSON text.
-/

namespace Metasearch.Filter

def literal : Json → String
  | .string text => Text.quote text
  | other => other.compact

end Metasearch.Filter
