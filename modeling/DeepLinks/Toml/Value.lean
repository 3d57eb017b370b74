/-!
# TOML values

What a TOML document holds. Floats and dates are kept as they are written.
-/

namespace DeepLinks.Toml

inductive Value where
  | text (s : String)
  | integer (n : Int)
  | float (literal : String)
  | bool (b : Bool)
  | date (literal : String)
  | array (items : List Value)
  | table (entries : List (String × Value))
deriving Repr

end DeepLinks.Toml
