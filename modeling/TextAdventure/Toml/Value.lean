/-!
# TOML values

The data of a TOML document.  Numbers with a point and dates are kept as they are written, because
nothing in a story is made of them.
-/

namespace TextAdventure.Toml

/-- A value of a TOML document. -/
inductive Value where
  | string (text : String)
  | integer (value : Int)
  /-- A floating-point number, as it is written. -/
  | float (literal : String)
  | boolean (value : Bool)
  /-- A date, a time, or both, as it is written. -/
  | datetime (literal : String)
  | array (items : List Value)
  /-- Values under distinct keys. -/
  | table (entries : List (String × Value))

namespace Value

/-- The string of a text. -/
def string? : Value → Option String
  | string text => some text
  | _ => none

/-- The truth value. -/
def boolean? : Value → Option Bool
  | boolean value => some value
  | _ => none

/-- The items of a list. -/
def items? : Value → Option (List Value)
  | array items => some items
  | _ => none

/-- The entries of a table. -/
def entries? : Value → Option (List (String × Value))
  | table entries => some entries
  | _ => none

end Value

end TextAdventure.Toml
