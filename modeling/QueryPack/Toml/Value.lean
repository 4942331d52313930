import QueryPack.Toml.DateTime

namespace QueryPack.Toml

/-!
# The values of a configuration file
-/

/-- A value; tables keep their keys in the order of their first mention. -/
inductive Value where
  | string (text : String)
  | integer (value : Int)
  /-- A floating-point number as it is written; nothing here computes with it. -/
  | float (text : String)
  | boolean (value : Bool)
  | dateTime (value : DateTime)
  | array (items : List Value)
  | table (entries : List (String × Value))
  deriving Repr

/-- The table that a whole file stands for. -/
abbrev Document := List (String × Value)

namespace Document

def get? (document : Document) (key : String) : Option Value :=
  List.lookup key document

end Document

end QueryPack.Toml
