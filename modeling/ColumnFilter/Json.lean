import ColumnFilter.Decimal.Shortest

/-! # Values of JSON

Objects keep their members in the order of the text, repeated names included.
A number is an integer of 64 bits or a double.
-/

namespace ColumnFilter

inductive Json.Number
  | whole (n : Int)
  | real (x : Float)

inductive Json
  | null
  | boolean (b : Bool)
  | number (n : Json.Number)
  | string (s : String)
  | array (items : List Json)
  | object (members : List (String × Json))

namespace Json

instance : Inhabited Json := ⟨null⟩

/-- Doubles are positional from a hundred thousandth up to below ten to the sixteenth. -/
def realLayout : Decimal.Layout := ⟨-5, 15⟩

def realText (x : Float) : String :=
  let digits := realLayout.write (Decimal.ofFloat x)
  String.ofList (if Decimal.isNegative x then '-' :: digits else digits)

def Number.text : Number → String
  | .whole n => toString n
  | .real x => realText x

end Json

end ColumnFilter
