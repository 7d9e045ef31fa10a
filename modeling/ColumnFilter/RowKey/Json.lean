import ColumnFilter.Json.Decode
import ColumnFilter.Json.Printer
import ColumnFilter.RowKey

/-! # Row keys in JSON

A key is a string. Reading takes the string for the text of the key as it
stands.
-/

namespace ColumnFilter.RowKey

open Json

def toJson (k : RowKey) : Json := .string k.text

def decode : Decoder RowKey := fun s => (decodeString s).map fun (text, rest) => (⟨text⟩, rest)

def ofJsonText (text : String) : Except DecodeError RowKey := Decoder.run decode text

end ColumnFilter.RowKey
