import RequestRunner.Data.FieldMap
import RequestRunner.Text.Ascii
import RequestRunner.Text.Utf8

/-!
# Header fields of a message

The fields of a message come in order, a name any number of times, with bytes for values. Names are
the same up to the case of ASCII letters. Flattened they give one text for each name: its values in
the order in which they came, with commas between them.

## Main definitions

* `Http.flatten` — the texts of the names.
-/

namespace RequestRunner.Http

/-- A field with its name as it came and the bytes of its value. -/
structure Field where
  name : String
  value : List UInt8
  deriving DecidableEq

/-- The texts of the values under a name in lower case, in the order in which they came. -/
def valuesOf (fields : List Field) (name : String) : List String :=
  (fields.filter fun f => Text.lower f.name == name).map fun f =>
    String.ofList (Text.decodeLossy f.value)

/-- One text for each name in lower case. -/
def flatten (fields : List Field) : FieldMap :=
  .ofList (fields.map fun f =>
    (Text.lower f.name, ", ".intercalate (valuesOf fields (Text.lower f.name))))

end RequestRunner.Http
