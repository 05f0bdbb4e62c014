/-
**Numeric datatypes.**

The sixteen numeric datatypes of XML Schema that the predicates understand. A datatype is
recognised by its local name, however it is written: `int`, `xsd:int` or a full IRI.

Each datatype has one canonical text for a number: an integral datatype takes the whole values
within its bounds, the others always show at least one decimal place.
-/

import RuleAtoms.Number.Basic
import RuleAtoms.Text.Split

namespace RuleAtoms

/-- A numeric datatype of XML Schema. -/
inductive NumericType where
  | byte | short | int | long | integer
  | nonNegativeInteger | nonPositiveInteger | positiveInteger | negativeInteger
  | unsignedByte | unsignedShort | unsignedInt | unsignedLong
  | float | double | decimal
deriving DecidableEq

namespace NumericType

def all : List NumericType :=
  [byte, short, int, long, integer, nonNegativeInteger, nonPositiveInteger, positiveInteger,
    negativeInteger, unsignedByte, unsignedShort, unsignedInt, unsignedLong, float, double, decimal]

def localName : NumericType → String
  | byte => "byte"
  | short => "short"
  | int => "int"
  | long => "long"
  | integer => "integer"
  | nonNegativeInteger => "nonNegativeInteger"
  | nonPositiveInteger => "nonPositiveInteger"
  | positiveInteger => "positiveInteger"
  | negativeInteger => "negativeInteger"
  | unsignedByte => "unsignedByte"
  | unsignedShort => "unsignedShort"
  | unsignedInt => "unsignedInt"
  | unsignedLong => "unsignedLong"
  | float => "float"
  | double => "double"
  | decimal => "decimal"

/-- The part of a datatype's name behind its last `#`, `:` or `/`. -/
def localNameOf (datatype : String) : String :=
  String.ofList (Text.afterLast (fun c => c == '#' || c == ':' || c == '/') datatype.toList)

/-- The numeric datatype that a name denotes, if it denotes one. -/
def ofDatatype? (datatype : String) : Option NumericType :=
  all.find? fun type => type.localName == localNameOf datatype

def isIntegral : NumericType → Bool
  | float | double | decimal => false
  | _ => true

/-- The least and greatest value of an integral datatype. Those without bounds of their own hold
the whole numbers of 64 bits. -/
def bounds : NumericType → Int × Int
  | byte => (-128, 127)
  | short => (-32768, 32767)
  | int => (-2147483648, 2147483647)
  | nonNegativeInteger => (0, 9223372036854775807)
  | nonPositiveInteger => (-9223372036854775808, 0)
  | positiveInteger => (1, 9223372036854775807)
  | negativeInteger => (-9223372036854775808, -1)
  | unsignedByte => (0, 255)
  | unsignedShort => (0, 65535)
  | unsignedInt => (0, 4294967295)
  | unsignedLong => (0, 18446744073709551615)
  | _ => (-9223372036854775808, 9223372036854775807)

/-- The canonical text of a number in the datatype. An integral datatype has none for a fraction
or a value out of its bounds. -/
def render? (type : NumericType) (number : Number) : Option (List Char) :=
  if type.isIntegral then
    number.toWhole?.bind fun value =>
      let (least, greatest) := type.bounds
      if least ≤ value.toInt ∧ value.toInt ≤ greatest then some (Number.intText value.toInt)
      else none
  else
    let value := number.toDouble
    some (if value.isWhole then value.wholeText else value.text)

end NumericType

end RuleAtoms
