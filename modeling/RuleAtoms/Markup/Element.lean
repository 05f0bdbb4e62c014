/-
**Elements of markup.**

An element has a name, attributes in order, text and child elements. How text and children were
interleaved is not kept: all text is written before the first child.
-/

import RuleAtoms.Keyed
import RuleAtoms.Markup.Escape

namespace RuleAtoms.Markup

/-- An element of markup. -/
inductive Element where
  | node (name : String) (attributes : Keyed String) (text : String) (children : List Element)

namespace Element

def name : Element → String
  | node name _ _ _ => name

def attributes : Element → Keyed String
  | node _ attributes _ _ => attributes

def text : Element → String
  | node _ _ text _ => text

def children : Element → List Element
  | node _ _ _ children => children

mutual

/-- Whether two elements are the same; the order of attributes does not matter. -/
def agrees : Element → Element → Bool
  | node name attributes text children, node otherName otherAttributes otherText otherChildren =>
    name == otherName && attributes.agrees otherAttributes && text == otherText &&
      allAgree children otherChildren

def allAgree : List Element → List Element → Bool
  | [], [] => true
  | first :: rest, other :: others => agrees first other && allAgree rest others
  | _, _ => false

end

/-- An attribute as it stands in a tag. -/
def writeAttribute (entry : String × String) : List Char :=
  ' ' :: entry.1.toList ++ ['=', '"'] ++ escape entry.2.toList ++ ['"']

/-- What a tag begins with: the name and the attributes. -/
def writeTag (name : String) (attributes : Keyed String) : List Char :=
  '<' :: name.toList ++ attributes.entries.flatMap writeAttribute

mutual

/-- An element as markup, without any blanks of its own. One without content is a single tag. -/
def write : Element → List Char
  | node name attributes text children =>
    if children.isEmpty && text.isEmpty then writeTag name attributes ++ ['/', '>']
    else
      writeTag name attributes ++ ['>'] ++ escape text.toList ++ writeAll children ++
        ['<', '/'] ++ name.toList ++ ['>']

def writeAll : List Element → List Char
  | [] => []
  | child :: rest => write child ++ writeAll rest

end

end Element

end RuleAtoms.Markup
