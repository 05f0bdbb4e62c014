/-
**Reading elements.**

A document holds exactly one root element. Comments, instructions and document types are passed
over wherever they stand. The text of an element is joined from all its runs; it is dropped when it
is blank and the element has children.
-/

import RuleAtoms.Markup.Element
import RuleAtoms.Markup.Piece
import RuleAtoms.Report.Basic
import RuleAtoms.Text.Blank

namespace RuleAtoms.Markup

/-- Why a document is not read. -/
inductive Error where
  /-- A piece of the document is not well formed, or a closing tag does not match. -/
  | illFormed
  | unclosed (name : String)
  | noRoot
  | secondRoot (name : String)
  | textOutside
deriving DecidableEq

namespace Error

def message : Error → String
  | illFormed => "The document is not well formed"
  | unclosed name => "Element <" ++ name ++ "> is not closed"
  | noRoot => "Document has no root element"
  | secondRoot name => "Second root element <" ++ name ++ ">"
  | textOutside => "Text outside the root element"

def report (error : Error) : Report := .new .invalidXml error.message

end Error

/-- What has been read: the elements that are still open, the innermost first, with their children
in reverse, and the root element, once it is closed. -/
structure Reading where
  openElements : List Element
  root? : Option Element

namespace Reading

def start : Reading := ⟨[], none⟩

/-- Adds a closed element to the one around it, or makes it the root. -/
def attach (reading : Reading) (element : Element) : Except Error Reading :=
  match reading.openElements, reading.root? with
  | .node name attributes text children :: outer, _ =>
    .ok { reading with openElements := .node name attributes text (element :: children) :: outer }
  | [], some _ => .error (.secondRoot element.name)
  | [], none => .ok { reading with root? := some element }

/-- The element whose children are given in reverse, as it is when it has been closed. -/
def closed : Element → Element
  | .node name attributes text children =>
    let dropped := !children.isEmpty && (Text.trim text.toList).isEmpty
    .node name attributes (if dropped then "" else text) children.reverse

/-- What has been read after one more piece. -/
def step (reading : Reading) : Piece → Except Error Reading
  | .opening name attributes =>
    let element := .node (String.ofList name) attributes "" []
    .ok { reading with openElements := element :: reading.openElements }
  | .single name attributes => reading.attach (.node (String.ofList name) attributes "" [])
  | .closing name =>
    match reading.openElements with
    | innermost :: outer =>
      if innermost.name.toList = name then
        attach { reading with openElements := outer } (closed innermost)
      else .error .illFormed
    | [] => .error .illFormed
  | .text more =>
    match reading.openElements with
    | .node name attributes text children :: outer =>
      let element := .node name attributes (text ++ String.ofList more) children
      .ok { reading with openElements := element :: outer }
    | [] => if (Text.trim more).isEmpty then .ok reading else .error .textOutside
  | .skipped => .ok reading

/-- The root element at the end of the document. -/
def finish (reading : Reading) : Except Error Element :=
  match reading.openElements, reading.root? with
  | innermost :: _, _ => .error (.unclosed innermost.name)
  | [], some root => .ok root
  | [], none => .error .noRoot

end Reading

/-- The next piece of a document that has not ended; a lone `<` at the end is no piece. -/
def nextPiece? (text : List Char) : Except Error (Option (Piece × List Char)) :=
  match text with
  | [] | ['<'] => .ok none
  | '<' :: rest =>
    match markup? rest with
    | some found => .ok (some found)
    | none => .error .illFormed
  | text =>
    match plainText? text with
    | some found => .ok (some found)
    | none => .error .illFormed

/-- Reads the rest of a document. -/
def readBehind (reading : Reading) (text : List Char) : Except Error Element :=
  match nextPiece? text with
  | .error error => .error error
  | .ok none => reading.finish
  | .ok (some (piece, rest)) =>
    match reading.step piece with
    | .error error => .error error
    | .ok after =>
      if rest.length < text.length then readBehind after rest else .error .illFormed
termination_by text.length

/-- The element that a document holds. A byte order mark in front of it is passed over. -/
def read (document : String) : Except Error Element :=
  readBehind Reading.start (Text.dropStart [Char.ofNat 0xFEFF] document.toList)

end RuleAtoms.Markup
