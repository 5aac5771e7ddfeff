import CommentSeparator.Separator
import CommentSeparator.Text.Blank

/-!
# Requests

One raw input line asks for a header or for a region.  The line is cut after its first six octets;
when that cut does not fall inside a character and what is before it spells `region`, letters of
either case, the rest without the blanks around it is the label of a region.  Any other line is the
label of a header, as it stands.
-/

namespace CommentSeparator

/-- What an input line asks for. -/
inductive Request where
  | header (label : String)
  | region (label : String)
  deriving DecidableEq, Repr

/-- Cuts a text after the given number of octets of its UTF-8 encoding.  There is no such cut in a
text that is shorter, nor inside a character. -/
def cutAtOctet? : (octets : Nat) → List Char → Option (List Char × List Char)
  | 0, text => some ([], text)
  | _ + 1, [] => none
  | octets + 1, c :: text =>
    if c.utf8Size ≤ octets + 1 then
      (cutAtOctet? (octets + 1 - c.utf8Size) text).map fun cut => (c :: cut.1, cut.2)
    else none

/-- The word that asks for a region. -/
def regionWord : List Char :=
  ['r', 'e', 'g', 'i', 'o', 'n']

/-- Understands an input line. -/
def Request.ofInput (input : String) : Request :=
  match cutAtOctet? regionWord.length input.toList with
  | some (word, rest) =>
    if word.map Char.toLower = regionWord then .region (String.ofList (Text.trim rest))
    else .header input
  | none => .header input

section

variable {m : Type → Type} [Monad m] (arith : Arithmetic m)

/-- The separator lines for a request. -/
def Arithmetic.renderRequest (styles : Styles) : Request → m (Logged (List String))
  | .header label => do
    let counted ← arith.header styles.header label
    pure do
      Logged.report (.headerRequested label)
      let line ← counted
      pure [line]
  | .region label => do
    let counted ← arith.region styles.region label
    pure do
      Logged.report (.regionRequested label)
      let lines ← counted
      pure lines.toList

/-- The separator lines for a raw input line. -/
def Arithmetic.render (styles : Styles) (input : String) : m (Logged (List String)) :=
  arith.renderRequest styles (Request.ofInput input)

end

namespace Styles

variable (styles : Styles)

/-- The separator lines for a request, counted with numbers that go round. -/
def renderRequest (request : Request) : Logged (List String) :=
  Id.run (Arithmetic.wrapping.renderRequest styles request)

/-- The separator lines for a raw input line, counted with numbers that go round. -/
def render (input : String) : Logged (List String) :=
  Id.run (Arithmetic.wrapping.render styles input)

theorem renderRequest_header (label : String) :
    styles.renderRequest (.header label) = (do
      Logged.report (.headerRequested label)
      let line ← styles.header.line label
      pure [line]) := rfl

theorem renderRequest_region (label : String) :
    styles.renderRequest (.region label) = (do
      Logged.report (.regionRequested label)
      let lines ← styles.region.lines label
      pure lines.toList) := rfl

theorem render_eq (input : String) :
    styles.render input = styles.renderRequest (Request.ofInput input) := rfl

end Styles

end CommentSeparator
