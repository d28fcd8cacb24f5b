/-
Pages as pieces of markup, of figures and of text.

* `escape`: a text as it stands in a page, where no character of it can be taken for markup;
* `Piece`, `render`: a piece, and the page that pieces make;
* `markup`, `figure`, `text`, `cell`: pieces by what they are.
-/
import Grading.Text.Basic

namespace Grading

namespace Page

/-- How a character stands in a page. -/
def escapeChar (c : Char) : Text :=
  if c = '&' then "&amp;".toList
  else if c = '<' then "&lt;".toList
  else if c = '>' then "&gt;".toList
  else if c = '"' then "&quot;".toList
  else if c = '\'' then "&#x27;".toList
  else [c]

/-- How a text stands in a page. -/
def escape (s : Text) : Text := s.flatMap escapeChar

/-- A piece of a page. -/
inductive Piece where
  /-- Markup, which the page holds as it is. -/
  | markup (s : Text)
  /-- What is shown of a number or a time, which the page holds as it is too. -/
  | figure (s : Text)
  /-- A text, which the page holds in escaped form. -/
  | text (s : Text)
deriving DecidableEq, Repr

/-- The part of a page that a piece makes. -/
def Piece.render : Piece → Text
  | markup s => s
  | figure s => s
  | text s => escape s

/-- The page that pieces make. -/
def render (pieces : List Piece) : Text := pieces.flatMap Piece.render

/-- Markup as a piece. -/
def markup (s : String) : Piece := .markup s.toList

/-- What is shown of a number or a time as a piece. -/
def figure (s : Text) : Piece := .figure s

/-- A text as a piece. -/
def text (s : Text) : Piece := .text s

/-- Pieces as a cell of a table. -/
def cell (pieces : List Piece) : List Piece := markup "<td>" :: pieces ++ [markup "</td>"]

end Page

end Grading
