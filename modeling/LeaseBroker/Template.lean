import LeaseBroker.Blank
import LeaseBroker.Fragments

/-!
# Statement templates

A template is plain text with slots. A slot runs from two opening braces to the
next two closing ones; an opening that is never closed is plain text. How a
template falls into pieces does not depend on what fills the slots, and what
fills them is not read again.
-/

namespace LeaseBroker.Template

/-- A part of a template: plain text, or a slot with what stands between its braces. -/
inductive Piece where
  | plain (cs : List Char)
  | slot (inner : List Char)
  deriving DecidableEq, Repr

namespace Piece

def source : Piece → List Char
  | plain cs => cs
  | slot inner => '\x7b' :: '\x7b' :: inner ++ ['\x7d', '\x7d']

/-- The name in a slot, without the blanks around it. -/
def slotName (inner : List Char) : String := String.ofList (Blank.trim inner)

/-- A slot without a fragment stays as it is written. -/
def fill (b : Bindings) : Piece → List Char
  | plain cs => cs
  | slot inner =>
    match b.get? (slotName inner) with
    | some f => f.chars
    | none => source (slot inner)

end Piece

/-- The pieces of the rest of a template, with the characters since the last brace pair in reverse. -/
def piecesFrom : Bool → List Char → List Char → List Piece
  | false, past, [] => [.plain past.reverse]
  | true, past, [] => [.plain ('\x7b' :: '\x7b' :: past.reverse)]
  | false, past, '\x7b' :: '\x7b' :: cs => .plain past.reverse :: piecesFrom true [] cs
  | true, past, '\x7d' :: '\x7d' :: cs => .slot past.reverse :: piecesFrom false [] cs
  | inside, past, c :: cs => piecesFrom inside (c :: past) cs

def pieces (cs : List Char) : List Piece := piecesFrom false [] cs

def renderChars (cs : List Char) (b : Bindings) : List Char := (pieces cs).flatMap (·.fill b)

def render (template : String) (b : Bindings) : String := String.ofList (renderChars template.toList b)

/-- A template written as plain text with a slot. -/
def slot (name : String) : String := "\x7b\x7b" ++ name ++ "\x7d\x7d"

end LeaseBroker.Template
