import DiagnosticCatalog.Decimal.Shortest
import DiagnosticCatalog.Json
import DiagnosticCatalog.Text.Quoted
/-!
JSON text. On one line, or with every item on a line of its own behind a margin; empty containers
are closed at once. Only quotes, backslashes and controls are escaped, and halves, which no string
can hold.
-/

namespace DiagnosticCatalog.Json

open Decimal

def escapeChar (c : Char) : List Char :=
  if c = '\x22' || c = '\\' then ['\\', c]
  else if c = '\n' then ['\\', 'n']
  else if c = '\r' then ['\\', 'r']
  else if c = '\t' then ['\\', 't']
  else if c = '\x08' then ['\\', 'b']
  else if c = '\x0c' then ['\\', 'f']
  else if c.toNat < 0x20 then '\\' :: 'u' :: Text.hexDigits 4 c.toNat
  else [c]

def escapeLetter : Letter → List Char
  | .char c => escapeChar c
  | .half n => '\\' :: 'u' :: Text.hexDigits 4 (Letter.half n).code

def string (t : Text) : List Char := '\x22' :: t.letters.flatMap escapeLetter ++ ['\x22']

def realText : Binary64 → List Char
  | .nan => "NaN".toList
  | .infinite s => (if s then "-Infinity" else "Infinity").toList
  | x => x.text.toList

/-- How items are set apart: `none` keeps them on one line, `some n` indents each level by `n`. -/
abbrev Margin := Option Nat

def lineBreak (margin : Margin) (depth : Nat) : List Char :=
  match margin with
  | none => []
  | some n => '\n' :: List.replicate (n * depth) ' '

def separator (margin : Margin) (depth : Nat) : List Char :=
  match margin with
  | none => [',', ' ']
  | some _ => ',' :: lineBreak margin depth

/-- The items between brackets, set apart one level deeper. -/
def enclose (margin : Margin) (depth : Nat) (opening closing : Char) : List (List Char) → List Char
  | [] => [opening, closing]
  | item :: items =>
    opening :: lineBreak margin (depth + 1) ++ item ++
      items.flatMap (separator margin (depth + 1) ++ ·) ++ lineBreak margin depth ++ [closing]

mutual

def render (margin : Margin) (depth : Nat) : Json → List Char
  | null => "null".toList
  | truth b => (if b then "true" else "false").toList
  | whole n => intDigits n
  | real x => realText x
  | text s => string s
  | array items => enclose margin depth '[' ']' (renderItems margin (depth + 1) items)
  | object members =>
    enclose margin depth '\x7b' '\x7d' (renderMembers margin (depth + 1) members)

def renderItems (margin : Margin) (depth : Nat) : List Json → List (List Char)
  | [] => []
  | j :: js => render margin depth j :: renderItems margin depth js

def renderMembers (margin : Margin) (depth : Nat) : List (Text × Json) → List (List Char)
  | [] => []
  | (n, j) :: ms =>
    (string n ++ ':' :: ' ' :: render margin depth j) :: renderMembers margin depth ms

end

end DiagnosticCatalog.Json
