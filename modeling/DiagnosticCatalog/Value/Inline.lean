import DiagnosticCatalog.Value
/-!
The one-line form of a value in messages, and its display form, which differs from it for text and
for the members of closed types. Within itself a collection is written as dots in its brackets.
Neither form is read back.
-/

namespace DiagnosticCatalog

open Decimal

/-- One octet of a quoted octet string. -/
def quotedOctet (quote : Nat) (n : Nat) : List Char :=
  if n = quote || n = 0x5C then ['\\', Char.ofNat n]
  else if n = 0x09 then ['\\', 't']
  else if n = 0x0A then ['\\', 'n']
  else if n = 0x0D then ['\\', 'r']
  else if 0x20 ≤ n && n < 0x7F then [Char.ofNat n]
  else '\\' :: 'x' :: Text.hexDigits 2 n

def quotedOctets (octets : List Nat) : String :=
  let quote := if octets.contains 0x27 && !octets.contains 0x22 then 0x22 else 0x27
  let mark := Char.ofNat quote
  String.ofList ('b' :: mark :: octets.flatMap (quotedOctet quote) ++ [mark])

def tupleInline : List String → String
  | [item] => "(" ++ item ++ ",)"
  | items => "(" ++ ", ".intercalate items ++ ")"

def braced (items : List String) : String := "\x7b" ++ ", ".intercalate items ++ "\x7d"

def setInline (frozen : Bool) (items : List String) : String :=
  match frozen, items with
  | false, [] => "set()"
  | false, items => braced items
  | true, [] => "frozenset()"
  | true, items => "frozenset(" ++ braced items ++ ")"

def quotedOrNull (s? : Option String) : String := (s?.map Text.quoted).getD "None"

namespace Value

/-- What a collection is written as within itself. -/
def ellipsis : Value → String
  | list _ => "[...]"
  | tuple _ => "(...)"
  | _ => braced ["..."]

mutual

/-- The form within the collections of the marks. -/
def inlineWithin (marks : List Nat) : Value → String
  | null => "None"
  | truth b => if b then "True" else "False"
  | whole n => intText n
  | real x => x.text
  | text s => Text.quoted s
  | list xs => "[" ++ ", ".intercalate (inlines marks xs) ++ "]"
  | tuple xs => tupleInline (inlines marks xs)
  | set frozen xs => setInline frozen (inlines marks xs)
  | map es => braced (entryInlines marks es)
  | date d => d.inline
  | moment m => m.inline
  | bytes os => quotedOctets os
  | severity s => "<Severity." ++ String.ofList (s.word.toList.map Char.toUpper) ++ ": " ++
      Text.quoted s.word ++ ">"
  | inherit => "<Inherit.INHERIT: 'inherit'>"
  | category c => "<Category." ++ c.constant ++ ": " ++
      tupleInline [Text.quoted c.key, Text.quoted c.description, quotedOrNull c.ruleLink?] ++ ">"
  | exit e => "<ExitCode." ++ e.constant ++ ": " ++ intText e.code ++ ">"
  | named s => s
  | cycle n v => if marks.contains n then ellipsis v else inlineWithin (n :: marks) v

def inlines (marks : List Nat) : List Value → List String
  | [] => []
  | x :: xs => inlineWithin marks x :: inlines marks xs

def entryInlines (marks : List Nat) : List (Value × Value) → List String
  | [] => []
  | (k, v) :: es =>
    (inlineWithin marks k ++ ": " ++ inlineWithin marks v) :: entryInlines marks es

end

def inline (v : Value) : String := v.inlineWithin []

def display : Value → Text
  | text s => s
  | date d => d.text
  | moment m => m.text
  | severity s => s.word
  | inherit => inheritWord
  | category c => "Category." ++ c.constant
  | exit e => intText e.code
  | v => v.inline

mutual

/-- Whether no whole number in the value has too many digits to be written. -/
def isWritable : Value → Bool
  | whole n => Decimal.isWritable n
  | list xs => areWritable xs
  | tuple xs => areWritable xs
  | set _ xs => areWritable xs
  | map es => entriesWritable es
  | cycle _ v => isWritable v
  | _ => true

def areWritable : List Value → Bool
  | [] => true
  | x :: xs => isWritable x && areWritable xs

def entriesWritable : List (Value × Value) → Bool
  | [] => true
  | (k, v) :: es => isWritable k && isWritable v && entriesWritable es

end

end Value

end DiagnosticCatalog
