import LinkParsing.Formula
import LinkParsing.Text.Printable

/-!
# Formulas spelled out

The structure of a formula as text, part by part, for values that were meant to be a
single connector and are not.
-/

namespace LinkParsing

/-- The hexadecimal digits of a number, without leading zeros. -/
def hexText (n : Nat) : String := String.ofList (Nat.toDigits 16 n)

/-- A character inside quotes: as it is if it can be seen on its own, else escaped. -/
def quotedChar (c : Char) : String :=
  match c with
  | '\x00' => "\\0"
  | '\t' => "\\t"
  | '\r' => "\\r"
  | '\n' => "\\n"
  | '\\' => "\\\\"
  | '"' => "\\\""
  | _ =>
    if Text.isVisible c then String.singleton c
    else "\\u\x7B" ++ hexText c.toNat ++ "\x7D"

/-- A text in double quotes. -/
def quotedText (text : List Char) : String :=
  "\"" ++ String.join (text.map quotedChar) ++ "\""

namespace Connector

/-- The parts of a connector, named. -/
def structureText (c : Connector) : String :=
  "Connector \x7B head: " ++ quotedText c.head ++ ", subscript: " ++ quotedText c.subscript ++
    ", direction: " ++ (if c.direction = .left then "Left" else "Right") ++
    ", multi: " ++ (if c.multi then "true" else "false") ++ " \x7D"

end Connector

namespace Formula

mutual

/-- The parts of a formula, from the outside in. -/
def structureText : Formula → String
  | .connector c => "Connector(" ++ c.structureText ++ ")"
  | .and items => "And([" ++ ", ".intercalate (structureTexts items) ++ "])"
  | .or items => "Or([" ++ ", ".intercalate (structureTexts items) ++ "])"
  | .optional inner => "Optional(" ++ inner.structureText ++ ")"
  | .cost inner => "Cost(" ++ inner.structureText ++ ")"
  | .empty => "Empty"
  | .macroRef name => "Macro(" ++ quotedText name.toList ++ ")"

/-- The parts of each of the items. -/
def structureTexts : List Formula → List String
  | [] => []
  | item :: items => item.structureText :: structureTexts items

end

end Formula

end LinkParsing
