import LabelExpansion.Text.Basic

/-!
# Quoted texts

Two ways of writing a text between double quotes. `json` escapes what a JSON string must escape
and leaves everything else as it is, so different texts have different quotations. `quoted` serves
the diagnostic forms of names and paths, whose characters are printable ASCII: a backslash goes
before a double quote and before a backslash.
-/
namespace LabelExpansion.Quotation

/-- The four hexadecimal digits of a character code, in lower case. -/
def fourDigits (code : Nat) : Text :=
  [code / 4096 % 16, code / 256 % 16, code / 16 % 16, code % 16].map Nat.digitChar

/-- One character inside a JSON string. -/
def jsonCharacter (c : Char) : Text :=
  match c with
  | '"' => ['\\', '"']
  | '\\' => ['\\', '\\']
  | '\x08' => ['\\', 'b']
  | '\x09' => ['\\', 't']
  | '\x0a' => ['\\', 'n']
  | '\x0c' => ['\\', 'f']
  | '\x0d' => ['\\', 'r']
  | c => if c.toNat < 0x20 then '\\' :: 'u' :: fourDigits c.toNat else [c]

/-- A text as a JSON string. -/
def json (text : Text) : Text :=
  '"' :: text.flatMap jsonCharacter ++ ['"']

/-- One character of a printable text between quotes. -/
def quotedCharacter (c : Char) : Text :=
  if c = '"' ∨ c = '\\' then ['\\', c] else [c]

/-- A printable text between quotes. -/
def quoted (text : Text) : String :=
  spell ('"' :: text.flatMap quotedCharacter ++ ['"'])

end LabelExpansion.Quotation
