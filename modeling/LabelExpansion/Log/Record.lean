import LabelExpansion.Text.Basic

/-!
# Log records

A record says how severe it is, which part of the program it comes from, and what happened. Its
message may quote texts from anywhere, and whoever reads a log on a terminal is to see what was
written and not to have the terminal act on it. So the characters that steer a terminal are shown by
their codes in hexadecimal: bell, backspace, form feed, escape and delete as `\x1b`, and the codes
from 128 to 159 as `\u` with braces. Every other character stays as it is, a line feed or a backslash
too, so the form is for reading only.
-/
namespace LabelExpansion

inductive Severity where
  | error
  | warn
  | info
  | debug
  | trace
  deriving DecidableEq, Repr

namespace Severity

def name : Severity → String
  | error => "ERROR"
  | warn => "WARN"
  | info => "INFO"
  | debug => "DEBUG"
  | trace => "TRACE"

/-- The place on a scale on which less severe is higher. -/
def rank : Severity → Nat
  | error => 1
  | warn => 2
  | info => 3
  | debug => 4
  | trace => 5

end Severity

namespace Text

/-- The ASCII characters that steer a terminal. -/
def asciiTerminalControls : List Char :=
  ['\x07', '\x08', '\x0c', '\x1b', '\x7f']

/-- The two hexadecimal digits of a code below 256, in lower case. -/
def twoDigits (code : Nat) : Text :=
  [Nat.digitChar (code / 16), Nat.digitChar (code % 16)]

def visibleCharacter (c : Char) : Text :=
  if asciiTerminalControls.contains c then '\\' :: 'x' :: twoDigits c.toNat
  else if 0x80 ≤ c.toNat && c.toNat ≤ 0x9f then
    '\\' :: 'u' :: '\x7b' :: twoDigits c.toNat ++ ['\x7d']
  else [c]

def visible (text : Text) : Text :=
  text.flatMap visibleCharacter

end Text

structure LogRecord where
  severity : Severity
  target : Text
  message : String
  deriving DecidableEq

/-- The record of a message. -/
def LogRecord.ofMessage (severity : Severity) (target : Text) (message : String) : LogRecord :=
  ⟨severity, target, spell (Text.visible message.toList)⟩

end LabelExpansion
