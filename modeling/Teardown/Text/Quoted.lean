/-
# Quoted text

Names come from outside and may hold anything, so wherever one is put into a message it is written
between double quotes, with the quote, the backslash and every hidden character escaped.  The
escapes are `\t`, `\r`, `\n`, `\0`, `\"`, `\\`, and the hexadecimal code in braces after `\u` for
the rest; a single quote stays as it is.

Each character is escaped on its own, so a quoted text has no line break and ends at the first
quote that is not escaped.
-/
import Teardown.Text.Hidden

namespace Teardown.Text

/-! ## 1. Hexadecimal digits -/

def hexDigit (n : Nat) : Char :=
  if n < 10 then Char.ofNat ('0'.toNat + n) else Char.ofNat ('a'.toNat + (n - 10))

/-- The hexadecimal digits of a number, without leading zeros. -/
def hexDigits (n : Nat) : List Char :=
  if n < 16 then [hexDigit n] else hexDigits (n / 16) ++ [hexDigit (n % 16)]
termination_by n

/-- The last `width` hexadecimal digits of a number. -/
def hexPadded : (width : Nat) → Nat → List Char
  | 0, _ => []
  | width + 1, n => hexPadded width (n / 16) ++ [hexDigit (n % 16)]

/-! ## 2. Quoting -/

/-- One character as it stands inside quotes. -/
def quoteChar (c : Char) : List Char :=
  match c with
  | '\x00' => ['\\', '0']
  | '\t' => ['\\', 't']
  | '\r' => ['\\', 'r']
  | '\n' => ['\\', 'n']
  | '"' => ['\\', '"']
  | '\\' => ['\\', '\\']
  | c =>
    if isHidden c then ['\\', 'u', '\x7b'] ++ hexDigits c.toNat ++ ['\x7d'] else [c]

def quoteChars (s : List Char) : List Char :=
  '"' :: s.flatMap quoteChar ++ ['"']

/-- A text between double quotes, with all that could mislead a reader escaped. -/
def quote (s : String) : String :=
  String.ofList (quoteChars s.toList)

/-- Quoted texts in brackets, separated by a comma and a blank. -/
def quoteList (items : List String) : String :=
  "[" ++ ", ".intercalate (items.map quote) ++ "]"

/-! ## Worked examples -/

example : quoteChars ['a', '"', '\n'] = ['"', 'a', '\\', '"', '\\', 'n', '"'] := by decide

example : quoteChar '\'' = ['\''] := by decide

end Teardown.Text
