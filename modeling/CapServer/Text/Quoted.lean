import CapServer.Text.Shapeless

/-!
# Quoted text

Text between double quotes, in which quotes, backslashes and characters that cannot be seen are
written as escapes: `\t`, `\r`, `\n`, `\0`, and for the others their code point in hexadecimal.
-/

namespace CapServer

namespace Text

/-- The hexadecimal escape of a character. -/
def codeEscape (c : Char) : List Char :=
  ['\\', 'u', '\x7b'] ++ Nat.toDigits 16 c.toNat ++ ['\x7d']

/-- A character as it stands in quoted text. -/
def escape (c : Char) : List Char :=
  match c with
  | '"' => ['\\', '"']
  | '\\' => ['\\', '\\']
  | '\t' => ['\\', 't']
  | '\r' => ['\\', 'r']
  | '\n' => ['\\', 'n']
  | '\x00' => ['\\', '0']
  | c => if isShapeless c then codeEscape c else [c]

/-- Text between quotes. -/
def quoted (s : List Char) : String :=
  String.ofList ('"' :: s.flatMap escape ++ ['"'])

end Text

end CapServer
