import FluentSql.Text.Hex
import FluentSql.Text.Printable

/-! Quoted texts for people to read: quotes and backslashes stand behind a backslash, common control
characters have a letter, and all else that does not show is written as its code point in braces. -/

namespace FluentSql.Text.Quoted

def escaped (c : Char) : List Char :=
  match c with
  | '"' => ['\\', '"']
  | '\\' => ['\\', '\\']
  | '\n' => ['\\', 'n']
  | '\r' => ['\\', 'r']
  | '\t' => ['\\', 't']
  | '\x00' => ['\\', '0']
  | c =>
    if isPrintable c then [c]
    else '\\' :: 'u' :: '{' :: (Nat.toDigits 16 c.toNat ++ ['}'])

def quote (s : String) : String :=
  String.ofList ('"' :: s.toList.flatMap escaped ++ ['"'])

end FluentSql.Text.Quoted
