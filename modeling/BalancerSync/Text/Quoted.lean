import BalancerSync.Text.Numeral
import BalancerSync.Text.Printable

/-!
# Quoted text

A text in quotes in which everything can be seen: what is not printable stands as an escape.
-/

namespace BalancerSync.Text

def quoteChar (c : Char) : List Char :=
  match c with
  | '"' => ['\\', '"']
  | '\\' => ['\\', '\\']
  | '\n' => ['\\', 'n']
  | '\r' => ['\\', 'r']
  | '\t' => ['\\', 't']
  | '\x00' => ['\\', '0']
  | c =>
    if isPrintable c then [c] else '\\' :: 'u' :: '\x7b' :: showHex c.toNat ++ ['\x7d']

def quoted (cs : List Char) : List Char := '"' :: cs.flatMap quoteChar ++ ['"']

end BalancerSync.Text
