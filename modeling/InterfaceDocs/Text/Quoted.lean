import InterfaceDocs.Text.Extender
import InterfaceDocs.Text.Unprinted

/-!
# Quoted strings

`quoted` writes a string between quotation marks.  The quotation mark and the backslash get
a backslash in front, line feed, carriage return, tabulator and the null character have
letters of their own, and the remaining characters that show no mark of their own are written
by their code.
-/

namespace InterfaceDocs.Text

/-- Whether a character shows no mark of its own: it is unprinted, but not the space, or it is
ignorable, or it joins the character before it. -/
def isUnseen (c : Char) : Bool :=
  c != ' ' && (isUnprinted c || isIgnorable c || isExtender c)

/-- The spelling of a character inside quotation marks. -/
def spellQuoted (c : Char) : List Char :=
  if c = '"' then ['\\', '"']
  else if c = '\\' then ['\\', '\\']
  else if c = '\n' then ['\\', 'n']
  else if c = '\r' then ['\\', 'r']
  else if c = '\t' then ['\\', 't']
  else if c = '\x00' then ['\\', '0']
  else if isUnseen c then ['\\', 'u', '\x7b'] ++ Nat.toDigits 16 c.toNat ++ ['\x7d']
  else [c]

/-- The string between quotation marks. -/
def quoted (s : String) : String :=
  .ofList (['"'] ++ s.toList.flatMap spellQuoted ++ ['"'])

end InterfaceDocs.Text
