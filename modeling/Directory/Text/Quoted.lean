import Directory.Text.Hex
import Directory.Text.Unprintable
/-! A text in double quotes, as messages show what they complain about: the quote and the backslash
are escaped, and so is every character a reader could not see. -/
namespace Directory.Quoted

def quoteChar (c : Char) : List Char :=
  if c = '"' then ['\\', '"']
  else if c = '\\' then ['\\', '\\']
  else if c = '\n' then ['\\', 'n']
  else if c = '\r' then ['\\', 'r']
  else if c = '\t' then ['\\', 't']
  else if c.toNat = 0 then ['\\', '0']
  else if isUnprintable c then '\\' :: 'u' :: '\x7b' :: (Hex.ofNat c.toNat).toList ++ ['\x7d']
  else [c]

def quote (text : List Char) : String :=
  String.ofList ('"' :: text.flatMap quoteChar ++ ['"'])

end Directory.Quoted
