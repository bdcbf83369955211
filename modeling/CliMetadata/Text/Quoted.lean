import CliMetadata.Text.Hex

namespace CliMetadata.Quoted

def escape (c : Char) : List Char :=
  if c = '"' then ['\\', '"']
  else if c = '\\' then ['\\', '\\']
  else if c = '\x08' then ['\\', 'b']
  else if c = '\x0c' then ['\\', 'f']
  else if c = '\n' then ['\\', 'n']
  else if c = '\r' then ['\\', 'r']
  else if c = '\t' then ['\\', 't']
  else if c.toNat < 0x20 then ['\\', 'u'] ++ Hex.fixed 4 c.toNat
  else [c]

def encode (text : String) : String :=
  String.ofList ('"' :: text.toList.flatMap escape ++ ['"'])

end CliMetadata.Quoted
