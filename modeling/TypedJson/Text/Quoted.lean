import TypedJson.Text.GraphemeExtend
import TypedJson.Text.Printable
/-!
# Quoted text in messages

Messages show a string in double quotes. The NUL, tab, carriage return and line feed
characters, the backslash and the double quote are written with a backslash (`\0`, `\t`,
`\r`, `\n`, `\\`, `\"`); a character that extends a grapheme or does not print is written as
`\u` and its code point in lowercase hexadecimal digits between braces; every other character
stands as itself.
-/
namespace TypedJson.Text

def writtenByCodePoint (c : Char) : Bool :=
  isGraphemeExtend c || !isPrintable c

def escapeChar (c : Char) : String :=
  if c == '\x00' then "\\0"
  else if c == '\t' then "\\t"
  else if c == '\r' then "\\r"
  else if c == '\n' then "\\n"
  else if c == '\\' then "\\\\"
  else if c == '"' then "\\\""
  else if writtenByCodePoint c then
    "\\u" ++ "\x7b" ++ String.ofList (Nat.toDigits 16 c.toNat) ++ "\x7d"
  else c.toString

def quoted (s : String) : String :=
  "\"" ++ String.join (s.toList.map escapeChar) ++ "\""

example : quoted "a\"b\n" = "\"a\\\"b\\n\"" := by decide +kernel

example : quoted "\u00A0\u0301x" = "\"\\u" ++ "\x7ba0\x7d\\u" ++ "\x7b301\x7dx\"" := by decide +kernel

end TypedJson.Text
