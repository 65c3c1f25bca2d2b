import FeatureResolution.Text.Codes
import FeatureResolution.Text.Printable

/-!
# Quoted text

Messages show a text between quotes. Apostrophes are the delimiters unless the text itself holds
an apostrophe and no double quote; the delimiter, the backslash, the three common control
characters and everything without a visible shape are escaped, so a quoted text is one visible
line. Rows of code points and of bytes are quoted in the same way; halves of characters and bytes
beyond ASCII are escaped.
-/

namespace FeatureResolution.Text

/-- The apostrophe, the usual delimiter. -/
def apostrophe : Char := Char.ofNat 39

/-- The double quote, the delimiter of a text with apostrophes. -/
def doubleQuote : Char := Char.ofNat 34

/-- The delimiter chosen for a text. -/
def delimiter (chars : List Char) : Char :=
  if chars.contains apostrophe && !chars.contains doubleQuote then doubleQuote else apostrophe

/-- The lower-case hexadecimal digits of a number, filled up with zeros to a least width. -/
def hexDigits (width : Nat) (value : Nat) : List Char :=
  let digits := Nat.toDigits 16 value
  List.replicate (width - digits.length) '0' ++ digits

/-- The numeric escape of a code point: two, four or eight hexadecimal digits. -/
def numericEscape (code : Nat) : List Char :=
  if code < 0x100 then '\\' :: 'x' :: hexDigits 2 code
  else if code < 0x10000 then '\\' :: 'u' :: hexDigits 4 code
  else '\\' :: 'U' :: hexDigits 8 code

/-- One character as it stands between the given delimiters. -/
def escapeChar (delimiter : Char) (c : Char) : List Char :=
  if c = delimiter || c = '\\' then ['\\', c]
  else if c = '\n' then ['\\', 'n']
  else if c = '\r' then ['\\', 'r']
  else if c = '\t' then ['\\', 't']
  else if isPrintable c then [c]
  else numericEscape c.toNat

/-- A text between its delimiters, escaped. -/
def quote (text : String) : String :=
  let chars := text.toList
  let mark := delimiter chars
  String.ofList (mark :: chars.flatMap (escapeChar mark) ++ [mark])

/-- One code point as it stands between the given delimiters. -/
def escapeCode (delimiter : Char) (code : Nat) : List Char :=
  if isHalf code then numericEscape code else escapeChar delimiter (charOf code)

/-- A row of code points between delimiters, escaped. -/
def quoteCodes (codes : List Nat) : String :=
  let mark := delimiter (codes.map charOf)
  String.ofList (mark :: codes.flatMap (escapeCode mark) ++ [mark])

/-- One byte as it stands between the given delimiters. -/
def escapeByte (delimiter : Char) (byte : UInt8) : List Char :=
  if byte < 0x7F then escapeChar delimiter (Char.ofNat byte.toNat) else numericEscape byte.toNat

/-- A row of bytes between delimiters, escaped. -/
def quoteBytes (bytes : List UInt8) : String :=
  let mark := delimiter (bytes.map fun byte => Char.ofNat byte.toNat)
  String.ofList ('b' :: mark :: bytes.flatMap (escapeByte mark) ++ [mark])

end FeatureResolution.Text
