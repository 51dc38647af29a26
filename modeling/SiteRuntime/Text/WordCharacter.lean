import SiteRuntime.Unicode.Property

/-!
# Word characters and decimal digits

A word character is a letter, a mark, a decimal digit, a connector such as `_`, or one of the two
joiners: Alphabetic, Mark, Decimal_Number, Connector_Punctuation and Join_Control of Unicode. On
ASCII these are the letters, the digits and `_`, which is decided without a look into the set.
-/

namespace SiteRuntime.Text

/-- Decimal digits of any script. -/
def decimalDigits : CodeSet := Unicode.Category.decimalNumber.charsIn16

/-- Word characters of any script. -/
def wordCharacters : CodeSet :=
  (Unicode.alphabetic.union (.range 0x200C 0x200D)).union
    (Unicode.charsIn16Of (.decimalNumber :: .connectorPunctuation :: Unicode.marks))

/-- Letters, digits and `_` of ASCII. -/
def isAsciiWord (c : Char) : Bool := c.isAlphanum || c = '_'

/-- Word characters of any script. -/
def isWord (c : Char) : Bool :=
  if c.toNat < 128 then isAsciiWord c else wordCharacters.contains c

end SiteRuntime.Text
