import SiteRuntime.Unicode.Property

/-!
# Characters that are shown as they stand

A text in quotation marks shows a character as it stands if it has a form of its own. Controls,
format characters, private and unassigned code points, separators other than the blank have none,
and a character that extends the grapheme before it would attach itself to the quotation mark. The
properties are those of edition 17.0.
-/

namespace SiteRuntime.Text

/-- Characters of the categories that have a form of their own. -/
def formed : CodeSet :=
  Unicode.charsOf (Unicode.Category.all.filter fun c =>
    c ∉ [.spaceSeparator, .lineSeparator, .paragraphSeparator, .control, .format, .privateUse])

/-- Characters with a form of their own that stand alone. -/
def shown : CodeSet := formed.diff Unicode.graphemeExtendIn17

/-- Whether a character is shown as it stands. -/
def isShown (c : Char) : Bool :=
  if c.toNat < 128 then 0x20 ≤ c.toNat && c.toNat < 127 else shown.contains c

end SiteRuntime.Text
