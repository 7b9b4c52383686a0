import TemplateMetrics.Text.LetterTable
import TemplateMetrics.Text.Ranges

/-!
Letters and numbers, as names use them.
-/

namespace TemplateMetrics.Text

def isLetter (c : Char) : Bool := inRanges c.toNat alphabeticRanges

def isNumeric (c : Char) : Bool := inRanges c.toNat numericRanges

/-- A name starts with a letter or an underscore. -/
def isNameStart (c : Char) : Bool := c = '_' || isLetter c

/-- A name goes on with letters, numbers and underscores. -/
def isNamePart (c : Char) : Bool := c = '_' || isLetter c || isNumeric c

end TemplateMetrics.Text
