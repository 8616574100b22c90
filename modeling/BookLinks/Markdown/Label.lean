import BookLinks.Text.Blank
import BookLinks.Text.CaseMap
/-! Reference labels. Two labels name the same definition when they agree after runs of
blanks are collapsed to one space, blanks at the ends dropped, and case folded. -/
namespace BookLinks.Markdown

open BookLinks.Text

/-- The normal form of a label, as characters. -/
def normalizeLabelChars (cs : List Char) : List Char :=
  caseFold (List.intercalate [' '] (words cs))

def normalizeLabel (s : String) : String := String.ofList (normalizeLabelChars s.toList)

end BookLinks.Markdown
