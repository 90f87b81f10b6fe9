/-!
# Comparisons and replacements of single characters

Case is folded for the letters A to Z only, and replacements map one character to one
character, so a text keeps its length.
-/

namespace TopicRelay

set_option autoImplicit false

namespace Text

/-- The characters with the letters A to Z in lower case. -/
def foldCase (text : String) : List Char := text.toList.map Char.toLower

/-- Whether two texts are equal up to the case of the letters A to Z. -/
def equalsIgnoringCase (left right : String) : Bool := foldCase left == foldCase right

theorem equalsIgnoringCase_iff (left right : String) :
    equalsIgnoringCase left right = true ↔ foldCase left = foldCase right := by
  simp [equalsIgnoringCase]

/-- The text with an underscore for every character that `isSeparator` holds of. -/
def underscored (isSeparator : Char → Bool) (text : String) : String :=
  String.ofList (text.toList.map fun char => if isSeparator char then '_' else char)

theorem toList_underscored (isSeparator : Char → Bool) (text : String) :
    (underscored isSeparator text).toList =
      text.toList.map fun char => if isSeparator char then '_' else char := by
  simp [underscored]

end Text

end TopicRelay
