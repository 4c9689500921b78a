/-!
# Case of ASCII letters

Names and keywords are compared with the case of the letters A to Z ignored and every other
character kept. `fold` is the normal form of that comparison.
-/

set_option autoImplicit false

namespace SqlAdapter.Text

/-- The characters of a text with the letters A to Z in lower case. -/
def fold (s : String) : List Char := s.toList.map Char.toLower

/-- Equality up to the case of ASCII letters. -/
def sameIgnoringCase (s t : String) : Bool := fold s == fold t

variable {s t : String}

@[simp] theorem sameIgnoringCase_iff : sameIgnoringCase s t = true ↔ fold s = fold t := by
  simp [sameIgnoringCase]

@[simp] theorem sameIgnoringCase_refl : sameIgnoringCase s s = true := by simp

end SqlAdapter.Text
