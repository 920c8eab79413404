import BatchLens.Text.Basic

/-!
# Expanding references

A reference is a name between percent signs. References to known names are replaced by their
values, from left to right; a value that was put in is not looked at again. A reference to
an unknown name stays as it is, and its closing percent sign may open the next reference. The
empty name is never known.
-/

namespace BatchLens

namespace Reference

/-- The value of a name that is not empty. -/
def value? (lookup : Text → Option Text) (name : Text) : Option Text :=
  if name.isEmpty then none else lookup name

/-- The text from an open percent sign on. It is given in parts, cut at the percent signs; the
first part may be a name, and is one if another part follows it. -/
def expandParts (lookup : Text → Option Text) : List Text → Text
  | [] => []
  | [unclosed] => '%' :: unclosed
  | name :: behind :: others =>
      match value? lookup name with
      | some value => value ++ behind ++ expandParts lookup others
      | none => '%' :: (name ++ expandParts lookup (behind :: others))

/-- The text with its references to known names replaced. -/
def expand (lookup : Text → Option Text) (text : Text) : Text :=
  match text.split '%' with
  | [] => []
  | plain :: parts => plain ++ expandParts lookup parts

end Reference

end BatchLens
