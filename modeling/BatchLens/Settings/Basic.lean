import BatchLens.Text.Basic

/-!
# Settings

What the user can switch on and off. Everything is on by default, and no log filter is set.
-/

namespace BatchLens

/-- What completion offers. -/
structure CompletionSettings where
  /-- The keywords of the language, on bare words. -/
  keywords : Bool := true
  /-- The variables of the environment, inside references. -/
  environmentVariables : Bool := true
  /-- Variables that the document refers to elsewhere, inside references. -/
  documentVariables : Bool := true
  deriving DecidableEq, Repr

/-- What hover texts show. -/
structure HoverSettings where
  /-- The search path, one directory a line. -/
  splitPath : Bool := true
  /-- The expanded value after the value, when they differ. -/
  showExpanded : Bool := true
  deriving DecidableEq, Repr

/-- Whether closing halves of pairs are inserted. -/
structure PairingSettings where
  enabled : Bool := true
  deriving DecidableEq, Repr

/-- All settings. -/
structure Settings where
  completion : CompletionSettings := {}
  hover : HoverSettings := {}
  pairing : PairingSettings := {}
  /-- Which events are logged. -/
  logFilter : Option Text := none
  deriving DecidableEq, Repr

end BatchLens
