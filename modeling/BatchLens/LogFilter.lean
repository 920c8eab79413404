import BatchLens.Environment.Process
import BatchLens.Unicode.WordChar

/-!
# Log filters

Which events are logged is said by a directive: a level for all events, or a target with a
level for its events. The environment is asked first, then the settings, and a default is taken
when neither has a valid directive.
-/

namespace BatchLens

namespace LogFilter

/-- The levels, each with its number; a higher level logs more. -/
def levels : List (String × Char) :=
  [("off", '0'), ("error", '1'), ("warn", '2'), ("info", '3'), ("debug", '4'), ("trace", '5')]

/-- The name of the level that a text stands for: its name in any case, or its number. -/
def level? (text : Text) : Option Text :=
  (levels.find? fun (name, number) =>
    Text.sameIgnoringAsciiCase name.toList text || text == [number]).map (·.1.toList)

/-- Whether a text can name a target. -/
def isTarget (text : Text) : Bool :=
  !text.isEmpty && text.all fun c => Unicode.isWordChar c || c == ':' || c == '-'

/-- The directive that a text spells, written with the name of its level. A target without
a level stands for all its events, and no text at all for no events. -/
def directive? (text : Text) : Option Text :=
  if text.isEmpty then some "off".toList
  else match level? text with
    | some level => some level
    | none =>
        match Text.splitFirst? '=' text with
        | none => if isTarget text then some (text ++ "=trace".toList) else none
        | some (target, level) =>
            if !isTarget target then none
            else if level.isEmpty then some (target ++ "=trace".toList)
            else (level? level).map fun level => target ++ '=' :: level

/-- The directive that is used without any choice of the user. -/
def fallback : Text := "cmdlang=info".toList

/-- The directive in force. -/
def choose (environment : ProcessEnvironment) (configured : Option Text) : Text :=
  let fromEnvironment := (environment.exactValue? "RUST_LOG".toList).bind directive?
  (fromEnvironment.or (configured.bind directive?)).getD fallback

end LogFilter

end BatchLens
