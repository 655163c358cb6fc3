import TemplateInspector.Json.Decode

/-!
# Settings of a controller

How long edits have to rest before the engine runs. As JSON the interval is a number of
milliseconds.
-/

namespace TemplateInspector

/-- The settings of a controller. -/
structure ControllerSettings where
  /-- How long edits have to rest, in milliseconds. -/
  debounce : Nat := 100
  deriving DecidableEq, Repr

/-- The JSON value of settings. An interval that does not fit is written as the greatest that
does. -/
def ControllerSettings.encode (settings : ControllerSettings) : Json :=
  .ofFields [("debounce-ms", .ofNat (min settings.debounce (Nat.pow 2 64 - 1)))]

/-- Reads settings. -/
def ControllerSettings.decode : Nat → Json → Option ControllerSettings
  | 0, _ => none
  | _ + 1, json => do
    let [debounce] ← Json.record? ["debounce-ms"] json | none
    let debounce ← Json.defaulted Json.word? 100 debounce
    return { debounce }

end TemplateInspector
