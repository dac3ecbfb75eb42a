import Warden.Text.Blank
/-!
# Log settings

The log filter is taken from its variable unless that is missing or blank; it is kept as
written. The log format is pretty when its variable, trimmed and with ASCII letters
lower-cased, is `pretty` or `text`, and JSON otherwise.
-/

namespace Warden

/-- **The layout of log lines.** -/
inductive LogFormat
  | json
  | pretty
  deriving DecidableEq, Repr

/-- Reads a log format; anything but `pretty` or `text` is JSON. -/
def LogFormat.parse (value : String) : LogFormat :=
  let v := Text.asciiLower (Text.trim value)
  if v == "pretty" || v == "text" then .pretty else .json

/-- The word for a log format. -/
def LogFormat.name : LogFormat → String
  | .json => "json"
  | .pretty => "pretty"

/-- **Log settings**: the filter directives, if any, and the format. -/
structure LogConfig where
  filter : Option String := none
  format : LogFormat := .json
  deriving DecidableEq, Repr

/-- The variable that holds the filter directives. -/
def filterVariable : String := "STATICPERM_LOG"

/-- The variable that holds the log format. -/
def formatVariable : String := "STATICPERM_LOG_FORMAT"

/-- The log settings that an environment selects. -/
def LogConfig.ofEnv (lookup : String → Option String) : LogConfig where
  filter := (lookup filterVariable).filter fun v => !Text.allBlank v
  format := ((lookup formatVariable).map LogFormat.parse).getD .json

end Warden
