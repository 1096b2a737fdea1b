/-!
# Journal entries

What happens while sources are loaded and watched is noted in a journal: how serious it is, which
part of the program says so, and a message.
-/

namespace DesignTokens

/-- How serious an entry is. -/
inductive Level
  | debug
  | info
  | warning
  | error
  deriving Repr, DecidableEq, Inhabited

namespace Level

/-- The name of a level. -/
def label : Level → String
  | .debug => "DEBUG"
  | .info => "INFO"
  | .warning => "WARNING"
  | .error => "ERROR"

/-- Is an entry of this level of interest to everybody? -/
def isAlarming : Level → Bool
  | .debug | .info => false
  | .warning | .error => true

end Level

/-- The part of the program that an entry is about. -/
inductive Component
  | aggregation
  | discovery
  | watching
  | settings
  | signals
  /-- The sources of a kind. -/
  | dataset
  | stylesheet
  | script
  deriving Repr, DecidableEq, Inhabited

/-- The name of a part of the program. -/
def Component.label : Component → String
  | .aggregation => "tokenlens.aggregator"
  | .discovery => "tokenlens.discovery"
  | .watching => "tokenlens.watch"
  | .settings => "tokenlens.config"
  | .signals => "tokenlens.events"
  | .dataset => "tokenlens.sources.builtin"
  | .stylesheet => "tokenlens.sources.stylesheet"
  | .script => "tokenlens.sources.script"

/-- An entry of the journal. -/
structure LogEntry where
  /-- How serious the entry is. -/
  level : Level
  /-- The part of the program. -/
  component : Component
  /-- What happened. -/
  message : String
  deriving Repr, DecidableEq

/-- The line for an entry. -/
def LogEntry.line (e : LogEntry) : String :=
  e.level.label ++ " " ++ e.component.label ++ ": " ++ e.message

end DesignTokens
