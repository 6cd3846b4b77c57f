import Nameplate.Settings.Configuration
import Nameplate.Settings.Options

/-!
# Settings in force

The label of a client's options goes before that of the configuration, and that before the default
one. Patterns that cannot be read leave no filter.
-/

namespace Nameplate

open Settings (Configuration Diagnostics Options defaultLabel)

/-- The settings in force. -/
structure Settings where
  label : String := defaultLabel
  diagnostics : Diagnostics := {}
  filter : Option Workspace.Filter := none
deriving Repr, Inhabited

/-- The settings of a configuration and a client's options. -/
def Settings.resolve (c : Configuration) (options : Option Options) : Settings where
  label := (options.bind Options.label).getD c.labelOrDefault
  diagnostics := c.diagnostics
  filter := c.filter.toOption

end Nameplate
