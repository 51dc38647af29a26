import SiteRuntime.Context.Error
import SiteRuntime.System.Basic
import SiteRuntime.Timestamp.Calendar

/-!
# Runtime contexts

A context puts together a narrowed configuration, the system that it describes, and when the work
started. It never changes; what run the work is in is kept beside it.
-/

namespace SiteRuntime

/-- What the runtime works with, over machines with a store of type `μ`. -/
structure Context (μ : Type) where
  /-- The configuration. -/
  config : SiteConfig
  /-- The system that the configuration describes. -/
  system : System μ
  /-- When the work started. -/
  start : Moment

namespace Context

variable {μ : Type}

/-- The context of a configuration; `backendNamed` sets up the module system. -/
def ofConfig (backendNamed : String → Except ModuleError (Backend μ)) (start : Moment)
    (c : SiteConfig) : Except RuntimeError (Context μ) :=
  (System.ofConfig backendNamed c).mapError .fatal |>.map fun system => ⟨c, system, start⟩

/-- The module system of the context. -/
def backend (c : Context μ) : Backend μ := c.system.backend

/-- The value of an option. -/
def option (c : Context μ) (path : String) : Except RuntimeError Json :=
  (c.config.get path).mapError .config

end Context

end SiteRuntime
