import Templating.Engine

/-!
# Layers of variables

System variables are there for all. The configuration is resolved against them, and the action
against them, the resolved configuration and the outputs of the action before; where names meet, the
later of these wins.
-/

namespace Templating

structure Layers where
  system : Bindings
  config : Bindings
  action : Bindings
  outputs : Bindings

/-- The name under which the current instant is known. -/
def nowName : String := "now"

namespace Engine

/-- The system variables, with the current instant if the settings ask for it. -/
def systemScope (engine : Engine) (system : Bindings) : Bindings :=
  if engine.settings.injectNow then system.insert nowName (.timestamp engine.now) else system

/-- What the templates of the action see next to its own entries. -/
def actionScope (system config outputs : Bindings) : Bindings :=
  (system.extend config).extend outputs

/-- The resolved configuration with the resolved action laid over it. -/
def resolveLayers (engine : Engine) (cancellation : Cancellation) (layers : Layers) :
    Traced Bindings :=
  let system := engine.systemScope layers.system
  let config := engine.resolve cancellation system layers.config
  config.andThen fun resolved =>
    (engine.resolve (cancellation.after config.calls)
      (actionScope system resolved layers.outputs) layers.action).map resolved.extend

end Engine

end Templating
