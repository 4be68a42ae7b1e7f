import Switchboard.Config.Basic
import Switchboard.Tool

/-!
# Life of a service

What is done with a provider of tools before and after it offers them: it is started with the
configuration, and closed if there is anything to close. The manager knows nothing else about the
services it owns, so it works for services of any type.
-/

namespace Switchboard

/-- What the start of a service comes to. -/
inductive StartOutcome where
  | started
  | failed (failure : Failure)
  /-- The start broke down, with a text or with something else. -/
  | brokeDown (text : Option String)
  deriving Repr, DecidableEq

/-- What can be done with a service besides offering its tools. A service goes by one name for all
of its life, and whether there is anything to close is known before it is started. -/
class Lifecycle (σ : Type) extends Provider σ where
  start : σ → Config → StartOutcome × σ
  /-- How long the start takes. -/
  delay : σ → Nat
  /-- Whether there is anything to close. -/
  isCloseable : σ → Bool
  close : σ → Except Failure Unit × σ
  name_start : ∀ service config, name (start service config).2 = name service
  name_close : ∀ service, name (close service).2 = name service
  isCloseable_start : ∀ service config,
    isCloseable (start service config).2 = isCloseable service

attribute [simp] Lifecycle.name_start Lifecycle.name_close Lifecycle.isCloseable_start

end Switchboard
