import Kufibot.Messages

/-!
# `Controllers.Controller` — the flags every controller has
-/

namespace Kufibot

/-- `_enable` and `_initialized` of `Controller`. -/
structure Controller where
  enable : Bool := true
  initialized : Bool := false
deriving DecidableEq, Repr

namespace Controller

def setEnable (enable : Bool) (c : Controller) : Controller := { c with enable := enable }

def isEnabled (c : Controller) : Bool := c.enable

def isReady (c : Controller) : Bool := c.initialized

end Controller

end Kufibot
