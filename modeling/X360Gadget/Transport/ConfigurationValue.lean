import X360Gadget.Transport.ControlDiscipline
import X360Gadget.Transport.EndpointTable

/-!
# The value of a SET_CONFIGURATION

The handler decodes `wValue` and then looks at it for descriptors only. Every
SET_CONFIGURATION selects the one configuration there is, whatever its value, so
`ready` says that one was handled since the last detach and not which.
-/

namespace X360Gadget.Transport

open X360Gadget.Descriptors X360Gadget.Kernel X360Gadget.Std

variable {K : Type}

end X360Gadget.Transport
