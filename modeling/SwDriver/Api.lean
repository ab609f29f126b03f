import SwDriver.ProjectLayout
import SwDriver.Language

set_option autoImplicit false

namespace Sw

open ProjectPath

section Relative

variable (user : String)

end Relative

end Sw
