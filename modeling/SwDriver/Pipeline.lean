import SwDriver.Detect
import SwDriver.Binding

set_option autoImplicit false

namespace Sw

-- From detectNativeCompilers to the command a source file gets.

@[simp] theorem detectedCompiler_kind (defaults : ToolDefaults) (kind : CompilerKind) (file : Path) :
    (detectedCompiler defaults kind file).kind = kind := rfl

@[simp] theorem detectedCompiler_cmd (defaults : ToolDefaults) (kind : CompilerKind) (file : Path) :
    (detectedCompiler defaults kind file).cmd = none := rfl

section Pipeline

variable (defaults : ToolDefaults) (host : PosixHost) (heap : Nat)

end Pipeline

end Sw
