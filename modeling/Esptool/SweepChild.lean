import Esptool.ProcessTree

/-!
# What a child of the sweep reports

A child of the sweep is a process of the tool like any other: it parses its
arguments, prepares its token, loads the library it was given and calls one
export.  Its parent sees the exit code only.
-/

namespace Esptool.Process

open Model Esp Cli Text Interaction

section

variable {Token : Type} (host : ToolHost Token)

end

end Esptool.Process
