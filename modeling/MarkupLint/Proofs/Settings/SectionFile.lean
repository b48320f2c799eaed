import MarkupLint.Proofs.Settings.Loading
import MarkupLint.Proofs.Settings.Merge

set_option autoImplicit false

namespace MarkupLint.Settings

open Loading

section Load

variable [ForeignPatterns]

end Load

end MarkupLint.Settings
