set_option autoImplicit false

namespace MarkupLint

inductive LogLevel where
  | info
  | warning
  | error
deriving DecidableEq, Repr

structure LogLine where
  level : LogLevel
  text : String
deriving DecidableEq, Repr

end MarkupLint
