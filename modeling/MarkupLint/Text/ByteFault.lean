import MarkupLint.Text.Quoted
import MarkupLint.Text.Utf8

set_option autoImplicit false

namespace MarkupLint.Text

structure ByteFault where
  encoding : String
  bytes : List UInt8
  position : Nat
  reason : String
deriving DecidableEq, Repr

def ByteFault.message (fault : ByteFault) : String :=
  let place := match fault.bytes with
    | [byte] => "byte 0x" ++ String.ofList (hexDigits 2 byte.toNat) ++ " in position "
        ++ toString fault.position
    | bytes => "bytes in position " ++ toString fault.position ++ "-"
        ++ toString (fault.position + bytes.length - 1)
  "'" ++ fault.encoding ++ "' codec can't decode " ++ place ++ ": " ++ fault.reason

def Utf8Fault.message : Utf8Fault → String
  | .badStart => "invalid start byte"
  | .badContinuation => "invalid continuation byte"
  | .truncated => "unexpected end of data"

def Utf8Error.fullFault (error : Utf8Error) : ByteFault :=
  ⟨"utf-8", error.bytes, error.position, error.fault.message⟩

def Utf8Error.message (error : Utf8Error) : String := error.fullFault.message

end MarkupLint.Text
