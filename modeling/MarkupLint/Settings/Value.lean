import MarkupLint.Decimal
import MarkupLint.Ignores
import MarkupLint.Settings.Level

set_option autoImplicit false

namespace MarkupLint

-- A value as a file or a caller gives it; a caller may also give a level and a pattern that have been read.
-- Points in time are of no use to any setting, so only their text and kind are kept.
inductive SettingValue where
  | null
  | flag (value : Bool)
  | whole (value : Int)
  | fraction (value : Binary64)
  | moment (kind text : String)
  | text (value : String)
  | level (value : ReportLevel)
  | pattern (value : MessagePattern)
  | list (items : List SettingValue)
  | table (entries : List (String × SettingValue))
deriving Inhabited

structure FieldFault where
  place : String
  text : String
deriving DecidableEq, Repr

inductive SettingError where
  | invalidLevel
  | notNames
  | invalid (faults : List FieldFault)
deriving DecidableEq, Repr

def SettingError.message : SettingError → String
  | .invalidLevel => "Invalid report level"
  | .notNames => "Not a string or list of strings"
  | .invalid faults => String.intercalate "\n" (faults.map fun fault => fault.place ++ "\n  " ++ fault.text)

namespace SettingValue

def isText : SettingValue → Bool
  | .text _ => true
  | _ => false

def texts? : List SettingValue → Option (List String)
  | [] => some []
  | .text value :: rest => (texts? rest).map (value :: ·)
  | _ :: _ => none

-- Fractions with more than 63 binary digits are not taken for whole numbers.
def whole? : SettingValue → Option Int
  | .whole value => some value
  | .flag value => some (Int.ofNat value.toNat)
  | .fraction value => value.whole?.filter fun whole => decide (whole.natAbs < Nat.pow 2 63)
  | _ => none

end SettingValue

namespace Settings

abbrev NamedValues := List (String × SettingValue)

def given (values : NamedValues) (name : String) : SettingValue := (values.lookup name).getD .null

end Settings

inductive FieldType where
  | text
  | textOrWhole
  | texts
  | textsOrText
deriving DecidableEq, Repr

namespace FieldType

def notText (place : String) : FieldFault := ⟨place, "Input should be a valid string"⟩

def notWhole (place : String) : FieldFault := ⟨place, "Input should be a valid integer"⟩

def notList (place : String) : FieldFault := ⟨place, "Input should be a valid list"⟩

def itemFaults (place : String) (items : List SettingValue) : List FieldFault :=
  items.zipIdx.filterMap fun (item, index) =>
    if item.isText then none else some (notText (place ++ "." ++ toString index))

def check (place : String) : FieldType → SettingValue → Except (List FieldFault) SettingValue
  | _, .null => .ok .null
  | .text, .text value | .textOrWhole, .text value | .textsOrText, .text value => .ok (.text value)
  | .text, _ => .error [notText place]
  | .textOrWhole, value =>
      match value.whole? with
      | some whole => .ok (.whole whole)
      | none => .error [notText (place ++ ".str"), notWhole (place ++ ".int")]
  | .texts, .list items =>
      match itemFaults place items with
      | [] => .ok (.list items)
      | faults => .error faults
  | .texts, _ => .error [notList place]
  | .textsOrText, .list items =>
      match itemFaults (place ++ ".list[str]") items with
      | [] => .ok (.list items)
      | faults => .error (faults ++ [notText (place ++ ".str")])
  | .textsOrText, _ => .error [notList (place ++ ".list[str]"), notText (place ++ ".str")]

-- Values under other names than those of the types are passed over.
def checkAll : List (String × FieldType) → Settings.NamedValues → Except (List FieldFault) Settings.NamedValues
  | [], _ => .ok []
  | (name, type) :: rest, values =>
      match type.check name (Settings.given values name), checkAll rest values with
      | .ok value, .ok others => .ok ((name, value) :: others)
      | .error faults, .error others => .error (faults ++ others)
      | .error faults, .ok _ | .ok _, .error faults => .error faults

end FieldType

end MarkupLint
