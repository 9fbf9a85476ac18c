/-!
The receive timeout as text, and how a setting of the environment overrides a default.

A timeout is a plain decimal count of milliseconds. `parse?` reads the longest run of digits,
refuses an empty run and a value beyond 32 bits, and then refuses anything that follows.
-/

set_option autoImplicit false

namespace ModbusTcp.ReceiveTimeout

/-- The largest timeout that a text can give, in milliseconds. -/
def maximum : Nat := 4294967295

/-- The value of a decimal digit. -/
def digitValue (c : Char) : Nat := c.toNat - '0'.toNat

/-- The number that a run of decimal digits continues from `value`. -/
def decimal (value : Nat) (digits : List Char) : Nat :=
  digits.foldl (fun n c => 10 * n + digitValue c) value

/-- The number at the head of a text, with the text after it: the longest run of digits, unless it
is empty or its value exceeds the maximum. -/
def leadingNumber? (text : List Char) : Option (Nat × List Char) :=
  let digits := text.takeWhile Char.isDigit
  let value := decimal 0 digits
  if digits.isEmpty || maximum < value then none
  else some (value, text.dropWhile Char.isDigit)

/-- The timeout that a text gives, in milliseconds (`ParseReceiveTimeout`). -/
def parse? (text : String) : Option Nat :=
  match leadingNumber? text.toList with
  | some (value, []) => some value
  | _ => none

/-- The name of the setting that holds the timeout. -/
def variableName : String := "MODBUS_FRAMING_RECEIVE_TIMEOUT_MS"

/-- The part of a text that the environment keeps: what stands before the first NUL. -/
def environmentText (text : String) : String :=
  String.ofList (text.toList.takeWhile (· ≠ '\x00'))

/-- Whether the environment can hold a variable of this name: it has at least one character and
no equals sign. -/
def isVariableName (name : String) : Bool :=
  let kept := (environmentText name).toList
  !kept.isEmpty && !kept.contains '='

/-- The timeout that the environment gives (`ReceiveTimeoutFromEnvironment`): none if the variable
is unset, empty or malformed. -/
def ofEnvironment? (value : Option String) : Option Nat :=
  match value with
  | none => none
  | some text => if text.isEmpty then none else parse? text

/-- The timeout to use (`ChannelOptionsFromEnvironment`): the environment's if it gives one, else
the default. -/
def orDefault (default : Int64) (value : Option String) : Int64 :=
  match ofEnvironment? value with
  | some milliseconds => Int64.ofNat milliseconds
  | none => default

/-- What a look-up of `name` finds after it was set to `value`: a name that the environment cannot
hold stays unset. -/
def lookup (name : String) (value : Option String) : Option String :=
  if isVariableName name then value.map environmentText else none

end ModbusTcp.ReceiveTimeout
