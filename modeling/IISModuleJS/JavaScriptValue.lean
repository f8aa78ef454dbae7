import IISModuleJS.WideString
import Mathlib.Algebra.Ring.Nat
import Mathlib.Data.Rat.Defs

/-!
# JavaScript values as the native code sees them

The callbacks of the module receive V8 values and inspect them with `IsString`,
`IsNumber` and their like before they convert them through v8pp.  Only what
these inspections and conversions can tell apart is kept: functions, promises
and other objects are represented by an identity.
-/

namespace IISModuleJS

/-- A JavaScript number.  Every finite double is a rational number. -/
inductive JsNumber
  | finite (value : ℚ)
  | infinite (negative : Bool)
  | nan
  deriving DecidableEq

namespace JsNumber

/-- `Int32Value`: round towards zero and reduce modulo `2 ^ 32` into the
signed range; NaN and the infinities give zero. -/
def int32Value : JsNumber → Int
  | .finite value => (value.num.tdiv value.den).bmod (2 ^ 32)
  | .infinite _ => 0
  | .nan => 0

end JsNumber

/-- A `Uint8Array`: a window into its underlying buffer. -/
structure Uint8Array where
  buffer : List UInt8
  byteOffset : Nat
  length : Nat
  inBounds : byteOffset + length ≤ buffer.length
  deriving DecidableEq

inductive JsValue
  | undefined
  | null
  | boolean (value : Bool)
  | number (value : JsNumber)
  | string (units : WString)
  | uint8Array (view : Uint8Array)
  | function (identity : Nat)
  | promise (identity : Nat)
  | object (identity : Nat)
  deriving DecidableEq

namespace JsValue

/-- `args[index]`: a missing argument reads as `undefined`. -/
def argument (args : List JsValue) (index : Nat) : JsValue :=
  args.getD index .undefined

def isNumber : JsValue → Bool
  | .number _ => true
  | _ => false

def isFunction : JsValue → Bool
  | .function _ => true
  | _ => false

/-- `from_v8<int>(value, 0)`: anything but a number converts to the
default. -/
def intOrZero : JsValue → Int
  | .number value => value.int32Value
  | _ => 0

/-- An optional flag as the API reads it: `args.Length() > index`, the argument
is a boolean, and it is `true`. -/
def optionalFlag (args : List JsValue) (index : Nat) : Bool :=
  decide (index < args.length) && argument args index == .boolean true

end JsValue

/-- How a call of a native function ends: it returns to the script, it throws,
V8 ends the process, or nothing is known because memory was read or written
that must not be. -/
inductive CallEnding
  | returns (value : JsValue)
  | throws (message : String)
  | aborts
  | undefinedBehavior
  deriving DecidableEq

/-- The process goes on after a call. -/
def CallEnding.goesOn : CallEnding → Bool
  | .returns _ => true
  | .throws _ => true
  | .aborts => false
  | .undefinedBehavior => false

end IISModuleJS
