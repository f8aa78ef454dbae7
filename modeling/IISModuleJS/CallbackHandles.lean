import IISModuleJS.JavaScriptValue

/-!
# The registered callbacks

Scripts register one function for each kind of notification.  The functions
live in global handles that `register` and `fs.register` set and that
`reset_engine` clears.
-/

namespace IISModuleJS

/-- `CALLBACK_TYPES`. -/
inductive CallbackType
  | beginRequest
  | sendResponse
  | preBeginRequest
  deriving DecidableEq

namespace CallbackType

/-- The callback type with a given number, for the `switch` in `register`. -/
def ofInt (value : Int) : Option CallbackType :=
  if value = 0 then some .beginRequest
  else if value = 1 then some .sendResponse
  else if value = 2 then some .preBeginRequest
  else none

end CallbackType

/-- The four global function handles; `none` is an empty handle. -/
structure FunctionHandles where
  preBeginRequest : Option JsValue
  beginRequest : Option JsValue
  directoryChange : Option JsValue
  sendResponse : Option JsValue
  deriving DecidableEq

namespace FunctionHandles

open JsValue

/-- All handles empty: at start-up, and after `reset_engine`. -/
def empty : FunctionHandles :=
  ⟨none, none, none, none⟩

/-- The handle that `handle_callback` selects. -/
def callbackFunction (handles : FunctionHandles) :
    CallbackType → Option JsValue
  | .beginRequest => handles.beginRequest
  | .sendResponse => handles.sendResponse
  | .preBeginRequest => handles.preBeginRequest

def setCallback (handles : FunctionHandles) (function : JsValue) :
    CallbackType → FunctionHandles
  | .beginRequest => { handles with beginRequest := some function }
  | .sendResponse => { handles with sendResponse := some function }
  | .preBeginRequest => { handles with preBeginRequest := some function }

/-- `register`. -/
def register (args : List JsValue) (handles : FunctionHandles) :
    Except String FunctionHandles :=
  if args.length < 1 then
    .error "invalid function signature for register"
  else if args.length = 1 ∧ (argument args 0).isFunction then
    .ok (handles.setCallback (argument args 0) .beginRequest)
  else if !(argument args 0).isNumber || !(argument args 1).isFunction then
    .error "invalid function signature 2 for register"
  else
    match CallbackType.ofInt (argument args 0).intOrZero with
    | some type => .ok (handles.setCallback (argument args 1) type)
    | none => .error "invalid callback type for register"

/-- `fs.register`, which casts its argument without a check. -/
def fsRegister (args : List JsValue) (handles : FunctionHandles) :
    Except String FunctionHandles :=
  if args.length < 1 then
    .error "invalid function signature for fs.register"
  else
    .ok { handles with directoryChange := some (argument args 0) }

@[simp]
theorem callbackFunction_empty (type : CallbackType) :
    empty.callbackFunction type = none := by
  cases type <;> rfl

theorem callbackFunction_setCallback (handles : FunctionHandles)
    (function : JsValue) (type other : CallbackType) :
    (handles.setCallback function type).callbackFunction other =
      if other = type then some function
      else handles.callbackFunction other := by
  cases type <;> cases other <;> rfl

/-- A successful `register` call sets one callback and leaves the others. -/
theorem exists_of_register {args : List JsValue}
    {handles next : FunctionHandles}
    (registered : register args handles = .ok next) :
    ∃ function type, next = handles.setCallback function type := by
  unfold register at registered
  split at registered
  · cases registered
  · split at registered
    · cases registered
      exact ⟨_, _, rfl⟩
    · split at registered
      · cases registered
      · split at registered
        · cases registered
          exact ⟨_, _, rfl⟩
        · cases registered

theorem isSome_of_register {args : List JsValue}
    {handles next : FunctionHandles} {type : CallbackType}
    (registered : register args handles = .ok next)
    (nonempty : (handles.callbackFunction type).isSome) :
    (next.callbackFunction type).isSome := by
  obtain ⟨function, set, rfl⟩ := exists_of_register registered
  rw [callbackFunction_setCallback]
  split
  · rfl
  · exact nonempty

theorem callbackFunction_fsRegister {args : List JsValue}
    {handles next : FunctionHandles}
    (registered : fsRegister args handles = .ok next)
    (type : CallbackType) :
    next.callbackFunction type = handles.callbackFunction type := by
  unfold fsRegister at registered
  split at registered
  · cases registered
  · cases registered
    cases type <;> rfl

end FunctionHandles

end IISModuleJS
