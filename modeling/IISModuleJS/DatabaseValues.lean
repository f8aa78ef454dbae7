import IISModuleJS.DatabaseCalls
import IISModuleJS.GzipStreams

/-!
# Values in statements and rows

`bind` converts a value of a script and gives it to the library under a
placeholder, and `fetch` converts a column of a row back.  Of a string the
library keeps a reference until the statement is executed, and it asks that the
string remain valid so long; but the string of `bind` is a local variable of
the function.  So a statement must not be executed while a placeholder holds a
text.  All other values are still there, and a script that fetches them from a
row gets them back.
-/

namespace IISModuleJS

namespace DatabaseValues

open DatabaseCalls JsValue TextEncoding ScheduledMachine
open GzipStreams (isInt32 stringEnding)

/-- `IsInt32` of any value. -/
def isInt32Value : JsValue → Bool
  | .number value => isInt32 value
  | _ => false

section Arguments

variable (toText : JsValue → Option WString)

/-- What `bind` makes of a value.  `toText` is `ToString`, which may throw. -/
def boundValue : JsValue → Except String BoundValue
  | .string units => .ok (.text (encodeUtf8 units))
  | .number value =>
      .ok (if isInt32 value then .integer value.int32Value else .double value)
  | .boolean value => .ok (.boolean value)
  | .null => .ok .null
  | .undefined => .ok .null
  | value =>
      match toText value with
      | some units => .ok (.text (encodeUtf8 units))
      | none => .error "invalid type provided."

/-- The index, if there are two arguments, and the value. -/
def bindArguments (args : List JsValue) :
    Except String (Option Int × BoundValue) :=
  if args.length < 1 then .error "not enough arugments for bind"
  else if args.length = 1 then
    (boundValue toText (argument args 0)).map fun value => (none, value)
  else if isInt32Value (argument args 0) then
    (boundValue toText (argument args 1)).map fun value =>
      (some (intOrZero (argument args 0)), value)
  else .error "invalid index type for bind"

/-- The arguments of `prepare`. -/
def prepareArguments (args : List JsValue) : Except String (List UInt8) :=
  if args.length < 1 then .error "invalid function signature for prepare"
  else
    match argument args 0 with
    | .string units => .ok (encodeUtf8 units)
    | _ => .error "invalid first parameter, must be a string for prepare"

end Arguments

/-- What the library keeps for a placeholder.  A `bool` is passed as an
`int`. -/
inductive Parameter
  | reference (address : Nat)
  | integer (value : Int)
  | double (value : JsNumber)
  | null
  deriving DecidableEq

/-- A `cppdb::statement`, and the strings that are alive in the functions of the
module. -/
structure Native where
  query : Option (List UInt8)
  parameters : Int → Option Parameter
  placeholder : Int
  strings : Nat → Option (List UInt8)
  allocated : Nat

namespace Native

def initial : Native where
  query := none
  parameters := fun _ => none
  placeholder := 1
  strings := fun _ => none
  allocated := 0

/-- A local `std::string`. -/
def create (native : Native) (bytes : List UInt8) : Native where
  query := native.query
  parameters := native.parameters
  placeholder := native.placeholder
  strings := Function.update native.strings native.allocated (some bytes)
  allocated := native.allocated + 1

/-- The end of its scope. -/
def destroy (native : Native) (address : Nat) : Native :=
  { native with strings := Function.update native.strings address none }

/-- `statement.bind` with or without an index. -/
def place (native : Native) (parameter : Parameter) : Option Int → Native
  | none =>
      { native with
        parameters :=
          Function.update native.parameters native.placeholder (some parameter)
        placeholder := native.placeholder + 1 }
  | some index =>
      { native with
        parameters :=
          Function.update native.parameters index (some parameter) }

/-- The branches of `bind`. -/
def bind (native : Native) (index : Option Int) : BoundValue → Native
  | .text bytes =>
      ((native.create bytes).place (.reference native.allocated) index).destroy
        native.allocated
  | .integer value => native.place (.integer value) index
  | .boolean value => native.place (.integer value.toInt) index
  | .double value => native.place (.double value) index
  | .null => native.place .null index

/-- A statement without bindings. -/
def fresh (native : Native) (query : Option (List UInt8)) : Native :=
  { native with
    query := query
    parameters := fun _ => none
    placeholder := 1 }

end Native

/-- What the documentation of the library leaves to it: how many placeholders a
query has, and the text of the exception of an empty statement. -/
structure Library where
  placeholders : List UInt8 → Nat
  emptyStatement : String

/-- The functions of a database object that change its statement.  `refusal` is
the exception of the library, if it takes no such query. -/
inductive Call
  | prepare (args : List JsValue) (refusal : Option String)
  | bind (args : List JsValue)
  | reset
  | close

section Machine

variable (toText : JsValue → Option WString) (library : Library)

/-- `bind`.  The documentation does not say what becomes of a placeholder that
is not in the query. -/
def callBind (native : Native) (args : List JsValue) :
    Option (CallEnding × Native) :=
  match bindArguments toText args with
  | .error message => some (.throws message, native)
  | .ok (index, value) =>
      match native.query with
      | none => some (.throws library.emptyStatement, native)
      | some query =>
          if 1 ≤ index.getD native.placeholder ∧
              index.getD native.placeholder ≤ library.placeholders query then
            some (.returns .undefined, native.bind index value)
          else none

def perform (native : Native) : Call → Option (CallEnding × Native)
  | .prepare args refusal =>
      match prepareArguments args with
      | .error message => some (.throws message, native)
      | .ok query =>
          match refusal with
          | some what => some (.throws what, native)
          | none => some (.returns .undefined, native.fresh (some query))
  | .bind args => callBind toText library native args
  | .reset =>
      if native.query.isNone then
        some (.throws library.emptyStatement, native)
      else some (.returns .undefined, native.fresh native.query)
  | .close => some (.returns .undefined, native.fresh none)

def step (native : Native) (call : Call) : Option Native :=
  (perform toText library native call).map Prod.snd

/-- The call as it changes the statement that the script has in mind. -/
def Call.meaning : Call → Option ScriptCall
  | .prepare args refusal =>
      (prepareArguments args).toOption.map fun query =>
        .prepare query refusal.isNone
  | .bind args =>
      (bindArguments toText args).toOption.map fun bound =>
        .bind bound.1 bound.2 true
  | .reset => some .reset
  | .close => some .close

def apply (context : DbContext) (call : Call) : DbContext :=
  match call.meaning toText with
  | some scriptCall => context.apply scriptCall
  | none => context

/-- The statement that the script has in mind, after calls on a new object. -/
def intended (calls : List Call) : Statement :=
  (calls.foldl (apply toText) (DbContext.mk .empty none)).statement

end Machine

inductive Cell
  | text (bytes : List UInt8)
  | integer (value : Int)
  | double (value : JsNumber)
  | null
  deriving DecidableEq

/-- The value under a parameter, if it is not a reference to a string that is
gone. -/
def Native.read (native : Native) : Parameter → Option Cell
  | .reference address => (native.strings address).map .text
  | .integer value => some (.integer value)
  | .double value => some (.double value)
  | .null => some .null

/-- The statement may be executed: all its strings are alive. -/
def Native.Readable (native : Native) : Prop :=
  ∀ placeholder parameter, native.parameters placeholder = some parameter →
    (native.read parameter).isSome

/-- The cell that a value would fill. -/
def cell : BoundValue → Cell
  | .text bytes => .text bytes
  | .integer value => .integer value
  | .boolean value => .integer value.toInt
  | .double value => .double value
  | .null => .null

def isText : BoundValue → Bool
  | .text _ => true
  | _ => false

/-- The parameter of a bound value; a text is at some address. -/
def parameter (address : Nat) : BoundValue → Parameter
  | .text _ => .reference address
  | .integer value => .integer value
  | .boolean value => .integer value.toInt
  | .double value => .double value
  | .null => .null

/-- Between two calls, the library holds what the script has in mind, up to the
texts, of which it holds addresses where no string is alive. -/
structure Represents (native : Native) (statement : Statement) : Prop where
  query : native.query = statement.query
  placeholder : native.placeholder = statement.placeholder
  parameters : ∀ index, ∃ address,
    native.parameters index = (statement.bindings index).map (parameter address)
  dead : ∀ address, native.strings address = none

theorem represents_initial : Represents .initial .empty where
  query := rfl
  placeholder := rfl
  parameters := fun _ => ⟨0, rfl⟩
  dead := fun _ => rfl

theorem represents_fresh {native : Native} {statement : Statement}
    (represents : Represents native statement) (query : Option (List UInt8)) :
    Represents (native.fresh query) ⟨⟨query, fun _ => none⟩, 1⟩ where
  query := rfl
  placeholder := rfl
  parameters := fun _ => ⟨0, rfl⟩
  dead := represents.dead

theorem place_strings (native : Native) (parameter : Parameter)
    (index : Option Int) :
    (native.place parameter index).strings = native.strings := by
  cases index with
  | none => rfl
  | some index => rfl

/-- The string of a text is gone when `bind` returns. -/
theorem bind_dead {native : Native}
    (dead : ∀ address, native.strings address = none) (index : Option Int)
    (value : BoundValue) (address : Nat) :
    (native.bind index value).strings address = none := by
  cases value with
  | text bytes =>
      rw [Native.bind, Native.destroy, place_strings, Native.create]
      dsimp only
      rw [Function.update_idem]
      by_cases own : address = native.allocated
      · rw [own, Function.update_self]
      · rw [Function.update_of_ne own, dead]
  | integer number => rw [Native.bind, place_strings, dead]
  | boolean flag => rw [Native.bind, place_strings, dead]
  | double number => rw [Native.bind, place_strings, dead]
  | null => rw [Native.bind, place_strings, dead]

/-- To bind a value is to place its parameter. -/
theorem bind_eq_place (native : Native) (index : Option Int)
    (value : BoundValue) :
    (native.bind index value).query = native.query ∧
      (native.bind index value).placeholder =
        (native.place (parameter native.allocated value) index).placeholder ∧
      (native.bind index value).parameters =
        (native.place (parameter native.allocated value) index).parameters := by
  cases index with
  | none => cases value <;> exact ⟨rfl, rfl, rfl⟩
  | some index => cases value <;> exact ⟨rfl, rfl, rfl⟩

/-- A placed parameter represents a bound value. -/
theorem represents_bind {native : Native} {statement : Statement}
    (represents : Represents native statement) (value : BoundValue)
    (index : Option Int) :
    Represents (native.bind index value) (statement.bind value index) := by
  obtain ⟨query, placeholder, parameters⟩ := bind_eq_place native index value
  have updated (target position : Int) :
      ∃ address, Function.update native.parameters target
          (some (parameter native.allocated value)) position =
        (Function.update statement.bindings target (some value) position).map
          (parameter address) := by
    by_cases hits : position = target
    · refine ⟨native.allocated, ?_⟩
      rw [hits, Function.update_self, Function.update_self, Option.map_some]
    · rw [Function.update_of_ne hits, Function.update_of_ne hits]
      exact represents.parameters position
  refine ⟨?_, ?_, ?_, bind_dead represents.dead index value⟩
  · rw [query, represents.query]
    cases index with
    | none => rfl
    | some index => rfl
  · rw [placeholder]
    cases index with
    | none => exact congrArg (· + 1) represents.placeholder
    | some index => exact represents.placeholder
  · rw [parameters]
    cases index with
    | none =>
        have same := represents.placeholder
        rw [Native.place, Statement.bind, ← same]
        exact updated native.placeholder
    | some index => exact updated index

section Machine

variable {toText : JsValue → Option WString} {library : Library}

/-- What a call does to the statement of the library represents what it does to
the statement that the script has in mind. -/
theorem represents_of_step {native next : Native} {context : DbContext}
    {call : Call} (represents : Represents native context.statement)
    (stepTo : step toText library native call = some next) :
    Represents next (apply toText context call).statement := by
  obtain ⟨⟨ending, after⟩, performs, rfl⟩ := Option.map_eq_some_iff.mp stepTo
  cases call with
  | prepare args refusal =>
      rw [apply, Call.meaning]
      cases checked : prepareArguments args with
      | error message =>
          simp only [perform, checked, Option.some.injEq,
            Prod.mk.injEq] at performs
          rw [← performs.2]
          exact represents
      | ok query =>
          cases refusal with
          | some what =>
              simp only [perform, checked, Option.some.injEq,
                Prod.mk.injEq] at performs
              rw [← performs.2]
              exact represents
          | none =>
              simp only [perform, checked, Option.some.injEq,
                Prod.mk.injEq] at performs
              rw [← performs.2]
              exact represents_fresh represents (some query)
  | bind args =>
      rw [apply, Call.meaning]
      rw [perform, callBind] at performs
      cases checked : bindArguments toText args with
      | error message =>
          simp only [checked, Option.some.injEq, Prod.mk.injEq] at performs
          rw [← performs.2]
          exact represents
      | ok bound =>
          obtain ⟨index, value⟩ := bound
          cases prepared : native.query with
          | none =>
              simp only [checked, prepared, Option.some.injEq,
                Prod.mk.injEq] at performs
              have empty : context.statement.isEmpty = true := by
                rw [Statement.isEmpty, ← represents.query, prepared]
                rfl
              rw [← performs.2]
              simpa [Except.toOption, DbContext.apply, empty] using represents
          | some query =>
              simp only [checked, prepared] at performs
              have present : context.statement.isEmpty = false := by
                rw [Statement.isEmpty, ← represents.query, prepared]
                rfl
              split at performs
              · cases performs
                simpa [Except.toOption, DbContext.apply, present] using
                  represents_bind represents value index
              · cases performs
  | reset =>
      rw [perform] at performs
      have same : context.statement.isEmpty = native.query.isNone := by
        rw [Statement.isEmpty, represents.query]
      split at performs
      · rename_i empty
        cases performs
        simpa [apply, Call.meaning, DbContext.apply, same, empty] using
          represents
      · rename_i present
        cases performs
        have reset : (apply toText context .reset).statement =
            ⟨⟨native.query, fun _ => none⟩, 1⟩ := by
          rw [apply, Call.meaning]
          dsimp only
          rw [DbContext.apply, if_neg (by rwa [same]), represents.query]
          rfl
        rw [reset]
        exact represents_fresh represents native.query
  | close =>
      cases performs
      exact represents_fresh represents none

theorem represents_of_run {native next : Native} {context : DbContext}
    {calls : List Call} (represents : Represents native context.statement)
    (runs : run (step toText library) native calls = some next) :
    Represents next (calls.foldl (apply toText) context).statement := by
  induction calls generalizing native context with
  | nil =>
      cases runs
      exact represents
  | cons call calls ih =>
      obtain ⟨between, stepTo, rest⟩ := run_cons_eq_some.mp runs
      exact ih (represents_of_step represents stepTo) rest

end Machine

/-- Exactly the texts are gone. -/
theorem read_parameter {native : Native}
    (dead : ∀ address, native.strings address = none) (address : Nat)
    (value : BoundValue) :
    native.read (parameter address value) =
      if isText value then none else some (cell value) := by
  cases value with
  | text bytes =>
      rw [parameter, Native.read, dead]
      rfl
  | integer number => rfl
  | boolean flag => rfl
  | double number => rfl
  | null => rfl

/-- What an execution reads under a placeholder, if something is there. -/
def Native.readAt (native : Native) (placeholder : Int) : Option (Option Cell) :=
  (native.parameters placeholder).map native.read

theorem readAt_eq {native : Native} {statement : Statement}
    (represents : Represents native statement) (placeholder : Int) :
    native.readAt placeholder =
      (statement.bindings placeholder).map fun value =>
        if isText value then none else some (cell value) := by
  obtain ⟨address, holds⟩ := represents.parameters placeholder
  rw [Native.readAt, holds, Option.map_map]
  congr 1
  funext value
  exact read_parameter represents.dead address value

theorem readable_iff_readAt {native : Native} :
    native.Readable ↔ ∀ placeholder, native.readAt placeholder ≠ some none := by
  constructor
  · intro readable placeholder reads
    obtain ⟨parameter, holds, gone⟩ := Option.map_eq_some_iff.mp reads
    have alive := readable placeholder parameter holds
    rw [gone] at alive
    cases alive
  · intro reads placeholder parameter holds
    rw [Option.isSome_iff_ne_none]
    intro gone
    apply reads placeholder
    rw [Native.readAt, holds, Option.map_some, gone]

theorem readAt_of_run {toText : JsValue → Option WString}
    {library : Library} {calls : List Call} {native : Native}
    (runs : run (step toText library) .initial calls = some native)
    (placeholder : Int) :
    native.readAt placeholder =
      ((intended toText calls).bindings placeholder).map fun value =>
        if isText value then none else some (cell value) :=
  readAt_eq (@represents_of_run _ _ _ _ (.mk .empty none) _
    represents_initial runs) placeholder

/-- After any calls on a new object, the statement may be executed exactly if
the script has bound no text that it has not replaced, reset or closed; and
under each placeholder the library reads the value that was bound, unless that
is a text. -/
theorem readable_iff_of_run {toText : JsValue → Option WString}
    {library : Library} {calls : List Call} {native : Native}
    (runs : run (step toText library) .initial calls = some native) :
    (native.Readable ↔ ∀ placeholder bytes,
      (intended toText calls).bindings placeholder ≠ some (.text bytes)) ∧
    ∀ placeholder, native.readAt placeholder =
      ((intended toText calls).bindings placeholder).map fun value =>
        if isText value then none else some (cell value) := by
  have reads := readAt_of_run runs
  refine ⟨?_, reads⟩
  rw [readable_iff_readAt]
  constructor
  · intro readable placeholder bytes bound
    apply readable placeholder
    rw [reads, bound]
    rfl
  · intro plain placeholder gone
    rw [reads] at gone
    obtain ⟨value, bound, text⟩ := Option.map_eq_some_iff.mp gone
    cases value with
    | text bytes => exact plain placeholder bytes bound
    | integer number => cases text
    | boolean flag => cases text
    | double number => cases text
    | null => cases text

def sampleLibrary : Library :=
  ⟨fun _ => 2, "empty statement"⟩

/-- A text and a number are bound. -/
def sampleBinds : List (List JsValue) :=
  [[.string [0x61]], [.number (.finite 7)]]

def sampleCalls : List Call :=
  [] ++ .prepare [.string [0x3F]] none :: sampleBinds.map .bind

/-- The number can be read and the text cannot, so that the statement must not
be executed. -/
theorem readable_iff_sample :
    ∃ native, run (step (fun _ => none) sampleLibrary) .initial sampleCalls =
        some native ∧ ¬ native.Readable ∧
      native.readAt 2 = some (some (.integer 7)) := by
  obtain ⟨native, runs⟩ : ∃ native,
      run (step (fun _ => none) sampleLibrary) .initial sampleCalls =
        some native := ⟨_, rfl⟩
  refine ⟨native, runs, ?_, ?_⟩
  · intro readable
    exact (readable_iff_of_run runs).1.mp readable 1 [0x61] rfl
  · rw [(readable_iff_of_run runs).2]
    rfl

inductive Column
  | name (text : List UInt8)
  | index (position : Int)

/-- `DB_CONTEXT->result` in its current row.  Every function may throw. -/
structure Row where
  isNull : Column → Except String Bool
  getString : Column → Except String (List UInt8)
  getInt : Column → Except String Int
  getDouble : Column → Except String JsNumber

/-- `DB_DATA_TYPES`. -/
inductive DataType
  | string
  | integer
  | double
  | bool
  | binary
  deriving DecidableEq

def DataType.code : DataType → Int
  | .string => 0
  | .integer => 1
  | .double => 2
  | .bool => 3
  | .binary => 4

/-- The column that an argument names. -/
def column : JsValue → Except String Column
  | .string units => .ok (.name (encodeUtf8 units))
  | .number value =>
      if isInt32 value then .ok (.index value.int32Value)
      else .error
        "invalid second parameter must be an integer (32-bit only) or string"
  | _ =>
      .error
        "invalid second parameter must be an integer (32-bit only) or string"

/-- Return what the library gives, or pass its exception on. -/
def returned {Value : Type} (toV8 : Value → CallEnding) :
    Except String Value → CallEnding
  | .error what => .throws what
  | .ok value => toV8 value

def numberEnding (value : Int) : CallEnding :=
  .returns (.number (.finite value))

/-- The `switch` of `fetch`. -/
def fetchValue (row : Row) (type : Int) (column : Column) : CallEnding :=
  if type = DataType.string.code then
    returned (fun bytes => stringEnding (RequestBody.toV8 bytes))
      (row.getString column)
  else if type = DataType.integer.code then
    returned numberEnding (row.getInt column)
  else if type = DataType.double.code then
    returned (fun value => .returns (.number value)) (row.getDouble column)
  else if type = DataType.bool.code then
    returned (fun value => .returns (.boolean (value != 0)))
      (row.getInt column)
  else .throws "unknown data type for fetch"

/-- `fetch`. -/
def fetch (row : Row) (args : List JsValue) : CallEnding :=
  if args.length < 2 then .throws "not enough arugments for fetch"
  else if !isInt32Value (argument args 0) then
    .throws "invalid first parameter must be an integer (32-bit only)"
  else
    match column (argument args 1) with
    | .error message => .throws message
    | .ok column =>
        returned
          (fun isNull =>
            if isNull then .returns .null
            else fetchValue row (intOrZero (argument args 0)) column)
          (row.isNull column)

/-- The row has a cell in a column. -/
def Row.Holds (row : Row) (column : Column) : Cell → Prop
  | .null => row.isNull column = .ok true
  | .text bytes =>
      row.isNull column = .ok false ∧ row.getString column = .ok bytes
  | .integer value =>
      row.isNull column = .ok false ∧ row.getInt column = .ok value
  | .double value =>
      row.isNull column = .ok false ∧ row.getDouble column = .ok value

/-- The values that `bind` does not turn into a text. -/
def isPlain : JsValue → Bool
  | .undefined => true
  | .null => true
  | .boolean _ => true
  | .number _ => true
  | _ => false

/-- The type under which a script fetches a value; a null has every type. -/
def Suits (type : JsNumber) : JsValue → Prop
  | .number value =>
      type = .finite (if isInt32 value then DataType.integer.code
        else DataType.double.code)
  | .boolean _ => type = .finite DataType.bool.code
  | _ => isInt32 type = true

/-- What a script gets back for a value. -/
def received : JsValue → JsValue
  | .undefined => .null
  | value => value

/-- An integer that is one of 32 bits is its own conversion. -/
theorem finite_int32Value {value : JsNumber} (small : isInt32 value = true) :
    JsNumber.finite (value.int32Value : ℚ) = value := by
  cases value with
  | finite value =>
      simp only [isInt32, Bool.and_eq_true, beq_iff_eq,
        decide_eq_true_eq] at small
      obtain ⟨⟨whole, lower⟩, upper⟩ := small
      have int : (value.num : ℚ) = value := Rat.coe_int_num_of_den_eq_one whole
      have same : (JsNumber.finite value).int32Value = value.num := by
        rw [JsNumber.int32Value, whole, Int.ofNat_one, Int.tdiv_one]
        exact Int.bmod_eq_of_le (by omega) (by omega)
      rw [same, int]
  | infinite negative => cases small
  | nan => cases small

theorem isInt32_of_suits {type : JsNumber} {value : JsValue}
    (suits : Suits type value) : isInt32 type = true := by
  cases value with
  | number value =>
      rw [Suits] at suits
      rw [suits]
      split <;> rfl
  | boolean flag =>
      rw [Suits] at suits
      rw [suits]
      rfl
  | _ => exact suits

/-- A script fetches what the library holds. -/
theorem fetch_of_holds {toText : JsValue → Option WString} {row : Row}
    {place : JsValue} {position : Column} {value : JsValue}
    {bound : BoundValue} {type : JsNumber}
    (named : column place = .ok position) (plain : isPlain value = true)
    (converts : boundValue toText value = .ok bound)
    (holds : row.Holds position (cell bound)) (suits : Suits type value) :
    fetch row [.number type, place] = .returns (received value) := by
  have start : fetch row [.number type, place] =
      returned
        (fun isNull =>
          if isNull then .returns .null
          else fetchValue row type.int32Value position)
        (row.isNull position) := by
    have typed : isInt32Value (.number type) = true := isInt32_of_suits suits
    rw [fetch, if_neg (by simp)]
    change (if !isInt32Value (.number type) then _ else _) = _
    rw [typed, if_neg (by simp)]
    change (match column place with | .error _ => _ | .ok _ => _) = _
    rw [named]
    rfl
  rw [start]
  cases value with
  | undefined =>
      cases converts
      rw [Row.Holds.eq_def] at holds
      rw [holds]
      rfl
  | null =>
      cases converts
      rw [Row.Holds.eq_def] at holds
      rw [holds]
      rfl
  | boolean flag =>
      cases converts
      obtain ⟨present, content⟩ := holds
      rw [Suits] at suits
      rw [present, suits]
      change fetchValue row DataType.bool.code position = _
      rw [fetchValue, content]
      cases flag <;> rfl
  | number number =>
      rw [Suits] at suits
      cases small : isInt32 number with
      | true =>
          rw [boundValue, small] at converts
          cases converts
          obtain ⟨present, content⟩ := holds
          rw [present, suits, small]
          change fetchValue row DataType.integer.code position = _
          rw [fetchValue, content]
          exact congrArg (CallEnding.returns ∘ JsValue.number)
            (finite_int32Value small)
      | false =>
          rw [boundValue, small] at converts
          cases converts
          obtain ⟨present, content⟩ := holds
          rw [present, suits, small]
          change fetchValue row DataType.double.code position = _
          rw [fetchValue, content]
          rfl
  | _ => cases plain

section Assignments

variable (toText : JsValue → Option WString)

/-- The placeholders that calls of `bind` fill, and their values, when the next
call without an index fills placeholder `next`.  A call that throws for its
arguments fills none. -/
def assignments (next : Int) : List (List JsValue) → List (Int × JsValue)
  | [] => []
  | args :: calls =>
      match bindArguments toText args with
      | .error _ => assignments next calls
      | .ok (none, _) =>
          (next, argument args 0) :: assignments (next + 1) calls
      | .ok (some index, _) =>
          (index, argument args 1) :: assignments next calls

/-- The value that was assigned last to a placeholder. -/
def assigned (next : Int) (calls : List (List JsValue)) (placeholder : Int) :
    Option JsValue :=
  (assignments toText next calls).reverse.lookup placeholder

end Assignments

section Assigned

variable {toText : JsValue → Option WString}

theorem boundValue_of_bindArguments {args : List JsValue} {index : Option Int}
    {bound : BoundValue}
    (converts : bindArguments toText args = .ok (index, bound)) :
    boundValue toText (argument args index.toList.length) = .ok bound := by
  rw [bindArguments] at converts
  have mapped {first second : Option Int} {converted : Except String BoundValue}
      (equal : converted.map (fun value => (first, value)) =
        .ok (second, bound)) : first = second ∧ converted = .ok bound := by
    cases converted with
    | error message => cases equal
    | ok value =>
        cases equal
        exact ⟨rfl, rfl⟩
  split at converts
  · cases converts
  · split at converts
    · obtain ⟨rfl, converted⟩ := mapped converts
      exact converted
    · split at converts
      · obtain ⟨rfl, converted⟩ := mapped converts
        exact converted
      · cases converts

theorem lookup_reverse_cons (target placeholder : Int) (value : JsValue)
    (pairs : List (Int × JsValue)) :
    ((target, value) :: pairs).reverse.lookup placeholder =
      (pairs.reverse.lookup placeholder).or
        (if placeholder = target then some value else none) := by
  rw [List.reverse_cons, List.lookup_append, List.lookup_cons,
    List.lookup_nil]
  by_cases hits : placeholder = target
  · rw [if_pos hits, hits, beq_self_eq_true]
  · rw [if_neg hits, beq_false_of_ne hits]

/-- A call of `bind` on a statement. -/
theorem apply_bind {context : DbContext} {args : List JsValue}
    {index : Option Int} {bound : BoundValue}
    (present : context.statement.isEmpty = false)
    (converts : bindArguments toText args = .ok (index, bound)) :
    apply toText context (.bind args) =
      ⟨context.statement.bind bound index, context.result⟩ := by
  have meaning : Call.meaning toText (.bind args) =
      some (.bind index bound true) := by
    rw [Call.meaning, converts]
    rfl
  rw [apply, meaning]
  dsimp only
  rw [DbContext.apply, if_pos ⟨rfl, by rw [present]; rfl⟩]

theorem apply_bind_error {context : DbContext} {args : List JsValue}
    {message : String} (refused : bindArguments toText args = .error message) :
    apply toText context (.bind args) = context := by
  have meaning : Call.meaning toText (.bind args) = none := by
    rw [Call.meaning, refused]
    rfl
  rw [apply, meaning]

/-- A placeholder holds the value that was assigned to it last. -/
theorem bindings_of_assigned {context : DbContext}
    {calls : List (List JsValue)} {placeholder : Int}
    (present : context.statement.isEmpty = false) :
    (∀ value, assigned toText context.statement.placeholder calls placeholder =
        some value →
      ∃ bound, boundValue toText value = .ok bound ∧
        ((calls.map Call.bind).foldl (apply toText)
          context).statement.bindings placeholder = some bound) ∧
    (assigned toText context.statement.placeholder calls placeholder = none →
      ((calls.map Call.bind).foldl (apply toText)
        context).statement.bindings placeholder =
          context.statement.bindings placeholder) := by
  induction calls generalizing context with
  | nil => exact ⟨nofun, fun _ => rfl⟩
  | cons args calls ih =>
      rw [List.map_cons, List.foldl_cons]
      cases converts : bindArguments toText args with
      | error message =>
          have skipped : assigned toText context.statement.placeholder
              (args :: calls) placeholder =
              assigned toText context.statement.placeholder calls
                placeholder := by
            rw [assigned, assignments, converts]
            rfl
          rw [apply_bind_error converts, skipped]
          exact ih present
      | ok bound =>
          obtain ⟨index, bound⟩ := bound
          have value := boundValue_of_bindArguments converts
          rw [apply_bind present converts]
          have later := @ih
            ⟨context.statement.bind bound index, context.result⟩ (by
              cases index <;> exact present)
          have recorded : assigned toText context.statement.placeholder
              (args :: calls) placeholder =
              (assigned toText
                (context.statement.bind bound index).placeholder calls
                placeholder).or
                (if placeholder = index.getD context.statement.placeholder then
                  some (argument args index.toList.length) else none) := by
            rw [assigned, assignments, converts]
            cases index with
            | none => exact lookup_reverse_cons _ _ _ _
            | some index => exact lookup_reverse_cons _ _ _ _
          have updated : (context.statement.bind bound index).bindings =
              Function.update context.statement.bindings
                (index.getD context.statement.placeholder) (some bound) := by
            cases index <;> rfl
          rw [recorded]
          cases rest : assigned toText
              (context.statement.bind bound index).placeholder calls
              placeholder with
          | some other =>
              rw [Option.some_or]
              refine ⟨fun value same => ?_, nofun⟩
              cases same
              exact later.1 other rest
          | none =>
              rw [Option.none_or, later.2 rest]
              dsimp only
              rw [updated]
              by_cases hits :
                  placeholder = index.getD context.statement.placeholder
              · rw [if_pos hits, hits, Function.update_self]
                refine ⟨fun other same => ?_, nofun⟩
                cases same
                exact ⟨bound, value, rfl⟩
              · rw [if_neg hits, Function.update_of_ne hits]
                exact ⟨nofun, fun _ => rfl⟩

end Assigned

/-- A statement is prepared and gets its values, in any order, some perhaps more
than once, and with calls in between that throw.  If a row of its result has in
a column what the library read under a placeholder, then a script that fetches
the column gets the value that it assigned last to this placeholder, and `null`
for `undefined`; unless the value was bound as a text. -/
theorem fetch_of_binds {toText : JsValue → Option WString} {library : Library}
    {before : List Call} {query : WString} {calls : List (List JsValue)}
    {native : Native}
    (runs : run (step toText library) .initial
      (before ++ .prepare [.string query] none :: calls.map .bind) =
        some native)
    {placeholder : Int} {value : JsValue}
    (last : assigned toText 1 calls placeholder = some value)
    (plain : isPlain value = true) {row : Row} {place : JsValue}
    {position : Column} (named : column place = .ok position)
    (answers : ∀ read, native.readAt placeholder = some (some read) →
      row.Holds position read)
    {type : JsNumber} (suits : Suits type value) :
    fetch row [.number type, place] = .returns (received value) := by
  obtain ⟨bound, converts, binding⟩ :
      ∃ bound, boundValue toText value = .ok bound ∧
        (intended toText (before ++ .prepare [.string query] none ::
          calls.map .bind)).bindings placeholder = some bound := by
    rw [intended, List.foldl_append, List.foldl_cons]
    exact (@bindings_of_assigned toText _ calls placeholder rfl).1 value last
  have notText : isText bound = false := by
    cases value with
    | undefined =>
        cases converts
        rfl
    | null =>
        cases converts
        rfl
    | boolean flag =>
        cases converts
        rfl
    | number number =>
        cases converts
        split <;> rfl
    | _ => cases plain
  apply fetch_of_holds named plain converts _ suits
  apply answers
  rw [readAt_of_run runs placeholder, binding, Option.map_some,
    notText]
  rfl

/-- A row with the number in every column. -/
def sampleRow : Row where
  isNull := fun _ => .ok false
  getString := fun _ => .error "bad cast"
  getInt := fun _ => .ok 7
  getDouble := fun _ => .error "bad cast"

theorem fetch_of_binds_sample :
    fetch sampleRow [.number (.finite DataType.integer.code),
      .string [0x62]] = .returns (.number (.finite 7)) := by
  obtain ⟨native, runs⟩ : ∃ native,
      run (step (fun _ => none) sampleLibrary) .initial sampleCalls =
        some native := ⟨_, rfl⟩
  have reads : native.readAt 2 = some (some (.integer 7)) := by
    rw [readAt_of_run runs]
    rfl
  exact @fetch_of_binds _ _ _ _ _ _ runs 2 (.number (.finite 7)) rfl rfl
    sampleRow (.string [0x62]) (.name [0x62]) rfl (fun read same => by
      rw [reads] at same
      cases same
      exact ⟨rfl, rfl⟩) (.finite DataType.integer.code) rfl

end DatabaseValues

end IISModuleJS
