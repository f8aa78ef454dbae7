import IISModuleJS.ListWeight
import IISModuleJS.ManagedHeap
import IISModuleJS.ScheduledMachine

/-!
# Native objects behind script objects

`db.init`, `ipc.init` and a fetch that succeeds allocate a native object, put
its address into the internal field of a new script object, and tell V8 how much
memory it takes.  A handler with a weak handle to the script object owns the
native object: when V8 has found the script object unreachable, the callback of
the handle resets it, takes the memory off again and deletes both.  `ipc.close`
only clears the field.

This file follows the natives through every run of scripts and collections.
-/

namespace IISModuleJS

namespace NativeObjects

open ManagedHeap ListWeight ScheduledMachine

/-- The classes of native objects: `DbContext`, `httplib::Response` and
`IPC_KV`. -/
inductive NativeKind
  | database
  | fetchResponse
  | interprocess
  deriving DecidableEq

/-- What the `sizeof` expressions of the capacities give. -/
structure Sizes where
  dbContext : Nat
  ipcKv : Nat
  status : Nat
  string : Nat
  pair : Nat

/-- What the capacity of a native object depends on: of a response, the
capacities of the strings `body` and `version`, and the number of headers. -/
inductive NativeData
  | database
  | fetchResponse (bodyCapacity versionCapacity headers : Nat)
  | interprocess
  deriving DecidableEq

def NativeData.kind : NativeData → NativeKind
  | .database => .database
  | .fetchResponse _ _ _ => .fetchResponse
  | .interprocess => .interprocess

/-- `DbHandler::capacity`, `FetchResponse::capacity` and `sizeof(IPC_KV)`. -/
def NativeData.capacity (sizes : Sizes) : NativeData → Nat
  | .database => sizes.dbContext
  | .fetchResponse bodyCapacity versionCapacity headers =>
      bodyCapacity + versionCapacity + sizes.status +
        (sizes.string + sizes.pair) * headers
  | .interprocess => sizes.ipcKv

/-- A handler and its native object: the script object of its weak handle,
whether the handle is still set, and how often the handler was deleted. -/
structure Native where
  data : NativeData
  object : Nat
  attached : Bool
  deletions : Nat
  deriving DecidableEq

/-- Plain objects, those with an internal field, and those of another instance
type: arrays, functions, promises, and the proxy of the global object, which is
`this` of a method that is called without an object. -/
inductive ObjectKind
  | plain
  | otherType
  | api (kind : NativeKind)
  deriving DecidableEq

/-- Native objects hold nothing of V8 alive. -/
def ObjectKind.intrinsic : ObjectKind → List Nat :=
  fun _ => []

/-- The heap of V8, the internal field of every object (the position of a
native or null), the natives in the order of their allocation, and the amount of
external memory that V8 knows of. -/
structure State where
  heap : Heap ObjectKind
  fields : List (Option Nat)
  natives : List Native
  external : Int
  deriving DecidableEq

def initial : State where
  heap := ⟨[], [], [], []⟩
  fields := []
  natives := []
  external := 0

/-- Scripts work with their objects, functions of the API create natives,
`ipc.close` is called on an object of its own, and V8 collects. -/
inductive Action
  | script (mutation : Mutation ObjectKind)
  | create (data : NativeData)
  | close (object : Nat)
  | collect (survivors : List Nat)
  deriving DecidableEq

/-- Scripts cannot make API objects themselves. -/
def fromScript : Mutation ObjectKind → Bool
  | .allocate (.api _) => false
  | _ => true

/-- After a step of a script.  Its new objects have no field. -/
def State.mutated (state : State) (heap : Heap ObjectKind) : State :=
  { state with
    heap := heap
    fields := state.fields ++
      List.replicate (heap.objects.length - state.heap.objects.length) none }

/-- The clone of the prototype object, the handler, and the external memory. -/
def State.create (sizes : Sizes) (state : State) (data : NativeData) : State where
  heap := state.heap.allocate (.api data.kind)
  fields := state.fields ++ [some state.natives.length]
  natives := state.natives ++ [⟨data, state.heap.objects.length, true, 0⟩]
  external := state.external + data.capacity sizes

/-- The weak callbacks of a collection, one after another.  Each resets its
handle, decrements the external memory and deletes its handler. -/
def runCallbacks (sizes : Sizes) (survivors : List Nat) :
    List Native → Int → List Native × Int
  | [], external => ([], external)
  | native :: rest, external =>
      if native.attached = true ∧ native.object ∉ survivors then
        let others := runCallbacks sizes survivors rest
          (external - native.data.capacity sizes)
        ({ native with
            attached := false
            deletions := native.deletions + 1 } :: others.1, others.2)
      else
        let others := runCallbacks sizes survivors rest external
        (native :: others.1, others.2)

def step (sizes : Sizes) (state : State) : Action → Option State
  | .script mutation =>
      if fromScript mutation then
        (state.heap.mutate ObjectKind.intrinsic mutation).map state.mutated
      else none
  | .create data => some (state.create sizes data)
  | .close object =>
      if object ∈ state.heap.roots ∧
          state.heap.objects[object]? = some (.api .interprocess) then
        some { state with fields := state.fields.set object none }
      else none
  | .collect survivors =>
      (state.heap.collect ObjectKind.intrinsic [] survivors).map fun heap =>
        let called :=
          runCallbacks sizes survivors state.natives state.external
        { state with
          heap := heap
          natives := called.1
          external := called.2 }

/-- The methods of the three kinds of objects. -/
inductive Method
  | prepare | reset | exec | execSync | query | querySync | queryRow
  | queryRowSync | closeSession | next | fetch | bind
  | status | text | blob | headers
  | set | get | closeStore
  deriving DecidableEq

/-- The type that a method takes its pointer for. -/
def Method.kind : Method → NativeKind
  | .prepare | .reset | .exec | .execSync | .query | .querySync | .queryRow
  | .queryRowSync | .closeSession | .next | .fetch | .bind => .database
  | .status | .text | .blob | .headers => .fetchResponse
  | .set | .get | .closeStore => .interprocess

/-- The exception of a method whose pointer is null. -/
def Method.message : Method → String
  | .prepare => "invalid db context for prepare"
  | .reset => "invalid db context for reset"
  | .exec => "invalid db context for exec"
  | .execSync => "invalid db context for exec"
  | .query => "invalid db context for query"
  | .querySync => "invalid db context for query"
  | .queryRow => "invalid db context for row"
  | .queryRowSync => "invalid db context for row"
  | .closeSession => "invalid db context for close"
  | .next => "invalid db context for next"
  | .fetch => "invalid db context for fetch"
  | .bind => "invalid db context for bind"
  | .status => "invalid fetch response for status"
  | .text => "invalid fetch response for text"
  | .blob => "invalid fetch response for blob"
  | .headers => "invalid fetch response for headers"
  | .set => "invalid function pointer for ipc.set"
  | .get => "invalid function pointer for ipc.get"
  | .closeStore => "invalid function pointer for ipc.close"

/-- What a method does with the pointer of its receiver. -/
inductive Access
  | throws (message : String)
  | uses (native : Nat)
  | aborts
  | undefinedBehavior
  deriving DecidableEq

/-- The macros `DB_CONTEXT`, `FETCH_RESPONSE` and `IPC_OBJECT` with the check
behind them: the internal field of `this` is taken for a pointer to the native
object of the method.  For a plain object V8 reads what stands in the place of
the field.  For another instance type it looks whether there is a field, and
ends the process. -/
def State.access (state : State) (method : Method) (this : Nat) : Access :=
  match state.heap.objects[this]? with
  | some (.api _) =>
      match state.fields[this]? with
      | some none => .throws method.message
      | some (some pointer) =>
          match state.natives[pointer]? with
          | some native =>
              if native.deletions = 0 ∧ native.data.kind = method.kind then
                .uses pointer
              else .undefinedBehavior
          | none => .undefinedBehavior
      | none => .undefinedBehavior
  | some .otherType => .aborts
  | some .plain => .undefinedBehavior
  | none => .undefinedBehavior

/-- The external memory of a native that has not been deleted. -/
def held (sizes : Sizes) (native : Native) : Nat :=
  if native.attached then native.data.capacity sizes else 0

/-- A native belongs to an object of its kind.  Its handle is set as long as the
object has not been freed, and it is deleted together with it, once. -/
structure Native.Owned (heap : Heap ObjectKind) (native : Native) : Prop where
  kind : heap.objects[native.object]? = some (.api native.data.kind)
  attached : native.attached = true ↔ native.object ∉ heap.freed
  deletions : native.deletions = if native.attached then 0 else 1

/-- The natives that have not been deleted. -/
def State.live (state : State) : List Native :=
  state.natives.filter fun native => native.deletions = 0

structure Invariant (sizes : Sizes) (state : State) : Prop where
  sound : state.heap.Sound ObjectKind.intrinsic
  length : state.fields.length = state.heap.objects.length
  owned : ∀ native ∈ state.natives, native.Owned state.heap
  pointer : ∀ object pointer : Nat,
    state.fields[object]? = some (some pointer) →
      ∃ native, state.natives[pointer]? = some native ∧ native.object = object
  null : ∀ (object : Nat) (kind : NativeKind),
    state.heap.objects[object]? = some (.api kind) →
      state.fields[object]? = some none → kind = .interprocess
  external : state.external = weight (held sizes) state.natives

theorem invariant_initial (sizes : Sizes) : Invariant sizes initial where
  sound := by
    refine ⟨?_, ?_, ?_⟩
    · intro object member
      cases member
    · intro source target member
      simp [initial, Heap.targets] at member
    · intro object member
      cases member
  length := rfl
  owned := by
    intro native member
    cases member
  pointer := by
    intro object pointer found
    simp [initial] at found
  null := by
    intro object kind found
    simp [initial] at found
  external := rfl

/-- A native after a collection. -/
def Native.collected (survivors : List Nat) (native : Native) : Native :=
  if native.attached = true ∧ native.object ∉ survivors then
    { native with
      attached := false
      deletions := native.deletions + 1 }
  else native

theorem runCallbacks_natives (sizes : Sizes) (survivors : List Nat)
    (natives : List Native) (external : Int) :
    (runCallbacks sizes survivors natives external).1 =
      natives.map (Native.collected survivors) := by
  induction natives generalizing external with
  | nil => rfl
  | cons native rest ih =>
      rw [runCallbacks, List.map_cons, Native.collected]
      split
      next dead =>
        dsimp only
        rw [ih]
      next there =>
        dsimp only
        rw [ih]

/-- The callbacks take off what their natives held. -/
theorem runCallbacks_external (sizes : Sizes) (survivors : List Nat)
    (natives : List Native) (external : Int) :
    (runCallbacks sizes survivors natives external).2 =
      external - weight (held sizes) natives +
        weight (held sizes) (natives.map (Native.collected survivors)) := by
  induction natives generalizing external with
  | nil => simp [runCallbacks]
  | cons native rest ih =>
      rw [runCallbacks, List.map_cons, weight_cons, weight_cons,
        Native.collected]
      split
      next dead =>
        have before : held sizes native = native.data.capacity sizes :=
          if_pos dead.1
        have after : held sizes
            { native with
              attached := false
              deletions := native.deletions + 1 } = 0 := rfl
        dsimp only
        rw [ih, before, after]
        push_cast
        omega
      next there =>
        dsimp only
        rw [ih]
        push_cast
        omega

theorem getElem?_append_of_found {Item : Type*} {items new : List Item}
    {index : Nat} {item : Item} (found : items[index]? = some item) :
    (items ++ new)[index]? = some item := by
  rw [List.getElem?_append_left (List.getElem?_eq_some_iff.mp found).1]
  exact found

/-- New objects change nothing for the natives that are there. -/
theorem Native.Owned.grow {heap next : Heap ObjectKind} {native : Native}
    (owned : native.Owned heap) {new : List ObjectKind}
    (objects : next.objects = heap.objects ++ new)
    (freed : next.freed = heap.freed) : native.Owned next where
  kind := by
    rw [objects]
    exact getElem?_append_of_found owned.kind
  attached := by
    rw [freed]
    exact owned.attached
  deletions := owned.deletions

theorem Invariant.script {sizes : Sizes} {state : State}
    (invariant : Invariant sizes state) {mutation : Mutation ObjectKind}
    (allowed : fromScript mutation = true) {heap : Heap ObjectKind}
    (mutates : state.heap.mutate ObjectKind.intrinsic mutation = some heap) :
    Invariant sizes (state.mutated heap) := by
  obtain ⟨freed, new, objects, noApi⟩ : heap.freed = state.heap.freed ∧
      ∃ new, heap.objects = state.heap.objects ++ new ∧
        ∀ kind, .api kind ∉ new := by
    obtain ⟨freed, same | ⟨kind, isAllocation, grown⟩⟩ :=
      objects_of_mutate mutates
    · exact ⟨freed, [], by rw [same, List.append_nil],
        fun kind => List.not_mem_nil⟩
    · refine ⟨freed, [kind], grown, ?_⟩
      intro api member
      rw [isAllocation, ← List.mem_singleton.mp member] at allowed
      cases allowed
  have fields : (state.mutated heap).fields =
      state.fields ++ List.replicate new.length none := by
    rw [State.mutated, objects, List.length_append, Nat.add_sub_cancel_left]
  refine ⟨invariant.sound.mutated (mutated_of_mutate mutates), ?_, ?_, ?_, ?_,
    invariant.external⟩
  · rw [fields, State.mutated, objects, List.length_append,
      List.length_append, List.length_replicate, invariant.length]
  · intro native member
    exact (invariant.owned native member).grow objects freed
  · intro object pointer found
    rw [fields, List.getElem?_append] at found
    split at found
    next old => exact invariant.pointer object pointer found
    next new =>
      have isNull := List.eq_of_mem_replicate (List.mem_of_getElem? found)
      cases isNull
  · intro object kind found null
    rw [State.mutated, objects, List.getElem?_append] at found
    split at found
    next old =>
      rw [fields, List.getElem?_append_left (invariant.length ▸ old)] at null
      exact invariant.null object kind found null
    next young => exact absurd (List.mem_of_getElem? found) (noApi kind)

theorem Invariant.create {sizes : Sizes} {state : State}
    (invariant : Invariant sizes state) (data : NativeData) :
    Invariant sizes (state.create sizes data) := by
  have holdsNothing : ∀ target ∈ ObjectKind.intrinsic (.api data.kind),
      target ∈ state.heap.roots := by
    intro target member
    cases member
  have fresh : state.heap.objects.length ∉ state.heap.freed := by
    intro member
    exact Nat.lt_irrefl _ (invariant.sound.freed _ member)
  refine ⟨invariant.sound.mutated (mutated_allocate holdsNothing), ?_, ?_, ?_,
    ?_, ?_⟩
  · simp [State.create, Heap.allocate, invariant.length]
  · intro native member
    rcases List.mem_append.mp member with old | new
    · exact (invariant.owned native old).grow rfl rfl
    · rw [List.mem_singleton] at new
      subst new
      refine ⟨?_, ?_, rfl⟩
      · rw [State.create, Heap.allocate, List.getElem?_concat_length]
      · exact ⟨fun _ => fresh, fun _ => rfl⟩
  · intro object pointer found
    rw [State.create, List.getElem?_append] at found
    split at found
    next old =>
      obtain ⟨native, there, same⟩ := invariant.pointer object pointer found
      exact ⟨native, getElem?_append_of_found there, same⟩
    next new =>
      rw [List.getElem?_singleton] at found
      split at found
      next isNext =>
        cases found
        refine ⟨_, List.getElem?_concat_length, ?_⟩
        have length := invariant.length
        dsimp only
        omega
      next => cases found
  · intro object kind found null
    rw [State.create, Heap.allocate, List.getElem?_append] at found
    split at found
    next old =>
      rw [State.create,
        List.getElem?_append_left (invariant.length ▸ old)] at null
      exact invariant.null object kind found null
    next new =>
      rw [State.create, List.getElem?_append_right
        (invariant.length ▸ Nat.not_lt.mp new), List.getElem?_singleton] at null
      split at null
      next => cases null
      next => cases null
  · rw [State.create, weight_append, invariant.external, weight_cons,
      weight_nil]
    push_cast
    rfl

theorem Invariant.close {sizes : Sizes} {state : State}
    (invariant : Invariant sizes state) {object : Nat}
    (isStore : state.heap.objects[object]? = some (.api .interprocess)) :
    Invariant sizes { state with fields := state.fields.set object none } where
  sound := invariant.sound
  length := by
    rw [List.length_set]
    exact invariant.length
  owned := invariant.owned
  pointer := by
    intro other pointer found
    rw [List.getElem?_set] at found
    split at found
    next same =>
      split at found
      next => cases found
      next => cases found
    next => exact invariant.pointer other pointer found
  null := by
    intro other kind found null
    by_cases same : object = other
    · subst same
      rw [isStore] at found
      cases found
      rfl
    · rw [List.getElem?_set_ne same] at null
      exact invariant.null other kind found null
  external := invariant.external

theorem Invariant.collect {sizes : Sizes} {state : State}
    (invariant : Invariant sizes state) {survivors : List Nat}
    {heap : Heap ObjectKind}
    (collects : state.heap.collect ObjectKind.intrinsic [] survivors =
      some heap) :
    Invariant sizes
      { state with
        heap := heap
        natives :=
          (runCallbacks sizes survivors state.natives state.external).1
        external :=
          (runCallbacks sizes survivors state.natives state.external).2 } := by
  have sound := invariant.sound.collect collects
  have alive := collect_alive collects
  have objects : heap.objects = state.heap.objects := by
    obtain ⟨-, rfl⟩ := collect_eq_some.mp collects
    rfl
  refine ⟨sound, ?_, ?_, ?_, ?_, ?_⟩
  · rw [objects]
    exact invariant.length
  · dsimp only
    rw [runCallbacks_natives]
    intro collected member
    obtain ⟨native, was, rfl⟩ := List.mem_map.mp member
    obtain ⟨kind, attached, deletions⟩ := invariant.owned native was
    have known : native.object < state.heap.objects.length :=
      (List.getElem?_eq_some_iff.mp kind).1
    have freed : native.object ∉ heap.freed ↔
        native.object ∉ state.heap.freed ∧ native.object ∈ survivors := by
      have both := alive native.object
      rw [Heap.Alive, Heap.Alive, objects] at both
      tauto
    rw [Native.collected]
    split
    next dead =>
      refine ⟨objects ▸ kind, ?_, ?_⟩
      · simp [freed, dead.2]
      · simp [deletions, dead.1]
    next there =>
      refine ⟨objects ▸ kind, ?_, deletions⟩
      rw [freed, ← attached]
      tauto
  · intro object pointer found
    obtain ⟨native, there, same⟩ := invariant.pointer object pointer found
    refine ⟨native.collected survivors, ?_, ?_⟩
    · rw [runCallbacks_natives, List.getElem?_map, there]
      rfl
    · rw [← same, Native.collected]
      split <;> rfl
  · rw [objects]
    exact invariant.null
  · dsimp only
    rw [runCallbacks_external, runCallbacks_natives, invariant.external]
    omega

theorem Invariant.step {sizes : Sizes} {state next : State} {action : Action}
    (invariant : Invariant sizes state)
    (stepTo : step sizes state action = some next) :
    Invariant sizes next := by
  cases action with
  | script mutation =>
      obtain ⟨allowed, mapped⟩ := Option.ite_none_right_eq_some.mp stepTo
      obtain ⟨heap, mutates, rfl⟩ := Option.map_eq_some_iff.mp mapped
      exact invariant.script allowed mutates
  | create data =>
      cases stepTo
      exact invariant.create data
  | close object =>
      obtain ⟨⟨-, isStore⟩, same⟩ := Option.ite_none_right_eq_some.mp stepTo
      cases same
      exact invariant.close isStore
  | collect survivors =>
      obtain ⟨heap, collects, rfl⟩ := Option.map_eq_some_iff.mp stepTo
      exact invariant.collect collects

theorem invariant_of_run {sizes : Sizes} {schedule : List Action}
    {state : State} (runs : run (step sizes) initial schedule = some state) :
    Invariant sizes state :=
  ScheduledMachine.invariant_of_run
    (fun _ _ _ invariant stepTo => invariant.step stepTo)
    (invariant_initial sizes) runs

theorem weight_held {sizes : Sizes} {heap : Heap ObjectKind}
    {natives : List Native}
    (owned : ∀ native ∈ natives, native.Owned heap) :
    weight (held sizes) natives =
      weight (fun native => native.data.capacity sizes)
        (natives.filter fun native => native.deletions = 0) := by
  induction natives with
  | nil => rfl
  | cons native rest ih =>
      have others := ih fun other member =>
        owned other (List.mem_cons_of_mem _ member)
      have deletions := (owned native List.mem_cons_self).deletions
      rw [weight_cons, others, held, List.filter_cons, deletions]
      cases native.attached with
      | false => simp
      | true => simp

/-- In every state that can be reached V8 counts exactly the memory of the
natives that are there, and every native has been deleted once or not at all, as
its script object has been freed or not. -/
theorem external_of_run {sizes : Sizes} {schedule : List Action} {state : State}
    (runs : run (step sizes) initial schedule = some state) :
    state.external =
        weight (fun native => native.data.capacity sizes) state.live ∧
      ∀ native ∈ state.natives,
        native.deletions =
          if native.object ∈ state.heap.freed then 1 else 0 := by
  have invariant := invariant_of_run runs
  constructor
  · rw [invariant.external, weight_held invariant.owned]
    rfl
  · intro native member
    obtain ⟨-, attached, deletions⟩ := invariant.owned native member
    rw [deletions]
    by_cases gone : native.object ∈ state.heap.freed
    · rw [if_pos gone, if_neg fun stays => attached.mp stays gone]
    · rw [if_neg gone, if_pos (attached.mpr gone)]

/-- Sizes as a 64-bit build might have them. -/
def buildSizes : Sizes where
  dbContext := 64
  ipcKv := 48
  status := 4
  string := 32
  pair := 64

/-- A database object was forgotten and collected, the object of a response
with two headers is still there. -/
def forgottenDatabase : State where
  heap := ⟨[.api .database, .api .fetchResponse], [0], [], [1]⟩
  fields := [some 0, some 1]
  natives := [⟨.database, 0, false, 1⟩, ⟨.fetchResponse 15 15 2, 1, true, 0⟩]
  external := 226

theorem external_of_run_forgotten :
    forgottenDatabase.external =
      weight (fun native => native.data.capacity buildSizes)
        forgottenDatabase.live :=
  (@external_of_run buildSizes
    [.create .database, .create (.fetchResponse 15 15 2), .script (.drop 0),
      .collect [1]] forgottenDatabase (by decide)).1

/-- From every state that can be reached some collection leaves exactly the
natives whose objects the scripts can reach. -/
theorem exists_collect_of_run {sizes : Sizes} {schedule : List Action}
    {state : State} (runs : run (step sizes) initial schedule = some state) :
    ∃ survivors next,
      step sizes state (.collect survivors) = some next ∧
      ∀ native ∈ next.natives, native.deletions = 0 ↔
        state.heap.Reachable ObjectKind.intrinsic [] native.object := by
  have invariant := invariant_of_run runs
  have nothingHeld : ∀ object ∈ ([] : List Nat), state.heap.Alive object := by
    intro object member
    cases member
  obtain ⟨survivors, heap, collects, frees⟩ :=
    invariant.sound.exists_collect nothingHeld
  have collected := invariant.collect collects
  have stepTo : step sizes state (.collect survivors) = some _ :=
    Option.map_eq_some_iff.mpr ⟨heap, collects, rfl⟩
  refine ⟨survivors, _, stepTo, ?_⟩
  intro native member
  obtain ⟨kind, attached, deletions⟩ := collected.owned native member
  have known : native.object < heap.objects.length :=
    (List.getElem?_eq_some_iff.mp kind).1
  have there : native.deletions = 0 ↔ heap.Alive native.object := by
    rw [deletions, Heap.Alive, ← attached]
    by_cases stays : native.attached = true
    · simp [stays, known]
    · simp [stays]
  rw [there, collect_alive collects]
  constructor
  · rintro ⟨alive, survives⟩
    by_contra unreachable
    have freed := frees native.object alive unreachable
    have stays := (collect_alive collects native.object).mpr ⟨alive, survives⟩
    exact stays.2 freed
  · intro reachable
    exact ⟨invariant.sound.alive_of_reachable nothingHeld reachable,
      (collect_eq_some.mp collects).1.of_reachable reachable⟩

/-- A database object and a closed `ipc` object were forgotten, and nothing was
collected.  The object of a response is still held. -/
def closedAndForgotten : State where
  heap :=
    ⟨[.api .database, .api .interprocess, .api .fetchResponse], [], [], [2]⟩
  fields := [some 0, none, some 2]
  natives :=
    [⟨.database, 0, true, 0⟩, ⟨.interprocess, 1, true, 0⟩,
      ⟨.fetchResponse 15 15 2, 2, true, 0⟩]
  external := 338

theorem exists_collect_of_run_forgotten :
    ∃ survivors next,
      step buildSizes closedAndForgotten (.collect survivors) = some next ∧
      ∀ native ∈ next.natives, native.deletions = 0 ↔
        closedAndForgotten.heap.Reachable ObjectKind.intrinsic []
          native.object :=
  @exists_collect_of_run buildSizes
    [.create .database, .create .interprocess,
      .create (.fetchResponse 15 15 2), .close 1, .script (.drop 0),
      .script (.drop 1)] closedAndForgotten (by decide)

end NativeObjects

end IISModuleJS
