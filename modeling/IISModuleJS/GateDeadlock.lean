import IISModuleJS.WorkerGate

/-!
# Fetches from this site can block the gate for good

A script that calls an asynchronous operation waits at the gate with the
engine lock held.  If all slots are taken by fetches whose answers this site
has yet to give, nobody can give them: `handle_callback` needs the engine
lock.  The call, the workers and all further requests then wait forever.

This file shows that the gate cannot be blocked in this way as long as every
call is made while some slot is free or held by a worker that needs no answer
of this site, and that any other call can end up blocked.
-/

namespace IISModuleJS

namespace WorkerGate

open AsyncWorkers ListWeight ScheduledMachine

/-- A script call is blocked at the gate with the engine lock held, and every
worker with a slot waits for an answer that has to be given under that
lock. -/
def deadlocked (state : State) : Bool :=
  state.atGate.isSome && state.lockOwner.isSome &&
    state.threadCount == maxThreads &&
    state.workers.all fun worker =>
      !worker.holdsSlot || !state.replied worker

/-- The worker fetches from this site and has no answer yet. -/
def outstanding (sameSite : String → Bool) (state : State)
    (worker : Worker) : Bool :=
  worker.fetching sameSite &&
    (worker.sentRequest.isNone || !state.replied worker)

/-- A slot is free, or held by a worker that needs no answer of this site. -/
def GateOpen (sameSite : String → Bool) (state : State) : Prop :=
  state.threadCount < maxThreads ∨
    ∃ worker ∈ state.workers,
      worker.holdsSlot ∧ outstanding sameSite state worker = false

/-- Asynchronous operations are called only while the gate is open. -/
def CallsWhileOpen (sameSite : String → Bool) (state : State)
    (action : Action) : Prop :=
  ∀ operation, action = .callAsync operation → GateOpen sameSite state

theorem deadlocked_iff (state : State) :
    deadlocked state ↔
      state.atGate.isSome ∧ state.lockOwner.isSome ∧
        state.threadCount = maxThreads ∧
        ∀ worker ∈ state.workers, worker.holdsSlot →
          state.replied worker = false := by
  simp only [deadlocked, Bool.and_eq_true, beq_iff_eq, List.all_eq_true,
    Bool.or_eq_true, Bool.not_eq_true', and_assoc]
  constructor
  · rintro ⟨call, lock, full, waiting⟩
    refine ⟨call, lock, full, fun worker member holds => ?_⟩
    simpa [holds] using waiting worker member
  · rintro ⟨call, lock, full, waiting⟩
    refine ⟨call, lock, full, fun worker member => ?_⟩
    cases holds : worker.holdsSlot with
    | false => exact .inl rfl
    | true => exact .inr (waiting worker member holds)

/-- Answers are not taken back. -/
def KeepsAnswers (before after : List RequestPhase) : Prop :=
  ∀ index : Nat, before[index]? = some RequestPhase.answered →
    after[index]? = some RequestPhase.answered

theorem KeepsAnswers.replied {state next : State}
    (keeps : KeepsAnswers state.requests next.requests) {worker : Worker}
    (replied : state.replied worker) : next.replied worker := by
  unfold State.replied at *
  cases sent : worker.sentRequest with
  | none => rfl
  | some index =>
      simp only [sent, beq_iff_eq] at replied ⊢
      exact keeps index replied

theorem keepsAnswers_append (requests : List RequestPhase) :
    KeepsAnswers requests (requests ++ [.locking]) := by
  intro index answered
  obtain ⟨bound, -⟩ := List.getElem?_eq_some_iff.mp answered
  rw [List.getElem?_append_left bound]
  exact answered

theorem keepsAnswers_set {requests : List RequestPhase} {index : Nat}
    {before : RequestPhase} (after : RequestPhase)
    (found : requests[index]? = some before)
    (unanswered : before ≠ .answered) :
    KeepsAnswers requests (requests.set index after) := by
  intro other answered
  have different : index ≠ other := by
    rintro rfl
    rw [found] at answered
    exact unanswered (Option.some.inj answered)
  rw [List.getElem?_set_ne different]
  exact answered

theorem requests_of_performed {state performed : State} {index : Nat}
    {worker : Worker} {effect : Effect}
    (performs : Performed state index worker effect performed) :
    performed.requests = state.requests := by
  cases performs <;> rfl

variable {sameSite : String → Bool}

theorem keepsAnswers_of_step {state next : State} {action : Action}
    (stepTo : step sameSite state action = some next) :
    KeepsAnswers state.requests next.requests := by
  cases transition_of_step stepTo with
  | arrive => exact keepsAnswers_append _
  | lockRequest locking free =>
      exact keepsAnswers_set .running locking (by decide)
  | returnRequest held noCall running =>
      exact keepsAnswers_set _ running (by decide)
  | completeRequest running pending =>
      exact keepsAnswers_set .answered pending (by decide)
  | sendRequest found fetches unsent => exact keepsAnswers_append _
  | work found program performs =>
      rw [State.setWorker, requests_of_performed (performed_iff.mp performs)]
      exact fun _ => id
  | _ => exact fun _ => id

/-- A call at the gate is made by the holder of the engine lock, workers
without history are at the start of their program, and only fetches from this
site wait for an answer. -/
structure WaitInvariant (sameSite : String → Bool) (state : State) :
    Prop where
  held : state.atGate.isSome → state.lockOwner.isSome
  fresh : ∀ worker ∈ state.workers, worker.history = [] →
    worker.program = worker.operation.worker
  waits : ∀ worker ∈ state.workers, state.replied worker = false →
    worker.fetching sameSite

theorem waitInvariant_initial : WaitInvariant sameSite initial where
  held := nofun
  fresh := nofun
  waits := nofun

/-- A fetch from this site starts with a library call. -/
theorem program_of_reachesSite {operation : Operation}
    (reaches : reachesSite sameSite operation) :
    ∃ library next, operation.worker = .perform (.library library) next := by
  cases operation with
  | fetch request =>
      simp only [reachesSite, Bool.and_eq_true,
        Option.isSome_iff_exists] at reaches
      obtain ⟨-, sendsBody, known⟩ := reaches
      simp only [Operation.worker, fetchWorker, known]
      exact ⟨.httpRequest request sendsBody, _, rfl⟩
  | _ => simp [reachesSite] at reaches

/-- A worker that waits for an answer of this site performs no effect. -/
theorem replied_of_performed {state performed : State} {index : Nat}
    {worker : Worker} {effect : Effect}
    {next : effect.Result → WorkerProgram Unit}
    (invariant : WaitInvariant sameSite state)
    (member : worker ∈ state.workers)
    (program : worker.program = .perform effect next)
    (performs : Performed state index worker effect performed) :
    state.replied worker := by
  by_contra waiting
  have fetching := invariant.waits worker member (by simpa using waiting)
  simp only [Worker.fetching, Bool.and_eq_true, List.isEmpty_iff]
    at fetching
  obtain ⟨library, rest, starts⟩ := program_of_reachesSite fetching.1
  rw [invariant.fresh worker member fetching.2, starts] at program
  cases program
  cases performs with
  | library replied => exact waiting replied

theorem WaitInvariant.of_same {state next : State}
    (invariant : WaitInvariant sameSite state)
    (held : next.atGate.isSome → next.lockOwner.isSome)
    (workers : next.workers = state.workers)
    (keeps : KeepsAnswers state.requests next.requests) :
    WaitInvariant sameSite next where
  held := held
  fresh := by
    rw [workers]
    exact invariant.fresh
  waits := by
    rw [workers]
    intro worker member waiting
    apply invariant.waits worker member
    by_contra replied
    rw [keeps.replied (by simpa using replied)] at waiting
    cases waiting

/-- One worker is replaced. -/
theorem WaitInvariant.replace {state next : State}
    (invariant : WaitInvariant sameSite state) (index : Nat)
    (changed : Worker)
    (held : next.atGate.isSome → next.lockOwner.isSome)
    (workers : next.workers = state.workers.set index changed)
    (keeps : KeepsAnswers state.requests next.requests)
    (fresh : changed.history = [] →
      changed.program = changed.operation.worker)
    (waits : next.replied changed = false → changed.fetching sameSite) :
    WaitInvariant sameSite next where
  held := held
  fresh := by
    rw [workers]
    intro worker member
    rcases List.mem_or_eq_of_mem_set member with old | rfl
    · exact invariant.fresh worker old
    · exact fresh
  waits := by
    rw [workers]
    intro worker member waiting
    rcases List.mem_or_eq_of_mem_set member with old | rfl
    · apply invariant.waits worker old
      by_contra replied
      rw [keeps.replied (by simpa using replied)] at waiting
      cases waiting
    · exact waits waiting

theorem WaitInvariant.work {state performed : State}
    (invariant : WaitInvariant sameSite state) {index : Nat}
    {worker : Worker} {effect : Effect}
    {next : effect.Result → WorkerProgram Unit}
    (found : state.workers[index]? = some worker)
    (program : worker.program = .perform effect next)
    (performs : Performed state index worker effect performed)
    (result : effect.Result) :
    WaitInvariant sameSite (performed.setWorker index
      (worker.advance effect (next result))) := by
  have replied := replied_of_performed invariant
    (List.mem_of_getElem? found) program performs
  have requests := requests_of_performed performs
  refine invariant.replace index (worker.advance effect (next result))
    ?held ?workers ?keeps ?fresh ?waits
  case held =>
    cases performs with
    | lockEngine free => exact fun _ => rfl
    | unlockEngine held noCall => simp [State.setWorker, noCall]
    | _ => exact invariant.held
  case workers => cases performs <;> rfl
  case keeps =>
    rw [State.setWorker, requests]
    exact fun _ => id
  case fresh => simp [Worker.advance]
  case waits =>
    have same : (performed.setWorker index
        (worker.advance effect (next result))).replied
          (worker.advance effect (next result)) =
        state.replied worker := by
      simp [State.replied, State.setWorker, Worker.advance, requests]
    rw [same, replied]
    intro unanswered
    cases unanswered

theorem WaitInvariant.step {state next : State} {action : Action}
    (invariant : WaitInvariant sameSite state)
    (stepTo : step sameSite state action = some next) :
    WaitInvariant sameSite next := by
  have keeps := keepsAnswers_of_step stepTo
  cases transition_of_step stepTo with
  | arrive => exact invariant.of_same invariant.held rfl keeps
  | lockRequest locking free =>
      exact invariant.of_same (fun _ => rfl) rfl keeps
  | returnRequest held noCall running =>
      refine invariant.of_same ?_ rfl keeps
      simp [State.setRequest, noCall]
  | completeRequest running pending =>
      exact invariant.of_same invariant.held rfl keeps
  | lockNative free => exact invariant.of_same (fun _ => rfl) rfl keeps
  | unlockNative held noCall =>
      refine invariant.of_same ?_ rfl keeps
      simp [noCall]
  | callAsync running =>
      refine invariant.of_same (fun _ => ?_) rfl keeps
      simp only [State.scriptRunning, Bool.and_eq_true] at running
      exact running.1
  | @enterGate operation waiting below =>
      refine ⟨nofun, ?_, ?_⟩
      · intro worker member
        rcases List.mem_append.mp member with old | new
        · exact invariant.fresh worker old
        · rw [List.mem_singleton.mp new]
          exact fun _ => rfl
      · intro worker member
        rcases List.mem_append.mp member with old | new
        · exact invariant.waits worker old
        · rw [List.mem_singleton.mp new]
          nofun
  | @sendRequest index worker found fetches unsent =>
      exact invariant.replace index
        { worker with sentRequest := some state.requests.length }
        invariant.held rfl keeps
        (invariant.fresh worker (List.mem_of_getElem? found))
        (fun _ => fetches)
  | work found program performs =>
      exact invariant.work found program (performed_iff.mp performs) _

theorem outstanding_of_keeps {state next : State}
    (keeps : KeepsAnswers state.requests next.requests) {worker : Worker}
    (settled : outstanding sameSite state worker = false) :
    outstanding sameSite next worker = false := by
  simp only [outstanding, Bool.and_eq_false_iff, Bool.or_eq_false_iff,
    Bool.not_eq_false'] at *
  rcases settled with other | ⟨sent, replied⟩
  · exact .inl other
  · exact .inr ⟨sent, keeps.replied replied⟩

theorem GateOpen.of_same {state next : State}
    (gateOpen : GateOpen sameSite state)
    (threadCount : next.threadCount = state.threadCount)
    (workers : next.workers = state.workers)
    (keeps : KeepsAnswers state.requests next.requests) :
    GateOpen sameSite next := by
  rcases gateOpen with below | ⟨worker, member, holds, settled⟩
  · exact .inl (by rw [threadCount]; exact below)
  · exact .inr ⟨worker, by rw [workers]; exact member, holds,
      outstanding_of_keeps keeps settled⟩

/-- One worker is replaced.  If it was the one that kept the gate open, it has
to keep it open or leave it. -/
theorem GateOpen.replace {state next : State}
    (gateOpen : GateOpen sameSite state) {index : Nat}
    {worker : Worker} (changed : Worker)
    (found : state.workers[index]? = some worker)
    (workers : next.workers = state.workers.set index changed)
    (decreases : next.threadCount ≤ state.threadCount)
    (keeps : KeepsAnswers state.requests next.requests)
    (stays : worker.holdsSlot →
      outstanding sameSite state worker = false →
        next.threadCount < maxThreads ∨
          (changed.holdsSlot ∧
            outstanding sameSite next changed = false)) :
    GateOpen sameSite next := by
  obtain ⟨bound, lookup⟩ := List.getElem?_eq_some_iff.mp found
  rcases gateOpen with below | ⟨opener, member, holds, settled⟩
  · exact .inl (by omega)
  · obtain ⟨other, openerAt⟩ := List.mem_iff_getElem?.mp member
    by_cases same : index = other
    · subst same
      obtain rfl : worker = opener := by
        simpa [found] using openerAt
      rcases stays holds settled with below | ⟨changedHolds, changedSettled⟩
      · exact .inl below
      · refine .inr ⟨changed, ?_, changedHolds, changedSettled⟩
        rw [workers]
        exact List.mem_set bound changed
    · refine .inr ⟨opener, ?_, holds, outstanding_of_keeps keeps settled⟩
      rw [workers]
      refine List.mem_iff_getElem?.mpr ⟨other, ?_⟩
      rw [List.getElem?_set_ne same]
      exact openerAt

/-- The gate stays open while a call waits, whatever the workers do. -/
theorem GateOpen.work {state performed : State}
    (gateOpen : GateOpen sameSite state)
    (invariant : GateInvariant state) {index : Nat} {worker : Worker}
    {effect : Effect} {next : effect.Result → WorkerProgram Unit}
    (found : state.workers[index]? = some worker)
    (program : worker.program = .perform effect next)
    (performs : Performed state index worker effect performed)
    (result : effect.Result) :
    GateOpen sameSite (performed.setWorker index
      (worker.advance effect (next result))) := by
  have conforms := invariant.conforms worker (List.mem_of_getElem? found)
  have bounded := invariant.bounded
  refine gateOpen.replace (worker.advance effect (next result)) found
    ?workers ?decreases ?keeps ?stays
  case workers => cases performs <;> rfl
  case decreases =>
    cases performs <;> simp only [State.setWorker] <;> omega
  case keeps =>
    rw [State.setWorker, requests_of_performed performs]
    exact fun _ => id
  case stays =>
    intro holds settled
    have holding : .decrement ∉ worker.history := by
      simpa [Worker.holdsSlot] using holds
    cases conforms.nextEffect program with
    | library library _ unlocked =>
        right
        constructor
        · simp [holdsSlot_advance, holds]
        · simp [outstanding, Worker.fetching, Worker.advance]
    | decrement _ unlocked =>
        left
        cases performs
        simp only [State.setWorker]
        omega
    | notifyOne released => exact (holding released).elim
    | lockEngine released => exact (holding released).elim
    | settle settlement released => exact (holding released).elim
    | unlockEngine released => exact (holding released).elim

/-- While a call waits, the gate is open. -/
structure OpenInvariant (sameSite : String → Bool) (state : State) :
    Prop where
  gate : GateInvariant state
  wait : WaitInvariant sameSite state
  gateOpen : state.atGate.isSome → GateOpen sameSite state

theorem openInvariant_initial : OpenInvariant sameSite initial where
  gate := gateInvariant_initial
  wait := waitInvariant_initial
  gateOpen := nofun

theorem OpenInvariant.step {state next : State} {action : Action}
    (invariant : OpenInvariant sameSite state)
    (allowed : CallsWhileOpen sameSite state action)
    (stepTo : step sameSite state action = some next) :
    OpenInvariant sameSite next := by
  refine ⟨invariant.gate.step stepTo, invariant.wait.step stepTo, ?_⟩
  have keeps := keepsAnswers_of_step stepTo
  have unheld (free : state.lockOwner = none) : state.atGate = none := by
    cases waiting : state.atGate with
    | none => rfl
    | some operation =>
        have held := invariant.wait.held (by rw [waiting]; rfl)
        simp [free] at held
  cases transition_of_step stepTo with
  | arrive =>
      intro waiting
      exact (invariant.gateOpen waiting).of_same rfl rfl keeps
  | lockRequest locking free => simp [State.setRequest, unheld free]
  | returnRequest held noCall running => simp [State.setRequest, noCall]
  | completeRequest running pending =>
      intro waiting
      exact (invariant.gateOpen waiting).of_same rfl rfl keeps
  | lockNative free => simp [unheld free]
  | unlockNative held noCall => simp [noCall]
  | @callAsync operation running =>
      intro _
      exact (allowed operation rfl).of_same rfl rfl keeps
  | enterGate waiting below => nofun
  | @sendRequest index worker found fetches unsent =>
      intro waiting
      refine (invariant.gateOpen waiting).replace
        { worker with sentRequest := some state.requests.length }
        found rfl (Int.le_refl _) keeps ?_
      intro holds settled
      simp [outstanding, fetches, unsent] at settled
  | work found program performs =>
      have performs := performed_iff.mp performs
      intro waiting
      refine (invariant.gateOpen ?_).work invariant.gate found program
        performs _
      cases performs <;> exact waiting

theorem OpenInvariant.not_deadlocked {state : State}
    (invariant : OpenInvariant sameSite state) :
    deadlocked state = false := by
  by_contra stuck
  obtain ⟨waiting, -, full, unanswered⟩ :=
    (deadlocked_iff state).mp (by simpa using stuck)
  rcases invariant.gateOpen waiting with
    below | ⟨worker, member, holds, settled⟩
  · omega
  · have noReply := unanswered worker member holds
    have fetching := invariant.wait.waits worker member noReply
    simp [outstanding, fetching, noReply] at settled

theorem replied_append_locking (state : State) (worker : Worker) :
    State.replied { state with requests := state.requests ++ [.locking] }
      worker = state.replied worker := by
  unfold State.replied
  cases worker.sentRequest with
  | none => rfl
  | some index =>
      rcases Nat.lt_trichotomy index state.requests.length with
        inside | rfl | outside
      · simp only [List.getElem?_append_left inside]
      · simp
      · have beyond :
            (state.requests ++ [RequestPhase.locking]).length ≤
              index := by
          simpa using Nat.succ_le_of_lt outside
        simp only [List.getElem?_eq_none beyond,
          List.getElem?_eq_none (Nat.le_of_lt outside)]

/-- Whatever happens next, the gate stays blocked. -/
theorem deadlocked_of_step {state next : State} {action : Action}
    (gate : GateInvariant state) (wait : WaitInvariant sameSite state)
    (stuck : deadlocked state)
    (stepTo : step sameSite state action = some next) :
    deadlocked next := by
  rw [deadlocked_iff] at stuck ⊢
  obtain ⟨waiting, held, full, unanswered⟩ := stuck
  have notFree (free : state.lockOwner = none) : False := by
    simp [free] at held
  have notIdle (noCall : state.atGate = none) : False := by
    simp [noCall] at waiting
  have notRunning (running : state.scriptRunning) : False := by
    simp only [State.scriptRunning, Bool.and_eq_true,
      Option.isNone_iff_eq_none] at running
    exact notIdle running.2
  cases transition_of_step stepTo with
  | arrive =>
      refine ⟨waiting, held, full, fun worker member holds => ?_⟩
      rw [replied_append_locking]
      exact unanswered worker member holds
  | lockRequest locking free => exact (notFree free).elim
  | returnRequest held noCall running => exact (notIdle noCall).elim
  | completeRequest running pending => exact (notRunning running).elim
  | lockNative free => exact (notFree free).elim
  | unlockNative held noCall => exact (notIdle noCall).elim
  | callAsync running => exact (notRunning running).elim
  | enterGate waiting below => omega
  | @sendRequest index worker found fetches unsent =>
      refine ⟨waiting, held, full, fun other member holds => ?_⟩
      rcases List.mem_or_eq_of_mem_set member with old | rfl
      · exact (replied_append_locking state other).trans
          (unanswered other old holds)
      · simp [State.replied]
  | @work index results worker effect rest performed found program
      performs =>
      have member := List.mem_of_getElem? found
      have performs := performed_iff.mp performs
      have replied := replied_of_performed wait member program performs
      have released : .decrement ∈ worker.history := by
        by_contra holding
        have noReply := unanswered worker member
          (by simpa [Worker.holdsSlot] using holding)
        simp [replied] at noReply
      cases (gate.conforms worker member).nextEffect program with
      | library library holding => exact (holding released).elim
      | decrement holding => exact (holding released).elim
      | notifyOne =>
          cases performs
          refine ⟨waiting, held, full, fun other otherMember holds => ?_⟩
          rcases List.mem_or_eq_of_mem_set otherMember with old | rfl
          · exact unanswered other old holds
          · simp [Worker.holdsSlot, Worker.advance, released] at holds
      | lockEngine =>
          cases performs with
          | lockEngine free => exact (notFree free).elim
      | settle =>
          cases performs with
          | settle _ noCall => exact (notIdle noCall).elim
      | unlockEngine =>
          cases performs with
          | unlockEngine _ noCall => exact (notIdle noCall).elim

/-- A call waits at a gate whose slots are all held by fetches from this site
without an answer. -/
structure Closing (sameSite : String → Bool) (state : State) : Prop where
  waiting : state.atGate.isSome
  held : state.lockOwner.isSome
  full : state.threadCount = maxThreads
  fetches : ∀ worker ∈ state.workers, worker.holdsSlot →
    outstanding sameSite state worker

/-- Workers with a slot that have not yet sent their request. -/
def unsent (worker : Worker) : Bool :=
  worker.holdsSlot && worker.sentRequest.isNone

theorem Closing.send {state : State} (closing : Closing sameSite state)
    {index : Nat} {worker : Worker}
    (found : state.workers[index]? = some worker)
    (holds : worker.holdsSlot) (noRequest : worker.sentRequest = none) :
    ∃ next, step sameSite state (.sendRequest index) = some next ∧
      Closing sameSite next ∧
      next.workers.countP unsent < state.workers.countP unsent := by
  have waits := closing.fetches worker (List.mem_of_getElem? found) holds
  have fetching : worker.fetching sameSite := by
    simp only [outstanding, Bool.and_eq_true] at waits
    exact waits.1
  refine ⟨_, by simp [step, found, fetching, noRequest]; rfl, ?_, ?_⟩
  · refine ⟨closing.waiting, closing.held, closing.full, ?_⟩
    intro other member otherHolds
    rcases List.mem_or_eq_of_mem_set member with old | rfl
    · have before := closing.fetches other old otherHolds
      unfold outstanding at before ⊢
      rw [← replied_append_locking] at before
      exact before
    · have waiting : State.replied
          { state with requests := state.requests ++ [.locking] }
          { worker with sentRequest := some state.requests.length } =
            false := by
        simp [State.replied]
      exact Bool.and_eq_true_iff.mpr
        ⟨fetching, Bool.or_eq_true_iff.mpr (.inr (by
          rw [Bool.not_eq_true']
          exact waiting))⟩
  · have before : unsent worker = true := by
      simp [unsent, holds, noRequest]
    have after : unsent { worker with
        sentRequest := some state.requests.length } = false := by
      simp [unsent]
    have replaced := countP_set_add unsent found
      { worker with sentRequest := some state.requests.length }
    rw [before, after] at replaced
    change (state.workers.set index _).countP unsent < _
    exact Nat.lt_of_succ_le (Nat.le_of_eq replaced)

/-- Once all of them have sent their request, the gate is blocked. -/
theorem Closing.exists_deadlocked {state : State}
    (closing : Closing sameSite state) :
    ∃ schedule final, run (step sameSite) state schedule = some final ∧
      deadlocked final := by
  generalize countEq : state.workers.countP unsent = count
  induction count using Nat.strongRecOn generalizing state with
  | ind count ih =>
      by_cases all : ∀ worker ∈ state.workers, worker.holdsSlot →
          worker.sentRequest ≠ none
      · refine ⟨[], state, rfl, (deadlocked_iff state).mpr
          ⟨closing.waiting, closing.held, closing.full, ?_⟩⟩
        intro worker member holds
        have waits := closing.fetches worker member holds
        have sent := all worker member holds
        simp only [outstanding, Bool.and_eq_true, Bool.or_eq_true,
          Option.isNone_iff_eq_none, sent, false_or,
          Bool.not_eq_true'] at waits
        exact waits.2
      · simp only [not_forall, not_not] at all
        obtain ⟨worker, member, holds, noRequest⟩ := all
        obtain ⟨index, found⟩ := List.mem_iff_getElem?.mp member
        obtain ⟨next, stepTo, nextClosing, fewer⟩ :=
          closing.send found holds noRequest
        obtain ⟨schedule, final, runs, stuck⟩ :=
          ih _ (by omega) nextClosing rfl
        exact ⟨_, final, run_cons_eq_some.mpr ⟨next, stepTo, runs⟩, stuck⟩

theorem closing_of_call {state next : State} {action : Action}
    (gate : GateInvariant state)
    (closed : ¬ CallsWhileOpen sameSite state action)
    (stepTo : step sameSite state action = some next) :
    Closing sameSite next := by
  simp only [CallsWhileOpen, GateOpen, not_forall, not_or, not_exists,
    not_and, Bool.not_eq_false] at closed
  obtain ⟨operation, rfl, full, fetches⟩ := closed
  have bounded := gate.bounded
  cases transition_of_step stepTo with
  | callAsync running =>
      simp only [State.scriptRunning, Bool.and_eq_true] at running
      exact ⟨rfl, running.1, by change state.threadCount = _; omega,
        fetches⟩

/-- In every run in which asynchronous operations are called only while a slot
is free, or held by a worker that needs no answer of this site, the gate is
never blocked for good.  Every other call can block it, and a blocked gate
stays blocked. -/
theorem not_deadlocked_of_callsWhileOpen (sameSite : String → Bool) :
    (∀ schedule final,
      Respects (step sameSite) (CallsWhileOpen sameSite) initial schedule →
        run (step sameSite) initial schedule = some final →
          deadlocked final = false) ∧
    (∀ schedule state action next,
      run (step sameSite) initial schedule = some state →
        ¬ CallsWhileOpen sameSite state action →
          step sameSite state action = some next →
            ∃ later final, run (step sameSite) next later = some final ∧
              deadlocked final) ∧
    ∀ schedule state action next,
      run (step sameSite) initial schedule = some state →
        deadlocked state → step sameSite state action = some next →
          deadlocked next := by
  have wait {schedule : List Action} {state : State}
      (runs : run (step sameSite) initial schedule = some state) :
      WaitInvariant sameSite state :=
    invariant_of_run (fun _ _ _ holds stepTo => holds.step stepTo)
      waitInvariant_initial runs
  refine ⟨?_, ?_, ?_⟩
  · intro schedule final respects runs
    have invariant : OpenInvariant sameSite final :=
      invariant_of_respects
        (fun _ _ _ holds allowed stepTo => holds.step allowed stepTo)
        openInvariant_initial respects runs
    exact invariant.not_deadlocked
  · intro schedule state action next runs closed stepTo
    have gate := gateInvariant_of_run runs
    exact (closing_of_call gate closed stepTo).exists_deadlocked
  · intro schedule state action next runs stuck stepTo
    exact deadlocked_of_step (gateInvariant_of_run runs) (wait runs) stuck
      stepTo

/-- A fetch from this site. -/
def selfFetch : Operation :=
  .fetch ⟨"localhost", "/", false, "GET", "", []⟩

def isLocalhost (hostname : String) : Bool :=
  hostname == "localhost"

/-- A callback that fetches from its own site once. -/
def oneFetch : List Action :=
  [.arrive, .lockRequest 0, .callAsync selfFetch, .enterGate,
    .sendRequest 0, .returnRequest 0 true]

theorem not_deadlocked_oneFetch :
    ∃ final, run (step isLocalhost) initial oneFetch = some final ∧
      deadlocked final = false := by
  have respects : Respects (step isLocalhost) (CallsWhileOpen isLocalhost)
      initial oneFetch :=
    respects_cons nofun rfl <| respects_cons nofun rfl <|
    respects_cons (fun _ _ => .inl (by decide)) rfl <|
    respects_cons nofun rfl <| respects_cons nofun rfl <|
    respects_cons nofun rfl trivial
  have reached : ∃ final,
      run (step isLocalhost) initial oneFetch = some final :=
    ⟨_, rfl⟩
  obtain ⟨final, runs⟩ := reached
  exact ⟨final, runs,
    (not_deadlocked_of_callsWhileOpen isLocalhost).1 oneFetch final
      respects runs⟩

/-- A callback makes as many fetches from its own site as there are slots, and
then one more. -/
def fetchStorm : List Action :=
  [.arrive, .lockRequest 0] ++
    (List.replicate maxThreads
      [Action.callAsync selfFetch, .enterGate]).flatten ++
    (List.range maxThreads).map .sendRequest ++
    [.callAsync selfFetch]

theorem fetchStorm_deadlocks :
    (run (step isLocalhost) initial fetchStorm).map deadlocked =
      some true := by
  decide +kernel

end WorkerGate

end IISModuleJS
