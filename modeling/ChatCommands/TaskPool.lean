import ChatCommands.Logging.Notice

/-!
# ChatCommands.TaskPool

The pool that command tasks run in. It has a fixed number of workers and takes
tasks in the order in which they are submitted. A task that starts is done at
once, unless it holds its worker until it is released. Tasks that wait can be
cancelled; tasks that have started cannot. A pool that is shut down takes no
further tasks but still runs those that it has.

A task that fails is logged. With one worker the entries come in the order in
which the tasks end; with several that order is not determined, and they are
listed in the order of their texts.
-/

namespace ChatCommands

/-! ## tasks of a pool -/

/-- The error that a task fails with. -/
inductive TaskError where
  /-- A key is missing. -/
  | missingKey (key : Datum)
  /-- Any other error, of some kind and about some value. -/
  | other (kind : String) (value : Datum)
deriving Repr

/-- An error in words: a missing key is shown as a log line shows it, any other value as a
message does. -/
def TaskError.message : TaskError → String
  | missingKey key => key.literal
  | other _ value => value.display

/-- What a task of a pool does. -/
inductive Work where
  /-- It gives a value. -/
  | give (value : Datum)
  /-- It fails. -/
  | fail (error : TaskError)
  /-- It gives the name of its worker. -/
  | tellWorker
  /-- It holds its worker until it is released, and then gives a value. -/
  | hold (value : Datum)
deriving Repr

/-- How far a task has come. -/
inductive Progress where
  /-- It has not started. -/
  | waiting
  /-- It holds a worker. -/
  | running (worker : Nat)
  /-- It gave a value. -/
  | returned (value : Datum)
  /-- It failed. -/
  | failed (error : TaskError)
  /-- It was cancelled before it started. -/
  | cancelled
deriving Repr

/-- The worker that a task holds. -/
def Progress.worker? : Progress → Option Nat
  | running worker => some worker
  | _ => none

/-- A task of a pool. -/
structure PoolTask where
  /-- The id that it was submitted under. -/
  id : String
  /-- What it does. -/
  work : Work
  /-- Whether it has been released, in case it holds its worker. -/
  released : Bool := false
  /-- How far it has come. -/
  progress : Progress := .waiting
deriving Repr

namespace PoolTask

/-- The name of a worker. -/
def workerName (worker : Nat) : String := "botcmd-task_" ++ toString worker

/-- How far a task comes at once when a worker takes it. -/
def start (t : PoolTask) (worker : Nat) : Progress :=
  match t.work with
  | .give value => .returned value
  | .fail error => .failed error
  | .tellWorker => .returned (.text (workerName worker))
  | .hold value => if t.released then .returned value else .running worker

/-- A task after its release. -/
def release (t : PoolTask) : PoolTask :=
  match t.progress, t.work with
  | .running _, .hold value => { t with released := true, progress := .returned value }
  | _, _ => { t with released := true }

/-- A task after an attempt to cancel it. -/
def cancel (t : PoolTask) : PoolTask :=
  match t.progress with
  | .waiting => { t with progress := .cancelled }
  | _ => t

/-- Whether a task is cancelled. -/
def isCancelled (t : PoolTask) : Bool :=
  match t.progress with
  | .cancelled => true
  | _ => false

end PoolTask

/-! ## pools -/

/-- A pool of workers. -/
structure TaskPool where
  /-- The number of workers. -/
  workers : Nat
  /-- Whether tasks are still taken. -/
  accepting : Bool := true
  /-- The tasks, in the order in which they were submitted. -/
  tasks : List PoolTask := []
  /-- The errors of failed tasks, in the order in which the tasks ended. -/
  errors : List TaskError := []
deriving Repr

/-- Why a pool does not do what it is asked. -/
inductive PoolFault where
  /-- It has no worker. -/
  | noWorkers
  /-- It has been shut down. -/
  | closed
deriving DecidableEq, Repr

/-- A fault in words. -/
def PoolFault.message : PoolFault → String
  | noWorkers => "max_workers must be greater than 0"
  | closed => "cannot schedule new futures after shutdown"

namespace TaskPool

/-- A pool of some workers, of which there must be one at least. -/
def new? (workers : Int) : Except PoolFault TaskPool :=
  if 0 < workers then .ok { workers := workers.toNat } else .error .noWorkers

/-- The first worker that no task holds. -/
def freeWorker? (workers : Nat) (busy : List Nat) : Option Nat :=
  (List.range workers).find? fun w => !busy.contains w

/-- Lets the free workers take waiting tasks, in order; `busy` are the workers that are held. -/
def advance (workers : Nat) : (busy : List Nat) → List PoolTask → List PoolTask × List TaskError
  | _, [] => ([], [])
  | busy, t :: ts =>
    match t.progress, freeWorker? workers busy with
    | .waiting, some worker =>
      let progress := t.start worker
      let (rest, errors) := advance workers (progress.worker?.toList ++ busy) ts
      let error := match progress with
        | .failed e => [e]
        | _ => []
      ({ t with progress := progress } :: rest, error ++ errors)
    | _, _ =>
      let (rest, errors) := advance workers busy ts
      (t :: rest, errors)

/-- The pool when every free worker has looked for a task. -/
def settle (p : TaskPool) : TaskPool :=
  let (tasks, errors) := advance p.workers (p.tasks.filterMap (·.progress.worker?)) p.tasks
  { p with tasks := tasks, errors := p.errors ++ errors }

/-- Changes the tasks of an id. -/
def modify (p : TaskPool) (id : String) (f : PoolTask → PoolTask) : TaskPool :=
  settle { p with tasks := p.tasks.map fun t => if t.id = id then f t else t }

/-- The task of an id. -/
def task? (p : TaskPool) (id : String) : Option PoolTask := p.tasks.find? fun t => t.id == id

/-- Submits a task. -/
def submit (p : TaskPool) (id : String) (work : Work) : Except PoolFault TaskPool :=
  if p.accepting then .ok (settle { p with tasks := p.tasks ++ [⟨id, work, false, .waiting⟩] })
  else .error .closed

/-- Cancels a task, if it has not started. -/
def cancel (p : TaskPool) (id : String) : TaskPool := p.modify id PoolTask.cancel

/-- Whether a task is cancelled. -/
def isCancelled (p : TaskPool) (id : String) : Bool :=
  ((p.task? id).map PoolTask.isCancelled).getD false

/-- Releases a task. -/
def release (p : TaskPool) (id : String) : TaskPool := p.modify id PoolTask.release

/-- Shuts the pool down. -/
def shutDown (p : TaskPool) : TaskPool := { p with accepting := false }

/-- The pool when it is shut down and every task has been released. -/
def finish (p : TaskPool) : TaskPool :=
  settle { p.shutDown with tasks := p.tasks.map PoolTask.release }

/-- What has been logged about failed tasks. -/
def notices (p : TaskPool) : List Notice :=
  let messages := p.errors.map TaskError.message
  let ordered :=
    if p.workers = 1 then messages else messages.mergeSort fun a b => decide (a ≤ b)
  ordered.map .taskFailed

end TaskPool

end ChatCommands
