import ShaderDiagnostics.Service.Jobs

/-!
# Schedules

One way to order the polls of jobs: first come, first served. A job joins the queue when it becomes able to
go on, and jobs that wait for one validation do so in the order in which they began to wait. Time stands
still while jobs go on; it passes only when it is made to, up to the next deadline of a job at a time.
-/

namespace ShaderDiagnostics

/-- The service with the queue of jobs that can go on. -/
structure Schedule where
  /-- The service. -/
  service : Service
  /-- The numbers of jobs that can go on, the first one next. -/
  queue : List Nat

namespace Schedule

/-- The jobs that wait for the validations of a record, validation by validation. -/
def waiters (r : Record) : List Nat := r.results.runs.flatMap fun run => run.work.waiters

/-- The jobs in the order in which they are looked at: those that wait for validations, record by record,
then all. -/
def candidates (s : Service) : List Nat :=
  s.registry.records.flatMap waiters ++ s.jobs.map (·.1)

/-- Puts a job at the end of the queue, if it can go on and is not there. -/
def enqueue (t : Schedule) (job : Nat) : Schedule :=
  match t.service.job? job with
  | none => t
  | some j =>
    if t.service.jobCanGoOn j && !t.queue.contains job then { t with queue := t.queue ++ [job] } else t

/-- Puts all jobs into the queue that can go on. -/
def collect (t : Schedule) : Schedule := (candidates t.service).foldl enqueue t

/-- Something happens to the service. -/
def after (t : Schedule) (f : Service → Service) : Schedule :=
  { t with service := f t.service }.collect

/-- At the start, with nothing to do. -/
def start (s : Service) : Schedule := ⟨s, []⟩

/-- Polls the jobs in the queue, at most so many times. -/
def drain : Nat → Schedule → Schedule
  | 0, t => t
  | n + 1, t =>
    match t.queue with
    | [] => t
    | job :: queue => drain n ({ t with queue }.after fun s => s.poll job)

/-- The number of requests for diagnostics that a job makes. -/
def inquiries : Job → Nat
  | .workspace _ targets => targets.length
  | _ => 1

/-- Enough polls for all jobs to come to rest: of the validations they wait for, each goes on at most
three times after it was started, and each time every job may be polled once. -/
def enough (s : Service) : Nat :=
  let requests := s.jobs.foldl (fun n j => n + (inquiries j.2 + 1)) 0
  (4 * requests + 2) * (s.jobs.length + 1)

/-- Lets all jobs go on until none can. -/
def run (t : Schedule) : Schedule :=
  let t := t.collect
  drain (enough t.service) t

/-- The deadline of a job. -/
def deadline? : Job → Option Nat
  | .analysis (.running deadline) _ => some deadline
  | _ => none

/-- The next deadline. -/
def nextDeadline? (s : Service) : Option Nat := (s.jobs.filterMap fun j => deadline? j.2).min?

/-- Lets time pass up to a time. -/
def setClock (t : Schedule) (time : Nat) : Schedule :=
  t.after fun s => s.elapse (time - s.clock)

/-- Lets all jobs go on and time pass up to a time, over at most so many deadlines. -/
def runUntil (time : Nat) : Nat → Schedule → Schedule
  | 0, t => (t.run.setClock time).run
  | n + 1, t =>
    let t := t.run
    match nextDeadline? t.service with
    | none => (t.setClock time).run
    | some deadline =>
      if deadline ≤ time then runUntil time n (t.setClock deadline) else (t.setClock time).run

/-- Lets all jobs go on while some time passes. -/
def advance (t : Schedule) (milliseconds : Nat) : Schedule :=
  runUntil (t.service.clock + milliseconds) (t.service.jobs.length + 1) t

/-- Lets all jobs go on to their ends, over at most so many deadlines, but only up to a time; tells whether
they have come to their ends. -/
def finishUntil (time : Nat) : Nat → Schedule → Schedule × Bool
  | 0, t => (t.setClock time, false)
  | n + 1, t =>
    let t := t.run
    if t.service.jobs.isEmpty then (t, true)
    else
      match nextDeadline? t.service with
      | none => (t.setClock time, false)
      | some deadline =>
        if deadline < time then finishUntil time n (t.setClock deadline) else (t.setClock time, false)

/-- How long the jobs are given to come to their ends, in milliseconds. -/
def patience : Nat := 60000

/-- Lets all jobs go on to their ends if that takes less than the time they are given. -/
def settle (t : Schedule) : Schedule × Bool :=
  finishUntil (t.service.clock + patience) (t.service.jobs.length + 1) t

end Schedule

end ShaderDiagnostics
