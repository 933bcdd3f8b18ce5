/-!
# Caches of versioned results

A cache remembers the latest completed result and at most one run that is in flight, each with the
version it was started for. A request for a version is answered from whichever of the two *covers* it;
otherwise a new run is started and takes the place of the one in flight, which goes on for those who wait
for it. A result that comes in is kept unless the completed one covers it already, and a run in flight
that the completed result covers leaves its place. A failure is remembered by nobody: it only clears the
place of its own run.

Which versions cover which is up to the cache's owner. Runs are numbered from zero in the order in which
they start, and what it takes to carry one out is kept with it as its work.
-/

namespace ShaderDiagnostics

/-- A run: the computation of a result for a version. -/
structure Run (V W D E : Type) where
  /-- The version it was started for. -/
  version : V
  /-- The work it takes. -/
  work : W
  /-- How it ended, once it has. -/
  outcome : Option (Except E D)

/-- A cache. -/
structure Cache (V W D E : Type) where
  /-- The latest completed result and the version it was started for. -/
  completed : Option (V × D)
  /-- The number of the run in flight. -/
  inFlight : Option Nat
  /-- All runs, by their numbers. -/
  runs : List (Run V W D E)

/-- What a request is answered from. -/
inductive Source (D : Type) where
  /-- The completed result. -/
  | completed (data : D)
  /-- The run in flight. -/
  | joined (run : Nat)
  /-- A new run. -/
  | started (run : Nat)
  deriving DecidableEq, Repr

namespace Cache

variable {V W D E : Type}

/-- The cache that has not been asked yet. -/
def empty : Cache V W D E := ⟨none, none, []⟩

/-- The version of the completed result. -/
def completedVersion (c : Cache V W D E) : Option V := c.completed.map (·.1)

/-- The completed result. -/
def completedData (c : Cache V W D E) : Option D := c.completed.map (·.2)

/-- A run by its number. -/
def run? (c : Cache V W D E) (id : Nat) : Option (Run V W D E) := c.runs[id]?

/-- The version of the run in flight. -/
def inFlightVersion (c : Cache V W D E) : Option V :=
  c.inFlight.bind fun id => (c.run? id).map (·.version)

/-- Whether there is such a version and it covers `v`. -/
def coveredBy (covers : V → V → Bool) (version : Option V) (v : V) : Bool :=
  version.any fun w => covers w v

/-- The cache with a new run in flight. -/
def start (c : Cache V W D E) (v : V) (work : W) : Cache V W D E :=
  { c with inFlight := some c.runs.length, runs := c.runs ++ [⟨v, work, none⟩] }

/-- Asks for a result that covers `v`; if a run has to be started for it, `work` is what it takes. -/
def request (covers : V → V → Bool) (c : Cache V W D E) (v : V) (work : W) :
    Cache V W D E × Source D :=
  match c.completed with
  | some (w, d) =>
    if covers w v then (c, .completed d) else join c
  | none => join c
where
  /-- Joins the run in flight if it covers `v`, and starts one otherwise. -/
  join (c : Cache V W D E) : Cache V W D E × Source D :=
    match c.inFlight with
    | some id =>
      if coveredBy covers ((c.run? id).map (·.version)) v then (c, .joined id)
      else (c.start v work, .started c.runs.length)
    | none => (c.start v work, .started c.runs.length)

/-- The cache with the run marked as ended. -/
def setOutcome (c : Cache V W D E) (id : Nat) (outcome : Except E D) : Cache V W D E :=
  { c with runs := c.runs.modify id fun r => { r with outcome := some outcome } }

/-- Keeps a result for a version, unless the completed one covers it, and then clears the place of the
run in flight if the completed result covers it. -/
def record (covers : V → V → Bool) (c : Cache V W D E) (v : V) (d : D) : Cache V W D E :=
  let completed := if coveredBy covers c.completedVersion v then c.completed else some (v, d)
  let c := { c with completed }
  let described :=
    match c.inFlightVersion with
    | some w => coveredBy covers c.completedVersion w
    | none => false
  if described then { c with inFlight := none } else c

/-- Clears the place of the run in flight if it is this one. -/
def forget (c : Cache V W D E) (id : Nat) : Cache V W D E :=
  if c.inFlight = some id then { c with inFlight := none } else c

/-- Ends a run that has not ended yet. -/
def finish (covers : V → V → Bool) (c : Cache V W D E) (id : Nat) (outcome : Except E D) :
    Cache V W D E :=
  match c.run? id with
  | none => c
  | some run =>
    if run.outcome.isSome then c
    else
      match outcome with
      | .ok d => (c.record covers run.version d).setOutcome id outcome
      | .error _ => (c.forget id).setOutcome id outcome

/-- Changes the work of a run. -/
def modifyWork (c : Cache V W D E) (id : Nat) (f : W → W) : Cache V W D E :=
  { c with runs := c.runs.modify id fun r => { r with work := f r.work } }

end Cache

end ShaderDiagnostics
