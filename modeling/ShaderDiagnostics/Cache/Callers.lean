import ShaderDiagnostics.Cache

/-!
# Callers of a cache

A cache with the callers that wait for its runs. Nothing happens for a caller before it is polled for the
first time; then it asks the cache. From then on it is waiting for a run, and the run goes on whenever one
of its callers is polled: once its gate has been opened with an outcome, that poll ends it. A caller may
be dropped at any time, and a run without callers does not go on until somebody joins it. Callers go by
names.
-/

namespace ShaderDiagnostics

/-- How far a caller has come. -/
inductive CallerState (D E : Type) where
  /-- It has not been polled yet. -/
  | idle
  /-- It waits for a run. -/
  | waiting (run : Nat)
  /-- It has its answer. -/
  | answered (outcome : Except E D)

/-- A caller of a cache. -/
structure Caller (V D E : Type) where
  /-- The version it asks for. -/
  version : V
  /-- The outcome of the run that it starts, if that is known beforehand. -/
  ready : Option (Except E D)
  /-- How far it has come. -/
  state : CallerState D E

/-- The work of a run: its outcome, once its gate has been opened. -/
abbrev Gate (D E : Type) := Option (Except E D)

/-- A cache and its callers. -/
structure Callers (K V D E : Type) where
  /-- The cache. -/
  cache : Cache V (Gate D E) D E
  /-- The callers that have not been dropped, by their names. -/
  callers : List (K × Caller V D E)

namespace Callers

variable {K V D E : Type} [DecidableEq K]

/-- No callers yet. -/
def empty : Callers K V D E := ⟨Cache.empty, []⟩

/-- A caller by its name. -/
def caller? (s : Callers K V D E) (name : K) : Option (Caller V D E) :=
  (s.callers.find? fun c => c.1 = name).map (·.2)

/-- The state with a caller under a name. -/
def setCaller (s : Callers K V D E) (name : K) (c : Caller V D E) : Callers K V D E :=
  { s with callers := (name, c) :: s.callers.filter fun e => e.1 ≠ name }

/-- Drops a caller. -/
def cancel (s : Callers K V D E) (name : K) : Callers K V D E :=
  { s with callers := s.callers.filter fun e => e.1 ≠ name }

/-- Makes a caller that has not been polled; one with the same name is dropped. -/
def create (s : Callers K V D E) (name : K) (version : V) (ready : Option (Except E D)) :
    Callers K V D E :=
  s.setCaller name ⟨version, ready, .idle⟩

/-- Opens the gate of a run with an outcome, unless it is open. -/
def openGate (s : Callers K V D E) (run : Nat) (outcome : Except E D) : Callers K V D E :=
  { s with cache := s.cache.modifyWork run fun gate => some (gate.getD outcome) }

/-- Polls a caller that waits for a run: the run ends if its gate is open, and the caller with it. -/
def pollWaiting (covers : V → V → Bool) (s : Callers K V D E) (name : K) (c : Caller V D E)
    (run : Nat) : Callers K V D E :=
  match s.cache.run? run with
  | none => s
  | some r =>
    match r.outcome with
    | some outcome => s.setCaller name { c with state := .answered outcome }
    | none =>
      match r.work with
      | some outcome =>
        { s with cache := s.cache.finish covers run outcome }.setCaller name
          { c with state := .answered outcome }
      | none => s.setCaller name { c with state := .waiting run }

/-- Polls a caller. -/
def poll (covers : V → V → Bool) (s : Callers K V D E) (name : K) : Callers K V D E :=
  match s.caller? name with
  | none => s
  | some c =>
    match c.state with
    | .answered _ => s
    | .waiting run => s.pollWaiting covers name c run
    | .idle =>
      match s.cache.request covers c.version c.ready with
      | (cache, .completed d) => { s with cache }.setCaller name { c with state := .answered (.ok d) }
      | (cache, .joined run) => { s with cache }.pollWaiting covers name c run
      | (cache, .started run) => { s with cache }.pollWaiting covers name c run

/-- The answer that a caller has got. -/
def answer? (s : Callers K V D E) (name : K) : Option (Except E D) :=
  (s.caller? name).bind fun c =>
    match c.state with
    | .answered outcome => some outcome
    | _ => none

end Callers

end ShaderDiagnostics
