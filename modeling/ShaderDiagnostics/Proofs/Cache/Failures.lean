import ShaderDiagnostics.Proofs.Cache.Sharing

/-!
# What an ended run leaves behind

A run in flight can be joined, so it had better not have ended. A success clears the place of a run by
what covers what, a failure by the number of the run; if every version covers itself, the two rules
together see to it that the run in flight is always under way (`Cache.Flying`), displaced runs and results
that come too late included.

One action does one of a few things to the cache (`Cache.Moves`), and every invariant of the cache goes by
these. Main statement: the run in flight has not ended; a failure leaves the completed result as it is and
clears no place but its own; and what a caller gets is never the outcome of a run that had ended when the
caller was polled for the first time (`Callers.ended_not_joined`).
-/

namespace ShaderDiagnostics

namespace Cache

variable {V W D E : Type} {covers : V → V → Bool} {c c' : Cache V W D E}

/-! ### Moves -/

/-- What one action does to the cache. -/
inductive Moves (covers : V → V → Bool) (c : Cache V W D E) : Cache V W D E → Prop where
  /-- Nothing. -/
  | idle : Moves covers c c
  /-- The work of a run changes. -/
  | works (n : Nat) (f : W → W) : Moves covers c (c.modifyWork n f)
  /-- A run starts. -/
  | starts (v : V) (w : W) : Moves covers c (c.start v w)
  /-- A run ends that was under way. -/
  | ends {n : Nat} {r : Run V W D E} (run : c.run? n = some r) (running : r.outcome = none)
      (o : Except E D) : Moves covers c (c.finish covers n o)
  /-- A run starts and ends at once. -/
  | startsEnds (v : V) (w : W) (o : Except E D) :
      Moves covers c ((c.start v w).finish covers c.runs.length o)

/-- The run that has just been started. -/
theorem run?_start_self (c : Cache V W D E) (v : V) (w : W) :
    (c.start v w).run? c.runs.length = some ⟨v, w, none⟩ := by
  rw [run?_start, if_pos rfl]

theorem run?_length (c : Cache V W D E) : c.run? c.runs.length = none :=
  List.getElem?_eq_none (Nat.le_refl _)

/-! ### The run in flight is under way -/

/-- The run exists and has not ended. -/
def Running (c : Cache V W D E) (n : Nat) : Prop := ∃ r, c.run? n = some r ∧ r.outcome = none

/-- The run in flight is under way. -/
def Flying (c : Cache V W D E) : Prop := ∀ n, c.inFlight = some n → c.Running n

/-- A run that has ended stays ended. -/
theorem Running.of_grows (hg : Grows c c') {n : Nat} {r : Run V W D E} (hr : c.run? n = some r)
    (h : c'.Running n) : r.outcome = none := by
  obtain ⟨r', hr', -, keeps⟩ := hg n r hr
  obtain ⟨s, hs, running⟩ := h
  obtain rfl := Option.some.inj (hr'.symm.trans hs)
  cases ho : r.outcome with
  | none => rfl
  | some o =>
    rw [keeps o ho] at running
    cases running

theorem flying_empty : Flying (empty : Cache V W D E) := by
  intro n hn
  cases hn

theorem Flying.modifyWork (h : Flying c) (n : Nat) (f : W → W) : Flying (c.modifyWork n f) := by
  intro m hm
  obtain ⟨r, hr, running⟩ := h m hm
  obtain ⟨w, hw, -⟩ := run?_modifyWork_of_run? hr n f
  exact ⟨_, hw, running⟩

theorem flying_start (c : Cache V W D E) (v : V) (w : W) : Flying (c.start v w) := by
  intro n hn
  obtain rfl : c.runs.length = n := Option.some.inj hn
  exact ⟨_, run?_start_self c v w, rfl⟩

section

variable {n : Nat} {r : Run V W D E} (hr : c.run? n = some r) (ho : r.outcome = none)
include hr ho

/-- A run that was under way still is, unless it is the one that ends. -/
theorem Running.finish {m : Nat} (h : c.Running m) (o : Except E D) (hne : m ≠ n) :
    (c.finish covers n o).Running m := by
  obtain ⟨s, hs, running⟩ := h
  refine ⟨s, ?_, running⟩
  rw [run?_finish hr ho, if_neg hne, hs]

/-- A failure leaves the completed result as it is. -/
theorem completed_finish_error (e : E) : (c.finish covers n (.error e)).completed = c.completed := by
  rw [finish_error hr ho, completed_setOutcome, completed_forget]

/-- A failure clears no place but its own. -/
theorem inFlight_finish_error (e : E) :
    (c.finish covers n (.error e)).inFlight = if c.inFlight = some n then none else c.inFlight := by
  rw [finish_error hr ho, inFlight_setOutcome, inFlight_forget]

/-- A run that ends is not in flight any more. After a success that is because the completed result
covers the version of the run then: either it did so before, or it is the result of the run itself. -/
theorem inFlight_finish_ne (refl : ∀ v, covers v v = true) (o : Except E D) :
    (c.finish covers n o).inFlight ≠ some n := by
  intro hn
  cases o with
  | error e =>
    rw [inFlight_finish_error hr ho] at hn
    split at hn
    · cases hn
    next other => exact other hn
  | ok d =>
    have covered : coveredBy covers (c.record covers r.version d).completedVersion r.version = true := by
      unfold completedVersion
      rw [completed_record]
      split
      next before => exact before
      next => exact refl r.version
    rw [finish_ok hr ho, inFlight_setOutcome, inFlight_record] at hn
    split at hn
    · cases hn
    next clear =>
      have version : c.inFlightVersion = some r.version := by simp [inFlightVersion, hn, hr]
      rw [version, Option.any_some, covered] at clear
      exact clear rfl

/-- The run in flight after a run has ended was in flight before. -/
theorem inFlight_of_finish {o : Except E D} {m : Nat}
    (hm : (c.finish covers n o).inFlight = some m) : c.inFlight = some m := by
  cases o with
  | error e =>
    rw [inFlight_finish_error hr ho] at hm
    split at hm
    · cases hm
    · exact hm
  | ok d =>
    rw [finish_ok hr ho, inFlight_setOutcome, inFlight_record] at hm
    split at hm
    · cases hm
    · exact hm

theorem Flying.finish (h : Flying c) (refl : ∀ v, covers v v = true) (o : Except E D) :
    Flying (c.finish covers n o) := by
  intro m hm
  have hne : m ≠ n := by
    rintro rfl
    exact inFlight_finish_ne hr ho refl o hm
  exact (h m (inFlight_of_finish hr ho hm)).finish hr ho o hne

end

theorem Flying.moves (h : Flying c) (refl : ∀ v, covers v v = true) (hm : Moves covers c c') :
    Flying c' := by
  cases hm with
  | idle => exact h
  | works n f => exact h.modifyWork n f
  | starts v w => exact flying_start c v w
  | ends run running o => exact h.finish run running refl o
  | startsEnds v w o => exact (flying_start c v w).finish (run?_start_self c v w) rfl refl o

/-! ### Failures -/

/-- What a failure does to the slots: the completed result stays, and the run in flight stays unless it is
the one that fails, also when that one has only been started by the same move. -/
theorem Moves.failed (hm : Moves covers c c') {n : Nat} {r : Run V W D E} {e : E}
    (failed : c'.run? n = some r) (error : r.outcome = some (.error e))
    (running : ∀ r, c.run? n = some r → r.outcome = none) :
    c'.completed = c.completed ∧
      c'.inFlight = if c.inFlight = some n ∨ c.run? n = none then none else c.inFlight := by
  -- a run that was there before would have failed before
  have old : ∀ {P : Prop}, c.run? n = some r → P := by
    intro P before
    rw [running r before] at error
    cases error
  cases hm with
  | idle => exact old failed
  | works m f =>
    rcases run?_modifyWork_cases failed with ⟨s, rfl, hs, rfl⟩ | ⟨-, before⟩
    · rw [running s hs] at error
      cases error
    · exact old before
  | starts v w =>
    rcases run?_start_cases failed with ⟨-, rfl⟩ | ⟨-, before⟩
    · cases error
    · exact old before
  | ends run under o =>
    rcases run?_finish_cases run under failed with ⟨rfl, rfl⟩ | ⟨-, before⟩
    · obtain rfl := Option.some.inj error
      refine ⟨completed_finish_error run under e, ?_⟩
      rw [inFlight_finish_error run under, run]
      simp only [reduceCtorEq, or_false]
    · exact old before
  | startsEnds v w o =>
    have new := run?_start_self c v w
    rcases run?_finish_cases new rfl failed with ⟨rfl, rfl⟩ | ⟨hne, before⟩
    · obtain rfl := Option.some.inj error
      refine ⟨completed_finish_error new rfl e, ?_⟩
      have place : (c.start v w).inFlight = some c.runs.length := rfl
      rw [inFlight_finish_error new rfl, place, run?_length, if_pos rfl, if_pos (Or.inr rfl)]
    · rcases run?_start_cases before with ⟨he, -⟩ | ⟨-, before⟩
      · exact absurd he hne
      · exact old before

/-- A request joins no run that has ended. -/
theorem Flying.request_joined (h : Flying c) {v : V} {w : W} {n : Nat}
    (joined : (c.request covers v w).2 = .joined n) : c.Running n := by
  have answered := request_answered covers c v w
  generalize c.request covers v w = p at answered joined
  cases answered with
  | completed => cases joined
  | started => cases joined
  | joined slot =>
    obtain rfl := Source.joined.inj joined
    exact h _ slot

/-- A run that a request starts was not there before. -/
theorem run?_of_request_started {v : V} {w : W} {n : Nat}
    (started : (c.request covers v w).2 = .started n) : c.run? n = none := by
  have answered := request_answered covers c v w
  generalize c.request covers v w = p at answered started
  cases answered with
  | completed => cases started
  | joined => cases started
  | started =>
    obtain rfl := Source.started.inj started
    exact run?_length c

end Cache

/-! ### Callers -/

namespace Callers

open Cache (Moves Running Flying)

variable {K V D E : Type} [DecidableEq K] {covers : V → V → Bool} {s : Callers K V D E}

/-- A poll of a caller that waits for a run does nothing to the cache or ends the run. -/
theorem pollWaiting_cases (covers : V → V → Bool) (s : Callers K V D E) (name : K) (c : Caller V D E)
    (n : Nat) :
    (s.pollWaiting covers name c n).cache = s.cache ∨
      ∃ r o, s.cache.run? n = some r ∧ r.outcome = none ∧
        (s.pollWaiting covers name c n).cache = s.cache.finish covers n o := by
  cases hr : s.cache.run? n with
  | none =>
    left
    simp [pollWaiting, hr]
  | some r =>
    cases ho : r.outcome with
    | some o =>
      left
      rw [pollWaiting_of_ended hr ho]
      rfl
    | none =>
      cases hw : r.work with
      | none =>
        left
        rw [pollWaiting_of_shut hr ho hw]
        rfl
      | some o =>
        right
        refine ⟨r, o, rfl, ho, ?_⟩
        rw [pollWaiting_of_open hr ho hw]
        rfl

theorem poll_moves (covers : V → V → Bool) (s : Callers K V D E) (name : K) :
    Moves covers s.cache (s.poll covers name).cache := by
  have waits : ∀ (c : Caller V D E) (n : Nat),
      Moves covers s.cache (s.pollWaiting covers name c n).cache := by
    intro c n
    rcases pollWaiting_cases covers s name c n with same | ⟨r, o, run, running, ended⟩
    · rw [same]
      exact .idle
    · rw [ended]
      exact .ends run running o
  unfold poll
  split
  · exact .idle
  next c hc =>
    split
    · exact .idle
    next n _ => exact waits c n
    next =>
      have answered := Cache.request_answered covers s.cache c.version c.ready
      generalize s.cache.request covers c.version c.ready = p at answered
      cases answered with
      | completed => exact .idle
      | @joined n => exact waits c n
      | started =>
        -- the run that is polled is the one that has just been started
        let t : Callers K V D E := { s with cache := s.cache.start c.version c.ready }
        show Moves covers s.cache (t.pollWaiting covers name c s.cache.runs.length).cache
        rcases pollWaiting_cases covers t name c s.cache.runs.length with same | ⟨r, o, -, -, ended⟩
        · rw [same]
          exact .starts c.version c.ready
        · rw [ended]
          exact .startsEnds c.version c.ready o

/-- Every action is one of the moves. -/
theorem step_moves (covers : V → V → Bool) (s : Callers K V D E) (a : Action K V D E) :
    Moves covers s.cache (step covers s a).cache := by
  cases a with
  | create name version ready => exact .idle
  | cancel name => exact .idle
  | openGate run outcome => exact .works run fun gate => some (gate.getD outcome)
  | poll name => exact poll_moves covers s name

theorem flying_after (refl : ∀ v, covers v v = true) (acts : List (Action K V D E)) :
    Flying (after covers acts).cache := by
  induction acts using List.reverseRecOn with
  | nil => exact Cache.flying_empty
  | append_singleton acts a ih =>
    rw [after_snoc]
    exact ih.moves refl (step_moves covers _ a)

/-- A caller that is polled for the first time asks the cache for its version. -/
theorem request_of_source? {name : K} {source : Source D}
    (h : s.source? covers name = some source) :
    ∃ v ready, (s.cache.request covers v ready).2 = source := by
  unfold source? at h
  split at h
  next version ready hc => exact ⟨version, ready, Option.some.inj h⟩
  next => cases h

/-- An answer is the completed result or the outcome of the run that the caller was answered from. -/
theorem Served.answered {cache : Cache V (Gate D E) D E} {c : Caller V D E} {source : Source D}
    (h : Served covers cache c source) {o : Except E D} (ho : c.state = .answered o) :
    (∃ d, source = .completed d ∧ o = .ok d) ∨
      ∃ n r, (source = .joined n ∨ source = .started n) ∧ cache.run? n = some r ∧
        r.outcome = some o := by
  have outcome : ∀ {n} {r : Run V (Gate D E) D E},
      (c.state = .waiting n ∨ ∃ o, r.outcome = some o ∧ c.state = .answered o) →
      r.outcome = some o := by
    rintro n r (waits | ⟨o', ended, answer⟩)
    · rw [ho] at waits
      cases waits
    · rw [ho] at answer
      cases answer
      exact ended
  cases h with
  | completed hr ended covered answer =>
    rw [ho] at answer
    cases answer
    exact Or.inl ⟨_, rfl, rfl⟩
  | joined hr covered state => exact Or.inr ⟨_, _, Or.inl rfl, hr, outcome state⟩
  | started hr own state => exact Or.inr ⟨_, _, Or.inr rfl, hr, outcome state⟩

/-- A run that a caller waits for from its first poll on had not ended then. -/
theorem running_of_source? (flying : Flying s.cache) {name : K} {n : Nat}
    (h : s.source? covers name = some (.joined n) ∨ s.source? covers name = some (.started n))
    {r : Run V (Gate D E) D E} (hr : s.cache.run? n = some r) : r.outcome = none := by
  rcases h with h | h
  · obtain ⟨v, ready, joined⟩ := request_of_source? h
    exact (flying.request_joined joined).of_grows (Cache.Grows.refl _) hr
  · obtain ⟨v, ready, started⟩ := request_of_source? h
    rw [Cache.run?_of_request_started started] at hr
    cases hr

/-- **Ended runs are not joined.** Let every version cover itself. After any actions the run in flight has
not ended. An action by which a run fails leaves the completed result as it is, and it empties the place
of the run in flight exactly if that run is the one that fails; a run that is started by the very poll by
which it fails has taken that place before. And a caller that has its answer got either the completed
result or the outcome of a run that had not ended, neither well nor badly, when the caller was polled for
the first time. -/
theorem ended_not_joined (covers : V → V → Bool) (refl : ∀ v, covers v v = true)
    (acts : List (Action K V D E)) :
    let s := after covers acts
    (∀ n, s.cache.inFlight = some n → ∃ r, s.cache.run? n = some r ∧ r.outcome = none) ∧
    (∀ a n r e, (step covers s a).cache.run? n = some r → r.outcome = some (.error e) →
      (∀ r, s.cache.run? n = some r → r.outcome = none) →
      (step covers s a).cache.completed = s.cache.completed ∧
        (step covers s a).cache.inFlight =
          if s.cache.inFlight = some n ∨ s.cache.run? n = none then none else s.cache.inFlight) ∧
    (∀ before name rest source c o, acts = before ++ .poll name :: rest →
      (∀ a ∈ rest, a.Keeps name) → (after covers before).source? covers name = some source →
      s.caller? name = some c → c.state = .answered o →
      (∃ d, source = .completed d ∧ o = .ok d) ∨
        ∃ n r, (source = .joined n ∨ source = .started n) ∧ s.cache.run? n = some r ∧
          r.outcome = some o ∧
          ∀ r, (after covers before).cache.run? n = some r → r.outcome = none) := by
  refine ⟨flying_after refl acts, ?_, ?_⟩
  · intro a n r e failed error running
    exact (step_moves covers _ a).failed failed error running
  · rintro before name rest source c o rfl keeps asked hc hst
    have served := (Served.inv (before ++ .poll name :: rest)).served name c source hc
      ⟨before, rest, rfl, keeps, asked⟩
    have flying : Flying (after covers before).cache := flying_after refl before
    rcases served.answered hst with completed | ⟨n, r, waits, hr, ended⟩
    · exact Or.inl completed
    · have from_run : (after covers before).source? covers name = some (.joined n) ∨
          (after covers before).source? covers name = some (.started n) := by
        rcases waits with rfl | rfl
        · exact Or.inl asked
        · exact Or.inr asked
      exact Or.inr ⟨n, r, waits, hr, ended, fun r' hr' => running_of_source? flying from_run hr'⟩

/-- A run is displaced by one for a later version and fails then. -/
def displaced : List (Action Nat Nat Nat Unit) :=
  [.create 0 1 none, .poll 0, .create 1 2 none, .poll 1, .openGate 0 (.error ())]

/-- The failure of a displaced run leaves the newer one in flight. -/
theorem displaced_not_joined :
    let covers := fun a b : Nat => decide (b ≤ a)
    (∀ v, covers v v = true) ∧
      (after covers displaced).cache.inFlight = some 1 ∧
      (step covers (after covers displaced) (.poll 0)).answer? 0 = some (.error ()) ∧
      (step covers (after covers displaced) (.poll 0)).cache.inFlight = some 1 := by
  intro covers
  have refl : ∀ v, covers v v = true := fun v => decide_eq_true (Nat.le_refl v)
  refine ⟨refl, by decide, by decide, ?_⟩
  exact ((ended_not_joined covers refl displaced).2.1 (.poll 0) 0 ⟨1, some (.error ()), some (.error ())⟩
    () (by rfl) rfl (by decide)).2

end Callers

end ShaderDiagnostics
