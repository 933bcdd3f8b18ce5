import ShaderDiagnostics.Proofs.Cache.Sharing

/-!
# How many runs a version takes

If versions rank, so that of any two versions one covers the other, then what covers a version is never
lost but by a failure. At any time the runs that have been started for a version are at most as many as
the failed runs whose versions cover it, and one more if a slot of the cache covers it (`Cache.Thrifty`).
A run that starts displaces one in flight only if it covers whatever that covers; a result that is kept
covers whatever the one before covered; and only a failure clears a place without filling the other.

Main statement: however callers are made, polled and dropped, at most one run more is started for a version
than runs fail that cover it (`Callers.started_le`).
-/

namespace ShaderDiagnostics

/-- A list around one of its elements, before and after that element has been changed. -/
theorem modify_split {α : Type} {l : List α} {i : Nat} {a : α} (ha : l[i]? = some a) (f : α → α) :
    ∃ front back, l = front ++ a :: back ∧ l.modify i f = front ++ f a :: back := by
  obtain ⟨hi, rfl⟩ := List.getElem?_eq_some_iff.1 ha
  refine ⟨l.take i, l.drop (i + 1), ?_, List.modify_eq_take_cons_drop hi⟩
  rw [← List.drop_eq_getElem_cons hi, List.take_append_drop]

/-- The number of elements with some property after one element has been changed. -/
theorem countP_modify {α : Type} (p : α → Bool) {l : List α} {i : Nat} {a : α} (ha : l[i]? = some a)
    (f : α → α) :
    (l.modify i f).countP p + (p a).toNat = l.countP p + (p (f a)).toNat := by
  obtain ⟨front, back, hl, hm⟩ := modify_split ha f
  rw [hm, hl]
  simp only [List.countP_append, List.countP_cons]
  cases p a <;> cases p (f a) <;> simp <;> omega

namespace Cache

variable {V W D E : Type} {covers : V → V → Bool} {P : V → Prop} {c : Cache V W D E}

/-! ### Versions that rank -/

/-- Of any two versions of a kind one covers the other (so each covers itself), and covering is
transitive among them. -/
structure Ranked (covers : V → V → Bool) (P : V → Prop) : Prop where
  total : ∀ u v, P u → P v → covers u v = true ∨ covers v u = true
  trans : ∀ u v w, P u → P v → P w → covers u v = true → covers v w = true → covers u w = true

theorem Ranked.refl (h : Ranked covers P) {v : V} (hv : P v) : covers v v = true :=
  (h.total v v hv hv).elim id id

/-- All runs have been started for versions of a kind. -/
def Within (P : V → Prop) (c : Cache V W D E) : Prop := ∀ n r, c.run? n = some r → P r.version

theorem within_empty : Within P (empty : Cache V W D E) := fun _ _ h => by cases h

theorem Within.request (h : Within P c) {v : V} (hv : P v) (w : W) :
    Within P (c.request covers v w).1 := by
  intro n r hr
  rcases run?_request_cases hr with rfl | hr
  · exact hv
  · exact h n r hr

theorem Within.modifyWork (h : Within P c) (n : Nat) (f : W → W) : Within P (c.modifyWork n f) := by
  intro m r hr
  rcases run?_modifyWork_cases hr with ⟨r', rfl, hr', rfl⟩ | ⟨-, hr'⟩
  · exact h _ r' hr'
  · exact h m r hr'

theorem Within.finish (h : Within P c) (n : Nat) (o : Except E D) :
    Within P (c.finish covers n o) := by
  cases hr : c.run? n with
  | none => simpa [Cache.finish, hr] using h
  | some r =>
    cases ho : r.outcome with
    | some _ => rwa [finish_of_ended hr (by rw [ho]; rfl)]
    | none =>
      intro m s hs
      rcases run?_finish_cases hr ho hs with ⟨-, rfl⟩ | ⟨-, hs⟩
      · exact h n r hr
      · exact h m s hs

theorem Within.mono {Q : V → Prop} (h : Within P c) (hpq : ∀ v, P v → Q v) : Within Q c :=
  fun n r hr => hpq _ (h n r hr)

theorem Within.inFlightVersion (h : Within P c) {v : V} (hv : c.inFlightVersion = some v) : P v := by
  obtain ⟨n, -, hn⟩ := Option.bind_eq_some_iff.1 hv
  obtain ⟨r, hr, rfl⟩ := Option.map_eq_some_iff.1 hn
  exact h n r hr

theorem Within.completedVersion (h : Within P c) (hs : Sound covers c) {v : V}
    (hv : c.completedVersion = some v) : P v := by
  obtain ⟨⟨u, d⟩, hc, rfl⟩ := Option.map_eq_some_iff.1 hv
  obtain ⟨n, r, hr, rfl, -⟩ := hs.completed u d hc
  exact h n r hr

/-! ### Counting -/

/-- Whether a run has failed whose version covers the given one. -/
def Run.fails (covers : V → V → Bool) (v : V) (r : Run V W D E) : Bool :=
  match r.outcome with
  | some (.error _) => covers r.version v
  | _ => false

/-- The number of failed runs whose versions cover the given one. -/
def failures (covers : V → V → Bool) (c : Cache V W D E) (v : V) : Nat :=
  c.runs.countP (Run.fails covers v)

/-- Whether a slot covers a version. -/
def held (covers : V → V → Bool) (c : Cache V W D E) (v : V) : Bool :=
  coveredBy covers c.completedVersion v || coveredBy covers c.inFlightVersion v

variable [DecidableEq V]

/-- The number of runs started for a version. -/
def started (c : Cache V W D E) (v : V) : Nat := c.runs.countP fun r => decide (r.version = v)

theorem started_start (c : Cache V W D E) (u : V) (w : W) (v : V) :
    (c.start u w).started v = c.started v + (decide (u = v)).toNat := by
  unfold started start
  rw [List.countP_append, List.countP_singleton]
  by_cases h : u = v <;> simp [h]

omit [DecidableEq V] in
theorem failures_start (c : Cache V W D E) (u : V) (w : W) (v : V) :
    (c.start u w).failures covers v = c.failures covers v := by
  unfold failures start
  rw [List.countP_append, List.countP_singleton]
  rfl

theorem started_modifyWork (c : Cache V W D E) (n : Nat) (f : W → W) (v : V) :
    (c.modifyWork n f).started v = c.started v := by
  unfold started modifyWork
  cases hr : c.runs[n]? with
  | none => rw [List.modify_eq_self (List.getElem?_eq_none_iff.1 hr)]
  | some r => exact Nat.add_right_cancel (countP_modify _ hr _)

omit [DecidableEq V] in
theorem failures_modifyWork (c : Cache V W D E) (n : Nat) (f : W → W) (v : V) :
    (c.modifyWork n f).failures covers v = c.failures covers v := by
  unfold failures modifyWork
  cases hr : c.runs[n]? with
  | none => rw [List.modify_eq_self (List.getElem?_eq_none_iff.1 hr)]
  | some r => exact Nat.add_right_cancel (countP_modify (Run.fails covers v) hr _)

section

variable {n : Nat} {r : Run V W D E} (hr : c.run? n = some r) (ho : r.outcome = none)
include hr ho

omit [DecidableEq V] in
theorem runs_finish (o : Except E D) :
    (c.finish covers n o).runs = c.runs.modify n fun r => { r with outcome := some o } := by
  cases o with
  | ok d => rw [finish_ok hr ho, record_eq c r.version d rfl]; rfl
  | error e =>
    rw [finish_error hr ho]
    show (c.forget n).runs.modify n _ = _
    unfold forget
    split <;> rfl

theorem started_finish (o : Except E D) (v : V) :
    (c.finish covers n o).started v = c.started v := by
  unfold started
  rw [runs_finish hr ho]
  exact Nat.add_right_cancel (countP_modify _ hr _)

omit [DecidableEq V] in
/-- The end of a run counts if it is a failure and its version covers the given one. -/
theorem failures_finish (o : Except E D) (v : V) :
    (c.finish covers n o).failures covers v =
      c.failures covers v + (Run.fails covers v { r with outcome := some o }).toNat := by
  have h := countP_modify (Run.fails covers v) hr fun r => { r with outcome := some o }
  have before : Run.fails covers v r = false := by
    unfold Run.fails
    rw [ho]
  rw [before] at h
  unfold failures
  rw [runs_finish hr ho]
  exact h

end

/-! ### What covers a version is not lost -/

omit [DecidableEq V] in
theorem coveredBy_iff {o : Option V} {v : V} :
    coveredBy covers o v = true ↔ ∃ u, o = some u ∧ covers u v = true := by
  cases o <;> simp [coveredBy]

omit [DecidableEq V] in
theorem inFlightVersion_congr {c' : Cache V W D E} (place : c'.inFlight = c.inFlight)
    (versions : ∀ n, (c'.run? n).map (·.version) = (c.run? n).map (·.version)) :
    c'.inFlightVersion = c.inFlightVersion := by
  unfold inFlightVersion
  rw [place, funext versions]

section

variable (ranked : Ranked covers P) (within : Within P c)
include ranked within

omit [DecidableEq V]

/-- A run that starts covers whatever the run covers that it displaces. -/
theorem held_start {u : V} (hu : P u) (free : coveredBy covers c.inFlightVersion u = false) (w : W)
    {v : V} (hv : P v) (h : c.held covers v = true) : (c.start u w).held covers v = true := by
  have flying : (c.start u w).inFlightVersion = some u := by
    show ((c.start u w).run? c.runs.length).map (·.version) = some u
    rw [run?_start, if_pos rfl]
    rfl
  simp only [held, Bool.or_eq_true] at h ⊢
  rw [flying]
  refine h.imp id fun h => ?_
  obtain ⟨x, hx, hxv⟩ := coveredBy_iff.1 h
  have px := within.inFlightVersion hx
  have hux : covers u x = true := by
    refine (ranked.total u x hu px).resolve_right fun hxu => ?_
    rw [coveredBy_iff.2 ⟨x, hx, hxu⟩] at free
    cases free
  exact coveredBy_iff.2 ⟨u, rfl, ranked.trans u x v hu px hv hux hxv⟩

/-- A result that is kept covers whatever the completed one before covered. -/
theorem covered_record (sound : Sound covers c) {u : V} (hu : P u) (d : D) {v : V} (hv : P v)
    (h : coveredBy covers c.completedVersion v = true) :
    coveredBy covers (c.record covers u d).completedVersion v = true := by
  unfold Cache.completedVersion
  rw [completed_record]
  split
  · exact h
  next new =>
    obtain ⟨x, hx, hxv⟩ := coveredBy_iff.1 h
    have px := within.completedVersion sound hx
    have hux : covers u x = true := by
      refine (ranked.total u x hu px).resolve_right fun hxu => ?_
      exact new (coveredBy_iff.2 ⟨x, hx, hxu⟩)
    exact coveredBy_iff.2 ⟨u, rfl, ranked.trans u x v hu px hv hux hxv⟩

/-- Once the completed result covers a version, it goes on to do so when a run ends. -/
theorem covered_finish (sound : Sound covers c) (n : Nat) (o : Except E D) {v : V} (hv : P v)
    (h : coveredBy covers c.completedVersion v = true) :
    coveredBy covers (c.finish covers n o).completedVersion v = true := by
  cases hr : c.run? n with
  | none => simpa [Cache.finish, hr] using h
  | some r =>
    cases ho : r.outcome with
    | some _ => rwa [finish_of_ended hr (by rw [ho]; rfl)]
    | none =>
      cases o with
      | ok d =>
        rw [finish_ok hr ho]
        exact covered_record ranked within sound (within n r hr) d hv h
      | error e =>
        rw [finish_error hr ho]
        show coveredBy covers ((c.forget n).completed.map (·.1)) v = true
        rw [completed_forget]
        exact h

/-- A result that comes in leaves no version uncovered that was covered. -/
theorem held_record (sound : Sound covers c) {u : V} (hu : P u) (d : D) {v : V} (hv : P v)
    (h : c.held covers v = true) : (c.record covers u d).held covers v = true := by
  simp only [held, Bool.or_eq_true] at h ⊢
  rcases h with h | h
  · exact Or.inl (covered_record ranked within sound hu d hv h)
  · obtain ⟨x, hx, hxv⟩ := coveredBy_iff.1 h
    have place : (c.record covers u d).inFlight = _ := inFlight_record c u d
    rw [hx, Option.any_some] at place
    cases hc : coveredBy covers (c.record covers u d).completedVersion x with
    | true =>
      -- the run in flight leaves its place because the completed result covers it
      obtain ⟨y, hy, hyx⟩ := coveredBy_iff.1 hc
      have py : P y := by
        have hy' := hy
        unfold Cache.completedVersion at hy'
        rw [completed_record] at hy'
        split at hy'
        · exact within.completedVersion sound hy'
        · exact Option.some.inj hy' ▸ hu
      exact Or.inl (coveredBy_iff.2
        ⟨y, hy, ranked.trans y x v py (within.inFlightVersion hx) hv hyx hxv⟩)
    | false =>
      rw [hc, if_neg (by decide)] at place
      have same : (c.record covers u d).inFlightVersion = c.inFlightVersion := by
        unfold Cache.inFlightVersion
        rw [place]
        simp only [run?_record]
      exact Or.inr (by rw [same, hx]; exact coveredBy_iff.2 ⟨x, rfl, hxv⟩)

end

/-! ### Thrift -/

/-- The runs started for a version are paid for: by failed runs whose versions cover it, and one by a slot
that covers it. -/
def Thrifty (covers : V → V → Bool) (P : V → Prop) (c : Cache V W D E) : Prop :=
  ∀ v, P v → c.started v ≤ c.failures covers v + (c.held covers v).toNat

theorem thrifty_empty : Thrifty covers P (empty : Cache V W D E) := fun _ _ => Nat.zero_le _

theorem toNat_le {a b : Bool} (h : a = true → b = true) : a.toNat ≤ b.toNat := by
  cases a <;> cases b <;> simp_all

namespace Thrifty

theorem start (h : Thrifty covers P c) (ranked : Ranked covers P) (within : Within P c) {u : V}
    (hu : P u) (bare : coveredBy covers c.completedVersion u = false)
    (free : coveredBy covers c.inFlightVersion u = false) (w : W) :
    Thrifty covers P (c.start u w) := by
  intro v hv
  have hold := h v hv
  rw [started_start, failures_start]
  by_cases huv : u = v
  · subst huv
    have before : c.held covers u = false := by simp [held, bare, free]
    have after : (c.start u w).held covers u = true := by
      have flying : (c.start u w).inFlightVersion = some u := by
        show ((c.start u w).run? c.runs.length).map (·.version) = some u
        rw [run?_start, if_pos rfl]
        rfl
      simp [held, flying, coveredBy, ranked.refl hu]
    rw [before] at hold
    rw [after]
    simpa using hold
  · have kept := toNat_le (held_start ranked within hu free w hv)
    simp only [huv, decide_false, Bool.toNat_false, Nat.add_zero]
    omega

theorem request (h : Thrifty covers P c) (ranked : Ranked covers P) (within : Within P c) {u : V}
    (hu : P u) (w : W) : Thrifty covers P (c.request covers u w).1 := by
  rcases request_cases covers c u w with same | ⟨⟨bare, free⟩, new⟩
  · rwa [same]
  · rw [new]
    exact h.start ranked within hu bare free w

theorem modifyWork (h : Thrifty covers P c) (n : Nat) (f : W → W) :
    Thrifty covers P (c.modifyWork n f) := by
  intro v hv
  have same : (c.modifyWork n f).inFlightVersion = c.inFlightVersion :=
    inFlightVersion_congr rfl fun m => by rw [run?_modifyWork]; split <;> cases c.run? m <;> rfl
  have kept : (c.modifyWork n f).held covers v = c.held covers v := by
    unfold held
    rw [same]
    rfl
  rw [started_modifyWork, failures_modifyWork, kept]
  exact h v hv

/-- A failure that clears the place of a run pays for what that run covered. -/
theorem forget (h : Thrifty covers P c) {n : Nat} {r : Run V W D E} (hr : c.run? n = some r)
    (ho : r.outcome = none) (e : E) : Thrifty covers P (c.finish covers n (.error e)) := by
  intro v hv
  have hold := h v hv
  rw [started_finish hr ho, failures_finish hr ho]
  have lost : (c.held covers v).toNat ≤
      (covers r.version v).toNat + ((c.finish covers n (.error e)).held covers v).toNat := by
    cases hc : covers r.version v with
    | true => cases c.held covers v <;> simp
    | false =>
      rw [Bool.toNat_false, Nat.zero_add]
      refine toNat_le fun hh => ?_
      rw [finish_error hr ho]
      simp only [held, Bool.or_eq_true] at hh ⊢
      refine hh.imp (fun hh => ?_) fun hh => ?_
      · show coveredBy covers ((c.forget n).completed.map (·.1)) v = true
        rw [completed_forget]
        exact hh
      · obtain ⟨x, hx, hxv⟩ := coveredBy_iff.1 hh
        obtain ⟨m, hm, hmx⟩ := Option.bind_eq_some_iff.1 hx
        have hmn : m ≠ n := by
          rintro rfl
          rw [hr] at hmx
          obtain rfl := Option.some.inj hmx
          rw [hxv] at hc
          cases hc
        have place : ((c.forget n).setOutcome n (.error e)).inFlight = some m := by
          rw [inFlight_setOutcome, inFlight_forget, hm, if_neg fun he => hmn (Option.some.inj he)]
        refine coveredBy_iff.2 ⟨x, ?_, hxv⟩
        unfold inFlightVersion
        rw [place, Option.bind_some, run?_setOutcome, if_neg hmn, run?_forget, hmx]
  show c.started v ≤ c.failures covers v + (covers r.version v).toNat + _
  omega

theorem finish (h : Thrifty covers P c) (ranked : Ranked covers P) (within : Within P c)
    (sound : Sound covers c) (n : Nat) (o : Except E D) : Thrifty covers P (c.finish covers n o) := by
  cases hr : c.run? n with
  | none => simpa [Cache.finish, hr] using h
  | some r =>
    cases ho : r.outcome with
    | some _ => rwa [finish_of_ended hr (by rw [ho]; rfl)]
    | none =>
      cases o with
      | error e => exact h.forget hr ho e
      | ok d =>
        intro v hv
        have hold := h v hv
        rw [started_finish hr ho, failures_finish hr ho]
        have kept := toNat_le (held_record ranked within sound (within n r hr) d hv)
        have same : (c.finish covers n (.ok d)).held covers v =
            (c.record covers r.version d).held covers v := by
          rw [finish_ok hr ho]
          unfold held
          rw [inFlightVersion_congr (c := c.record covers r.version d) (inFlight_setOutcome _ _ _)
            fun m => by rw [run?_setOutcome]; split <;> cases (c.record covers r.version d).run? m <;> rfl]
          rfl
        rw [same]
        omega

/-- At most one run more is started for a version than runs fail that cover it. -/
theorem le (h : Thrifty covers P c) (within : Within P c) (v : V) :
    c.started v ≤ 1 + c.failures covers v := by
  by_cases hv : P v
  · have hheld := (c.held covers v).toNat_le
    have hle := h v hv
    omega
  · have none : c.started v = 0 := by
      refine List.countP_eq_zero.2 fun r hr => ?_
      obtain ⟨n, hn⟩ := List.mem_iff_getElem?.1 hr
      simpa using fun hrv : r.version = v => hv (hrv ▸ within n r hn)
    omega

end Thrifty

end Cache

/-! ### Callers -/

namespace Callers

open Cache (Ranked Within Thrifty Sound)

variable {K V D E : Type} [DecidableEq K] {covers : V → V → Bool}

/-- A caller has asked the cache for the version: it was polled for the first time. -/
def Requested (covers : V → V → Bool) (acts : List (Action K V D E)) (v : V) : Prop :=
  ∃ before name rest ready, acts = before ++ .poll name :: rest ∧
    (after covers before).caller? name = some ⟨v, ready, .idle⟩

theorem Requested.snoc {acts : List (Action K V D E)} {v : V} (h : Requested covers acts v)
    (a : Action K V D E) : Requested covers (acts ++ [a]) v := by
  obtain ⟨before, name, rest, ready, rfl, hc⟩ := h
  exact ⟨before, name, rest ++ [a], ready, by simp, hc⟩

section

variable {s : Callers K V D E} {I : Cache V (Gate D E) D E → Prop}

/-- A poll of a caller that waits for a run ends the run at most. -/
theorem pollWaiting_keeps (finish : ∀ c n o, I c → I (c.finish covers n o)) (h : I s.cache) (name : K)
    (c : Caller V D E) (n : Nat) : I (s.pollWaiting covers name c n).cache := by
  unfold pollWaiting
  split
  · exact h
  · split
    · exact h
    · split
      · exact finish _ _ _ h
      · exact h

/-- What holds of a cache and lasts when a run's work changes, when a run ends and when a version is
requested lasts over an action; the version is that of a caller polled for the first time. -/
theorem step_keeps (modifyWork : ∀ c n f, I c → I (c.modifyWork n f))
    (finish : ∀ c n o, I c → I (c.finish covers n o)) (a : Action K V D E)
    (request : ∀ name v ready, a = .poll name → s.caller? name = some ⟨v, ready, .idle⟩ →
      I s.cache → I (s.cache.request covers v ready).1) (h : I s.cache) : I (step covers s a).cache := by
  cases a with
  | create name version ready => exact h
  | cancel name => exact h
  | openGate run outcome => exact modifyWork s.cache run (fun gate => some (gate.getD outcome)) h
  | poll name =>
    show I (s.poll covers name).cache
    unfold poll
    split
    · exact h
    next c hc =>
      obtain ⟨v, ready, state⟩ := c
      cases state with
      | answered o => exact h
      | waiting n => exact pollWaiting_keeps finish h name _ n
      | idle =>
        have asked := request name v ready rfl hc h
        dsimp only
        split
        next he => rw [he] at asked; exact asked
        next he => rw [he] at asked; exact pollWaiting_keeps finish asked name _ _
        next he => rw [he] at asked; exact pollWaiting_keeps finish asked name _ _

end

variable [DecidableEq V]

/-- **Bounded recomputation.** Let covering be transitive and total, and so reflexive, on the versions that
callers ask for. After any actions, at most one run more has been started for a version than runs have
failed whose versions cover it. -/
theorem started_le (covers : V → V → Bool) (acts : List (Action K V D E))
    (ranked : Ranked covers (Requested covers acts)) (v : V) :
    (after covers acts).cache.started v ≤ 1 + (after covers acts).cache.failures covers v := by
  suffices h : ∀ before rest, acts = before ++ rest → Sound covers (after covers before).cache ∧
      Within (Requested covers acts) (after covers before).cache ∧
      Thrifty covers (Requested covers acts) (after covers before).cache by
    obtain ⟨-, within, thrifty⟩ := h acts [] (by simp)
    exact thrifty.le within v
  intro before
  induction before using List.reverseRecOn with
  | nil => exact fun _ _ => ⟨Cache.sound_empty, Cache.within_empty, Cache.thrifty_empty⟩
  | append_singleton before a ih =>
    intro rest hacts
    rw [after_snoc]
    refine step_keeps (I := fun c => Sound covers c ∧ Within (Requested covers acts) c ∧
      Thrifty covers (Requested covers acts) c) ?_ ?_ a ?_ (ih (a :: rest) (by simpa using hacts))
    · rintro c n f ⟨sound, within, thrifty⟩
      exact ⟨sound.modifyWork n f, within.modifyWork n f, thrifty.modifyWork n f⟩
    · rintro c n o ⟨sound, within, thrifty⟩
      exact ⟨sound.finish n o, within.finish n o, thrifty.finish ranked within sound n o⟩
    · rintro name v ready rfl hc ⟨sound, within, thrifty⟩
      have asked : Requested covers acts v := ⟨before, name, rest, ready, by simpa using hacts, hc⟩
      exact ⟨sound.request v _, within.request asked _, thrifty.request ranked within asked _⟩

/-- Later numbers cover earlier ones. -/
theorem ranked_le (P : Nat → Prop) : Ranked (fun a b => decide (b ≤ a)) P where
  total u v _ _ := by simpa using Nat.le_total v u
  trans u v w _ _ _ huv hvw := by
    simp only [decide_eq_true_eq] at *
    exact Nat.le_trans hvw huv

/-- A run fails, and another one is started for the same version. -/
def retried : List (Action Nat Nat Nat Unit) :=
  [.create 0 1 none, .poll 0, .openGate 0 (.error ()), .poll 0, .create 1 1 none, .poll 1]

/-- Two runs are started for a version if the first one fails. -/
theorem started_retried :
    let covers := fun a b : Nat => decide (b ≤ a)
    Ranked covers (Requested covers retried) ∧ (after covers retried).cache.started 1 = 2 ∧
      (after covers retried).cache.started 1 ≤ 1 + (after covers retried).cache.failures covers 1 :=
  ⟨ranked_le _, by decide, started_le _ retried (ranked_le _) 1⟩

end Callers

end ShaderDiagnostics
