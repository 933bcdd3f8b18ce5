import ShaderDiagnostics.Cache

/-!
# The slots of a cache

What the operations of a cache do to its runs and to its two slots. A request is answered in one of three
ways (`Answered`); runs keep their numbers and versions for ever, and how they ended (`run?_start`,
`run?_finish`, `run?_modifyWork`).

Whatever covering means, three things hold of the slots at any time (`Sound`): the completed result is
that of a run that ended well, the run in flight exists, and the completed version does not cover the
version of the run in flight.
-/

namespace ShaderDiagnostics.Cache

variable {V W D E : Type} {covers : V → V → Bool} {c : Cache V W D E}

/-! ### Runs -/

theorem lt_of_run? {n : Nat} {r : Run V W D E} (h : c.run? n = some r) : n < c.runs.length :=
  (List.getElem?_eq_some_iff.1 h).1

theorem run?_start (c : Cache V W D E) (v : V) (w : W) (n : Nat) :
    (c.start v w).run? n = if n = c.runs.length then some ⟨v, w, none⟩ else c.run? n := by
  unfold run? start
  rcases Nat.lt_trichotomy n c.runs.length with h | h | h
  · rw [List.getElem?_append_left h, if_neg (Nat.ne_of_lt h)]
  · rw [if_pos h, h, List.getElem?_concat_length]
  · rw [if_neg (Nat.ne_of_gt h), List.getElem?_eq_none (by simpa using Nat.succ_le_of_lt h),
      List.getElem?_eq_none (Nat.le_of_lt h)]

/-- A run that is there stays when another one starts. -/
theorem run?_start_of_run? {n : Nat} {r : Run V W D E} (h : c.run? n = some r) (v : V) (w : W) :
    (c.start v w).run? n = some r := by
  rw [run?_start, if_neg (Nat.ne_of_lt (lt_of_run? h)), h]

theorem run?_setOutcome (c : Cache V W D E) (n m : Nat) (o : Except E D) :
    (c.setOutcome n o).run? m =
      if m = n then (c.run? m).map fun r => { r with outcome := some o } else c.run? m := by
  simp only [run?, setOutcome, List.getElem?_modify]
  by_cases h : m = n
  · subst h; simp [Option.map]
  · simp [h, Ne.symm h]

/-- What is kept of a result and of the run in flight when a run ends well. -/
theorem record_eq (c : Cache V W D E) (v : V) (d : D) {kept : Option (V × D)}
    (hk : kept = if coveredBy covers c.completedVersion v then c.completed else some (v, d)) :
    c.record covers v d =
      ⟨kept, if c.inFlightVersion.any (coveredBy covers (kept.map (·.1))) then none else c.inFlight,
        c.runs⟩ := by
  unfold record
  rw [← hk]
  have hi : ({ c with completed := kept } : Cache V W D E).inFlightVersion = c.inFlightVersion := rfl
  simp only [hi]
  cases c.inFlightVersion with
  | none => rfl
  | some u => by_cases h : coveredBy covers (kept.map (·.1)) u <;> simp [h, completedVersion]

@[simp] theorem run?_record (c : Cache V W D E) (v : V) (d : D) (n : Nat) :
    (c.record covers v d).run? n = c.run? n := by
  rw [record_eq c v d rfl]
  rfl

@[simp] theorem run?_forget (c : Cache V W D E) (m n : Nat) : (c.forget m).run? n = c.run? n := by
  unfold forget
  split <;> rfl

/-- The run that ends has its outcome then, and no other run changes. -/
theorem run?_finish {n : Nat} {r : Run V W D E} (hr : c.run? n = some r) (ho : r.outcome = none)
    (o : Except E D) (m : Nat) :
    (c.finish covers n o).run? m = if m = n then some { r with outcome := some o } else c.run? m := by
  have h : (c.finish covers n o).run? m =
      if m = n then (c.run? m).map fun s => { s with outcome := some o } else c.run? m := by
    cases o <;> simp [finish, hr, ho, run?_setOutcome]
  rw [h]
  by_cases hm : m = n
  · simp [hm, hr]
  · simp [hm]

/-- Every run is the one that ends or was there before. -/
theorem run?_finish_cases {n : Nat} {r : Run V W D E} (hr : c.run? n = some r) (ho : r.outcome = none)
    {o : Except E D} {m : Nat} {s : Run V W D E} (hs : (c.finish covers n o).run? m = some s) :
    m = n ∧ s = { r with outcome := some o } ∨ m ≠ n ∧ c.run? m = some s := by
  rw [run?_finish hr ho] at hs
  split at hs
  next hm => exact Or.inl ⟨hm, (Option.some.inj hs).symm⟩
  next hm => exact Or.inr ⟨hm, hs⟩

/-- A run that has ended stays as it is. -/
theorem finish_of_ended {n : Nat} {r : Run V W D E} (hr : c.run? n = some r)
    (ho : r.outcome.isSome = true) (o : Except E D) : c.finish covers n o = c := by
  simp [finish, hr, ho]

theorem run?_modifyWork (c : Cache V W D E) (n m : Nat) (f : W → W) :
    (c.modifyWork n f).run? m =
      if m = n then (c.run? m).map fun r => { r with work := f r.work } else c.run? m := by
  simp only [run?, modifyWork, List.getElem?_modify]
  by_cases h : m = n
  · subst h; simp [Option.map]
  · simp [h, Ne.symm h]

/-- A change of the work of a run touches nothing else of any run. -/
theorem run?_modifyWork_of_run? {n : Nat} {r : Run V W D E} (h : c.run? n = some r) (m : Nat)
    (f : W → W) :
    ∃ w, (c.modifyWork m f).run? n = some { r with work := w } ∧ (n ≠ m → w = r.work) ∧
      (n = m → w = f r.work) := by
  rw [run?_modifyWork, h]
  by_cases hn : n = m
  · exact ⟨f r.work, by simp [hn], fun h => absurd hn h, fun _ => rfl⟩
  · exact ⟨r.work, by simp [hn], fun _ => rfl, fun h => absurd h hn⟩

/-- Every run is the one whose work changes or was there before. -/
theorem run?_modifyWork_cases {n m : Nat} {f : W → W} {s : Run V W D E}
    (hs : (c.modifyWork n f).run? m = some s) :
    (∃ r, m = n ∧ c.run? n = some r ∧ s = { r with work := f r.work }) ∨ m ≠ n ∧ c.run? m = some s := by
  rw [run?_modifyWork] at hs
  split at hs
  next hm =>
    obtain ⟨r, hr, rfl⟩ := Option.map_eq_some_iff.1 hs
    exact Or.inl ⟨r, hm, hm ▸ hr, rfl⟩
  next hm => exact Or.inr ⟨hm, hs⟩

/-- Every run is the one that starts or was there before. -/
theorem run?_start_cases {v : V} {w : W} {n : Nat} {r : Run V W D E}
    (hr : (c.start v w).run? n = some r) :
    n = c.runs.length ∧ r = ⟨v, w, none⟩ ∨ n ≠ c.runs.length ∧ c.run? n = some r := by
  rw [run?_start] at hr
  split at hr
  next hn => exact Or.inl ⟨hn, (Option.some.inj hr).symm⟩
  next hn => exact Or.inr ⟨hn, hr⟩

/-! ### Requests -/

/-- How a request for a version is answered: from the completed result or from the run in flight if they
cover the version, and by a new run only if neither does. -/
inductive Answered (covers : V → V → Bool) (c : Cache V W D E) (v : V) (w : W) :
    Cache V W D E × Source D → Prop where
  /-- The completed result covers the version. -/
  | completed {u : V} {d : D} (slot : c.completed = some (u, d)) (covered : covers u v = true) :
      Answered covers c v w (c, .completed d)
  /-- The run in flight covers the version. -/
  | joined {n : Nat} {r : Run V W D E} (slot : c.inFlight = some n) (run : c.run? n = some r)
      (covered : covers r.version v = true) : Answered covers c v w (c, .joined n)
  /-- A run starts. -/
  | started (bare : coveredBy covers c.completedVersion v = false)
      (free : coveredBy covers c.inFlightVersion v = false) :
      Answered covers c v w (c.start v w, .started c.runs.length)

theorem request_join (c : Cache V W D E) (v : V) (w : W)
    (bare : coveredBy covers c.completedVersion v = false) :
    Answered covers c v w (request.join covers v w c) := by
  unfold request.join
  split
  next n hn =>
    split
    next h =>
      cases hr : c.run? n with
      | none => simp [hr, coveredBy] at h
      | some r => exact .joined hn hr (by simpa [hr, coveredBy] using h)
    next h => exact .started bare (by simpa [inFlightVersion, hn] using h)
  next hn => exact .started bare (by simp [inFlightVersion, hn, coveredBy])

/-- Every request is answered in one of the three ways. -/
theorem request_answered (covers : V → V → Bool) (c : Cache V W D E) (v : V) (w : W) :
    Answered covers c v w (request covers c v w) := by
  unfold request
  split
  next u d h =>
    split
    next hc => exact .completed h hc
    next hc => exact request_join c v w (by simpa [completedVersion, h, coveredBy] using hc)
  next h => exact request_join c v w (by simp [completedVersion, h, coveredBy])

/-- A request leaves a cache as it is or starts a run, and this only if neither slot covers the version. -/
theorem request_cases (covers : V → V → Bool) (c : Cache V W D E) (v : V) (w : W) :
    (c.request covers v w).1 = c ∨
      (coveredBy covers c.completedVersion v = false ∧ coveredBy covers c.inFlightVersion v = false) ∧
        (c.request covers v w).1 = c.start v w := by
  have ha := request_answered covers c v w
  generalize c.request covers v w = p at ha
  cases ha with
  | completed => exact Or.inl rfl
  | joined => exact Or.inl rfl
  | started bare free => exact Or.inr ⟨⟨bare, free⟩, rfl⟩

/-- After a request every run is a new one or was there before. -/
theorem run?_request_cases {v : V} {w : W} {n : Nat} {r : Run V W D E}
    (hr : (c.request covers v w).1.run? n = some r) : r = ⟨v, w, none⟩ ∨ c.run? n = some r := by
  rcases request_cases covers c v w with same | ⟨-, new⟩
  · exact Or.inr (same ▸ hr)
  · rw [new] at hr
    exact (run?_start_cases hr).imp And.right And.right

/-! ### Runs stay -/

/-- Every run of the one cache is also a run of the other, for the same version, and if it has ended, then
it has ended in the same way. -/
def Grows (c c' : Cache V W D E) : Prop :=
  ∀ n r, c.run? n = some r →
    ∃ r', c'.run? n = some r' ∧ r'.version = r.version ∧ ∀ o, r.outcome = some o → r'.outcome = some o

theorem Grows.refl (c : Cache V W D E) : Grows c c := fun _ r hr => ⟨r, hr, rfl, fun _ h => h⟩

theorem Grows.trans {c₁ c₂ c₃ : Cache V W D E} (h₁ : Grows c₁ c₂) (h₂ : Grows c₂ c₃) :
    Grows c₁ c₃ := by
  intro n r hr
  obtain ⟨r₂, hr₂, hv₂, ho₂⟩ := h₁ n r hr
  obtain ⟨r₃, hr₃, hv₃, ho₃⟩ := h₂ n r₂ hr₂
  exact ⟨r₃, hr₃, hv₃.trans hv₂, fun o h => ho₃ o (ho₂ o h)⟩

theorem grows_start (c : Cache V W D E) (v : V) (w : W) : Grows c (c.start v w) :=
  fun _ r hr => ⟨r, run?_start_of_run? hr v w, rfl, fun _ h => h⟩

theorem grows_request (covers : V → V → Bool) (c : Cache V W D E) (v : V) (w : W) :
    Grows c (c.request covers v w).1 := by
  rcases request_cases covers c v w with same | ⟨-, new⟩
  · rw [same]
    exact Grows.refl c
  · rw [new]
    exact grows_start c v w

theorem grows_finish (covers : V → V → Bool) (c : Cache V W D E) (n : Nat) (o : Except E D) :
    Grows c (c.finish covers n o) := by
  intro m s hs
  cases hr : c.run? n with
  | none => exact ⟨s, by simpa [finish, hr] using hs, rfl, fun _ h => h⟩
  | some r =>
    cases ho : r.outcome with
    | some _ => exact ⟨s, by rwa [finish_of_ended hr (by rw [ho]; rfl)], rfl, fun _ h => h⟩
    | none =>
      by_cases hm : m = n
      · subst hm
        obtain rfl := Option.some.inj (hr.symm.trans hs)
        refine ⟨{ r with outcome := some o }, by rw [run?_finish hr ho, if_pos rfl], rfl, fun o' h => ?_⟩
        rw [ho] at h
        cases h
      · exact ⟨s, by rw [run?_finish hr ho, if_neg hm, hs], rfl, fun _ h => h⟩

theorem grows_modifyWork (c : Cache V W D E) (n : Nat) (f : W → W) : Grows c (c.modifyWork n f) := by
  intro m r hr
  obtain ⟨w, hw, -⟩ := run?_modifyWork_of_run? hr n f
  exact ⟨_, hw, rfl, fun _ h => h⟩

/-! ### Slots -/

theorem completed_record (c : Cache V W D E) (v : V) (d : D) :
    (c.record covers v d).completed =
      if coveredBy covers c.completedVersion v then c.completed else some (v, d) := by
  rw [record_eq c v d rfl]

/-- The run in flight leaves its place if the completed result, as it is now, covers it. -/
theorem inFlight_record (c : Cache V W D E) (v : V) (d : D) :
    (c.record covers v d).inFlight =
      if c.inFlightVersion.any (coveredBy covers (c.record covers v d).completedVersion) then none
      else c.inFlight := by
  rw [record_eq c v d rfl]
  rfl

/-- A run that fails leaves its place if it is in flight. -/
theorem inFlight_forget (c : Cache V W D E) (n : Nat) :
    (c.forget n).inFlight = if c.inFlight = some n then none else c.inFlight := by
  unfold forget
  split <;> rfl

@[simp] theorem completed_forget (c : Cache V W D E) (n : Nat) :
    (c.forget n).completed = c.completed := by
  unfold forget
  split <;> rfl

theorem finish_ok {n : Nat} {r : Run V W D E} (hr : c.run? n = some r) (ho : r.outcome = none) (d : D) :
    c.finish covers n (.ok d) = (c.record covers r.version d).setOutcome n (.ok d) := by
  simp [finish, hr, ho]

theorem finish_error {n : Nat} {r : Run V W D E} (hr : c.run? n = some r) (ho : r.outcome = none)
    (e : E) : c.finish covers n (.error e) = (c.forget n).setOutcome n (.error e) := by
  simp [finish, hr, ho]

@[simp] theorem completed_setOutcome (c : Cache V W D E) (n : Nat) (o : Except E D) :
    (c.setOutcome n o).completed = c.completed := rfl

@[simp] theorem inFlight_setOutcome (c : Cache V W D E) (n : Nat) (o : Except E D) :
    (c.setOutcome n o).inFlight = c.inFlight := rfl

/-- What holds of the slots of a cache at any time. -/
structure Sound (covers : V → V → Bool) (c : Cache V W D E) : Prop where
  /-- The completed result is that of a run that ended well. -/
  completed : ∀ u d, c.completed = some (u, d) →
    ∃ n r, c.run? n = some r ∧ r.version = u ∧ r.outcome = some (.ok d)
  /-- The run in flight exists. -/
  inFlight : ∀ n, c.inFlight = some n → ∃ r, c.run? n = some r
  /-- The completed result does not cover the run in flight. -/
  apart : ∀ u v, c.completedVersion = some u → c.inFlightVersion = some v → covers u v = false

theorem sound_empty : Sound covers (empty : Cache V W D E) where
  completed _ _ h := by simp [empty] at h
  inFlight _ h := by simp [empty] at h
  apart _ _ h := by simp [empty, completedVersion] at h

/-- A run starts only for a version that the completed result does not cover. -/
theorem Sound.start (h : Sound covers c) {v : V} (w : W)
    (bare : coveredBy covers c.completedVersion v = false) : Sound covers (c.start v w) where
  completed u d hc := by
    obtain ⟨n, r, hr, hv, ho⟩ := h.completed u d hc
    exact ⟨n, r, run?_start_of_run? hr v w, hv, ho⟩
  inFlight n hn := by
    obtain rfl : c.runs.length = n := Option.some.inj hn
    exact ⟨_, by rw [run?_start, if_pos rfl]⟩
  apart u x hu hx := by
    have new : (c.start v w).inFlightVersion = some v := by
      show ((c.start v w).run? c.runs.length).map (·.version) = some v
      rw [run?_start, if_pos rfl]
      rfl
    obtain rfl := Option.some.inj (new.symm.trans hx)
    have hu' : c.completedVersion = some u := hu
    simpa [coveredBy, hu'] using bare

/-- A run that ends well: its result is kept, unless the completed one covers it. -/
theorem Sound.record (h : Sound covers c) {n : Nat} {r : Run V W D E} (hr : c.run? n = some r)
    (ho : r.outcome = none) (d : D) :
    Sound covers ((c.record covers r.version d).setOutcome n (.ok d)) := by
  rw [← finish_ok hr ho]
  have new : (c.finish covers n (.ok d)).run? n = some { r with outcome := some (.ok d) } := by
    rw [run?_finish hr ho, if_pos rfl]
  have keep : ∀ m s, c.run? m = some s → s.outcome ≠ none →
      (c.finish covers n (.ok d)).run? m = some s := by
    intro m s hs hne
    have hm : m ≠ n := by
      rintro rfl
      exact hne (Option.some.inj (hr.symm.trans hs) ▸ ho)
    rw [run?_finish hr ho, if_neg hm, hs]
  refine ⟨fun u d' hc => ?_, fun m hm => ?_, fun u v hu hv => ?_⟩
  · rw [finish_ok hr ho, completed_setOutcome, completed_record] at hc
    split at hc
    · obtain ⟨m, s, hs, hv, hs'⟩ := h.completed u d' hc
      exact ⟨m, s, keep m s hs (by simp [hs']), hv, hs'⟩
    · obtain ⟨rfl, rfl⟩ := Prod.mk.inj (Option.some.inj hc)
      exact ⟨n, _, new, rfl, rfl⟩
  · rw [finish_ok hr ho, inFlight_setOutcome, inFlight_record] at hm
    split at hm
    · cases hm
    · obtain ⟨s, hs⟩ := h.inFlight m hm
      by_cases hmn : m = n
      · exact ⟨_, by rw [hmn, new]⟩
      · exact ⟨s, by rw [run?_finish hr ho, if_neg hmn, hs]⟩
  · obtain ⟨m, hm, hv⟩ := Option.bind_eq_some_iff.1 hv
    rw [finish_ok hr ho, inFlight_setOutcome, inFlight_record] at hm
    rw [finish_ok hr ho] at hu
    have hu' : (c.record covers r.version d).completedVersion = some u := hu
    split at hm
    · cases hm
    next clear =>
      obtain ⟨s, hs⟩ := h.inFlight m hm
      have old : c.inFlightVersion = some v := by
        rw [run?_finish hr ho] at hv
        by_cases hmn : m = n
        · subst hmn; simpa [inFlightVersion, hm, hr] using hv
        · simpa [inFlightVersion, hm, hmn] using hv
      simpa [old, hu', coveredBy] using clear

/-- A run that fails: only its own place is cleared. -/
theorem Sound.forget (h : Sound covers c) {n : Nat} {r : Run V W D E} (hr : c.run? n = some r)
    (ho : r.outcome = none) (e : E) : Sound covers ((c.forget n).setOutcome n (.error e)) := by
  have same : c.finish covers n (.error e) = (c.forget n).setOutcome n (.error e) := finish_error hr ho e
  rw [← same]
  have place : ∀ m, (c.finish covers n (.error e)).inFlight = some m → c.inFlight = some m ∧ m ≠ n := by
    intro m hm
    rw [finish_error hr ho, inFlight_setOutcome, inFlight_forget] at hm
    split at hm
    · cases hm
    next hne => exact ⟨hm, fun hmn => hne (hmn ▸ hm)⟩
  refine ⟨fun u d hc => ?_, fun m hm => ?_, fun u v hu hv => ?_⟩
  · rw [finish_error hr ho, completed_setOutcome, completed_forget] at hc
    obtain ⟨m, s, hs, hv, hs'⟩ := h.completed u d hc
    have hm : m ≠ n := by
      rintro rfl
      rw [Option.some.inj (hs.symm.trans hr), ho] at hs'
      cases hs'
    exact ⟨m, s, by rw [run?_finish hr ho, if_neg hm, hs], hv, hs'⟩
  · obtain ⟨hm, hmn⟩ := place m hm
    obtain ⟨s, hs⟩ := h.inFlight m hm
    exact ⟨s, by rw [run?_finish hr ho, if_neg hmn, hs]⟩
  · obtain ⟨m, hm, hv⟩ := Option.bind_eq_some_iff.1 hv
    obtain ⟨hm, hmn⟩ := place m hm
    rw [finish_error hr ho, completedVersion, completed_setOutcome, completed_forget] at hu
    refine h.apart u v hu ?_
    rw [run?_finish hr ho, if_neg hmn] at hv
    simpa [inFlightVersion, hm] using hv

theorem Sound.finish (h : Sound covers c) (n : Nat) (o : Except E D) :
    Sound covers (c.finish covers n o) := by
  cases hr : c.run? n with
  | none => simpa [Cache.finish, hr] using h
  | some r =>
    cases ho : r.outcome with
    | some _ => rwa [finish_of_ended hr (by rw [ho]; rfl)]
    | none =>
      cases o with
      | ok d => rw [finish_ok hr ho]; exact h.record hr ho d
      | error e => rw [finish_error hr ho]; exact h.forget hr ho e

theorem Sound.modifyWork (h : Sound covers c) (n : Nat) (f : W → W) :
    Sound covers (c.modifyWork n f) where
  completed u d hc := by
    obtain ⟨m, r, hr, hv, ho⟩ := h.completed u d hc
    obtain ⟨w, hw, -⟩ := run?_modifyWork_of_run? hr n f
    exact ⟨m, _, hw, hv, ho⟩
  inFlight m hm := by
    obtain ⟨r, hr⟩ := h.inFlight m hm
    obtain ⟨w, hw, -⟩ := run?_modifyWork_of_run? hr n f
    exact ⟨_, hw⟩
  apart u v hu hv := by
    refine h.apart u v hu ?_
    obtain ⟨m, hm, hv⟩ := Option.bind_eq_some_iff.1 hv
    obtain ⟨r, hr⟩ := h.inFlight m hm
    obtain ⟨w, hw, -⟩ := run?_modifyWork_of_run? hr n f
    rw [hw] at hv
    have hm' : c.inFlight = some m := hm
    simpa [inFlightVersion, hm', hr] using hv

/-- A request keeps the slots sound. -/
theorem Sound.request (h : Sound covers c) (v : V) (w : W) :
    Sound covers (c.request covers v w).1 := by
  rcases request_cases covers c v w with same | ⟨⟨bare, -⟩, new⟩
  · rwa [same]
  · rw [new]
    exact h.start w bare

end ShaderDiagnostics.Cache
