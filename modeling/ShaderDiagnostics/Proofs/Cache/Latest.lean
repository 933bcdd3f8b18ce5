import ShaderDiagnostics.Proofs.Cache.Slots

/-!
# The latest version of a cache

Versions that are asked for grow: at any time there is a latest one, which covers all versions that runs
have been started for. If covering is antisymmetric, the cache keeps house for the latest version
(`Latest`): of its runs at most one has not failed; if that one has not ended, it is in flight, and if it
has ended well, its result is the completed one. So as long as the latest version stays the same, at most
one run for it ends well.
-/

namespace ShaderDiagnostics.Cache

variable {V W D E : Type} {covers : V → V → Bool} {c : Cache V W D E} {t : V}

/-- The run has not failed, so far. -/
def Unfailed (r : Run V W D E) : Prop := ∀ e, r.outcome ≠ some (.error e)

/-- What holds of a cache and the latest version. -/
structure Latest (covers : V → V → Bool) (c : Cache V W D E) (t : V) : Prop where
  /-- The latest version covers those of all runs. -/
  bound : ∀ n r, c.run? n = some r → covers t r.version = true
  /-- At most one run for the latest version has not failed. -/
  once : ∀ n m r s, c.run? n = some r → c.run? m = some s → r.version = t → s.version = t →
    Unfailed r → Unfailed s → n = m
  /-- A run for it that has not ended is in flight. -/
  flying : ∀ n r, c.run? n = some r → r.version = t → r.outcome = none → c.inFlight = some n
  /-- The result of a run for it is kept. -/
  completed : ∀ n r d, c.run? n = some r → r.version = t → r.outcome = some (.ok d) →
    c.completedVersion = some t

theorem unfailed_of_none {r : Run V W D E} (h : r.outcome = none) : Unfailed r := by
  intro e he
  rw [h] at he
  cases he

theorem unfailed_of_ok {r : Run V W D E} {d : D} (h : r.outcome = some (.ok d)) : Unfailed r := by
  intro e he
  rw [h] at he
  cases he

namespace Latest

theorem empty (t : V) : Latest covers (empty : Cache V W D E) t where
  bound _ _ h := by cases h
  once _ _ _ _ h := by cases h
  flying _ _ h := by cases h
  completed _ _ _ h := by cases h

/-- A version that is later than those of all runs becomes the latest one. -/
theorem raise (h : Latest covers c t) {t' : V} (bound : ∀ v, covers t v = true → covers t' v = true)
    (new : covers t t' = false) : Latest covers c t' := by
  have none : ∀ n r, c.run? n = some r → r.version ≠ t' := by
    rintro n r hr rfl
    rw [h.bound n r hr] at new
    cases new
  exact ⟨fun n r hr => bound _ (h.bound n r hr), fun n _ r _ hr _ hv => absurd hv (none n r hr),
    fun n r hr hv => absurd hv (none n r hr), fun n r _ hr hv => absurd hv (none n r hr)⟩

/-- When a run starts, no run for the latest version is under way or has ended well. -/
theorem failed_of_start (h : Latest covers c t) {v : V} (hv : covers t v = true)
    (bare : coveredBy covers c.completedVersion v = false)
    (free : coveredBy covers c.inFlightVersion v = false) {n : Nat} {r : Run V W D E}
    (hr : c.run? n = some r) (ht : r.version = t) : ¬ Unfailed r := by
  intro hu
  cases ho : r.outcome with
  | none => simp [inFlightVersion, h.flying n r hr ht ho, hr, coveredBy, ht, hv] at free
  | some o =>
    cases o with
    | error e => exact hu e ho
    | ok d => simp [h.completed n r d hr ht ho, coveredBy, hv] at bare

theorem start (h : Latest covers c t) {v : V} (hv : covers t v = true) (w : W)
    (bare : coveredBy covers c.completedVersion v = false)
    (free : coveredBy covers c.inFlightVersion v = false) : Latest covers (c.start v w) t := by
  have old : ∀ {n r}, (c.start v w).run? n = some r → r.version = t → Unfailed r →
      n = c.runs.length ∧ r = ⟨v, w, none⟩ := by
    intro n r hr ht hu
    rcases run?_start_cases hr with new | ⟨-, hr'⟩
    · exact new
    · exact absurd hu (h.failed_of_start hv bare free hr' ht)
  refine ⟨fun n r hr => ?_, fun n m r s hr hs htr hts hur hus => ?_, fun n r hr ht ho => ?_,
    fun n r d hr ht ho => ?_⟩
  · rcases run?_start_cases hr with ⟨-, rfl⟩ | ⟨-, hr'⟩
    · exact hv
    · exact h.bound n r hr'
  · rw [(old hr htr hur).1, (old hs hts hus).1]
  · rw [(old hr ht (unfailed_of_none ho)).1]
    rfl
  · rw [(old hr ht (unfailed_of_ok ho)).2] at ho
    cases ho

theorem modifyWork (h : Latest covers c t) (n : Nat) (f : W → W) :
    Latest covers (c.modifyWork n f) t := by
  have old : ∀ {m r}, (c.modifyWork n f).run? m = some r →
      ∃ r', c.run? m = some r' ∧ r.version = r'.version ∧ r.outcome = r'.outcome := by
    intro m r hr
    rcases run?_modifyWork_cases hr with ⟨r', rfl, hr', rfl⟩ | ⟨-, hr'⟩
    · exact ⟨r', hr', rfl, rfl⟩
    · exact ⟨r, hr', rfl, rfl⟩
  refine ⟨fun m r hr => ?_, fun m k r s hr hs htr hts hur hus => ?_, fun m r hr ht ho => ?_,
    fun m r d hr ht ho => ?_⟩
  · obtain ⟨r', hr', hv, -⟩ := old hr
    exact hv ▸ h.bound m r' hr'
  · obtain ⟨r', hr', hvr, hor⟩ := old hr
    obtain ⟨s', hs', hvs, hos⟩ := old hs
    exact h.once m k r' s' hr' hs' (hvr ▸ htr) (hvs ▸ hts) (fun e => hor ▸ hur e) (fun e => hos ▸ hus e)
  · obtain ⟨r', hr', hv, ho'⟩ := old hr
    exact h.flying m r' hr' (hv ▸ ht) (ho' ▸ ho)
  · obtain ⟨r', hr', hv, ho'⟩ := old hr
    exact h.completed m r' d hr' (hv ▸ ht) (ho' ▸ ho)

/-! ### The end of a run -/

section

variable (anti : ∀ a b, covers a b = true → covers b a = true → a = b)
include anti

/-- The completed result is one for the latest version if it covers that. -/
theorem eq_of_covers (h : Latest covers c t) (hs : Sound covers c) {u : V}
    (hu : c.completedVersion = some u) (hc : covers u t = true) : u = t := by
  obtain ⟨⟨u', d⟩, hc', rfl⟩ := Option.map_eq_some_iff.1 hu
  obtain ⟨n, r, hr, hv, -⟩ := hs.completed _ d hc'
  exact anti _ _ hc (hv ▸ h.bound n r hr)

/-- When a run ends well, the completed result is one for the latest version if it was so before or if the
run is for the latest version. -/
theorem completedVersion_record (h : Latest covers c t) (hs : Sound covers c) {n : Nat}
    {r : Run V W D E} (hr : c.run? n = some r) (d : D)
    (ht : c.completedVersion = some t ∨ r.version = t) :
    (c.record covers r.version d).completedVersion = some t := by
  unfold completedVersion
  rw [completed_record]
  cases hk : coveredBy covers c.completedVersion r.version with
  | true =>
    rw [if_pos rfl]
    rcases ht with ht | ht
    · exact ht
    · obtain ⟨u, hu, hc⟩ := (Option.any_eq_true _ _).1 hk
      exact hu.trans (congrArg some (h.eq_of_covers anti hs hu (ht ▸ hc)))
  | false =>
    rcases ht with ht | ht
    · simp [ht, coveredBy, h.bound n r hr] at hk
    · simp [ht]

/-- While another run for the latest version is under way, the completed result does not cover that
version, and none that comes in does. -/
theorem not_covered_record (h : Latest covers c t) (hs : Sound covers c) {n m : Nat}
    {r s : Run V W D E} (hr : c.run? n = some r) (ho : r.outcome = none) (hm : c.run? m = some s)
    (hmt : s.version = t) (hmo : s.outcome = none) (hne : m ≠ n) (d : D) :
    coveredBy covers (c.record covers r.version d).completedVersion t = false := by
  have hv : c.inFlightVersion = some t := by
    simp [inFlightVersion, h.flying m s hm hmt hmo, hm, hmt]
  unfold completedVersion
  rw [completed_record]
  split
  · show coveredBy covers c.completedVersion t = false
    cases hu : c.completedVersion with
    | none => rfl
    | some u => exact hs.apart u t hu hv
  · rw [Bool.eq_false_iff]
    intro hc
    have hrt : r.version = t := anti _ _ (by simpa [coveredBy] using hc) (h.bound n r hr)
    exact hne (h.once m n s r hm hr hmt hrt (unfailed_of_none hmo) (unfailed_of_none ho))

theorem finish (h : Latest covers c t) (hs : Sound covers c) (n : Nat) (o : Except E D) :
    Latest covers (c.finish covers n o) t := by
  cases hr : c.run? n with
  | none => simpa [Cache.finish, hr] using h
  | some r =>
    cases ho : r.outcome with
    | some _ => rwa [finish_of_ended hr (by rw [ho]; rfl)]
    | none =>
      have old {m : Nat} {s : Run V W D E} (hm : (c.finish covers n o).run? m = some s) :=
        run?_finish_cases hr ho hm
      refine ⟨fun m s hm => ?_, fun m k s s' hm hk hts htk hus huk => ?_, fun m s hm ht hmo => ?_,
        fun m s d hm ht hmo => ?_⟩
      · rcases old hm with ⟨-, rfl⟩ | ⟨-, hm'⟩
        · exact h.bound n r hr
        · exact h.bound m s hm'
      · rcases old hm with ⟨rfl, rfl⟩ | ⟨-, hm'⟩ <;> rcases old hk with ⟨rfl, rfl⟩ | ⟨-, hk'⟩
        · rfl
        · exact h.once m k r s' hr hk' hts htk (unfailed_of_none ho) huk
        · exact h.once m k s r hm' hr hts htk hus (unfailed_of_none ho)
        · exact h.once m k s s' hm' hk' hts htk hus huk
      · rcases old hm with ⟨rfl, rfl⟩ | ⟨hmn, hm'⟩
        · cases hmo
        · have fly := h.flying m s hm' ht hmo
          cases o with
          | ok d =>
            have hi : c.inFlightVersion = some t := by simp [inFlightVersion, fly, hm', ht]
            rw [finish_ok hr ho, inFlight_setOutcome, inFlight_record, hi, Option.any_some,
              h.not_covered_record anti hs hr ho hm' ht hmo hmn d, if_neg (by decide), fly]
          | error e =>
            rw [finish_error hr ho, inFlight_setOutcome, inFlight_forget, fly,
              if_neg (fun he => hmn (Option.some.inj he))]
      · cases o with
        | error e =>
          rw [finish_error hr ho]
          rcases old hm with ⟨rfl, rfl⟩ | ⟨-, hm'⟩
          · cases hmo
          · show (c.forget n).completed.map (·.1) = some t
            rw [completed_forget]
            exact h.completed m s d hm' ht hmo
        | ok d' =>
          rw [finish_ok hr ho]
          show (c.record covers r.version d').completedVersion = some t
          refine h.completedVersion_record anti hs hr d' ?_
          rcases old hm with ⟨rfl, rfl⟩ | ⟨-, hm'⟩
          · exact Or.inr ht
          · exact Or.inl (h.completed m s d hm' ht hmo)

end

end Latest

end ShaderDiagnostics.Cache
