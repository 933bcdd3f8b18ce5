import ShaderDiagnostics.Cache.Callers
import ShaderDiagnostics.Proofs.Cache.Slots
import Mathlib.Data.List.Induction

/-!
# Where answers come from

A cache with its callers goes through actions: callers are made, polled and dropped, and the gates of runs
are opened with the outcomes of the runs. `Asked` tells from the actions what the cache answered a caller
from when the caller was polled for the first time: the completed result, a run that it joined or a run
that it started.

Main statement, for any relation of covering: every answer is the outcome of one run, which the caller
started for its own version or which was started for a version that covers it; all who wait for a run get
its outcome; and the slots are sound (`answer_of_run`).
-/

namespace ShaderDiagnostics.Callers

open Cache (Sound Grows coveredBy)

variable {K V D E : Type} [DecidableEq K] {covers : V → V → Bool}

/-! ### Actions -/

/-- What may happen to a cache and its callers. -/
inductive Action (K V D E : Type) where
  /-- A caller is made. -/
  | create (name : K) (version : V) (ready : Option (Except E D))
  /-- A caller is polled. -/
  | poll (name : K)
  /-- The gate of a run is opened with an outcome. -/
  | openGate (run : Nat) (outcome : Except E D)
  /-- A caller is dropped. -/
  | cancel (name : K)

/-- What an action does. -/
def step (covers : V → V → Bool) (s : Callers K V D E) : Action K V D E → Callers K V D E
  | .create name version ready => s.create name version ready
  | .poll name => s.poll covers name
  | .openGate run outcome => s.openGate run outcome
  | .cancel name => s.cancel name

/-- The state after some actions, from the start. -/
def after (covers : V → V → Bool) (acts : List (Action K V D E)) : Callers K V D E :=
  acts.foldl (step covers) empty

theorem after_snoc (acts : List (Action K V D E)) (a : Action K V D E) :
    after covers (acts ++ [a]) = step covers (after covers acts) a := by
  simp [after]

/-- Whether an action leaves the caller of a name alone, but for polling it. -/
def Action.Keeps (name : K) : Action K V D E → Prop
  | .create other _ _ => other ≠ name
  | .cancel other => other ≠ name
  | _ => True

/-- What the cache answers a caller from that is polled now for the first time. -/
def source? (covers : V → V → Bool) (s : Callers K V D E) (name : K) : Option (Source D) :=
  match s.caller? name with
  | some ⟨version, ready, .idle⟩ => some (s.cache.request covers version ready).2
  | _ => none

/-- The caller of a name, as it is after the actions, has asked the cache and was answered from the
source. -/
def Asked (covers : V → V → Bool) (acts : List (Action K V D E)) (name : K) (source : Source D) :
    Prop :=
  ∃ before rest, acts = before ++ .poll name :: rest ∧ (∀ a ∈ rest, a.Keeps name) ∧
    (after covers before).source? covers name = some source

theorem asked_now {acts : List (Action K V D E)} {name : K} {source : Source D}
    (h : (after covers acts).source? covers name = some source) :
    Asked covers (acts ++ [.poll name]) name source :=
  ⟨acts, [], rfl, by simp, h⟩

theorem Asked.snoc {acts : List (Action K V D E)} {name : K} {source : Source D}
    (h : Asked covers acts name source) {a : Action K V D E} (ha : a.Keeps name) :
    Asked covers (acts ++ [a]) name source := by
  obtain ⟨before, rest, rfl, hrest, hs⟩ := h
  refine ⟨before, rest ++ [a], by simp, fun b hb => ?_, hs⟩
  rcases List.mem_append.1 hb with hb | hb
  · exact hrest b hb
  · rwa [List.mem_singleton.1 hb]

/-- A caller has asked before the last action, unless it is asking now. -/
theorem asked_snoc_cases {acts : List (Action K V D E)} {a : Action K V D E} {name : K}
    {source : Source D} (h : Asked covers (acts ++ [a]) name source) :
    Asked covers acts name source ∧ a.Keeps name ∨
      a = .poll name ∧ (after covers acts).source? covers name = some source := by
  obtain ⟨before, rest, he, hrest, hs⟩ := h
  rcases List.eq_nil_or_concat rest with rfl | ⟨init, b, rfl⟩
  · obtain ⟨rfl, he⟩ := List.append_inj' he rfl
    exact Or.inr ⟨by simpa using he, hs⟩
  · rw [List.concat_eq_append, ← List.cons_append, ← List.append_assoc] at he
    obtain ⟨rfl, he⟩ := List.append_inj' he rfl
    obtain rfl : a = b := by simpa using he
    exact Or.inl ⟨⟨before, init, rfl, fun c hc => hrest c (by simp [hc]), hs⟩, hrest a (by simp)⟩

/-! ### Callers -/

@[simp] theorem caller?_setCaller (s : Callers K V D E) (name other : K) (c : Caller V D E) :
    (s.setCaller name c).caller? other = if other = name then some c else s.caller? other := by
  unfold caller? setCaller
  by_cases h : other = name
  · simp [h]
  · simp only [List.find?_cons, List.find?_filter, if_neg h, Ne.symm h, decide_false]
    congr 2
    funext e
    by_cases he : e.1 = other <;> simp [he, h]

@[simp] theorem caller?_cancel (s : Callers K V D E) (name other : K) :
    (s.cancel name).caller? other = if other = name then none else s.caller? other := by
  unfold caller? cancel
  rw [List.find?_filter]
  by_cases h : other = name
  · simp [h]
  · rw [if_neg h]
    congr 2
    funext e
    by_cases he : e.1 = other <;> simp [he, h]

/-- What a caller has got from the source of its answer, or will get. -/
inductive Served (covers : V → V → Bool) (cache : Cache V (Gate D E) D E) (c : Caller V D E) :
    Source D → Prop where
  /-- The completed result was that of a run that ended well. -/
  | completed {d : D} {n : Nat} {r : Run V (Gate D E) D E} (run : cache.run? n = some r)
      (ended : r.outcome = some (.ok d)) (covered : covers r.version c.version = true)
      (state : c.state = .answered (.ok d)) : Served covers cache c (.completed d)
  /-- The caller waits for the run that it joined or has its outcome. -/
  | joined {n : Nat} {r : Run V (Gate D E) D E} (run : cache.run? n = some r)
      (covered : covers r.version c.version = true)
      (state : c.state = .waiting n ∨ ∃ o, r.outcome = some o ∧ c.state = .answered o) :
      Served covers cache c (.joined n)
  /-- The caller waits for the run that it started or has its outcome. -/
  | started {n : Nat} {r : Run V (Gate D E) D E} (run : cache.run? n = some r)
      (own : r.version = c.version)
      (state : c.state = .waiting n ∨ ∃ o, r.outcome = some o ∧ c.state = .answered o) :
      Served covers cache c (.started n)

theorem Served.mono {cache cache' : Cache V (Gate D E) D E} {c : Caller V D E} {source : Source D}
    (h : Served covers cache c source) (hg : Grows cache cache') : Served covers cache' c source := by
  cases h with
  | completed hr ho hc hs =>
    obtain ⟨r', hr', hv, ho'⟩ := hg _ _ hr
    exact .completed hr' (ho' _ ho) (hv ▸ hc) hs
  | joined hr hc hs =>
    obtain ⟨r', hr', hv, ho'⟩ := hg _ _ hr
    exact .joined hr' (hv ▸ hc) (hs.imp_right fun ⟨o, ho, h⟩ => ⟨o, ho' o ho, h⟩)
  | started hr hv hs =>
    obtain ⟨r', hr', hv', ho'⟩ := hg _ _ hr
    exact .started hr' (hv'.trans hv) (hs.imp_right fun ⟨o, ho, h⟩ => ⟨o, ho' o ho, h⟩)

theorem Served.not_idle {cache : Cache V (Gate D E) D E} {c : Caller V D E} {source : Source D}
    (h : Served covers cache c source) : c.state ≠ .idle := by
  cases h with
  | completed _ _ _ hs => simp [hs]
  | joined _ _ hs => rcases hs with hs | ⟨o, -, hs⟩ <;> simp [hs]
  | started _ _ hs => rcases hs with hs | ⟨o, -, hs⟩ <;> simp [hs]

/-- The run that a caller waits for exists. -/
theorem Served.run {cache : Cache V (Gate D E) D E} {c : Caller V D E} {source : Source D}
    (h : Served covers cache c source) {n : Nat} (hw : c.state = .waiting n) :
    ∃ r, cache.run? n = some r := by
  have same : ∀ {m} {r : Run V (Gate D E) D E},
      (c.state = .waiting m ∨ ∃ o, r.outcome = some o ∧ c.state = .answered o) → m = n := by
    rintro m r (hs | ⟨o, -, hs⟩) <;> rw [hw] at hs <;> cases hs
    rfl
  cases h with
  | completed _ _ _ hs => rw [hw] at hs; cases hs
  | joined hr _ hs => exact ⟨_, same hs ▸ hr⟩
  | started hr _ hs => exact ⟨_, same hs ▸ hr⟩

/-! ### What a poll does -/

/-- After a poll of a caller that waits for a run, the caller still waits or has the outcome of the run.
Nobody else is affected. -/
structure Polled (covers : V → V → Bool) (s s' : Callers K V D E) (name : K) (c : Caller V D E)
    (n : Nat) (state : CallerState D E) : Prop where
  callers : ∀ other, s'.caller? other = if other = name then some { c with state } else s.caller? other
  grows : Grows s.cache s'.cache
  sound : Sound covers s.cache → Sound covers s'.cache
  state : state = .waiting n ∨
    ∃ r o, s'.cache.run? n = some r ∧ r.outcome = some o ∧ state = .answered o

section

variable {s : Callers K V D E} {n : Nat} {r : Run V (Gate D E) D E}

theorem pollWaiting_of_ended (hr : s.cache.run? n = some r) {o : Except E D} (ho : r.outcome = some o)
    (name : K) (c : Caller V D E) :
    s.pollWaiting covers name c n = s.setCaller name { c with state := .answered o } := by
  simp [pollWaiting, hr, ho]

theorem pollWaiting_of_open (hr : s.cache.run? n = some r) (ho : r.outcome = none) {o : Except E D}
    (hw : r.work = some o) (name : K) (c : Caller V D E) :
    s.pollWaiting covers name c n =
      { s with cache := s.cache.finish covers n o }.setCaller name
        { c with state := .answered o } := by
  simp [pollWaiting, hr, ho, hw]

theorem pollWaiting_of_shut (hr : s.cache.run? n = some r) (ho : r.outcome = none)
    (hw : r.work = none) (name : K) (c : Caller V D E) :
    s.pollWaiting covers name c n = s.setCaller name { c with state := .waiting n } := by
  simp [pollWaiting, hr, ho, hw]

theorem pollWaiting_polled (hr : s.cache.run? n = some r) (name : K) (c : Caller V D E) :
    ∃ state, Polled covers s (s.pollWaiting covers name c n) name c n state := by
  cases ho : r.outcome with
  | some o =>
    rw [pollWaiting_of_ended hr ho]
    exact ⟨.answered o, fun _ => caller?_setCaller .., Grows.refl _, id, Or.inr ⟨r, o, hr, ho, rfl⟩⟩
  | none =>
    cases hw : r.work with
    | some o =>
      rw [pollWaiting_of_open hr ho hw]
      refine ⟨.answered o, fun _ => caller?_setCaller .., Cache.grows_finish covers s.cache n o,
        fun h => h.finish n o, ?_⟩
      refine Or.inr ⟨{ r with outcome := some o }, o, ?_, rfl, rfl⟩
      exact (Cache.run?_finish hr ho o n).trans (if_pos rfl)
    | none =>
      rw [pollWaiting_of_shut hr ho hw]
      exact ⟨.waiting n, fun _ => caller?_setCaller .., Grows.refl _, id, Or.inl rfl⟩

/-- Once the gate of a run is open, whoever waits for the run gets its outcome when polled. -/
theorem pollWaiting_answers (hr : s.cache.run? n = some r) (h : r.outcome.isSome ∨ r.work.isSome)
    (name : K) (c : Caller V D E) :
    ∃ r' o, (s.pollWaiting covers name c n).cache.run? n = some r' ∧ r'.outcome = some o ∧
      (s.pollWaiting covers name c n).answer? name = some o := by
  cases ho : r.outcome with
  | some o =>
    rw [pollWaiting_of_ended hr ho]
    exact ⟨r, o, hr, ho, by simp [answer?]⟩
  | none =>
    obtain ⟨o, hw⟩ := Option.isSome_iff_exists.1 (h.resolve_left (by simp [ho]))
    rw [pollWaiting_of_open hr ho hw]
    exact ⟨{ r with outcome := some o }, o, (Cache.run?_finish hr ho o n).trans (if_pos rfl), rfl,
      by simp [answer?]⟩

end

/-! ### Every answer has its run -/

/-- What holds after any actions: a caller that has asked is served by what it was answered from, and a
caller that has not is idle. -/
structure Served.Inv (covers : V → V → Bool) (acts : List (Action K V D E)) : Prop where
  sound : Sound covers (after covers acts).cache
  served : ∀ name c source, (after covers acts).caller? name = some c →
    Asked covers acts name source → Served covers (after covers acts).cache c source
  asked : ∀ name c, (after covers acts).caller? name = some c → c.state ≠ .idle →
    ∃ source, Asked covers acts name source

theorem Served.inv_nil : Served.Inv covers ([] : List (Action K V D E)) where
  sound := Cache.sound_empty
  served _ _ _ h := by simp [after, empty, caller?] at h
  asked _ _ h := by simp [after, empty, caller?] at h

/-- An action keeps the invariant that polls nobody and does not end a run. -/
theorem Served.Inv.quiet {acts : List (Action K V D E)} (h : Served.Inv covers acts)
    {a : Action K V D E} (ha : ∀ name, a ≠ .poll name)
    (hg : Grows (after covers acts).cache (after covers (acts ++ [a])).cache)
    (hs : Sound covers (after covers (acts ++ [a])).cache)
    (hc : ∀ name c, (after covers (acts ++ [a])).caller? name = some c →
      c.state = .idle ∧ ¬ a.Keeps name ∨ a.Keeps name ∧ (after covers acts).caller? name = some c) :
    Served.Inv covers (acts ++ [a]) where
  sound := hs
  served name c source hcn hask := by
    rcases asked_snoc_cases hask with ⟨hask, hk⟩ | ⟨rfl, -⟩
    · rcases hc name c hcn with ⟨-, hk'⟩ | ⟨-, hcn⟩
      · exact absurd hk hk'
      · exact (h.served name c source hcn hask).mono hg
    · exact absurd rfl (ha name)
  asked name c hcn hne := by
    rcases hc name c hcn with ⟨hi, -⟩ | ⟨hk, hcn⟩
    · exact absurd hi hne
    · obtain ⟨source, hask⟩ := h.asked name c hcn hne
      exact ⟨source, hask.snoc hk⟩

/-- A poll keeps the invariant if it does right by the caller that is polled. -/
theorem Served.Inv.polled {acts : List (Action K V D E)} (h : Served.Inv covers acts) {name : K}
    {s' : Callers K V D E} (hs' : after covers (acts ++ [.poll name]) = s')
    (hg : Grows (after covers acts).cache s'.cache) (hs : Sound covers s'.cache)
    (hothers : ∀ other, other ≠ name → s'.caller? other = (after covers acts).caller? other)
    (hserved : ∀ c source, s'.caller? name = some c → Asked covers (acts ++ [.poll name]) name source →
      Served covers s'.cache c source)
    (hasked : ∀ c, s'.caller? name = some c → c.state ≠ .idle →
      ∃ source, Asked covers (acts ++ [.poll name]) name source) :
    Served.Inv covers (acts ++ [.poll name]) := by
  subst hs'
  refine ⟨hs, fun other c source hc hask => ?_, fun other c hc hne => ?_⟩
  · by_cases ho : other = name
    · subst ho; exact hserved c source hc hask
    · rw [hothers other ho] at hc
      rcases asked_snoc_cases hask with ⟨hask, -⟩ | ⟨he, -⟩
      · exact (h.served other c source hc hask).mono hg
      · exact absurd (Action.poll.inj he).symm ho
  · by_cases ho : other = name
    · subst ho; exact hasked c hc hne
    · rw [hothers other ho] at hc
      obtain ⟨source, hask⟩ := h.asked other c hc hne
      exact ⟨source, hask.snoc trivial⟩

/-- A caller that waits for a run is served by it also after a poll. -/
theorem Served.polled {s s' : Callers K V D E} {name : K} {c : Caller V D E} {n : Nat}
    {state : CallerState D E} {source : Source D}
    (h : Served covers s.cache { c with state := .waiting n } source)
    (hp : Polled covers s s' name c n state) : Served covers s'.cache { c with state } source := by
  have keep : ∀ m r, (CallerState.waiting n : CallerState D E) = .waiting m →
      s'.cache.run? m = some r → state = .waiting m ∨ ∃ o, r.outcome = some o ∧ state = .answered o := by
    rintro m r hm hr
    obtain rfl := CallerState.waiting.inj hm
    rcases hp.state with hst | ⟨r', o, hr', ho, hst⟩
    · exact Or.inl hst
    · obtain rfl := Option.some.inj (hr.symm.trans hr')
      exact Or.inr ⟨o, ho, hst⟩
  cases h with
  | completed _ _ _ hs => cases hs
  | joined hr hc hs =>
    obtain ⟨r', hr', hv, -⟩ := hp.grows _ _ hr
    rcases hs with hs | ⟨o, -, hs⟩
    · exact .joined hr' (hv ▸ hc) (keep _ _ hs hr')
    · cases hs
  | started hr hv hs =>
    obtain ⟨r', hr', hv', -⟩ := hp.grows _ _ hr
    rcases hs with hs | ⟨o, -, hs⟩
    · exact .started hr' (hv'.trans hv) (keep _ _ hs hr')
    · cases hs

/-- A poll of a caller that waits for a run, from this poll on or from before. -/
theorem Served.Inv.poll_waiting {acts : List (Action K V D E)} (h : Served.Inv covers acts) {name : K}
    {c : Caller V D E} {cache : Cache V (Gate D E) D E} {n : Nat} {r : Run V (Gate D E) D E}
    (hg : Grows (after covers acts).cache cache) (hs : Sound covers cache) (hr : cache.run? n = some r)
    (hserved : ∀ source, Asked covers (acts ++ [.poll name]) name source →
      Served covers cache { c with state := .waiting n } source)
    (hasked : ∃ source, Asked covers (acts ++ [.poll name]) name source)
    (hs' : after covers (acts ++ [.poll name]) =
      { after covers acts with cache }.pollWaiting covers name c n) :
    Served.Inv covers (acts ++ [.poll name]) := by
  obtain ⟨state, hp⟩ : ∃ state, Polled covers { after covers acts with cache }
      ({ after covers acts with cache }.pollWaiting covers name c n) name c n state :=
    pollWaiting_polled hr name c
  refine h.polled hs' (hg.trans hp.grows) (hp.sound hs)
    (fun other ho => by rw [hp.callers, if_neg ho]; rfl) (fun c' source hc' hask => ?_)
    fun _ _ _ => hasked
  rw [hp.callers, if_pos rfl] at hc'
  obtain rfl := Option.some.inj hc'
  exact (hserved source hask).polled hp

/-- A poll of a caller that has asked before: it waits for a run, or nothing happens. -/
theorem Served.Inv.poll_again {acts : List (Action K V D E)} (h : Served.Inv covers acts) {name : K}
    {c : Caller V D E} (hc : (after covers acts).caller? name = some c) (hne : c.state ≠ .idle) :
    Served.Inv covers (acts ++ [.poll name]) := by
  obtain ⟨source, hask⟩ := h.asked name c hc hne
  have silent : (after covers acts).source? covers name = none := by
    unfold source?
    rw [hc]
    split
    next he => cases he; exact absurd rfl hne
    next => rfl
  have before : ∀ {source'}, Asked covers (acts ++ [.poll name]) name source' →
      Asked covers acts name source' := by
    intro source' hask
    rcases asked_snoc_cases hask with ⟨hask, -⟩ | ⟨-, hs⟩
    · exact hask
    · rw [silent] at hs; cases hs
  have hstep : after covers (acts ++ [.poll name]) = step covers (after covers acts) (.poll name) :=
    after_snoc acts (.poll name)
  cases hst : c.state with
  | idle => exact absurd hst hne
  | answered o =>
    have hs' : after covers (acts ++ [.poll name]) = after covers acts := by
      rw [hstep]; simp [step, poll, hc, hst]
    refine h.polled hs' (Grows.refl _) h.sound (fun _ _ => rfl) (fun c' source' hc' hask' => ?_)
      (fun _ _ _ => ⟨source, hask.snoc trivial⟩)
    exact h.served name c' source' hc' (before hask')
  | waiting n =>
    have hw : c = { c with state := .waiting n } := by rw [← hst]
    obtain ⟨r, hr⟩ : ∃ r, (after covers acts).cache.run? n = some r := by
      have hserved := h.served name c source hc hask
      exact hserved.run hst
    have hs' : after covers (acts ++ [.poll name]) = (after covers acts).pollWaiting covers name c n := by
      rw [hstep]; simp [step, poll, hc, hst]
    exact h.poll_waiting (Grows.refl _) h.sound hr
      (fun source' hask' => hw ▸ h.served name c source' hc (before hask'))
      ⟨source, hask.snoc trivial⟩ hs'

/-- The first poll of a caller: it asks the cache. -/
theorem Served.Inv.poll_first {acts : List (Action K V D E)} (h : Served.Inv covers acts) {name : K}
    {version : V} {ready : Option (Except E D)}
    (hc : (after covers acts).caller? name = some ⟨version, ready, .idle⟩) :
    Served.Inv covers (acts ++ [.poll name]) := by
  have never : ∀ source, ¬ Asked covers acts name source := fun source hask =>
    (h.served name _ source hc hask).not_idle rfl
  have hsource : (after covers acts).source? covers name =
      some ((after covers acts).cache.request covers version ready).2 := by simp [source?, hc]
  have only : ∀ {source}, Asked covers (acts ++ [.poll name]) name source →
      source = ((after covers acts).cache.request covers version ready).2 := by
    intro source hask
    rcases asked_snoc_cases hask with ⟨hask, -⟩ | ⟨-, hs⟩
    · exact absurd hask (never source)
    · exact (Option.some.inj (hsource.symm.trans hs)).symm
  have now := asked_now hsource
  have hsound := h.sound.request version ready
  have hgrows := Cache.grows_request covers (after covers acts).cache version ready
  have hans := Cache.request_answered covers (after covers acts).cache version ready
  have hstep : after covers (acts ++ [.poll name]) = (after covers acts).poll covers name := after_snoc ..
  generalize hp : (after covers acts).cache.request covers version ready = p
    at only now hsound hgrows hans
  cases hans with
  | @completed u d slot covered =>
    obtain ⟨n, r, hr, rfl, ho⟩ := h.sound.completed u d slot
    have hs' : after covers (acts ++ [.poll name]) =
        (after covers acts).setCaller name ⟨version, ready, .answered (.ok d)⟩ := by
      simp only [hstep, poll, hc, hp]
    refine h.polled hs' (Grows.refl _) h.sound (fun other hn => ?_) (fun c' source' hc' hask' => ?_)
      (fun _ _ _ => ⟨_, now⟩)
    · rw [caller?_setCaller, if_neg hn]
    · rw [caller?_setCaller, if_pos rfl] at hc'
      obtain rfl := Option.some.inj hc'
      obtain rfl := only hask'
      exact .completed hr ho covered rfl
  | joined _ hr covered =>
    refine h.poll_waiting (c := ⟨version, ready, .idle⟩) hgrows hsound hr (fun source hask => ?_) ⟨_, now⟩
      (by simp only [hstep, poll, hc, hp])
    exact only hask ▸ .joined hr covered (Or.inl rfl)
  | started =>
    have hr : ((after covers acts).cache.start version ready).run? (after covers acts).cache.runs.length =
        some ⟨version, ready, none⟩ := (Cache.run?_start ..).trans (if_pos rfl)
    refine h.poll_waiting (c := ⟨version, ready, .idle⟩) hgrows hsound hr (fun source hask => ?_) ⟨_, now⟩
      (by simp only [hstep, poll, hc, hp])
    exact only hask ▸ .started hr rfl (Or.inl rfl)

theorem Served.Inv.snoc {acts : List (Action K V D E)} (h : Served.Inv covers acts)
    (a : Action K V D E) : Served.Inv covers (acts ++ [a]) := by
  cases a with
  | create name version ready =>
    have hs : after covers (acts ++ [.create name version ready]) =
        (after covers acts).setCaller name ⟨version, ready, .idle⟩ := after_snoc ..
    refine h.quiet (fun _ => nofun) (hs ▸ Grows.refl _) (hs ▸ h.sound) fun other c hc => ?_
    rw [hs, caller?_setCaller] at hc
    by_cases ho : other = name
    · rw [if_pos ho] at hc
      exact Or.inl ⟨by rw [← Option.some.inj hc], fun hk => hk ho.symm⟩
    · exact Or.inr ⟨Ne.symm ho, by rwa [if_neg ho] at hc⟩
  | poll name =>
    cases hc : (after covers acts).caller? name with
    | none =>
      have hs : after covers (acts ++ [.poll name]) = after covers acts := by
        rw [after_snoc]
        simp [step, poll, hc]
      refine h.polled hs (Grows.refl _) h.sound (fun _ _ => rfl) ?_ ?_ <;> simp [hc]
    | some c =>
      obtain ⟨version, ready, state⟩ := c
      cases state with
      | idle => exact h.poll_first hc
      | waiting n => exact h.poll_again hc nofun
      | answered o => exact h.poll_again hc nofun
  | openGate run outcome =>
    have hs : after covers (acts ++ [.openGate run outcome]) =
        (after covers acts).openGate run outcome := after_snoc ..
    have hcache : (after covers (acts ++ [.openGate run outcome])).cache =
        (after covers acts).cache.modifyWork run fun gate => some (gate.getD outcome) := by rw [hs]; rfl
    refine h.quiet (fun _ => nofun) ?_ ?_ fun other c hc => Or.inr ⟨trivial, ?_⟩
    · rw [hcache]
      exact Cache.grows_modifyWork (after covers acts).cache run _
    · rw [hcache]
      exact h.sound.modifyWork run _
    · rwa [hs] at hc
  | cancel name =>
    have hs : after covers (acts ++ [.cancel name]) = (after covers acts).cancel name := after_snoc ..
    refine h.quiet (fun _ => nofun) (hs ▸ Grows.refl _) (hs ▸ h.sound) fun other c hc => ?_
    rw [hs, caller?_cancel] at hc
    by_cases ho : other = name
    · simp [ho] at hc
    · exact Or.inr ⟨Ne.symm ho, by rwa [if_neg ho] at hc⟩

theorem Served.inv (acts : List (Action K V D E)) : Served.Inv covers acts := by
  induction acts using List.reverseRecOn with
  | nil => exact Served.inv_nil
  | append_singleton acts a ih => exact ih.snoc a

/-- **Answers are outcomes of runs.** After any actions, whatever covering means: the answer of a caller
is the outcome of a run that it started for its own version or whose version covers its own; a caller that
joined or started a run waits for it or has its outcome, whoever else has been dropped, and gets the
outcome when polled after the run's gate has been opened; the completed result is that of a run that
ended well; and its version does not cover that of the run in flight. -/
theorem answer_of_run (covers : V → V → Bool) (acts : List (Action K V D E)) :
    let s := after covers acts
    (∀ name c o, s.caller? name = some c → c.state = .answered o →
      ∃ n r, s.cache.run? n = some r ∧ r.outcome = some o ∧
        (Asked covers acts name (.started n) ∧ r.version = c.version ∨
          covers r.version c.version = true)) ∧
    (∀ name c n, s.caller? name = some c →
      Asked covers acts name (.joined n) ∨ Asked covers acts name (.started n) →
      c.state = .waiting n ∨
        ∃ r o, s.cache.run? n = some r ∧ r.outcome = some o ∧ c.state = .answered o) ∧
    (∀ name c n r, s.caller? name = some c → c.state = .waiting n → s.cache.run? n = some r →
      r.outcome.isSome ∨ r.work.isSome →
      ∃ r' o, (s.poll covers name).cache.run? n = some r' ∧ r'.outcome = some o ∧
        (s.poll covers name).answer? name = some o) ∧
    (∀ v d, s.cache.completed = some (v, d) →
      ∃ n r, s.cache.run? n = some r ∧ r.version = v ∧ r.outcome = some (.ok d)) ∧
    (∀ v w, s.cache.completedVersion = some v → s.cache.inFlightVersion = some w →
      covers v w = false) := by
  have h : Served.Inv covers acts := Served.inv acts
  refine ⟨fun name c o hc hst => ?_, fun name c n hc hask => ?_, fun name c n r hc hst hr hopen => ?_,
    h.sound.completed, h.sound.apart⟩
  · obtain ⟨source, hask⟩ := h.asked name c hc (by simp [hst])
    have outcome : ∀ {n} {r : Run V (Gate D E) D E},
        (c.state = .waiting n ∨ ∃ o, r.outcome = some o ∧ c.state = .answered o) →
        r.outcome = some o := by
      rintro n r (hs | ⟨o', ho, hs⟩) <;> rw [hst] at hs <;> cases hs
      exact ho
    cases h.served name c source hc hask with
    | completed hr ho covered hs =>
      rw [hst] at hs
      cases hs
      exact ⟨_, _, hr, ho, Or.inr covered⟩
    | joined hr covered hs => exact ⟨_, _, hr, outcome hs, Or.inr covered⟩
    | started hr own hs => exact ⟨_, _, hr, outcome hs, Or.inl ⟨hask, own⟩⟩
  · rcases hask with hask | hask
    · cases h.served name c _ hc hask with
      | joined hr _ hs => exact hs.imp_right fun ⟨o, ho, hs⟩ => ⟨_, o, hr, ho, hs⟩
    · cases h.served name c _ hc hask with
      | started hr _ hs => exact hs.imp_right fun ⟨o, ho, hs⟩ => ⟨_, o, hr, ho, hs⟩
  · have hp : (after covers acts).poll covers name = (after covers acts).pollWaiting covers name c n := by
      simp [poll, hc, hst]
    rw [hp]
    exact pollWaiting_answers hr hopen name c

end ShaderDiagnostics.Callers
