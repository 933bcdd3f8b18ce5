import ShaderDiagnostics.Proofs.Service.Moments
import ShaderDiagnostics.Proofs.Service.Obligations

/-!
# Analyses with a delay

An analysis takes its token when it is scheduled, begins to wait when it is polled for the first time, and when the
delay is over asks for diagnostics only if the token is still that of the document (`Service.Turn`). As long as
the editor asks for nothing itself, that is the only way in which validations are started or joined
(`Service.orders_cases`), so that whatever is validated has been let alone for the delay (`Service.Due`).
-/

namespace ShaderDiagnostics

/-- An element changes in the same way whether before or after a mapping. -/
theorem map_modify {α β : Type} {g : α → β} {f : α → α} {f' : β → β} (l : List α) (n : Nat)
    (same : ∀ a, g (f a) = f' (g a)) : (l.modify n f).map g = (l.map g).modify n f' := by
  refine List.ext_getElem? fun k => ?_
  simp only [List.getElem?_map, List.getElem?_modify]
  cases l[k]? with
  | none => rfl
  | some a =>
    show some (g (if n = k then f a else a)) = some (if n = k then f' (g a) else g a)
    split
    · rw [same]
    · rfl

/-- The validations that have been started for a record: the token of each, and the jobs that have asked for
it. -/
def Record.orders (r : Record) : List (Token × List Nat) :=
  r.results.runs.map fun v => (v.version, v.work.waiters)

/-- What becomes of the validations of a record when a job asks for the diagnostics of a token. -/
inductive Ordered (token : Token) (job : Nat) (l : List (Token × List Nat)) :
    List (Token × List Nat) → Prop where
  /-- The completed result covers the token. -/
  | kept {o : Token × List Nat} (here : o ∈ l) (covered : o.1.covers token = true) : Ordered token job l l
  /-- The validation in flight covers the token, and the job waits for it. -/
  | joined {n : Nat} {o : Token × List Nat} (here : l[n]? = some o) (covered : o.1.covers token = true) :
      Ordered token job l (l.modify n fun o => (o.1, o.2 ++ [job]))
  /-- A validation starts. -/
  | started : Ordered token job l (l ++ [(token, [job])])

/-- Validations are for tokens that have been asked for. -/
theorem Ordered.token_of_mem {token : Token} {job : Nat} {l l' : List (Token × List Nat)}
    (h : Ordered token job l l') {o : Token × List Nat} (ho : o ∈ l') :
    o.1 = token ∨ ∃ o' ∈ l, o.1 = o'.1 := by
  cases h with
  | kept => exact Or.inr ⟨o, ho, rfl⟩
  | @joined n =>
    obtain ⟨k, hk⟩ := List.mem_iff_getElem?.1 ho
    rw [List.getElem?_modify] at hk
    obtain ⟨o', ho', rfl⟩ := Option.map_eq_some_iff.1 hk
    refine Or.inr ⟨o', List.mem_of_getElem? ho', ?_⟩
    split <;> rfl
  | started =>
    rcases List.mem_append.1 ho with ho | ho
    · exact Or.inr ⟨o, ho, rfl⟩
    · exact Or.inl (by rw [List.mem_singleton.1 ho])

/-- If nothing covers the token, a validation starts. -/
theorem Ordered.eq_of_bare {token : Token} {job : Nat} {l l' : List (Token × List Nat)}
    (h : Ordered token job l l') (bare : ∀ o ∈ l, o.1.covers token = false) :
    l' = l ++ [(token, [job])] := by
  cases h with
  | kept here covered => exact nomatch (bare _ here).symm.trans covered
  | joined here covered => exact nomatch (bare _ (List.mem_of_getElem? here)).symm.trans covered
  | started => rfl

namespace Service

variable {asks : Inquiry → Prop} {s s' s₀ t : Service} {id job n d : Nat} {r r' : Record} {i : Inquiry} {b : Job}
  {e : Event} {es es' : List Event} {xs : List Exchange}

/-! ### Who has asked for what -/

/-- The validations that have been started for a record, of which there are none if it is not there. -/
def orders (s : Service) (id : Nat) : List (Token × List Nat) :=
  (s.registry.record? id).elim [] Record.orders

theorem orders_of_record? (hr : s.registry.record? id = some r) : s.orders id = r.orders := by
  unfold orders
  rw [hr]
  rfl

theorem orders_of_registry (h : s'.registry = s.registry) (id : Nat) : s'.orders id = s.orders id := by
  unfold orders
  rw [h]

/-- An act that asks for nothing leaves alone who has asked for what. -/
theorem Act.orders (a : Act asks s id r r' xs) (idle : ∀ i, asks i → i.record ≠ id) :
    r'.orders = r.orders := by
  have same : ∀ {f : ValidationRun → ValidationRun} (n : Nat),
      (∀ v, ((f v).version, (f v).work.waiters) = (v.version, v.work.waiters)) →
        (r.results.runs.modify n f).map (fun v => (v.version, v.work.waiters)) = r.orders :=
    fun n h => (map_modify _ n h).trans (List.modify_id n _)
  cases a with
  | requests asked own => exact absurd own (idle _ asked)
  | joins asked own => exact absurd own (idle _ asked)
  | waits => exact same _ fun _ => rfl
  | runs => exact same _ fun _ => rfl
  | @ends n v outcome run waiting =>
    show (r.results.finish Token.covers n outcome).runs.map _ = _
    rw [Cache.runs_finish run waiting]
    exact same n fun _ => rfl
  | _ => rfl

/-- A course of acts leaves alone who has asked for what of the records that it does not ask for. -/
theorem Course.orders (c : Course asks s t) (idle : ∀ i, asks i → i.record ≠ id) : t.orders id = s.orders id := by
  cases hr : s.registry.record? id with
  | none =>
    have gone : t.registry.record? id = none := Option.eq_none_iff_forall_ne_some.2 fun r' hr' => by
      obtain ⟨r, hr₁, -⟩ := c.quiet.of_record? hr'
      exact nomatch hr.symm.trans hr₁
    rw [Service.orders, gone, Service.orders, hr]
  | some r =>
    obtain ⟨r', hr', same⟩ := c.record (I := fun _ r' => r'.orders = r.orders)
      (fun _ _ a h => (a.orders idle).trans h) (fun _ h => h) hr rfl
    rw [orders_of_record? hr', orders_of_record? hr, same]

theorem pollValidation_orders (s : Service) (m n id : Nat) :
    (s.pollValidation m n).orders id = s.orders id :=
  (pollValidation_course (fun _ => False) s m n).orders fun _ h => h.elim

/-- A job that has asked asks no more. -/
theorem pollInquiry_asked (s : Service) (job : Nat) (asked : i.run.isSome = true) :
    (∀ id, (s.pollInquiry job i).1.orders id = s.orders id) ∧ (s.pollInquiry job i).2.1.run.isSome = true := by
  obtain ⟨n, hn⟩ := Option.isSome_iff_exists.1 asked
  unfold pollInquiry
  rw [hn]
  exact ⟨pollValidation_orders s _ _, rfl⟩

/-- A job has joined a validation, and waits for it. -/
theorem await_orders (hr : s.registry.record? i.record = some r) (c : Results) (n job : Nat) :
    (((s.modifyRecord i.record fun r => { r with results := c }).join i.record n job).await i n).1.orders
      i.record = (c.runs.map fun v => (v.version, v.work.waiters)).modify n fun o => (o.1, o.2 ++ [job]) := by
  have joined : ((s.modifyRecord i.record fun r => { r with results := c }).join i.record n job).registry.record?
      i.record = some { r with results := c.modifyWork n fun w => { w with waiters := w.waiters ++ [job] } } := by
    rw [join, record?_modifyRecord, if_pos rfl, record?_modifyRecord, if_pos rfl, hr]
    rfl
  refine (pollValidation_orders _ _ _ _).trans ((orders_of_record? joined).trans ?_)
  exact map_modify _ n fun _ => rfl

/-- What a job asks for when it is polled. -/
theorem pollInquiry_ordered (tidy : s.Tidy) (hr : s.registry.record? i.record = some r) (new : i.run = none)
    (job : Nat) : Ordered i.token job (s.orders i.record) ((s.pollInquiry job i).1.orders i.record) ∧
      ((s.pollInquiry job i).2.2 = none → (s.pollInquiry job i).2.1.run.isSome = true) := by
  rw [pollInquiry_new new hr]
  have ha := Cache.request_answered Token.covers r.results i.token ⟨i.snapshot, .fresh, []⟩
  generalize r.results.request Token.covers i.token ⟨i.snapshot, .fresh, []⟩ = p at ha
  rw [orders_of_record? hr]
  cases ha with
  | @completed u found slot covered =>
    obtain ⟨n, v, hv, rfl, -⟩ := (tidy _ r hr).2.completed u found slot
    refine ⟨?_, nofun⟩
    dsimp only
    rw [orders_of_record? hr]
    exact .kept (List.mem_map_of_mem (List.mem_of_getElem? hv)) covered
  | @joined n v slot hv covered =>
    refine ⟨?_, fun _ => rfl⟩
    dsimp only
    rw [await_orders hr]
    have here : r.orders[n]? = some (v.version, v.work.waiters) := by
      rw [Record.orders, List.getElem?_map, show r.results.runs[n]? = some v from hv]
      rfl
    exact .joined here covered
  | started =>
    refine ⟨?_, fun _ => rfl⟩
    dsimp only
    rw [await_orders hr]
    have made : (r.orders ++ [(i.token, [])]).modify r.orders.length (fun o => (o.1, o.2 ++ [job])) =
        r.orders ++ [(i.token, [job])] := by
      rw [List.modify_eq_set_getElem?]
      simp
    have new : Ordered i.token job r.orders (r.orders ++ [(i.token, [job])]) := .started
    rw [← made] at new
    simpa [Record.orders, Cache.start] using new

/-! ### How analyses go on -/

/-- The latest token of a record. -/
def latest (s : Service) (id : Nat) : Token := ⟨s.registry.version id, s.settingsVersion⟩

theorem isCurrent_iff_latest {token : Token} :
    s.isCurrent id token = true ↔ (∃ r, s.registry.record? id = some r) ∧ s.latest id = token := by
  unfold isCurrent latest
  cases hr : s.registry.record? id with
  | none => simp
  | some r => simp [tokenOf, Record.token, Registry.version_of_record? hr]

/-- An analysis has been scheduled at some time, for the latest token of its record then: there is a job with the
whole delay ahead. -/
def Scheduled (s₀ : Service) (es : List Event) (d n : Nat) (i : Inquiry) (since : Nat) : Prop :=
  ∃ m, Been s₀ es m ∧ m.clock = since ∧ (n, Job.analysis (.ahead d) i) ∈ m.jobs ∧
    i.token = m.latest i.record

theorem Scheduled.mono {since : Nat} (h : Scheduled s₀ es d n i since) (hp : es <+: es') :
    Scheduled s₀ es' d n i since := by
  obtain ⟨m, been, h⟩ := h
  exact ⟨m, been.mono hp, h⟩

/-- How far a job has come that is an analysis with a delay. -/
inductive Delayed (s₀ : Service) (es : List Event) (d n : Nat) : Job → Prop where
  /-- It has the whole delay ahead. -/
  | ahead {i : Inquiry} {since : Nat} (new : i.run = none) (scheduled : Scheduled s₀ es d n i since)
      (past : since ≤ (s₀.after es).clock) : Delayed s₀ es d n (.analysis (.ahead d) i)
  /-- It waits for the end of the delay. -/
  | running {i : Inquiry} {since deadline : Nat} (new : i.run = none) (scheduled : Scheduled s₀ es d n i since)
      (late : since + d ≤ deadline) (soon : deadline ≤ (s₀.after es).clock + d) :
      Delayed s₀ es d n (.analysis (.running deadline) i)
  /-- It has asked. -/
  | asked {i : Inquiry} (run : i.run.isSome = true) : Delayed s₀ es d n (.analysis .over i)

theorem Delayed.mono (h : Delayed s₀ es d n b) (hp : es <+: es')
    (later : (s₀.after es).clock ≤ (s₀.after es').clock) : Delayed s₀ es' d n b := by
  cases h with
  | ahead new scheduled past => exact .ahead new (scheduled.mono hp) (Nat.le_trans past later)
  | running new scheduled late soon =>
    exact .running new (scheduled.mono hp) late (Nat.le_trans soon (Nat.add_le_add_right later d))
  | asked run => exact .asked run

/-- A job has asked, and waits for a validation or is done. The other jobs are what they were. -/
structure HasAsked (n : Nat) (s s' : Service) : Prop where
  self : ∀ b, (n, b) ∈ s'.jobs → ∃ i, b = .analysis .over i ∧ i.run.isSome = true
  others : ∀ j : Nat × Job, j.1 ≠ n → (j ∈ s'.jobs ↔ j ∈ s.jobs)

theorem mem_setJob_iff {j : Nat × Job} (apart : j.1 ≠ n) : j ∈ (s.setJob n b).jobs ↔ j ∈ s.jobs := by
  refine ⟨fun hj => ?_, fun hj => mem_setJob_of_ne hj apart⟩
  rcases mem_setJob hj with ⟨-, -, rfl⟩ | ⟨-, hj⟩
  · exact absurd rfl apart
  · exact hj

theorem mem_endJob_iff {j : Nat × Job} : j ∈ (s.endJob n).jobs ↔ j ∈ s.jobs ∧ j.1 ≠ n := by
  simp [endJob, List.mem_filter]

theorem askForAnalysis_asked (stays : (s.pollInquiry n i).2.2 = none → (s.pollInquiry n i).2.1.run.isSome = true) :
    HasAsked n s (s.askForAnalysis n i) ∧
      ∀ id, (s.askForAnalysis n i).orders id = (s.pollInquiry n i).1.orders id := by
  have jobs := (pollInquiry_quiet s n i).jobs
  have ended : ∀ {t : Service}, t.jobs = s.jobs → HasAsked n s (t.endJob n) := fun jobs =>
    ⟨fun b hb => absurd rfl (mem_endJob_iff.1 hb).2, fun j apart => by rw [mem_endJob_iff, jobs]; simp [apart]⟩
  unfold askForAnalysis
  generalize s.pollInquiry n i = a at stays jobs
  obtain ⟨t, i', o⟩ := a
  rcases o with _ | e | found
  · refine ⟨⟨fun b hb => ?_, fun j apart => by rw [mem_setJob_iff apart, jobs]⟩, fun _ => rfl⟩
    rcases mem_setJob hb with ⟨-, -, same⟩ | ⟨apart, -⟩
    · exact ⟨i', congrArg Prod.snd same, stays rfl⟩
    · exact absurd rfl apart
  · exact ⟨ended jobs, fun _ => rfl⟩
  · exact ⟨ended jobs, fun _ => rfl⟩

/-- What a poll of a job does if all jobs are analyses with a delay. -/
inductive Turn (d : Nat) (s : Service) (n : Nat) (s' : Service) : Prop where
  /-- There is no such job, or the delay is not over yet. -/
  | rests (same : s' = s) (early : ∀ delay i, (n, Job.analysis delay i) ∈ s.jobs →
      ∃ deadline, delay = .running deadline ∧ s.clock < deadline)
  /-- The delay begins. -/
  | begins {i : Inquiry} (here : (n, Job.analysis (.ahead d) i) ∈ s.jobs)
      (made : s' = s.setJob n (.analysis (.running (s.clock + d)) i))
  /-- The delay is over, and the token is not current any more. -/
  | lapses {deadline : Nat} {i : Inquiry} (here : (n, Job.analysis (.running deadline) i) ∈ s.jobs)
      (stale : s.isCurrent i.record i.token = false) (made : s' = s.endJob n)
  /-- The delay is over, and the job asks. -/
  | asks {deadline : Nat} {i : Inquiry} (here : (n, Job.analysis (.running deadline) i) ∈ s.jobs)
      (late : deadline ≤ s.clock) (current : s.isCurrent i.record i.token = true)
      (ordered : Ordered i.token n (s.orders i.record) (s'.orders i.record))
      (others : ∀ id, i.record ≠ id → s'.orders id = s.orders id) (asked : HasAsked n s s')
  /-- The job has asked before. -/
  | waits {i : Inquiry} (here : (n, Job.analysis .over i) ∈ s.jobs) (orders : ∀ id, s'.orders id = s.orders id)
      (asked : HasAsked n s s')

theorem Intact.turn (h : s.Intact) (positive : 0 < d) (delayed : ∀ j ∈ s.jobs, Delayed s₀ es d j.1 j.2) (n : Nat) :
    Turn d s n (s.poll n) := by
  cases hj : s.job? n with
  | none =>
    refine .rests (by unfold poll; rw [hj]) fun delay i here => ?_
    exact nomatch hj.symm.trans (h.job?_of_mem here)
  | some b =>
    have here := mem_of_job? hj
    have stage := delayed _ here
    unfold poll
    rw [hj]
    cases stage with
    | ahead =>
      refine .begins here ?_
      dsimp only [pollAnalysis]
      rw [if_neg (Nat.ne_of_gt positive)]
    | @running i since deadline new =>
      dsimp only [pollAnalysis]
      split
      next early =>
        refine .rests rfl fun delay i' here' => ?_
        have same := Option.some.inj ((h.job?_of_mem here').symm.trans hj)
        cases same
        exact ⟨deadline, rfl, early⟩
      next late =>
        split
        next current =>
          obtain ⟨⟨r, hr⟩, -⟩ := isCurrent_iff_latest.1 current
          obtain ⟨ordered, stays⟩ := pollInquiry_ordered h.tidy hr new n
          obtain ⟨asked, orders⟩ := askForAnalysis_asked stays
          refine .asks here (Nat.not_lt.1 late) current (orders i.record ▸ ordered) (fun id apart => ?_) asked
          rw [orders]
          exact (pollInquiry_inquired h.tidy ((h.jobs _ here).waits i (List.mem_singleton_self i))
            n).course.orders fun _ same => same ▸ apart
        next stale => exact .lapses here (Bool.eq_false_iff.2 stale) rfl
    | asked run =>
      obtain ⟨orders, stays⟩ := pollInquiry_asked s n run
      obtain ⟨asked, same⟩ := askForAnalysis_asked fun _ => stays
      exact .waits here (fun id => (same id).trans (orders id)) asked

/-! ### Time -/

theorem publish_clock (s : Service) (id : Nat) (found : List Diagnostic) : (s.publish id found).clock = s.clock := by
  unfold publish
  split
  · rfl
  · split
    · split <;> rfl
    · rfl

theorem Deed.clock_le {lost : Path → Prop} (d : Deed lost s s') : s.clock ≤ s'.clock := by
  cases d with
  | retracts => exact Nat.le_of_eq (publish_clock (s.show_ _ none) _ []).symm
  | @analyzes n =>
    rcases analyze_cases s n with same | ⟨b, same⟩
    · exact Nat.le_of_eq (congrArg clock same).symm
    · exact Nat.le_of_eq (congrArg clock same).symm
  | publishes => exact Nat.le_of_eq (publish_clock _ _ _).symm
  | waits later => exact later
  | _ => exact Nat.le_refl _

theorem Intact.clock_le (h : s.Intact) (e : Event) : s.clock ≤ (s.step e).clock :=
  step_lasting (I := fun t => s.clock ≤ t.clock) h.registry (fun _ _ le => le) (fun _ _ _ le => le)
    (fun _ d le => Nat.le_trans le d.clock_le) (Nat.le_refl _)

theorem Intact.clock_le_after (h : s.Intact) (es : List Event) : s.clock ≤ (s.after es).clock := by
  induction es using List.reverseRecOn with
  | nil => exact Nat.le_refl _
  | append_singleton es e ih =>
    rw [after_snoc]
    exact Nat.le_trans ih ((h.after es).clock_le e)

/-! ### Sessions in which the editor asks for nothing -/

theorem Brings.orders (h : Brings s s') (id : Nat) : s'.orders id = s.orders id := by
  obtain ⟨t, shift, spawns⟩ := h
  rw [orders_of_registry spawns.registry]
  cases hr : s.registry.record? id with
  | some r =>
    obtain ⟨r', hr', -, -, results⟩ := shift.stays id r hr
    rw [orders_of_record? hr, orders_of_record? hr', Record.orders, results, Record.orders]
  | none =>
    have none : s.orders id = [] := by rw [Service.orders, hr]; rfl
    rw [none]
    cases hr' : t.registry.record? id with
    | none => rw [Service.orders, hr']; rfl
    | some r' => rw [orders_of_record? hr', Record.orders, (shift.new id r' hr' hr).2]; rfl

/-- A job after a poll has been there before, or it is that of the poll and goes on. -/
theorem Turn.mem_jobs (h : Turn d s n s') {j : Nat × Job} (hj : j ∈ s'.jobs) :
    j ∈ s.jobs ∨ j.1 = n ∧ ((∃ i, (n, Job.analysis (.ahead d) i) ∈ s.jobs ∧
      j.2 = .analysis (.running (s.clock + d)) i) ∨ ∃ i, j.2 = .analysis .over i ∧ i.run.isSome = true) := by
  have asked : HasAsked n s s' → _ := fun a => show j ∈ s.jobs ∨ j.1 = n ∧ ((∃ i,
      (n, Job.analysis (.ahead d) i) ∈ s.jobs ∧ j.2 = .analysis (.running (s.clock + d)) i) ∨
        ∃ i, j.2 = .analysis .over i ∧ i.run.isSome = true) by
    by_cases own : j.1 = n
    · exact Or.inr ⟨own, Or.inr (a.self j.2 (own ▸ hj))⟩
    · exact Or.inl ((a.others j own).1 hj)
  cases h with
  | rests same => exact Or.inl (same ▸ hj)
  | @begins i here made =>
    rw [made] at hj
    rcases mem_setJob hj with ⟨-, -, rfl⟩ | ⟨-, hj⟩
    · exact Or.inr ⟨rfl, Or.inl ⟨i, here, rfl⟩⟩
    · exact Or.inl hj
  | lapses here stale made =>
    rw [made] at hj
    exact Or.inl (mem_endJob_iff.1 hj).1
  | asks _ _ _ _ _ a => exact asked a
  | waits _ _ a => exact asked a

/-- A new job of an event that is no poll and no request is an analysis with the delay ahead that is set, for the
latest token of its record. -/
theorem step_schedules (poll : ∀ job, e ≠ .polled job) (pull : e.isPull = false) {j : Nat × Job}
    (hj : j ∈ (s.step e).jobs) : j ∈ s.jobs ∨ (s.step e).ready = true ∧
      ∃ i, j.2 = .analysis (.ahead (s.step e).settings.diagnostics.delay) i ∧ i.run = none ∧
        i.token = (s.step e).latest i.record := by
  obtain ⟨-, added, jobs, background⟩ := step_background s poll pull
  obtain ⟨t, shift, spawns⟩ := step_brings s poll
  rcases spawns.mem_jobs hj with old | ⟨asks, -, -⟩
  · exact Or.inl (shift.jobs ▸ old)
  · rw [jobs] at hj
    refine (List.mem_append.1 hj).imp_right fun new => ?_
    obtain ⟨ready, i, made⟩ := asks.background (background _ new)
    have hi : i ∈ j.2.inquiries := by rw [made]; exact List.mem_singleton_self i
    obtain ⟨fresh, -, r, hr, token⟩ := asks.inquiries i hi
    refine ⟨ready, i, made, fresh, ?_⟩
    rw [latest, Registry.version_of_record? hr]
    exact token

variable {host : Host} {delivery : Delivery} {settings : Settings} {waits : Bool}

/-- The editor asks for nothing in a session, and whenever the settings are known they say to wait for some
time. -/
structure Delaying (host : Host) (delivery : Delivery) (settings : Settings) (waits : Bool) (es : List Event)
    (d : Nat) : Prop where
  positive : 0 < d
  unasked : ∀ e ∈ es, e.isPull = false
  fixed : ∀ before, before <+: es → (session host delivery settings waits before).ready = true →
    (session host delivery settings waits before).settings.diagnostics.delay = d

theorem Delaying.mono (h : Delaying host delivery settings waits es' d) (hp : es <+: es') :
    Delaying host delivery settings waits es d :=
  ⟨h.positive, fun e he => h.unasked e (hp.subset he), fun before hb => h.fixed before (hb.trans hp)⟩

/-- A session without requests and new settings has the delay that it has at the start. -/
theorem delaying_of_unset (positive : 0 < settings.diagnostics.delay) (unasked : ∀ e ∈ es, e.isPull = false)
    (unset : ∀ e ∈ es, e.isConfigured = false) :
    Delaying host delivery settings waits es settings.diagnostics.delay where
  positive := positive
  unasked := unasked
  fixed before past _ := by
    rw [session_settings host delivery settings waits fun e he => unset e (past.subset he)]

/-- All jobs are analyses with a delay. -/
theorem Delaying.delayed (h : Delaying host delivery settings waits es d) :
    ∀ j ∈ (session host delivery settings waits es).jobs,
      Delayed (start host delivery settings waits) es d j.1 j.2 := by
  induction es using List.reverseRecOn with
  | nil => exact fun j hj => nomatch hj
  | append_singleton es e ih =>
    intro j hj
    have intact := session_intact host delivery settings waits es
    have past : es <+: es ++ [e] := List.prefix_append es [e]
    have later := intact.clock_le e
    rw [← session_snoc] at later
    have old : ∀ {j : Nat × Job}, j ∈ (session host delivery settings waits es).jobs →
        Delayed (start host delivery settings waits) (es ++ [e]) d j.1 j.2 := fun hj =>
      (ih (h.mono past) _ hj).mono past later
    by_cases poll : ∃ n, e = .polled n
    · obtain ⟨n, rfl⟩ := poll
      have turn := intact.turn h.positive (ih (h.mono past)) n
      rw [session_snoc] at hj
      rcases turn.mem_jobs hj with hj | ⟨own, ⟨i, here, made⟩ | ⟨i, made, asked⟩⟩
      · exact old hj
      · have stage := ih (h.mono past) _ here
        rw [own, made]
        cases stage with
        | ahead new scheduled began =>
          exact .running new (scheduled.mono past) (Nat.add_le_add_right began d) (Nat.add_le_add_right later d)
      · rw [made]
        exact .asked asked
    · have now := session_snoc host delivery settings waits es e
      have here := hj
      rw [now] at hj
      rcases step_schedules (fun job he => poll ⟨job, he⟩) (h.unasked e (by simp)) hj with
        hj | ⟨ready, i, made, new, token⟩
      · exact old hj
      · rw [← now] at ready made token
        rw [h.fixed _ List.prefix_rfl ready] at made
        obtain ⟨n, b⟩ := j
        obtain rfl : b = .analysis (.ahead d) i := made
        exact .ahead new ⟨_, been_now _ _, rfl, here, token⟩ (Nat.le_refl _)

/-- The time is over for a job to ask: it was scheduled a whole delay ago or earlier, for the latest token of its
record then, which is the latest one still. -/
def Due (s₀ : Service) (es : List Event) (d n : Nat) (i : Inquiry) : Prop :=
  ∃ since, Scheduled s₀ es d n i since ∧ since + d ≤ (s₀.after es).clock ∧
    (s₀.after es).isCurrent i.record i.token = true

/-- The only way in which validations are asked for: an analysis asks that is due. -/
theorem Delaying.orders_cases (h : Delaying host delivery settings waits (es ++ [e]) d) (id : Nat) :
    (session host delivery settings waits (es ++ [e])).orders id =
        (session host delivery settings waits es).orders id ∨
      ∃ n i, e = .polled n ∧ i.record = id ∧ Due (start host delivery settings waits) es d n i ∧
        Ordered i.token n ((session host delivery settings waits es).orders id)
          ((session host delivery settings waits (es ++ [e])).orders id) := by
  have intact := session_intact host delivery settings waits es
  have delayed := (h.mono (List.prefix_append es [e])).delayed
  have now := session_snoc host delivery settings waits es e
  rw [now]
  by_cases poll : ∃ n, e = .polled n
  · obtain ⟨n, rfl⟩ := poll
    have turn := intact.turn h.positive delayed n
    show ((session host delivery settings waits es).poll n).orders id = _ ∨ _
    cases turn with
    | rests same => exact Or.inl (by rw [same])
    | begins here made => exact Or.inl (by rw [made]; rfl)
    | lapses here stale made => exact Or.inl (by rw [made]; rfl)
    | waits here orders => exact Or.inl (orders id)
    | @asks deadline i here late current ordered others asked =>
      by_cases own : i.record = id
      · subst own
        have stage := delayed _ here
        cases stage with
        | running new scheduled began =>
          exact Or.inr ⟨n, i, rfl, rfl, ⟨_, scheduled, Nat.le_trans began late, current⟩, ordered⟩
      · exact Or.inl (others id own)
  · exact Or.inl ((step_brings _ fun job he => poll ⟨job, he⟩).orders id)

end Service

end ShaderDiagnostics
