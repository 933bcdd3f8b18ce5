import ShaderDiagnostics.Proofs.Service.Invocations
import ShaderDiagnostics.Proofs.Service.ResultIds

/-!
# What the host is called for

The host is called in polls only. They may come long after the request for diagnostics that they are for, when
the document is open no more, diagnostics have been switched off and stages have other extensions; and the
cache may have several requests wait for one validation. So whether a document is in scope is not looked at when
the host is called, but when its diagnostics are requested (`Service.Requests`): jobs are made for documents in
scope only, whatever makes them, and a validation begins in a poll of a job that asks for it, with the token and the
snapshot of the job's request (`Service.Founded`).

Since every read and every run has the number of the validation that it is for, each of them is for one that has been
requested in scope, and is what the snapshot of the request says (`Service.calls_in_scope`). An embedded host has no
document in scope, and is never called.
-/

namespace ShaderDiagnostics

/-- The token and the snapshot that a validation of a record goes by. -/
def Record.goesBy? (r : Record) (n : Nat) : Option (Token × Snapshot) :=
  (r.results.run? n).map fun v => (v.version, v.work.snapshot)

theorem Snapshot.means?_eq_some {sn : Snapshot} {p : Path} {stage : Stage} {program : Path} :
    sn.means? p = some (stage, program) ↔
      sn.settings.extensions.stageOfPath p = some stage ∧ sn.validator = some program := by
  unfold Snapshot.means?
  cases sn.validator <;> simp

namespace Service

variable {asks : Inquiry → Prop} {s s' s₀ t : Service} {es es' : List Event} {e : Event} {id : Nat}
  {i : Inquiry} {r r' : Record} {p : Path} {token : Token} {sn : Snapshot} {log log' xs : List Exchange}

/-! ### Requests in scope -/

/-- Between two moments the diagnostics of the document at a path have been requested, with this token and this
snapshot: there is a new job, with this number, that asks for them. The document is in scope then: the host is not
embedded, diagnostics are enabled, and the document is open or the whole workspace is in scope. -/
structure Requests (s s' : Service) (job id : Nat) (token : Token) (sn : Snapshot) (p : Path) : Prop where
  new : s.nextJob ≤ job
  job : ∃ b, (job, b) ∈ s'.jobs ∧ ⟨id, token, sn, none⟩ ∈ b.inquiries
  document : ∃ r, s'.registry.record? id = some r ∧ r.path = p ∧ token = s'.tokenOf r ∧
    (r.opened = true ∨ s'.settings.diagnostics.workspace = true)
  snapshot : sn = s'.snapshot
  equipped : s'.host.embedded = false
  enabled : s'.settings.diagnostics.enable = true

/-- The diagnostics of the document have been requested in one of the events, by a job with this number. -/
def Commissioned (s₀ : Service) (es : List Event) (job id : Nat) (token : Token) (sn : Snapshot) (p : Path) :
    Prop :=
  ∃ before e, before ++ [e] <+: es ∧
    Requests (s₀.after before) (s₀.after (before ++ [e])) job id token sn p

theorem Commissioned.mono {job : Nat} (h : Commissioned s₀ es job id token sn p) (hp : es <+: es') :
    Commissioned s₀ es' job id token sn p := by
  obtain ⟨before, e, past, requests⟩ := h
  exact ⟨before, e, past.trans hp, requests⟩

/-- What a new job asks for is requested in scope. -/
theorem Asks.requests {j : Nat × Job} (asks : s'.Asks j.2) (hj : j ∈ s'.jobs) (new : s.nextJob ≤ j.1)
    (hi : i ∈ j.2.inquiries) :
    ∃ r, s'.registry.record? i.record = some r ∧
      Requests s s' j.1 i.record i.token i.snapshot r.path := by
  obtain ⟨fresh, snapshot, r, hr, token⟩ := asks.inquiries i hi
  have inside := asks.scope i hi r hr
  simp only [inScope, Bool.and_eq_true, Bool.or_eq_true, Bool.not_eq_true'] at inside
  obtain ⟨⟨equipped, enabled⟩, wide⟩ := inside
  refine ⟨r, hr, new, ⟨j.2, hj, ?_⟩, ⟨r, hr, rfl, token, wide.symm⟩, snapshot, equipped, enabled⟩
  rwa [show (⟨i.record, i.token, i.snapshot, none⟩ : Inquiry) = i by rw [← fresh]]

variable {host : Host} {delivery : Delivery} {settings : Settings} {waits : Bool}

/-- Jobs ask for what they have requested in scope. -/
theorem session_commissioned {j : Nat × Job} (hj : j ∈ (session host delivery settings waits es).jobs)
    (hi : i ∈ j.2.inquiries) :
    ∃ r, (session host delivery settings waits es).registry.record? i.record = some r ∧
      Commissioned (start host delivery settings waits) es j.1 i.record i.token i.snapshot r.path := by
  induction es using List.reverseRecOn generalizing i j with
  | nil => cases hj
  | append_singleton es e ih =>
    have intact := session_intact host delivery settings waits es
    have now := session_snoc host delivery settings waits es e
    rw [now] at hj ⊢
    rcases intact.mem_jobs e hj with ⟨b, hb, same⟩ | ⟨asks, new⟩
    · obtain ⟨i₀, hi₀, same⟩ := same.inquiries i hi
      obtain ⟨r, hr, commissioned⟩ := ih hb hi₀
      obtain ⟨r', hr', path, -⟩ := (intact.lasts e).records _ r hr
      rw [same]
      exact ⟨r', hr', path.symm ▸ commissioned.mono (List.prefix_append es [e])⟩
    · obtain ⟨r, hr, requests⟩ := asks.requests hj new hi
      refine ⟨r, hr, es, e, List.prefix_rfl, ?_⟩
      rw [after_snoc]
      exact requests

/-! ### What validations go by -/

theorem goesBy?_modifyWork (r : Record) (m n : Nat) {f : Validation → Validation}
    (same : ∀ w, (f w).snapshot = w.snapshot) :
    Record.goesBy? { r with results := r.results.modifyWork m f } n = r.goesBy? n := by
  simp only [Record.goesBy?, Cache.run?_modifyWork]
  split
  · cases r.results.run? n <;> simp [same]
  · rfl

/-- What a validation goes by does not change in an act, and if the act starts a validation, then that goes by
what has been asked for. -/
theorem Act.goesBy? (a : Act asks s id r r' xs) (n : Nat) :
    r'.goesBy? n = r.goesBy? n ∨
      ∃ i, asks i ∧ i.record = id ∧ r.goesBy? n = none ∧ r'.goesBy? n = some (i.token, i.snapshot) := by
  cases a with
  | @requests i asked own =>
    unfold Record.goesBy?
    dsimp only
    rcases Cache.request_cases Token.covers r.results i.token ⟨i.snapshot, .fresh, []⟩ with
      same | ⟨-, new⟩
    · exact Or.inl (by rw [same])
    · rw [new, Cache.run?_start]
      split
      next new =>
        have absent : r.results.run? n = none := List.getElem?_eq_none (Nat.le_of_eq new.symm)
        exact Or.inr ⟨i, asked, own, by rw [absent]; rfl, rfl⟩
      · exact Or.inl rfl
  | joins _ _ m job => exact Or.inl (goesBy?_modifyWork r m n fun _ => rfl)
  | @waits m v read => exact Or.inl (goesBy?_modifyWork r m n fun _ => rfl)
  | @runs m => exact Or.inl (goesBy?_modifyWork r m n fun _ => rfl)
  | @ends m v outcome run waiting =>
    refine Or.inl ?_
    simp only [Record.goesBy?, Cache.run?_finish run waiting]
    split
    next own => rw [own, run]; rfl
    · rfl
  | publishes => exact Or.inl rfl
  | shows => exact Or.inl rfl
  | reads => exact Or.inl rfl
  | gets => exact Or.inl rfl

/-! ### How validations begin -/

/-- Through the acts of a poll: a validation goes by what it has gone by at the beginning, or by what the job of the
poll asks for. -/
theorem Act.origin {r₀ : Record} {n : Nat} (a : Act asks t id r r' xs)
    (h : r.goesBy? n = r₀.goesBy? n ∨
      r₀.goesBy? n = none ∧ ∃ i, asks i ∧ i.record = id ∧ r.goesBy? n = some (i.token, i.snapshot)) :
    r'.goesBy? n = r₀.goesBy? n ∨
      r₀.goesBy? n = none ∧ ∃ i, asks i ∧ i.record = id ∧ r'.goesBy? n = some (i.token, i.snapshot) := by
  rcases a.goesBy? n with same | ⟨i, asked, own, absent, new⟩
  · rwa [same]
  · rcases h with before | ⟨-, i', -, -, there⟩
    · exact Or.inr ⟨before ▸ absent, i, asked, own, new⟩
    · cases there.symm.trans absent

/-- After an event a validation of a record goes by what it has gone by before, or the event is a poll of a job that
asks for just that, and the validation begins. -/
theorem Intact.begins (h : s.Intact) (hr' : (s.step e).registry.record? id = some r') {n : Nat}
    (goes : r'.goesBy? n = some (token, sn)) :
    (∃ r, s.registry.record? id = some r ∧ r.goesBy? n = some (token, sn)) ∨
      s.validation? id n = none ∧ ∃ job b i, e = .polled job ∧ (job, b) ∈ s.jobs ∧ i ∈ b.inquiries ∧
        i.record = id ∧ i.token = token ∧ i.snapshot = sn := by
  cases hr : s.registry.record? id with
  | none =>
    rw [Record.goesBy?, (h.record_new e hr' hr).2.1] at goes
    cases goes
  | some r =>
    rcases h.step_cases e with ⟨job, b, t, jobs, outbox, rfl, hj, course, -, he⟩ | ⟨t, shift, spawns⟩
    · obtain ⟨r₁, hr₁, origin⟩ := course.record (I := fun _ r' => r'.goesBy? n = r.goesBy? n ∨
          r.goesBy? n = none ∧ ∃ i ∈ b.inquiries, i.record = id ∧ r'.goesBy? n = some (i.token, i.snapshot))
        (fun _ _ a before => a.origin before) (fun _ before => before) hr (Or.inl rfl)
      rw [he] at hr'
      obtain rfl := Option.some.inj (hr₁.symm.trans hr')
      rcases origin with same | ⟨absent, i, hi, own, new⟩
      · exact Or.inl ⟨r, rfl, same ▸ goes⟩
      · cases new.symm.trans goes
        refine Or.inr ⟨?_, job, b, i, rfl, mem_of_job? hj, hi, own, rfl, rfl⟩
        rw [validation?, hr]
        exact Option.map_eq_none_iff.1 absent
    · obtain ⟨r₁, hr₁, -, -, results⟩ := shift.stays id r hr
      rw [← spawns.registry] at hr₁
      obtain rfl := Option.some.inj (hr₁.symm.trans hr')
      exact Or.inl ⟨r, rfl, by rw [← goes, Record.goesBy?, Record.goesBy?, results]⟩

/-- A validation of a record has begun in a poll of a job, and before that the job had been made to ask for its token
and snapshot, when the document was in scope. -/
def Founded (s₀ : Service) (es : List Event) (id n : Nat) (token : Token) (sn : Snapshot) (p : Path) : Prop :=
  ∃ before job, before ++ [.polled job] <+: es ∧ Commissioned s₀ before job id token sn p ∧
    (s₀.after before).validation? id n = none ∧
    ((s₀.after (before ++ [.polled job])).validation? id n).isSome = true

theorem Founded.mono {n : Nat} (h : Founded s₀ es id n token sn p) (hp : es <+: es') :
    Founded s₀ es' id n token sn p := by
  obtain ⟨before, job, past, commissioned, begins⟩ := h
  exact ⟨before, job, past.trans hp, commissioned, begins⟩

/-- Every validation of a record is founded on a request in scope. -/
theorem session_founded (hr : (session host delivery settings waits es).registry.record? id = some r) {n : Nat}
    (goes : r.goesBy? n = some (token, sn)) :
    Founded (start host delivery settings waits) es id n token sn r.path := by
  induction es using List.reverseRecOn generalizing r with
  | nil => cases hr
  | append_singleton es e ih =>
    have intact := session_intact host delivery settings waits es
    have now := session_snoc host delivery settings waits es e
    have hr' := hr
    rw [now] at hr'
    rcases intact.begins hr' goes with ⟨r₀, hr₀, before⟩ | ⟨absent, job, b, i, rfl, hj, hi, rfl, rfl, rfl⟩
    · obtain ⟨r₁, hr₁, path, -⟩ := (intact.lasts e).records _ r₀ hr₀
      obtain rfl := Option.some.inj (hr₁.symm.trans hr')
      rw [path]
      exact (ih hr₀ before).mono (List.prefix_append es [e])
    · obtain ⟨r₀, hr₀, commissioned⟩ := session_commissioned hj hi
      obtain ⟨r₁, hr₁, path, -⟩ := (intact.lasts (.polled job)).records _ r₀ hr₀
      obtain rfl := Option.some.inj (hr₁.symm.trans hr')
      refine ⟨es, job, List.prefix_rfl, path.symm ▸ commissioned, absent, ?_⟩
      obtain ⟨v, run, -⟩ := Option.map_eq_some_iff.1 goes
      rw [show (start host delivery settings waits).after (es ++ [.polled job]) = _ from now, validation?, hr']
      exact Option.isSome_iff_exists.2 ⟨v, run⟩

/-! ### Calls -/

/-- The host is called for the validation of a record that has the number of the call. The path belongs to a stage by
the snapshot of the validation, and the validator is the one of the snapshot, run with its arguments for that stage on
the text that the validation has taken. -/
inductive Called (id : Nat) (r : Record) : Exchange → Prop where
  /-- To read the document. -/
  | read {n : Nat} {v : ValidationRun} {stage : Stage} {program : Path} {version : UInt32}
      {answer : Except ServiceError (List Char)} (validation : r.results.run? n = some v)
      (mapped : v.work.snapshot.settings.extensions.stageOfPath r.path = some stage)
      (resolved : v.work.snapshot.validator = some program) :
      Called id r (.read id n r.path version answer)
  /-- To run the validator. -/
  | run {n : Nat} {v : ValidationRun} {stage : Stage} {program : Path} {text : List Char} {since : Nat}
      {call : Pending (List Char)} (validation : r.results.run? n = some v)
      (progress : v.work.progress = .running text since call)
      (mapped : v.work.snapshot.settings.extensions.stageOfPath r.path = some stage)
      (resolved : v.work.snapshot.validator = some program) :
      Called id r (.run id n ⟨program, v.work.snapshot.settings.arguments stage, text⟩ call.outcome)

theorem Called.validation {x : Exchange} (h : Called id r x) : ∃ n token sn, r.goesBy? n = some (token, sn) := by
  cases h with
  | read validation => exact ⟨_, _, _, by rw [Record.goesBy?, validation]; rfl⟩
  | run validation => exact ⟨_, _, _, by rw [Record.goesBy?, validation]; rfl⟩

/-- A record's document is read for those of its validations alone that mean to run the validator. -/
def ReadFor (id : Nat) (log : List Exchange) (r : Record) : Prop :=
  ∀ n p version answer, .read id n p version answer ∈ log → p = r.path ∧
    ∃ token sn m, r.goesBy? n = some (token, sn) ∧ sn.means? r.path = some m

theorem readFor_others (hx : ∀ x ∈ xs, x.isFor id = false) (h : ReadFor id log r) : ReadFor id (xs ++ log) r := by
  intro n p version answer hm
  rcases List.mem_append.1 hm with hm | hm
  · have foreign := hx _ hm
    rw [Exchange.isFor, beq_self_eq_true] at foreign
    cases foreign
  · exact h n p version answer hm

/-- A read that is new in an act is for a validation that waits and means to run the validator. -/
theorem Act.readFor (a : Act asks t id r r' xs) (h : ReadFor id log r) : ReadFor id (xs ++ log) r' := by
  have path : r'.path = r.path := a.grows.path
  have grows : ∀ n b, r.goesBy? n = some b → r'.goesBy? n = some b := by
    intro n b hb
    rcases a.goesBy? n with same | ⟨-, -, -, absent, -⟩
    · exact same.trans hb
    · rw [absent] at hb
      cases hb
  have new : ReadFor id xs r := by
    intro n p version answer hx
    cases a with
    | @reads call _ _ _ m v stage program run _ means =>
      cases List.mem_singleton.1 hx
      exact ⟨rfl, v.version, v.work.snapshot, _, by rw [Record.goesBy?, run]; rfl, means⟩
    | runs => cases List.mem_singleton.1 hx
    | _ => cases hx
  intro n p version answer hx
  obtain ⟨rfl, token, sn, m, goes, means⟩ :=
    (List.mem_append.1 hx).elim (new n p version answer) (h n p version answer)
  rw [path]
  exact ⟨rfl, token, sn, m, grows n _ goes, means⟩

theorem session_readFor (hr : (session host delivery settings waits es).registry.record? id = some r) :
    ReadFor id (session host delivery settings waits es).log r := by
  refine session_record (I := fun _ log r => ReadFor id log r) (fun _ _ unheard n p version answer hx => ?_)
    (fun path _ results h n p version answer hx => ?_) (fun _ h => h) (fun _ _ _ a h => a.readFor h)
    readFor_others hr
  · have foreign := unheard _ hx
    rw [Exchange.isFor, beq_self_eq_true] at foreign
    cases foreign
  · rw [path, Record.goesBy?, results]
    exact h n p version answer hx

/-- Everything that the host has been asked for is for a validation of a record. -/
theorem session_called {x : Exchange} (hx : x ∈ (session host delivery settings waits es).log) :
    ∃ id r, (session host delivery settings waits es).registry.record? id = some r ∧ Called id r x := by
  obtain ⟨id, own⟩ : ∃ id, x.isFor id = true := by cases x <;> exact ⟨_, beq_self_eq_true _⟩
  cases hr : (session host delivery settings waits es).registry.record? id with
  | none =>
    have unheard := (session_intact host delivery settings waits es).unheard id hr x hx
    rw [own] at unheard
    cases unheard
  | some r =>
    refine ⟨id, r, hr, ?_⟩
    cases x with
    | read record n p version answer =>
      obtain rfl : record = id := beq_iff_eq.1 own
      obtain ⟨rfl, token, sn, ⟨stage, program⟩, goes, means⟩ := session_readFor hr n p version answer hx
      obtain ⟨v, run, same⟩ := Option.map_eq_some_iff.1 goes
      cases same
      obtain ⟨mapped, resolved⟩ := Snapshot.means?_eq_some.1 means
      exact .read run mapped resolved
    | run record n i answer =>
      have here := (session_ran hr).mem_iff.1 (List.mem_filter.2 ⟨hx, own⟩)
      obtain ⟨n', v, i', answer', run, made, same⟩ := Record.mem_ran.1 here
      cases same
      obtain ⟨stage, program, text, since, call, means, progress, rfl, rfl⟩ := invocation?_eq_some.1 made
      obtain ⟨mapped, resolved⟩ := Snapshot.means?_eq_some.1 means
      exact .run run progress mapped resolved

/-! ### Validations that have ended -/

/-- The host is not called in an act for a validation that has ended. -/
theorem Act.spares (a : Act asks t id r r' xs) {n : Nat} {v : ValidationRun} (run : r.results.run? n = some v)
    (ended : v.outcome.isSome = true) : ∀ x ∈ xs, x.isOf id n = false := by
  have other : ∀ m w, r.results.run? m = some w → w.outcome = none → m ≠ n := by
    rintro m w hw waiting rfl
    obtain rfl := Option.some.inj (run.symm.trans hw)
    rw [waiting] at ended
    cases ended
  cases a with
  | reads _ _ _ own waiting =>
    intro x hx
    rw [List.mem_singleton.1 hx, Exchange.isOf, beq_eq_false_iff_ne.2 (other _ _ own waiting), Bool.and_false]
  | runs own waiting =>
    intro x hx
    rw [List.mem_singleton.1 hx, Exchange.isOf, beq_eq_false_iff_ne.2 (other _ _ own waiting), Bool.and_false]
  | _ =>
    intro x hx
    cases hx

/-- Once a validation has ended the host is not called for it any more. -/
theorem session_spared (past : es <+: es')
    (hr : (session host delivery settings waits es).registry.record? id = some r) {n : Nat} {v : ValidationRun}
    (run : r.results.run? n = some v) (ended : v.outcome.isSome = true) :
    (session host delivery settings waits es').log.filter (Exchange.isOf id n) =
      (session host delivery settings waits es).log.filter (Exchange.isOf id n) := by
  obtain ⟨rest, rfl⟩ := past
  suffices h : ∃ r', (session host delivery settings waits (es ++ rest)).registry.record? id = some r' ∧
      (∃ v, r'.results.run? n = some v ∧ v.outcome.isSome = true) ∧
      (session host delivery settings waits (es ++ rest)).log.filter (Exchange.isOf id n) =
        (session host delivery settings waits es).log.filter (Exchange.isOf id n) by
    obtain ⟨-, -, -, same⟩ := h
    exact same
  induction rest using List.reverseRecOn with
  | nil => exact ⟨r, by rwa [List.append_nil], ⟨v, run, ended⟩, by rw [List.append_nil]⟩
  | append_singleton rest e ih =>
    obtain ⟨r', hr', h⟩ := ih
    rw [← List.append_assoc, session_snoc]
    refine (session_intact host delivery settings waits (es ++ rest)).record (I := fun log r =>
        (∃ v, r.results.run? n = some v ∧ v.outcome.isSome = true) ∧ log.filter (Exchange.isOf id n) =
          (session host delivery settings waits es).log.filter (Exchange.isOf id n)) e
      (fun _ _ results h => ⟨results ▸ h.1, h.2⟩) (fun _ _ a h => ?_)
      (fun none h =>
        ⟨h.1, (filter_append_of_dropped fun x hx => Exchange.isOf_of_isFor (none x hx) n).trans h.2⟩) hr' h
    obtain ⟨⟨v, run, ended⟩, same⟩ := h
    obtain ⟨v', run', -, stays⟩ := a.grows.results n v run
    obtain ⟨o, ho⟩ := Option.isSome_iff_exists.1 ended
    exact ⟨⟨v', run', by rw [stays o ho]; rfl⟩, (filter_append_of_dropped (a.spares run ended)).trans same⟩

/-! ### Sessions -/

/-- **Validation only in scope.** Whatever happens in a session, every validation of a record has begun in a poll of
a job that had been made to ask for it when the document was in scope. Every read and every run that the host has been
asked for is for one of these validations, which has the number of the call, and is what the snapshot of the
validation says; the runs for a record are those that its validations have made, each of them one at most; and the
host is called for no validation that has ended. If the host is embedded, then it is never called. -/
theorem calls_in_scope (host : Host) (delivery : Delivery) (settings : Settings) (waits : Bool)
    (es : List Event) :
    let s₀ := start host delivery settings waits
    let s := session host delivery settings waits
    (∀ id r n v, (s es).registry.record? id = some r → r.results.run? n = some v →
      Founded s₀ es id n v.version v.work.snapshot r.path) ∧
    (∀ x ∈ (s es).log, ∃ id r, (s es).registry.record? id = some r ∧ Called id r x) ∧
    (∀ id r, (s es).registry.record? id = some r → ((s es).log.filter (Exchange.isRun id)).Perm (r.ran id)) ∧
    (∀ before id r n v, before <+: es → (s before).registry.record? id = some r →
      r.results.run? n = some v → v.outcome.isSome = true →
      (s es).log.filter (Exchange.isOf id n) = (s before).log.filter (Exchange.isOf id n)) ∧
    (host.embedded = true → (s es).calls = []) := by
  intro s₀ s
  have goes : ∀ {r : Record} {n v}, r.results.run? n = some v → r.goesBy? n = some (v.version, v.work.snapshot) :=
    fun run => by rw [Record.goesBy?, run]; rfl
  refine ⟨fun id r n v hr run => session_founded hr (goes run), fun x hx => session_called hx,
    fun id r hr => session_ran hr, fun before id r n v past hr run ended => session_spared past hr run ended,
    fun embedded => ?_⟩
  have silent : (s es).log = [] := by
    refine List.eq_nil_iff_forall_not_mem.2 fun x hx => ?_
    obtain ⟨id, r, hr, called⟩ := session_called hx
    obtain ⟨n, token, sn, goes⟩ := called.validation
    obtain ⟨-, job, -, ⟨before, e, -, requests⟩, -⟩ := session_founded hr goes
    have equipped := requests.equipped
    rw [(intact_start host delivery settings waits).embedded_after] at equipped
    exact absurd (embedded.symm.trans equipped) Bool.noConfusion
  rw [calls, silent]
  rfl

/-- The shader appears on disk, is read and validated, and then all diagnostics are switched off; an embedded host
is not called for any of it. -/
theorem appearing_calls_in_scope :
    let off := { workspaceSettings with
      diagnostics := { workspaceSettings.diagnostics with enable := false } }
    let es := [.file ⟨shaderUri, 1⟩, .configured off, .polled 0]
    let s₀ := start (diskHost "x".toList) (.push true) workspaceSettings false
    let s := session (diskHost "x".toList) (.push true) workspaceSettings false es
    s.calls = [.run 0 ⟨Path.ofString "glslangValidator", workspaceSettings.arguments .vertex, "x".toList⟩,
        .read 0 (Path.ofString "/a.vert")] ∧
      (∃ r v, s.registry.record? 0 = some r ∧ r.results.run? 0 = some v ∧
        Founded s₀ es 0 0 v.version v.work.snapshot r.path) ∧
      (∀ x ∈ s.log, ∃ id r, s.registry.record? id = some r ∧ Called id r x) ∧
      Host.none.embedded = true ∧ (session Host.none (.push true) workspaceSettings false es).calls = [] := by
  intro off es s₀ s
  have h := calls_in_scope (diskHost "x".toList) (.push true) workspaceSettings false es
  have there : (s.validation? 0 0).isSome = true := by decide +kernel
  obtain ⟨v, hv⟩ := Option.isSome_iff_exists.1 there
  obtain ⟨r, hr, run⟩ := Option.bind_eq_some_iff.1 hv
  exact ⟨by decide +kernel, ⟨r, v, hr, run, h.1 0 r 0 v hr run⟩, h.2.1, rfl,
    (calls_in_scope Host.none _ _ _ es).2.2.2.2 rfl⟩

end Service

end ShaderDiagnostics
