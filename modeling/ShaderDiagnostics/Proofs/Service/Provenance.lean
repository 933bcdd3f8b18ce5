import ShaderDiagnostics.Proofs.Service.Moments

/-!
# Where results come from

What a record remembers comes from the session that it is part of (`Service.Traced`). A text that has been
read was on disk at a moment when the document was not open, and the version that it is kept for is that
of the moment. A validation goes by the snapshot of the moment that its token is from, and takes its text
at a moment when the document's version was no older. What a validation has found is what the validator
reports on that text.
-/

namespace ShaderDiagnostics.Service

variable {asks : Inquiry → Prop} {s s₀ t : Service} {es es' : List Event} {id : Nat} {p : Path}
  {r r' : Record} {texts texts' : Texts} {log log' xs : List Exchange} {v : ValidationRun}
  {c : UInt32} {text : List Char} {sn : Snapshot} {found : List Diagnostic}

/-! ### Texts and findings -/

/-- A text was that of a record's document at a moment when the version was no older than the given one:
the editor had it, or it was on disk, and has been read from there, while the document was not open. -/
inductive Supplied (s₀ : Service) (es : List Event) (log : List Exchange) (id : Nat) (p : Path)
    (c : UInt32) (text : List Char) : Prop where
  /-- The editor had it. -/
  | editor {m : Service} {r : Record} (been : Been s₀ es m) (there : m.registry.record? id = some r)
      (opened : r.opened = true) (since : c ≤ r.version) (had : m.editor.text? p = some text)
  /-- It was on disk. -/
  | disk {m : Service} {r : Record} (been : Been s₀ es m) (there : m.registry.record? id = some r)
      (closed : r.opened = false) (since : c ≤ r.version) (had : m.host.read p = .ok text)
      (read : HasRead log id p r.version (.ok text))

/-- Diagnostics follow from a snapshot: there are none if the path belongs to no stage or there is no
validator; otherwise they are what the validator, run for that stage, reports on a text that the document
had when its version was no older than the given one. -/
def Derived (s₀ : Service) (es : List Event) (log : List Exchange) (id : Nat) (p : Path) (c : UInt32)
    (sn : Snapshot) (found : List Diagnostic) : Prop :=
  match sn.means? p with
  | none => found = []
  | some (stage, program) => ∃ text output, Supplied s₀ es log id p c text ∧
      HasRun log id ⟨program, sn.settings.arguments stage, text⟩ (.ok output) ∧
      found = Report.read sn.settings.marking text output

theorem Supplied.mono (h : Supplied s₀ es log id p c text) (hp : es <+: es') (hl : log ⊆ log') :
    Supplied s₀ es' log' id p c text := by
  cases h with
  | editor been there opened since had => exact .editor (been.mono hp) there opened since had
  | disk been there closed since had read => exact .disk (been.mono hp) there closed since had (read.mono fun _ hx => hl hx)

/-- A text for a version will do for an older one. -/
theorem Supplied.older (h : Supplied s₀ es log id p c text) {c' : UInt32} (hc : c' ≤ c) :
    Supplied s₀ es log id p c' text := by
  cases h with
  | editor been there opened since had =>
    exact .editor been there opened (UInt32.le_trans hc since) had
  | disk been there closed since had read =>
    exact .disk been there closed (UInt32.le_trans hc since) had read

/-- Diagnostics follow from a snapshot only through the texts. -/
theorem Derived.imp (h : Derived s₀ es log id p c sn found) {c' : UInt32}
    (texts : ∀ text, Supplied s₀ es log id p c text → Supplied s₀ es' log' id p c' text)
    (hl : log ⊆ log') : Derived s₀ es' log' id p c' sn found := by
  unfold Derived at h ⊢
  split at h
  · exact h
  · obtain ⟨text, output, supplied, run, hf⟩ := h
    exact ⟨text, output, texts text supplied, run.mono fun _ hx => hl hx, hf⟩

theorem Derived.mono (h : Derived s₀ es log id p c sn found) (hp : es <+: es') (hl : log ⊆ log') :
    Derived s₀ es' log' id p c sn found :=
  h.imp (fun _ hs => hs.mono hp hl) hl

theorem Derived.older (h : Derived s₀ es log id p c sn found) {c' : UInt32} (hc : c' ≤ c) :
    Derived s₀ es log id p c' sn found :=
  h.imp (fun _ hs => hs.older hc) fun _ hx => hx

/-! ### Reads and validations -/

/-- A read has been started at a moment when the document was not open, for the version of that moment, and
it brings what was on disk then. -/
structure ReadFrom (s₀ : Service) (es : List Event) (log : List Exchange) (id : Nat) (p : Path)
    (t : ReadRun) : Prop where
  begun : ∃ m r, Been s₀ es m ∧ m.registry.record? id = some r ∧ r.opened = false ∧
    r.version = t.version ∧ m.host.read p = t.work.outcome
  noted : HasRead log id p t.version t.work.outcome
  ended : ∀ o, t.outcome = some o → o = t.work.outcome

/-- A validation goes by the snapshot of the moment that its token is from; the read that it waits for is
for no older version; it has run the validator on a text of the document, and what it has found follows
from that. -/
structure ValidatedFrom (s₀ : Service) (es : List Event) (log : List Exchange) (id : Nat) (p : Path)
    (texts : Texts) (v : ValidationRun) : Prop where
  taken : Taken s₀ es id v.version v.work.snapshot
  reading : ∀ n, v.work.progress = .reading n →
    ∃ t, texts.run? n = some t ∧ v.version.content ≤ t.version
  running : ∀ text since call, v.work.progress = .running text since call → ∃ stage program,
    v.work.snapshot.means? p = some (stage, program) ∧
      Supplied s₀ es log id p v.version.content text ∧
      HasRun log id ⟨program, v.work.snapshot.settings.arguments stage, text⟩ call.outcome
  ended : ∀ found, v.outcome = some (.ok found) →
    Derived s₀ es log id p v.version.content v.work.snapshot found

theorem ReadFrom.mono {t : ReadRun} (h : ReadFrom s₀ es log id p t) (hp : es <+: es') (hl : log ⊆ log') :
    ReadFrom s₀ es' log' id p t := by
  obtain ⟨m, r, been, rest⟩ := h.begun
  exact ⟨⟨m, r, been.mono hp, rest⟩, h.noted.mono fun _ hx => hl hx, h.ended⟩

/-- What a read has brought is a text of the document. -/
theorem ReadFrom.supplied {t : ReadRun} (h : ReadFrom s₀ es log id p t)
    (ended : t.outcome = some (.ok text)) (hc : c ≤ t.version) : Supplied s₀ es log id p c text := by
  obtain ⟨m, r, been, there, closed, version, had⟩ := h.begun
  have brought := h.ended _ ended
  have noted := h.noted
  rw [← brought, ← version] at noted
  exact .disk been there closed (version ▸ hc) (had.trans brought.symm) noted

theorem ValidatedFrom.mono (h : ValidatedFrom s₀ es log id p texts v) (hp : es <+: es')
    (hl : log ⊆ log') (ht : texts.Grows texts') : ValidatedFrom s₀ es' log' id p texts' v where
  taken := h.taken.mono hp
  reading n hn := by
    obtain ⟨t, run, hc⟩ := h.reading n hn
    obtain ⟨t', run', version, -⟩ := ht n t run
    exact ⟨t', run', version ▸ hc⟩
  running text since call hr := by
    obtain ⟨stage, program, means, supplied, run⟩ := h.running text since call hr
    exact ⟨stage, program, means, supplied.mono hp hl, run.mono fun _ hx => hl hx⟩
  ended found ho := (h.ended found ho).mono hp hl

/-! ### Records -/

/-- What a record remembers comes from the session. -/
structure Traced (s₀ : Service) (es : List Event) (id : Nat) (log : List Exchange) (r : Record) :
    Prop where
  sound : r.texts.Sound Record.coversText
  reads : ∀ n t, r.texts.run? n = some t → ReadFrom s₀ es log id r.path t
  validations : ∀ n v, r.results.run? n = some v → ValidatedFrom s₀ es log id r.path r.texts v

theorem traced_new (texts : r.texts = Cache.empty) (results : r.results = Cache.empty) :
    Traced s₀ es id log r := by
  refine ⟨?_, fun n t ht => ?_, fun n v hv => ?_⟩
  · rw [texts]
    exact Cache.sound_empty
  · rw [texts] at ht
    cases ht
  · rw [results] at hv
    cases hv

namespace Traced

theorem of_same (h : Traced s₀ es id log r) (path : r'.path = r.path) (texts : r'.texts = r.texts)
    (results : r'.results = r.results) : Traced s₀ es id log r' := by
  obtain ⟨sound, reads, validations⟩ := h
  rw [← texts] at sound
  rw [← texts, ← path] at reads
  rw [← texts, ← path, ← results] at validations
  exact ⟨sound, reads, validations⟩

theorem mono (h : Traced s₀ es id log r) (hp : es <+: es') (hl : log ⊆ log') :
    Traced s₀ es' id log' r where
  sound := h.sound
  reads n t ht := (h.reads n t ht).mono hp hl
  validations n v hv := (h.validations n v hv).mono hp hl (.refl _)

/-- The reads have changed, and validations find theirs. -/
theorem withTexts (h : Traced s₀ es id log r) (grows : r.texts.Grows texts)
    (sound : texts.Sound Record.coversText)
    (reads : ∀ n t, texts.run? n = some t → ReadFrom s₀ es log id r.path t) :
    Traced s₀ es id log { r with texts } :=
  ⟨sound, reads, fun n v hv => (h.validations n v hv).mono List.prefix_rfl (fun _ hx => hx) grows⟩

/-- Validations have changed. -/
theorem withResults (h : Traced s₀ es id log r) {results : Results}
    (validations : ∀ n v, results.run? n = some v → ValidatedFrom s₀ es log id r.path r.texts v) :
    Traced s₀ es id log { r with results } :=
  ⟨h.sound, h.reads, validations⟩

/-- The work of a validation has changed. -/
theorem modifyWork (h : Traced s₀ es id log r) {n : Nat} {f : Validation → Validation}
    (changed : ∀ v, r.results.run? n = some v →
      ValidatedFrom s₀ es log id r.path r.texts { v with work := f v.work }) :
    Traced s₀ es id log { r with results := r.results.modifyWork n f } := by
  refine h.withResults fun m v hv => ?_
  rcases Cache.run?_modifyWork_cases hv with ⟨v₀, rfl, hv₀, rfl⟩ | ⟨-, hv⟩
  · exact changed v₀ hv₀
  · exact h.validations m v hv

end Traced

/-! ### Acts -/

section

variable (h : Traced s₀ es id log r) {n m : Nat} (run : r.results.run? n = some v)
include h run

/-- The read that a validation waits for is for no older version than that of the validation. -/
theorem Traced.awaits (old : v.version.content ≤ r.version) (awaits : r.Awaits v m) :
    ∃ t, r.texts.run? m = some t ∧ v.version.content ≤ t.version := by
  cases awaits with
  | begins _ _ read covered => exact ⟨_, read, UInt32.le_trans old (of_decide_eq_true covered)⟩
  | goesOn reading => exact (h.validations n v run).reading m reading

/-- A validation takes a text that the document had when its version was no older than that of the
validation. -/
theorem Traced.takes (old : v.version.content ≤ r.version) {now : Service} {r₀ : Record}
    (been : Been s₀ es now) (there : now.registry.record? id = some r₀) (same : r₀.Grows r)
    (takes : r.Takes now.editor v text) : Supplied s₀ es log id r.path v.version.content text := by
  cases takes with
  | editor _ opened known =>
    exact .editor been there (same.opened ▸ opened) (same.version ▸ old) known
  | kept _ _ slot covered =>
    obtain ⟨k, t, read, rfl, ended⟩ := h.sound.completed _ _ slot
    exact (h.reads k t read).supplied ended (UInt32.le_trans old (of_decide_eq_true covered))
  | read awaits read ended =>
    obtain ⟨t', read', hc⟩ := h.awaits run old awaits
    obtain rfl := Option.some.inj (read.symm.trans read')
    exact (h.reads _ _ read).supplied ended hc

/-- What a validation has found follows from its snapshot. -/
theorem Traced.ends {editor : Editor} (ends : r.Ends editor v (.ok found)) :
    Derived s₀ es log id r.path v.version.content v.work.snapshot found := by
  unfold Derived
  cases ends with
  | outside means => rw [means]
  | found progress answer =>
    obtain ⟨stage, program, means, supplied, call⟩ := (h.validations n v run).running _ _ _ progress
    rw [means]
    exact ⟨_, _, supplied, answer ▸ call, rfl⟩

end

/-- What a record remembers comes from the session after an act as before. -/
theorem Act.traced (a : Act asks t id r r' xs) (q : Quiet s t) (been : Been s₀ es s)
    (hr : t.registry.record? id = some r)
    (known : ∀ i, asks i → i.record = id → Taken s₀ es id i.token i.snapshot)
    (old : ∀ token sn, Taken s₀ es id token sn → token.content ≤ r.version)
    (h : Traced s₀ es id log r) : Traced s₀ es id (xs ++ log) r' := by
  obtain ⟨r₀, there, same⟩ := q.of_record? hr
  have later : Traced s₀ es id (xs ++ log) r :=
    h.mono List.prefix_rfl (List.subset_append_right xs log)
  cases a with
  | publishes => exact h.of_same rfl rfl rfl
  | shows => exact h.of_same rfl rfl rfl
  | @requests i asked own =>
    refine h.withResults fun n v hv => ?_
    rcases Cache.run?_request_cases hv with rfl | hv
    · exact ⟨known i asked own, nofun, nofun, nofun⟩
    · exact h.validations n v hv
  | joins _ _ n job =>
    refine h.modifyWork fun v hv => ?_
    obtain ⟨taken, reading, running, ended⟩ := h.validations n v hv
    exact ⟨taken, reading, running, ended⟩
  | @reads call closed bare answer n' =>
    refine later.withTexts (Cache.grows_start _ _ _) (h.sound.start _ bare) fun n u hu => ?_
    rcases Cache.run?_start_cases hu with ⟨-, rfl⟩ | ⟨-, hu⟩
    · have begun : s.host.read r.path = call.outcome := by rw [answer, q.host]
      exact ⟨⟨s, r₀, been, there, same.opened ▸ closed, same.version.symm, begun⟩,
        ⟨n', List.mem_append_left _ (by rw [answer]; exact List.mem_singleton_self _)⟩, nofun⟩
    · exact later.reads n u hu
  | @gets m u read waiting =>
    refine h.withTexts (Cache.grows_finish _ _ _ _) (h.sound.finish m _) fun n w hw => ?_
    rcases Cache.run?_finish_cases read waiting hw with ⟨-, rfl⟩ | ⟨-, hw⟩
    · have origin := h.reads m u read
      exact ⟨origin.begun, origin.noted, fun o ho => (Option.some.inj ho).symm⟩
    · exact h.reads n w hw
  | @waits n v m run waiting awaits =>
    refine h.modifyWork fun v' hv => ?_
    obtain rfl := Option.some.inj (run.symm.trans hv)
    have origin := h.validations n v run
    have waited := h.awaits run (old _ _ origin.taken) awaits
    refine ⟨origin.taken, fun k hk => ?_, nofun, fun found ho => nomatch waiting.symm.trans ho⟩
    cases hk
    exact waited
  | @runs n v stage program text since call run waiting means takes answer =>
    refine later.modifyWork fun v' hv => ?_
    obtain rfl := Option.some.inj (run.symm.trans hv)
    have origin := later.validations n v run
    have supplied := later.takes run (old _ _ origin.taken) been there same (q.editor ▸ takes)
    refine ⟨origin.taken, nofun, fun text' since' call' hc => ?_,
      fun found ho => nomatch waiting.symm.trans ho⟩
    cases hc
    exact ⟨stage, program, means, supplied, n, List.mem_append_left _ (List.mem_singleton_self _)⟩
  | @ends n v outcome run waiting ends =>
    refine h.withResults fun m w hw => ?_
    rcases Cache.run?_finish_cases run waiting hw with ⟨-, rfl⟩ | ⟨-, hw⟩
    · have origin := h.validations n v run
      refine ⟨origin.taken, origin.reading, origin.running, fun found ho => ?_⟩
      obtain rfl := Option.some.inj ho
      have derived := h.ends run ends
      exact derived
    · exact h.validations m w hw

/-! ### Sessions -/

/-- What records remember comes from the session, unless the version of their document gets around. -/
theorem session_traced {host : Host} {delivery : Delivery} {settings : Settings} {waits : Bool}
    (few : contentRises host delivery settings waits id es + 1 < UInt32.size)
    (hr : (session host delivery settings waits es).registry.record? id = some r) :
    Traced (start host delivery settings waits) es id (session host delivery settings waits es).log r := by
  have old : ∀ {before t r}, before <+: es → Quiet (session host delivery settings waits before) t →
      t.registry.record? id = some r → ∀ token sn,
      Taken (start host delivery settings waits) before id token sn → token.content ≤ r.version := by
    rintro before t r hb q hr token sn ⟨m, ⟨earlier, hp, rfl⟩, rfl, -⟩
    have now : r.version = (session host delivery settings waits before).registry.version id :=
      (Registry.version_of_record? hr).symm.trans (q.version id)
    rw [now]
    exact version_le (Nat.lt_of_le_of_lt (Nat.add_le_add_right (rises_mono _ hb) 1) few) hp
  refine session_record
    (I := fun before log r => Traced (start host delivery settings waits) before id log r)
    (fun texts results _ => traced_new texts results)
    (fun path texts results h => h.of_same path texts results)
    (fun _ h => h.mono (List.prefix_append _ _) fun _ hx => hx)
    (fun hb q hr a h => a.traced q (been_now _ _) hr (fun i asked own => ?_) (old hb q hr) h)
    (fun _ h => h.mono List.prefix_rfl (List.subset_append_right _ _)) hr
  exact own ▸ session_taken host delivery settings waits _ asked

end ShaderDiagnostics.Service
