import ShaderDiagnostics.Proofs.Service.Polling
import Mathlib.Logic.Relation

/-!
# What a poll does

A poll does one thing after another (`Service.Course`), and whatever it does to a record is one of a few
acts (`Service.Act`): it publishes or shows its diagnostics, requests a result, starts a read or takes in
its answer, runs the validator, or ends a validation. Each act says when it is done and what the host is
asked for; so what holds of records need only be checked act by act.

No act changes anything that tokens depend on, and none answers a request: the messages sent on the way
are notices (`Service.Tells`).
-/

namespace ShaderDiagnostics

/-! ### Texts and ends of validations -/

/-- A validation waits for this read: when it begins, one that covers the version of a document that is not
open, and then the same one on. -/
inductive Record.Awaits (r : Record) (v : ValidationRun) (m : Nat) : Prop where
  /-- It begins. -/
  | begins {t : ReadRun} (fresh : v.work.progress = .fresh) (closed : r.opened = false)
      (run : r.texts.run? m = some t) (covered : Record.coversText t.version r.version = true)
  /-- It has waited for the read before. -/
  | goesOn (reading : v.work.progress = .reading m)

/-- Where a validation takes its text from. -/
inductive Record.Takes (editor : Editor) (r : Record) (v : ValidationRun) (text : List Char) : Prop where
  /-- From the editor, which has the document open. -/
  | editor (fresh : v.work.progress = .fresh) (opened : r.opened = true)
      (known : editor.text? r.path = some text)
  /-- From what has been read for a version that is not older. -/
  | kept {u : UInt32} (fresh : v.work.progress = .fresh) (closed : r.opened = false)
      (slot : r.texts.completed = some (u, text)) (covered : Record.coversText u r.version = true)
  /-- From the read that it waits for. -/
  | read {m : Nat} {t : ReadRun} (awaits : r.Awaits v m) (run : r.texts.run? m = some t)
      (ended : t.outcome = some (.ok text))

/-- How a validation ends. -/
inductive Record.Ends (editor : Editor) (r : Record) (v : ValidationRun) :
    Except ServiceError (List Diagnostic) → Prop where
  /-- The document belongs to no stage, or there is no validator. -/
  | outside (means : v.work.snapshot.means? r.path = none) : Ends editor r v (.ok [])
  /-- The validator has reported. -/
  | found {text : List Char} {since : Nat} {call : Pending (List Char)} {output : List Char}
      (progress : v.work.progress = .running text since call) (answer : call.outcome = .ok output) :
      Ends editor r v (.ok (Report.read v.work.snapshot.settings.marking text output))
  /-- The validator could not be run. -/
  | failed {text : List Char} {since : Nat} {call : Pending (List Char)} {e : ServiceError}
      (progress : v.work.progress = .running text since call) (answer : call.outcome = .error e) :
      Ends editor r v (.error e)
  /-- The text could not be read. -/
  | unread {m : Nat} {t : ReadRun} {e : ServiceError} (awaits : r.Awaits v m)
      (run : r.texts.run? m = some t) (ended : t.outcome = some (.error e)) : Ends editor r v (.error e)
  /-- The document is open but not in the editor. -/
  | missing (fresh : v.work.progress = .fresh) (opened : r.opened = true)
      (absent : editor.text? r.path = none) : Ends editor r v (.error (.openDocumentMissing r.path))

/-- Whether an exchange with the host is about a record. -/
def Exchange.isFor (id : Nat) : Exchange → Bool
  | .read record _ _ _ _ => record == id
  | .run record _ _ _ => record == id

/-- An exchange is about one record. -/
theorem Exchange.isFor_of_ne {x : Exchange} {id m : Nat} (h : x.isFor m = true) (hm : id ≠ m) :
    x.isFor id = false := by
  cases x <;> simp only [isFor, beq_iff_eq] at h <;> subst h <;> simpa [isFor] using Ne.symm hm

namespace Service

variable {asks : Inquiry → Prop} {s s' t : Service} {id n : Nat} {r r' : Record} {v : ValidationRun}

/-! ### Acts -/

/-- What a poll does to a record at a time: the record as it is then, and what the host has been asked for.
The poll may go on with the given requests for diagnostics. -/
inductive Act (asks : Inquiry → Prop) (s : Service) (id : Nat) (r : Record) :
    Record → List Exchange → Prop where
  /-- Its diagnostics are published. -/
  | publishes : Act asks s id r r.advance []
  /-- The editor shows the diagnostics of a token. -/
  | shows {i : Inquiry} (asked : asks i) (own : i.record = id) :
      Act asks s id r { r with display := some i.token } []
  /-- Diagnostics are requested. -/
  | requests {i : Inquiry} (asked : asks i) (own : i.record = id) :
      Act asks s id r
        { r with results := (r.results.request Token.covers i.token ⟨i.snapshot, .fresh, []⟩).1 } []
  /-- A job waits for a validation. -/
  | joins {i : Inquiry} (asked : asks i) (own : i.record = id) (n job : Nat) :
      Act asks s id r
        { r with results := r.results.modifyWork n fun w => { w with waiters := w.waiters ++ [job] } } []
  /-- A read starts, for a validation. -/
  | reads {call : Pending (List Char)} (closed : r.opened = false)
      (bare : Cache.coveredBy Record.coversText r.texts.completedVersion r.version = false)
      (answer : call.outcome = s.host.read r.path) {n : Nat} {v : ValidationRun} {stage : Stage}
      {program : Path} (run : r.results.run? n = some v) (waiting : v.outcome = none)
      (means : v.work.snapshot.means? r.path = some (stage, program)) :
      Act asks s id r { r with texts := r.texts.start r.version call }
        [.read id n r.path r.version (s.host.read r.path)]
  /-- A read ends. -/
  | gets {m : Nat} {t : ReadRun} (run : r.texts.run? m = some t) (waiting : t.outcome = none) :
      Act asks s id r { r with texts := r.texts.finish Record.coversText m t.work.outcome } []
  /-- A validation waits for a read. -/
  | waits {n : Nat} {v : ValidationRun} {m : Nat} (run : r.results.run? n = some v)
      (waiting : v.outcome = none) (awaits : r.Awaits v m) :
      Act asks s id r
        { r with results := r.results.modifyWork n fun w => { w with progress := .reading m } } []
  /-- A validation runs the validator. -/
  | runs {n : Nat} {v : ValidationRun} {stage : Stage} {program : Path} {text : List Char} {since : Nat}
      {call : Pending (List Char)} (run : r.results.run? n = some v) (waiting : v.outcome = none)
      (means : v.work.snapshot.means? r.path = some (stage, program)) (takes : r.Takes s.editor v text)
      (answer : call.outcome = s.host.run ⟨program, v.work.snapshot.settings.arguments stage, text⟩) :
      Act asks s id r
        { r with results := r.results.modifyWork n fun w =>
            { w with progress := .running text since call } }
        [.run id n ⟨program, v.work.snapshot.settings.arguments stage, text⟩ call.outcome]
  /-- A validation ends. -/
  | ends {n : Nat} {v : ValidationRun} {outcome : Except ServiceError (List Diagnostic)}
      (run : r.results.run? n = some v) (waiting : v.outcome = none) (ends : r.Ends s.editor v outcome) :
      Act asks s id r { r with results := r.results.finish Token.covers n outcome } []

/-- A record stays what it is, and its caches grow. -/
theorem Act.grows {xs : List Exchange} (a : Act asks s id r r' xs) : r.Grows r' := by
  cases a with
  | publishes => exact r.grows_advance
  | shows => exact ⟨rfl, rfl, rfl, .refl _, .refl _⟩
  | requests => exact r.grows_results (Cache.grows_request _ _ _ _)
  | joins => exact r.grows_results (Cache.grows_modifyWork _ _ _)
  | reads => exact r.grows_texts (Cache.grows_start _ _ _)
  | gets => exact r.grows_texts (Cache.grows_finish _ _ _ _)
  | waits => exact r.grows_results (Cache.grows_modifyWork _ _ _)
  | runs => exact r.grows_results (Cache.grows_modifyWork _ _ _)
  | ends => exact r.grows_results (Cache.grows_finish _ _ _ _)

theorem Act.mono {asks' : Inquiry → Prop} (h : ∀ i, asks i → asks' i) {xs : List Exchange}
    (a : Act asks s id r r' xs) : Act asks' s id r r' xs := by
  cases a with
  | publishes => exact .publishes
  | shows asked own => exact .shows (h _ asked) own
  | requests asked own => exact .requests (h _ asked) own
  | joins asked own n job => exact .joins (h _ asked) own n job
  | reads closed bare answer run waiting means =>
    exact .reads closed bare answer run waiting means
  | gets run waiting => exact .gets run waiting
  | waits run waiting awaits => exact .waits run waiting awaits
  | runs run waiting means takes answer => exact .runs run waiting means takes answer
  | ends run waiting ends => exact .ends run waiting ends

/-- Nothing has been sent but notices. -/
def Tells (s s' : Service) : Prop :=
  ∃ notices : List Notice, s'.outbox.sent = notices.map .notice ++ s.outbox.sent

theorem Tells.of_outbox (h : s'.outbox = s.outbox) : Tells s s' := ⟨[], by rw [h]; rfl⟩

theorem Tells.trans (h : Tells s s') (h' : Tells s' t) : Tells s t := by
  obtain ⟨ns, hs⟩ := h
  obtain ⟨ns', hs'⟩ := h'
  exact ⟨ns' ++ ns, by rw [hs', hs, List.map_append, List.append_assoc]⟩

theorem Tells.tell (s : Service) (notice : Notice) : Tells s (s.tell notice) := ⟨[notice], rfl⟩

/-- One thing that a poll does: an act on a record, or something that concerns none. -/
inductive Acts (asks : Inquiry → Prop) (s s' : Service) : Prop where
  /-- Something that concerns no record. -/
  | aside (quiet : Quiet s s') (tells : Tells s s') (registry : s'.registry = s.registry)
      (log : s'.log = s.log)
  /-- An act on a record. -/
  | record {id : Nat} {r r' : Record} {xs : List Exchange} (quiet : Quiet s s') (tells : Tells s s')
      (record : s.registry.record? id = some r) (act : Act asks s id r r' xs)
      (records : ∀ m, s'.registry.record? m = if m = id then some r' else s.registry.record? m)
      (log : s'.log = xs ++ s.log)

theorem Acts.quiet (h : Acts asks s s') : Quiet s s' := by
  cases h with
  | aside quiet => exact quiet
  | record quiet => exact quiet

theorem Acts.tells (h : Acts asks s s') : Tells s s' := by
  cases h with
  | aside _ tells => exact tells
  | record _ tells => exact tells

/-- What a poll does on the whole. -/
def Course (asks : Inquiry → Prop) (s s' : Service) : Prop := Relation.ReflTransGen (Acts asks) s s'

namespace Course

theorem refl (asks : Inquiry → Prop) (s : Service) : Course asks s s := Relation.ReflTransGen.refl

theorem single (h : Acts asks s s') : Course asks s s' := Relation.ReflTransGen.single h

theorem trans (h : Course asks s s') (h' : Course asks s' t) : Course asks s t :=
  Relation.ReflTransGen.trans h h'

theorem quiet (h : Course asks s s') : Quiet s s' := by
  induction h with
  | refl => exact .refl s
  | tail _ a ih => exact ih.trans a.quiet

theorem tells (h : Course asks s s') : Tells s s' := by
  induction h with
  | refl => exact .of_outbox rfl
  | tail _ a ih => exact ih.trans a.tells

theorem mono {asks' : Inquiry → Prop} (h : ∀ i, asks i → asks' i) (c : Course asks s s') :
    Course asks' s s' := by
  refine Relation.ReflTransGen.mono (fun _ _ a => ?_) _ _ c
  cases a with
  | aside quiet tells registry log => exact .aside quiet tells registry log
  | record quiet tells record act records log =>
    exact .record quiet tells record (act.mono h) records log

end Course

/-- What the host is asked for in an act is about its record. -/
theorem Act.isFor {xs : List Exchange} (a : Act asks s id r r' xs) :
    ∀ x ∈ xs, x.isFor id = true := by
  cases a <;> simp [Exchange.isFor]

/-- What holds of a record and what the host has been asked for, and lasts over every act on the record and
over whatever else the host is asked for, lasts over all that a poll does. -/
theorem Course.record {I : List Exchange → Record → Prop} (c : Course asks s s')
    (own : ∀ {t r r' xs}, Quiet s t → t.registry.record? id = some r → Act asks t id r r' xs →
      I t.log r → I (xs ++ t.log) r')
    (others : ∀ {log r xs}, (∀ x ∈ xs, x.isFor id = false) → I log r → I (xs ++ log) r)
    (hr : s.registry.record? id = some r) (h : I s.log r) :
    ∃ r', s'.registry.record? id = some r' ∧ I s'.log r' := by
  induction c with
  | refl => exact ⟨r, hr, h⟩
  | @tail t t' c a ih =>
    obtain ⟨r₁, hr₁, h₁⟩ := ih
    cases a with
    | aside _ _ registry log => exact ⟨r₁, registry ▸ hr₁, log ▸ h₁⟩
    | @record m r₂ r₃ xs _ _ record act records log =>
      by_cases hm : id = m
      · subst hm
        obtain rfl := Option.some.inj (hr₁.symm.trans record)
        exact ⟨r₃, by rw [records, if_pos rfl], log ▸ own (Course.quiet c) hr₁ act h₁⟩
      · exact ⟨r₁, by rw [records, if_neg hm, hr₁],
          log ▸ others (fun x hx => Exchange.isFor_of_ne (act.isFor x hx) hm) h₁⟩

/-- The host is asked for nothing about a record that is not there. -/
theorem Course.unheard (c : Course asks s s') (hn : s.registry.record? id = none)
    (h : ∀ x ∈ s.log, x.isFor id = false) : ∀ x ∈ s'.log, x.isFor id = false := by
  induction c with
  | refl => exact h
  | @tail t t' c a ih =>
    cases a with
    | aside _ _ _ log => exact log ▸ ih
    | @record m r₂ r₃ xs _ _ record act records log =>
      have hm : id ≠ m := by
        rintro rfl
        obtain ⟨r, hr, -⟩ := (Course.quiet c).of_record? record
        rw [hn] at hr
        cases hr
      rw [log]
      exact fun x hx => (List.mem_append.1 hx).elim
        (fun hx => Exchange.isFor_of_ne (act.isFor x hx) hm) (ih x)

/-- The caches of a record stay sound. -/
theorem Act.sound {xs : List Exchange} (a : Act asks s id r r' xs)
    (h : r.texts.Sound Record.coversText ∧ r.results.Sound Token.covers) :
    r'.texts.Sound Record.coversText ∧ r'.results.Sound Token.covers := by
  obtain ⟨texts, results⟩ := h
  cases a with
  | publishes => exact ⟨texts, results⟩
  | shows => exact ⟨texts, results⟩
  | requests => exact ⟨texts, results.request _ _⟩
  | reads _ bare => exact ⟨texts.start _ bare, results⟩
  | gets => exact ⟨texts.finish _ _, results⟩
  | ends => exact ⟨texts, results.finish _ _⟩
  | joins => dsimp only; exact ⟨texts, results.modifyWork _ _⟩
  | waits => dsimp only; exact ⟨texts, results.modifyWork _ _⟩
  | runs => dsimp only; exact ⟨texts, results.modifyWork _ _⟩

/-! ### Single acts -/

theorem noteCall_eq (s : Service) (x : Exchange) (held : Bool) :
    ∃ closed nextGate, s.noteCall x held = { s with log := x :: s.log, closed, nextGate } := by
  unfold noteCall
  split
  · exact ⟨_, _, rfl⟩
  · exact ⟨s.closed, s.nextGate, rfl⟩

theorem record?_replace (hr : s.registry.record? id = some r) (r' : Record) (m : Nat) :
    (s.modifyRecord id fun _ => r').registry.record? m =
      if m = id then some r' else s.registry.record? m := by
  rw [record?_modifyRecord]
  split
  next hm => rw [hm, hr]; rfl
  · rfl

theorem modifyRecord_self (hr : s.registry.record? id = some r) : (s.modifyRecord id fun _ => r) = s := by
  obtain ⟨hlt, he⟩ := List.getElem?_eq_some_iff.1 hr
  have same : s.registry.records.modify id (fun _ => r) = s.registry.records := by
    rw [List.modify_eq_set_getElem?, show s.registry.records[id]? = some r from hr, ← he]
    exact List.set_getElem_self hlt
  simp only [modifyRecord, Registry.modify, same]

/-- An act is done by putting the record in place that there is then, and noting the host's answer. -/
theorem Act.acts {xs : List Exchange} (a : Act asks s id r r' xs) (hr : s.registry.record? id = some r)
    (closed : List Nat) (nextGate : Nat) {outbox : Outbox}
    (tells : ∃ notices : List Notice, outbox.sent = notices.map .notice ++ s.outbox.sent) :
    Acts asks s
      { s.modifyRecord id fun _ => r' with closed, nextGate, outbox, log := xs ++ s.log } :=
  .record
    ((replace_quiet hr a.grows).trans (beside_quiet _ _ closed nextGate outbox _ fun _ hx =>
      List.mem_append_right _ hx)) tells hr a (record?_replace hr r') rfl

/-- An act that asks the host for nothing and tells nobody. -/
theorem Act.course (a : Act asks s id r r' []) (hr : s.registry.record? id = some r) :
    Course asks s (s.modifyRecord id fun _ => r') :=
  .single (a.acts hr s.closed s.nextGate ⟨[], rfl⟩)

/-- What publishing does to the records. -/
theorem publish_cases (hr : s.registry.record? id = some r) (found : List Diagnostic) :
    s.publish id found = s ∨ ∃ outbox : Outbox, s.publish id found =
      { s.modifyRecord id fun _ => r.advance with outbox } ∧
        ∃ notices : List Notice, outbox.sent = notices.map .notice ++ s.outbox.sent := by
  unfold publish
  simp only [hr]
  split
  · split
    · exact Or.inl rfl
    · refine Or.inr ⟨_, by rw [modifyRecord_eq hr], ?_⟩
      unfold Outbox.publish
      split
      · exact ⟨[_], rfl⟩
      · exact ⟨[], rfl⟩
  · exact Or.inl rfl

/-! ### Validations -/

theorem conclude_course (asks : Inquiry → Prop) (hr : s.registry.record? id = some r)
    (hv : r.results.run? n = some v) (ho : v.outcome = none) (token : Token)
    {outcome : Except ServiceError (List Diagnostic)} (ends : r.Ends s.editor v outcome) :
    Course asks s (s.conclude id n token outcome) := by
  have finished : ∀ {s : Service} {r : Record}, s.registry.record? id = some r →
      r.results.run? n = some v → r.Ends s.editor v outcome →
      Course asks s (s.modifyRecord id fun r =>
        { r with results := r.results.finish Token.covers n outcome }) := by
    intro s r hr hv ends
    rw [modifyRecord_eq hr]
    exact (Act.ends hv ho ends).course hr
  cases outcome with
  | error e => exact finished hr hv ends
  | ok found =>
    rw [conclude_ok]
    split
    · rcases publish_cases hr found with same | ⟨outbox, new, tells⟩
      · rw [same]
        exact finished hr hv ends
      · have a : Act asks s id r r.advance [] := .publishes
        have first : Acts asks s { s.modifyRecord id fun _ => r.advance with outbox } :=
          a.acts hr s.closed s.nextGate tells
        rw [new]
        refine (Course.single first).trans (finished (r := r.advance) ?_ hv ?_)
        · exact (record?_replace hr r.advance id).trans (if_pos rfl)
        · cases ends with
          | outside means => exact .outside means
          | found progress answer => exact .found progress answer
    · exact finished hr hv ends

theorem pollRun_course (asks : Inquiry → Prop) (hr : s.registry.record? id = some r)
    (hv : r.results.run? n = some v) (ho : v.outcome = none) {text : List Char} {since : Nat}
    {call : Pending (List Char)} (hp : v.work.progress = .running text since call) :
    Course asks s (s.pollRun id n v.version v.work.snapshot text since call) := by
  unfold pollRun
  split
  · split
    next e he => exact conclude_course asks hr hv ho _ (.failed hp he)
    next output hout =>
      have measured : Acts asks s
          { s with measurements := s.measurements.add ((s.clock - since) * 1000000) } :=
        .aside (measure_quiet s _) (.of_outbox rfl) rfl rfl
      refine (Course.single measured).trans ?_
      exact conclude_course (s := { s with
        measurements := s.measurements.add ((s.clock - since) * 1000000) }) asks hr hv ho _ (.found hp hout)
  · exact .refl asks s

variable {stage : Stage} {program : Path} {text : List Char}

theorem invoke_course (asks : Inquiry → Prop) (hr : s.registry.record? id = some r)
    (hv : r.results.run? n = some v) (ho : v.outcome = none)
    (means : v.work.snapshot.means? r.path = some (stage, program)) (takes : r.Takes s.editor v text) :
    Course asks s (s.invoke id n v.version v.work.snapshot stage program text) := by
  let i : Invocation := ⟨program, v.work.snapshot.settings.arguments stage, text⟩
  let call := s.call (s.host.run i) s.host.holdsRuns
  let p : Progress := .running text s.clock call
  let r' : Record := { r with results := r.results.modifyWork n fun w => { w with progress := p } }
  obtain ⟨closed, nextGate, noted⟩ := noteCall_eq s (.run id n i (s.host.run i)) s.host.holdsRuns
  have started : (s.noteCall (.run id n i (s.host.run i)) s.host.holdsRuns).setProgress id n p =
      { s.modifyRecord id fun _ => r' with closed, nextGate, log := .run id n i (s.host.run i) :: s.log } := by
    have hr' : (s.noteCall (.run id n i (s.host.run i)) s.host.holdsRuns).registry.record? id = some r := by
      rwa [record?_noteCall]
    rw [setProgress, modifyRecord_eq hr', noted]
    rfl
  have same : (s.noteCall (.run id n i (s.host.run i)) s.host.holdsRuns).clock = s.clock := by rw [noted]
  unfold invoke
  dsimp only
  rw [same, started]
  have a : Act asks s id r r' [.run id n i call.outcome] := .runs hv ho means takes rfl
  refine (Course.single (a.acts hr closed nextGate ⟨[], rfl⟩)).trans ?_
  exact pollRun_course asks (v := { v with work := { v.work with progress := p } })
    (s := { s.modifyRecord id fun _ => r' with
      closed, nextGate, log := .run id n i (s.host.run i) :: s.log })
    ((record?_replace hr r' id).trans (if_pos rfl))
    ((Cache.run?_modifyWork _ _ _ _).trans (by rw [if_pos rfl, hv]; rfl)) ho rfl

/-- A read that is looked after goes on, has ended before or ends now. -/
theorem pollText_cases (r : Record) (m : Nat) (closed : List Nat) :
    r.pollText m closed = (r, none) ∨
    (∃ u o, r.texts.run? m = some u ∧ u.outcome = some o ∧ r.pollText m closed = (r, some o)) ∨
    ∃ u, r.texts.run? m = some u ∧ u.outcome = none ∧ r.pollText m closed =
      ({ r with texts := r.texts.finish Record.coversText m u.work.outcome }, some u.work.outcome) := by
  unfold Record.pollText
  split
  · exact Or.inl rfl
  next u hu =>
    split
    next o ho => exact Or.inr (Or.inl ⟨u, o, hu, ho, rfl⟩)
    next ho =>
      split
      · exact Or.inr (Or.inr ⟨u, hu, ho, rfl⟩)
      · exact Or.inl rfl

theorem awaits_gets {m : Nat} {u : ReadRun} (h : r.Awaits v m) (hu : r.texts.run? m = some u)
    (ho : u.outcome = none) (o : Except ServiceError (List Char)) :
    Record.Awaits { r with texts := r.texts.finish Record.coversText m o } v m := by
  cases h with
  | @begins t fresh closed run covered =>
    obtain rfl := Option.some.inj (hu.symm.trans run)
    exact .begins fresh closed ((Cache.run?_finish hu ho o m).trans (if_pos rfl)) covered
  | goesOn reading => exact .goesOn reading

/-- What a validation does with the answer of the read that it has waited for. -/
theorem afterRead_course (asks : Inquiry → Prop) (hr : s.registry.record? id = some r)
    (hv : r.results.run? n = some v) (ho : v.outcome = none)
    (means : v.work.snapshot.means? r.path = some (stage, program)) {m : Nat} (awaits : r.Awaits v m)
    {u : ReadRun} (hu : r.texts.run? m = some u) :
    (∀ text, u.outcome = some (.ok text) →
      Course asks s (s.invoke id n v.version v.work.snapshot stage program text)) ∧
    ∀ e, u.outcome = some (.error e) → Course asks s (s.conclude id n v.version (.error e)) :=
  ⟨fun _ huo => invoke_course asks hr hv ho means (.read awaits hu huo),
    fun _ huo => conclude_course asks hr hv ho _ (.unread awaits hu huo)⟩

theorem pollRead_course (asks : Inquiry → Prop) (hr : s.registry.record? id = some r)
    (hv : r.results.run? n = some v) (ho : v.outcome = none)
    (means : v.work.snapshot.means? r.path = some (stage, program)) {m : Nat} (awaits : r.Awaits v m) :
    Course asks s (s.pollRead id n v.version v.work.snapshot stage program m) := by
  unfold pollRead
  simp only [hr]
  rcases pollText_cases r m s.closed with he | ⟨u, o, hu, huo, he⟩ | ⟨u, hu, huo, he⟩
  · rw [he]
    dsimp only
    rw [modifyRecord_self hr, setProgress, modifyRecord_eq hr]
    exact (Act.waits hv ho awaits).course hr
  · obtain ⟨ok, error⟩ := afterRead_course asks hr hv ho means awaits hu
    rw [he]
    cases o with
    | ok text => dsimp only; rw [modifyRecord_self hr]; exact ok text huo
    | error e => dsimp only; rw [modifyRecord_self hr]; exact error e huo
  · let r' : Record := { r with texts := r.texts.finish Record.coversText m u.work.outcome }
    have a : Act asks s id r r' [] := .gets hu huo
    obtain ⟨ok, error⟩ := afterRead_course (s := s.modifyRecord id fun _ => r') (r := r') asks
      ((record?_replace hr r' id).trans (if_pos rfl)) hv ho means (awaits_gets awaits hu huo _)
      ((Cache.run?_finish hu huo u.work.outcome m).trans (if_pos rfl))
    have got : r.pollText m s.closed = (r', some u.work.outcome) := he
    rw [got]
    refine (a.course hr).trans ?_
    generalize u.work.outcome = o at ok error
    cases o with
    | ok text => exact ok text rfl
    | error e => exact error e rfl

theorem takeText_course (asks : Inquiry → Prop) (hr : s.registry.record? id = some r)
    (hv : r.results.run? n = some v) (ho : v.outcome = none)
    (means : v.work.snapshot.means? r.path = some (stage, program))
    (fresh : v.work.progress = .fresh) :
    Course asks s (s.takeText id n v.version v.work.snapshot stage program) := by
  unfold takeText
  simp only [hr]
  cases hop : r.opened with
  | true =>
    cases ht : s.editor.text? r.path with
    | some text =>
      have known : r.requestText s.editor (s.call (s.host.read r.path) s.host.holdsReads) =
          (r, .known text) := by simp only [Record.requestText, hop, ht, if_true]
      rw [known]
      exact invoke_course asks hr hv ho means (.editor fresh hop ht)
    | none =>
      have missing : r.requestText s.editor (s.call (s.host.read r.path) s.host.holdsReads) =
          (r, .missing) := by simp only [Record.requestText, hop, ht, if_true]
      rw [missing]
      exact conclude_course asks hr hv ho _ (.missing fresh hop ht)
  | false =>
    let call := s.call (s.host.read r.path) s.host.holdsReads
    rcases requestText_closed hop s.editor call with
      ⟨u, text, slot, covered, he⟩ | ⟨m, t, run, covered, he⟩ | ⟨bare, he⟩ <;> rw [he] <;> dsimp only
    · exact invoke_course asks hr hv ho means (.kept fresh hop slot covered)
    · rw [modifyRecord_self hr]
      exact pollRead_course asks hr hv ho means (.begins fresh hop run covered)
    · let r' : Record := { r with texts := r.texts.start r.version call }
      have a : Act asks s id r r' [.read id n r.path r.version (s.host.read r.path)] :=
        .reads hop bare rfl hv ho means
      obtain ⟨closed, nextGate, noted⟩ := noteCall_eq (s.modifyRecord id fun _ => r')
        (.read id n r.path r.version (s.host.read r.path)) s.host.holdsReads
      have new : r'.texts.run? r.texts.runs.length = some ⟨r.version, call, none⟩ :=
        (Cache.run?_start _ _ _ _).trans (if_pos rfl)
      refine (Course.single (a.acts hr closed nextGate ⟨[], rfl⟩)).trans ?_
      have h := pollRead_course (r := r') asks
        (s := { s.modifyRecord id fun _ => r' with
          closed, nextGate, log := .read id n r.path r.version (s.host.read r.path) :: s.log })
        ((record?_replace hr r' id).trans (if_pos rfl)) hv ho means
        (.begins fresh hop new (decide_eq_true (UInt32.le_refl r.version)))
      rw [if_pos rfl]
      exact noted ▸ h

/-- A validation that goes on does so by acts. -/
theorem pollValidation_course (asks : Inquiry → Prop) (s : Service) (id n : Nat) :
    Course asks s (s.pollValidation id n) := by
  unfold pollValidation
  cases hval : s.validation? id n with
  | none => exact .refl asks s
  | some v =>
    obtain ⟨r, hr, hv⟩ := Option.bind_eq_some_iff.1 hval
    dsimp only
    cases ho : v.outcome with
    | some _ => exact .refl asks s
    | none =>
      rw [if_neg (by decide), means?_eq hr]
      cases hm : v.work.snapshot.means? r.path with
      | none => exact conclude_course asks hr hv ho _ (.outside hm)
      | some m =>
        obtain ⟨stage, program⟩ := m
        cases hp : v.work.progress with
        | fresh => exact takeText_course asks hr hv ho hm hp
        | reading m => exact pollRead_course asks hr hv ho hm (.goesOn hp)
        | running text since call => exact pollRun_course asks hr hv ho hp

end Service

end ShaderDiagnostics
