import ShaderDiagnostics.Proofs.Service.Deeds
import ShaderDiagnostics.Proofs.Service.Moments

/-!
# Documents that are open

Two places know which documents the editor has open: the editor's table, which has their texts, and the
records, which say where a text comes from. They agree whatever happens (`Service.Matched`), and a record
that has been forgotten is never that of an open document. So a validation that takes the text of an open
document always finds it, even if its record has been forgotten in the meantime, and whatever a validation
fails with is what the host has answered (`Service.Blamed`). That a document is open but missing is an error
of one kind of event only: an edit of a document that is not open (`Service.open_agrees`).
-/

namespace ShaderDiagnostics

/-- The error that the host answers with, if it does. -/
def Exchange.error? : Exchange → Option ServiceError
  | .read _ _ _ _ (.error e) => some e
  | .run _ _ _ (.error e) => some e
  | _ => none

namespace Service

variable {s s' t : Service} {id : Nat} {r r' : Record} {p q : Path} {e : Event} {es : List Event}
  {asks : Inquiry → Prop} {log log' xs : List Exchange}

/-! ### The table and the records -/

/-- A record says that its document is open. -/
def OpenAs (s : Service) (id : Nat) (p : Path) : Prop :=
  ∃ r, s.registry.record? id = some r ∧ r.path = p ∧ r.opened = true

/-- The table and the records agree on which documents are open. -/
structure Matched (s : Service) : Prop where
  /-- The record of an open document is known, and the document is in the table. -/
  recorded : ∀ id p, s.OpenAs id p → s.registry.find? p = some id ∧ s.editor.has p = true
  /-- A document in the table has a record that says so. -/
  listed : ∀ p, s.editor.has p = true → ∃ id q, s.OpenAs id q ∧ q.same p = true

/-- Nothing has been opened or closed, and no open document has been forgotten. -/
structure Undisturbed (s s' : Service) : Prop where
  table : ∀ p, s'.editor.has p = s.editor.has p
  records : ∀ id p, s'.OpenAs id p ↔ s.OpenAs id p
  known : ∀ id p, s.OpenAs id p → s.registry.find? p = some id → s'.registry.find? p = some id

/-- Nothing has changed in the table and the records. -/
theorem undisturbed_of_same (editor : s'.editor = s.editor) (registry : s'.registry = s.registry) :
    Undisturbed s s' where
  table p := by rw [editor]
  records id p := by rw [OpenAs, OpenAs, registry]
  known id p _ hf := by rw [registry, hf]

theorem Quiet.undisturbed (h : Quiet s s') : Undisturbed s s' where
  table p := by rw [h.editor]
  records id p := by
    constructor
    · rintro ⟨r', hr', path, opened⟩
      obtain ⟨r, hr, g⟩ := h.of_record? hr'
      exact ⟨r, hr, g.path.symm.trans path, g.opened.symm.trans opened⟩
    · rintro ⟨r, hr, path, opened⟩
      obtain ⟨r', hr', g⟩ := h.records id r hr
      exact ⟨r', hr', g.path.trans path, g.opened.trans opened⟩
  known id p _ hf := (h.find? p).trans hf

theorem Matched.undisturbed (h : s.Matched) (u : Undisturbed s s') : s'.Matched where
  recorded id p ho := by
    have before := (u.records id p).1 ho
    obtain ⟨hf, has⟩ := h.recorded id p before
    exact ⟨u.known id p before hf, (u.table p).trans has⟩
  listed p has := by
    obtain ⟨id, q, ho, same⟩ := h.listed p ((u.table p).symm.trans has)
    exact ⟨id, q, (u.records id q).2 ho, same⟩

/-- A record that has just been made is not that of an open document. -/
theorem ensure_undisturbed (h : s.registry.Sound) (p : Path) : Undisturbed s (s.ensure p).1 where
  table _ := rfl
  records id q := by
    constructor
    · rintro ⟨r, hr, path, opened⟩
      rcases Registry.record?_ensure hr with old | ⟨-, -, -, rfl⟩
      · exact ⟨r, old, path, opened⟩
      · cases opened
    · rintro ⟨r, hr, path, opened⟩
      exact ⟨r, Registry.record?_ensure_of_record? hr p, path, opened⟩
  known id q := by
    rintro ⟨r, hr, rfl, -⟩ hf
    exact (Registry.Known.ensure ⟨hr, hf⟩ h p).2

/-- Caches do not matter to what is open. -/
theorem works_undisturbed {f : Record → Record}
    (alike : ∀ r, s.registry.record? id = some r → r.Alike (f r)) :
    Undisturbed s (s.modifyRecord id f) where
  table _ := rfl
  records n q := by
    unfold OpenAs
    rw [record?_modifyRecord]
    split
    next own =>
      subst own
      constructor
      · rintro ⟨r', hr', path, opened⟩
        obtain ⟨r, hr, rfl⟩ := Option.map_eq_some_iff.1 hr'
        exact ⟨r, hr, (alike r hr).path.symm.trans path, (alike r hr).opened.symm.trans opened⟩
      · rintro ⟨r, hr, path, opened⟩
        exact ⟨f r, by rw [hr]; rfl, (alike r hr).path.trans path, (alike r hr).opened.trans opened⟩
    · exact Iff.rfl
  known _ _ _ hf := hf

theorem openAs_touch (known : s.registry.Known id r) (editor : Editor) (opened : Bool) {n : Nat} :
    (s.touch id editor opened).OpenAs n q ↔
      if n = id then opened = true ∧ r.path = q else s.OpenAs n q := by
  unfold OpenAs
  rw [record?_touch known.1]
  split
  next own =>
    constructor
    · rintro ⟨r', hr, path, ho⟩
      obtain rfl := Option.some.inj hr
      exact ⟨ho, path⟩
    · rintro ⟨ho, path⟩
      exact ⟨r.moved opened, rfl, path, ho⟩
  · exact Iff.rfl

/-- A document that has another text is as open as before. -/
theorem touch_undisturbed (known : s.registry.Known id r) {editor : Editor}
    (table : ∀ p, editor.has p = s.editor.has p) : Undisturbed s (s.touch id editor r.opened) where
  table := table
  records n q := by
    rw [openAs_touch known]
    split
    next own =>
      subst own
      constructor
      · rintro ⟨ho, path⟩
        exact ⟨r, known.1, path, ho⟩
      · rintro ⟨r', hr', path, ho⟩
        obtain rfl := Option.some.inj (known.1.symm.trans hr')
        exact ⟨ho, path⟩
    · exact Iff.rfl
  known _ _ _ hf := hf

/-- Open documents are not forgotten together with one that is not open. -/
theorem forget_undisturbed (known : s.registry.Known id r) (closed : r.opened = false) :
    Undisturbed s (s.forget r.path) where
  table _ := rfl
  records _ _ := Iff.rfl
  known n q := by
    rintro ⟨r', hr', rfl, ho⟩ hf
    refine ((Registry.known_forget known).2 ⟨⟨hr', hf⟩, ?_⟩).2
    rintro rfl
    obtain rfl := Option.some.inj (known.1.symm.trans hr')
    rw [closed] at ho
    cases ho

/-- The editor opens or closes a document: what the table and the record say about it changes together. -/
theorem Matched.move (h : s.Matched) (known : s.registry.Known id r) {editor : Editor} {opened : Bool}
    (table : ∀ p, editor.has p = if r.path.same p then opened else s.editor.has p) :
    (s.touch id editor opened).Matched where
  recorded n q ho := by
    rw [openAs_touch known] at ho
    split at ho
    next own =>
      obtain ⟨rfl, rfl⟩ := ho
      exact ⟨own ▸ known.2, (table r.path).trans (if_pos (Path.same_refl _))⟩
    next other =>
      obtain ⟨hf, has⟩ := h.recorded n q ho
      refine ⟨hf, (table q).trans ?_⟩
      rw [if_neg, has]
      intro same
      have found : s.registry.find? r.path = s.registry.find? q := PathMap.get?_congr _ same
      rw [known.2, hf] at found
      exact other (Option.some.inj found).symm
  listed q has := by
    have listed : (if r.path.same q then opened else s.editor.has q) = true := (table q).symm.trans has
    split at listed
    next same => exact ⟨id, r.path, (openAs_touch known _ _).2 (by simp [listed]), same⟩
    next apart =>
      obtain ⟨n, q', ho, same⟩ := h.listed q listed
      refine ⟨n, q', (openAs_touch known _ _).2 ?_, same⟩
      rw [if_neg]
      · exact ho
      · rintro rfl
        obtain ⟨r', hr', rfl, -⟩ := ho
        obtain rfl := Option.some.inj (known.1.symm.trans hr')
        exact apart same

/-- The table and the records go on to agree. -/
theorem Matched.deed {lost : Path → Prop} (sound : s.registry.Sound) (d : Deed lost s s') (h : s.Matched) :
    s'.Matched := by
  cases d with
  | ensures p => exact h.undisturbed (ensure_undisturbed sound p)
  | changes known table => exact h.undisturbed (touch_undisturbed known table)
  | retracts => exact h.undisturbed (retract_quiet s _).undisturbed
  | forgets known closed => exact h.undisturbed (forget_undisturbed known closed)
  | @analyzes id =>
    rcases analyze_cases s id with same | ⟨b, same⟩
    · exact same.symm ▸ h
    · exact same.symm ▸ h.undisturbed (undisturbed_of_same rfl rfl)
  | publishes => exact h.undisturbed (publish_quiet s _ _).undisturbed
  | works alike => exact h.undisturbed (works_undisturbed alike)
  | _ => exact h.undisturbed (undisturbed_of_same rfl rfl)

/-- The table and the records agree in every session. -/
theorem session_matched (host : Host) (delivery : Delivery) (settings : Settings) (waits : Bool)
    (es : List Event) : (session host delivery settings waits es).Matched := by
  refine session_lasting ⟨fun id p ho => ?_, fun p has => ?_⟩
    (fun _ h => h.undisturbed (undisturbed_of_same rfl rfl)) (fun known table h => h.move known table)
    Matched.deed es
  · obtain ⟨r, hr, -⟩ := ho
    cases hr
  · cases has

/-- The editor has a document open if and only if its record says so. -/
theorem Matched.has_iff (h : s.Matched) (sound : s.registry.Sound) (p : Path) :
    s.editor.has p = true ↔ ∃ r, s.recordAt? p = some r ∧ r.opened = true := by
  constructor
  · intro has
    obtain ⟨id, q, ho, same⟩ := h.listed p has
    obtain ⟨hf, -⟩ := h.recorded id q ho
    obtain ⟨r, hr, rfl, opened⟩ := ho
    have found : s.registry.find? r.path = s.registry.find? p := PathMap.get?_congr _ same
    refine ⟨r, ?_, opened⟩
    rw [recordAt?, ← found, hf]
    exact hr
  · rintro ⟨r, hr, opened⟩
    obtain ⟨id, hid, hr⟩ := Option.bind_eq_some_iff.1 hr
    obtain ⟨r', known, same⟩ := sound.of_find? hid
    obtain rfl := Option.some.inj (known.1.symm.trans hr)
    rw [← PathMap.has_congr s.editor same]
    exact (h.recorded id r'.path ⟨r', hr, rfl, opened⟩).2

/-- The text of an open document is in the table. -/
theorem Matched.text? (h : s.Matched) (hr : s.registry.record? id = some r) (opened : r.opened = true) :
    ∃ text, s.editor.text? r.path = some text := by
  have has := (h.recorded id r.path ⟨r, hr, rfl, opened⟩).2
  obtain ⟨d, hd⟩ := Option.isSome_iff_exists.1 has
  exact ⟨d.text, by rw [Editor.text?, hd]; rfl⟩

theorem Matched.requestText (h : s.Matched) (hr : s.registry.record? id = some r)
    (call : Pending (List Char)) : (r.requestText s.editor call).2 ≠ .missing := by
  unfold Record.requestText
  split
  next opened =>
    obtain ⟨text, ht⟩ := h.text? hr opened
    rw [ht]
    nofun
  · split <;> nofun

/-! ### Failures -/

/-- The host has answered with an error about a record. -/
def Erred (log : List Exchange) (id : Nat) (e : ServiceError) : Prop :=
  ∃ x ∈ log, x.isFor id = true ∧ x.error? = some e

theorem Erred.mono {e : ServiceError} (h : Erred log id e) (hl : log ⊆ log') : Erred log' id e := by
  obtain ⟨x, hx, rest⟩ := h
  exact ⟨x, hl hx, rest⟩

/-- What reads and validations of a record fail with is what the host has answered. -/
structure Blamed (id : Nat) (log : List Exchange) (r : Record) : Prop where
  reads : ∀ n t, r.texts.run? n = some t → (∀ e, t.work.outcome = .error e → Erred log id e) ∧
    ∀ o, t.outcome = some o → o = t.work.outcome
  running : ∀ n v, r.results.run? n = some v → ∀ text since call,
    v.work.progress = .running text since call → ∀ e, call.outcome = .error e → Erred log id e
  failed : ∀ n v, r.results.run? n = some v → ∀ e, v.outcome = some (.error e) → Erred log id e

theorem Blamed.mono (h : Blamed id log r) (hl : log ⊆ log') : Blamed id log' r where
  reads n t ht := ⟨fun e he => ((h.reads n t ht).1 e he).mono hl, (h.reads n t ht).2⟩
  running n v hv text since call hp e he := (h.running n v hv text since call hp e he).mono hl
  failed n v hv e he := (h.failed n v hv e he).mono hl

/-- A read that a validation waits for fails with what the host has answered. -/
theorem Blamed.read (h : Blamed id log r) {m : Nat} {t : ReadRun} {e : ServiceError}
    (run : r.texts.run? m = some t) (ended : t.outcome = some (.error e)) : Erred log id e := by
  obtain ⟨answered, brought⟩ := h.reads m t run
  exact answered e (brought _ ended).symm

/-- A validation of an open document whose text is there fails only with what the host answers. -/
theorem Blamed.ends (h : Blamed id log r) {n : Nat} {v : ValidationRun} {editor : Editor} {e : ServiceError}
    (text : r.opened = true → ∃ text, editor.text? r.path = some text)
    (run : r.results.run? n = some v) (ends : r.Ends editor v (.error e)) : Erred log id e := by
  cases ends with
  | failed progress answer => exact h.running n v run _ _ _ progress e answer
  | unread _ read ended => exact h.read read ended
  | missing _ opened absent =>
    obtain ⟨text, known⟩ := text opened
    rw [absent] at known
    cases known

/-- The work of a validation has changed: if it runs the validator, then what it answers is noted. -/
theorem Blamed.modifyWork (h : Blamed id log r) {n : Nat} {f : Validation → Validation}
    (changed : ∀ v, r.results.run? n = some v → ∀ text since call,
      (f v.work).progress = .running text since call → ∀ e, call.outcome = .error e → Erred log id e) :
    Blamed id log { r with results := r.results.modifyWork n f } where
  reads := h.reads
  running m v hv := by
    rcases Cache.run?_modifyWork_cases hv with ⟨v₀, rfl, hv₀, rfl⟩ | ⟨-, hv⟩
    · exact changed v₀ hv₀
    · exact h.running m v hv
  failed m v hv := by
    rcases Cache.run?_modifyWork_cases hv with ⟨v₀, rfl, hv₀, rfl⟩ | ⟨-, hv⟩
    · exact h.failed _ v₀ hv₀
    · exact h.failed m v hv

/-- What fails after an act is what the host has answered, if the texts of open documents are there. -/
theorem Act.blamed (a : Act asks s id r r' xs)
    (text : r.opened = true → ∃ text, s.editor.text? r.path = some text) (h : Blamed id log r) :
    Blamed id (xs ++ log) r' := by
  have later : Blamed id (xs ++ log) r := h.mono (List.subset_append_right xs log)
  cases a with
  | publishes => exact ⟨later.reads, later.running, later.failed⟩
  | shows => exact ⟨later.reads, later.running, later.failed⟩
  | @requests i =>
    refine ⟨later.reads, fun n v hv text since call hp => ?_, fun n v hv e he => ?_⟩
    · rcases Cache.run?_request_cases hv with rfl | old
      · cases hp
      · exact later.running n v old text since call hp
    · rcases Cache.run?_request_cases hv with rfl | old
      · cases he
      · exact later.failed n v old e he
  | joins _ _ n job => exact later.modifyWork fun v hv => later.running n v hv
  | @reads call closed bare answer =>
    refine ⟨fun n u hu => ?_, later.running, later.failed⟩
    rcases Cache.run?_start_cases hu with ⟨-, rfl⟩ | ⟨-, hu⟩
    · refine ⟨fun e he => ⟨_, List.mem_append_left _ (List.mem_singleton_self _), ?_, ?_⟩, fun o ho => by cases ho⟩
      · simp [Exchange.isFor]
      · rw [← answer, show call.outcome = .error e from he]
        rfl
    · exact later.reads n u hu
  | @gets m u read waiting =>
    refine ⟨fun n w hw => ?_, later.running, later.failed⟩
    rcases Cache.run?_finish_cases read waiting hw with ⟨-, rfl⟩ | ⟨-, hw⟩
    · exact ⟨(later.reads m u read).1, fun o ho => (Option.some.inj ho).symm⟩
    · exact later.reads n w hw
  | waits => exact later.modifyWork fun v hv text since call hp => by cases hp
  | @runs n v stage program text since call run waiting means takes answer =>
    refine later.modifyWork fun v' hv text' since' call' hc e he => ?_
    cases hc
    refine ⟨_, List.mem_append_left _ (List.mem_singleton_self _), ?_, ?_⟩
    · simp [Exchange.isFor]
    · simp only [Exchange.error?, he]
  | @ends n v outcome run waiting ends =>
    refine ⟨later.reads, fun m w hw => ?_, fun m w hw e he => ?_⟩
    · rcases Cache.run?_finish_cases run waiting hw with ⟨-, rfl⟩ | ⟨-, hw⟩
      · exact later.running n v run
      · exact later.running m w hw
    · rcases Cache.run?_finish_cases run waiting hw with ⟨-, rfl⟩ | ⟨-, hw⟩
      · obtain rfl := Option.some.inj he
        exact later.ends text run ends
      · exact later.failed m w hw e he

/-- What reads and validations fail with in a session is what the host has answered. -/
theorem session_blamed {host : Host} {delivery : Delivery} {settings : Settings} {waits : Bool}
    (hr : (session host delivery settings waits es).registry.record? id = some r) :
    Blamed id (session host delivery settings waits es).log r := by
  refine session_record (I := fun _ log r => Blamed id log r) (fun texts results _ => ?_)
    (fun _ texts results h => ?_) (fun _ h => h) (fun _ q there a h => a.blamed (fun opened => ?_) h)
    (fun _ h => h.mono (List.subset_append_right _ _)) hr
  · refine ⟨fun n t ht => ?_, fun n v hv => ?_, fun n v hv => ?_⟩
    · rw [texts] at ht
      cases ht
    all_goals
      rw [results] at hv
      cases hv
  · obtain ⟨reads, running, failed⟩ := h
    rw [← texts] at reads
    rw [← results] at running failed
    exact ⟨reads, running, failed⟩
  · exact ((session_matched _ _ _ _ _).undisturbed q.undisturbed).text? there opened

/-! ### Errors of events -/

/-- The error of something that may fail, if it does. -/
def fault? : Except ServiceError Service → Option ServiceError
  | .ok _ => none
  | .error e => some e

/-- The error with which an event is turned down, if it is. -/
def refused? (s : Service) : Event → Option ServiceError
  | .opened uri text version => fault? (s.didOpen uri text version)
  | .edited uri edits version => fault? (s.didChange uri edits version)
  | .closed uri => fault? (s.didClose uri)
  | .pulled id p => fault? (s.pullDocument id p)
  | _ => none

/-- A URI without a path is another error than a document that is missing. -/
theorem missing_of_pathOf {uri : Uri} {f : Path → Except ServiceError Service}
    (h : fault? (pathOf uri >>= f) = some (.openDocumentMissing p)) :
    ∃ q, uri.path? = some q ∧ fault? (f q) = some (.openDocumentMissing p) := by
  unfold pathOf at h
  split at h
  next q hq => exact ⟨q, hq, h⟩
  · cases h

theorem fault?_didChange {uri : Uri} {edits : List Document.Edit} {version : Int} :
    fault? (s.didChange uri edits version) = some (.openDocumentMissing p) ↔
      uri.path? = some p ∧ s.editor.has p = false := by
  constructor
  · intro h
    obtain ⟨q, hq, h⟩ := missing_of_pathOf h
    split at h
    next absent =>
      cases h
      exact ⟨hq, Editor.changed?_eq_none.1 absent⟩
    · cases h
  · rintro ⟨hp, absent⟩
    have none : s.editor.changed? p edits version = none := Editor.changed?_eq_none.2 absent
    have name : pathOf uri = .ok p := by simp only [pathOf, hp]
    simp only [didChange, name, bind, Except.bind, none]
    rfl

/-- Only an edit of a document that is not open is turned down because the document is missing. -/
theorem refused?_missing (s : Service) (e : Event) (p : Path) :
    s.refused? e = some (.openDocumentMissing p) ↔ ∃ uri edits version,
      e = .edited uri edits version ∧ uri.path? = some p ∧ s.editor.has p = false := by
  constructor
  · intro h
    cases e with
    | edited uri edits version => exact ⟨uri, edits, version, rfl, fault?_didChange.1 h⟩
    | opened uri text version =>
      obtain ⟨q, -, h⟩ := missing_of_pathOf h
      cases h
    | closed uri =>
      obtain ⟨q, -, h⟩ := missing_of_pathOf h
      cases h
    | pulled request pull =>
      obtain ⟨q, -, h⟩ := missing_of_pathOf h
      dsimp only at h
      split at h
      · cases h
      · split at h
        · cases h
        · split at h <;> cases h
    | _ => cases h
  · rintro ⟨uri, edits, version, rfl, h⟩
    exact fault?_didChange.2 h

/-- **Open documents.** At every moment of every session the editor's table has a document for a path if and
only if the record of the path says that the document is open, and records that have been forgotten never
say so. So the text of an open document is always there for a validation that asks for it, whichever record
it asks; what validations fail with is what the host has answered; and the only event that is ever turned
down because a document is missing is an edit of one that is not open. -/
theorem open_agrees (host : Host) (delivery : Delivery) (settings : Settings) (waits : Bool)
    (es : List Event) :
    let s := session host delivery settings waits es
    (∀ p, s.editor.has p = true ↔ ∃ r, s.recordAt? p = some r ∧ r.opened = true) ∧
      (∀ id r, s.registry.record? id = some r → s.registry.find? r.path ≠ some id → r.opened = false) ∧
      (∀ id r call, s.registry.record? id = some r → (r.requestText s.editor call).2 ≠ .missing) ∧
      (∀ id r n v e, s.registry.record? id = some r → r.results.run? n = some v →
        v.outcome = some (.error e) → Erred s.log id e) ∧
      ∀ e p, s.refused? e = some (.openDocumentMissing p) ↔ ∃ uri edits version,
        e = .edited uri edits version ∧ uri.path? = some p ∧
          ∀ r, s.recordAt? p = some r → r.opened = false := by
  intro s
  have intact : s.Intact := session_intact host delivery settings waits es
  have matched : s.Matched := session_matched host delivery settings waits es
  refine ⟨matched.has_iff intact.registry, fun id r hr forgotten => ?_,
    fun id r call hr => matched.requestText hr call,
    fun id r n v e hr run failed => (session_blamed hr).failed n v run e failed, fun e p => ?_⟩
  · by_contra opened
    exact forgotten (matched.recorded id r.path ⟨r, hr, rfl, by simpa using opened⟩).1
  · have closed : s.editor.has p = false ↔ ∀ r, s.recordAt? p = some r → r.opened = false := by
      rw [← Bool.not_eq_true, matched.has_iff intact.registry]
      simp
    simp only [refused?_missing, closed]

end Service

end ShaderDiagnostics
