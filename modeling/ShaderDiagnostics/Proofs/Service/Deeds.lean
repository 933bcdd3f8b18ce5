import ShaderDiagnostics.Proofs.Service.Departure

/-!
# What events do, deed by deed

An event does one thing after another (`Service.Deeds`), and there are few kinds of things that it may do
(`Service.Deed`). In a poll caches change, the host is called, and diagnostics are published. In any other
event a path gets a record, a document changes, its diagnostics are taken back or asked for, or it is
forgotten; this is done of known records only, and only a document that is not open is forgotten, if the
event may have it forgotten (`Event.Loses`). What the editor opens and closes comes before all that, and so
do new settings (`Service.onset`). So what holds of every state of the service need only be checked of these
and deed by deed (`Service.session_lasting`).

A deed says exactly what it does to the records, the editor and the messages. What a poll does to the caches
is told act by act (`Service.Act`).
-/

namespace ShaderDiagnostics

/-! ### Which documents the editor has -/

namespace PathMap

variable {α : Type}

theorem has_insert (m : PathMap α) (p q : Path) (a : α) :
    (m.insert p a).has q = if p.same q then true else m.has q := by
  unfold has
  rw [get?_insert]
  split <;> rfl

theorem has_erase (m : PathMap α) (p q : Path) :
    (m.erase p).has q = if p.same q then false else m.has q := by
  unfold has
  rw [get?_erase]
  split <;> rfl

theorem has_congr (m : PathMap α) {p q : Path} (h : p.same q = true) : m.has p = m.has q := by
  unfold has
  rw [get?_congr m h]

end PathMap

namespace Editor

variable {e e' : Editor} {p : Path} {edits : List Document.Edit} {version : Int}

theorem has_opened (e : Editor) (p : Path) (text : List Char) (version : Int) (q : Path) :
    (e.opened p text version).has q = if p.same q then true else e.has q :=
  PathMap.has_insert e p q _

theorem has_closed (e : Editor) (p q : Path) : (e.closed p).has q = if p.same q then false else e.has q :=
  PathMap.has_erase e p q

/-- Only a document that is open is edited, and it stays so. -/
theorem has_changed (h : e.changed? p edits version = some e') :
    e.has p = true ∧ ∀ q, e'.has q = e.has q := by
  obtain ⟨d, hd, rfl⟩ := Option.map_eq_some_iff.1 h
  have here : e.has p = true := by rw [PathMap.has, hd]; rfl
  refine ⟨here, fun q => ?_⟩
  rw [PathMap.has_insert]
  split
  next same => rw [← PathMap.has_congr e same, here]
  · rfl

theorem changed?_eq_none : e.changed? p edits version = none ↔ e.has p = false := by
  unfold changed? PathMap.has
  rw [Option.map_eq_none_iff]
  cases e.get? p <;> simp

end Editor

/-- The paths that an event may have forgotten: those of deleted files and those that new settings map to no
stage. -/
def Event.Loses : Event → Path → Prop
  | .file e, p => e.kind = 3 ∧ e.uri.Names p
  | .configured settings, p => settings.extensions.stageOfPath p = none
  | _, _ => False

/-- The editor opens or closes the document at a path. -/
def Event.Turns : Event → Path → Prop
  | .opened uri _ _, p => uri.Names p
  | .closed uri, p => uri.Names p
  | _, _ => False

/-- The editor opens or closes a document. -/
def Event.isTurn : Event → Bool
  | .opened .. => true
  | .closed _ => true
  | _ => false

/-- A record that is the same document in the same state, whatever its caches. -/
structure Record.Alike (r r' : Record) : Prop where
  path : r'.path = r.path
  version : r'.version = r.version
  opened : r'.opened = r.opened
  sequence : r'.sequence = r.sequence

namespace Service

variable {lost : Path → Prop} {s s' t : Service} {id : Nat} {r : Record} {p : Path}

/-! ### Deeds -/

/-- An analysis is asked for by a new job, if at all. -/
theorem analyze_cases (s : Service) (id : Nat) : s.analyze id = s ∨ ∃ b, s.analyze id = s.spawn b := by
  unfold analyze
  split
  · exact Or.inl rfl
  · split
    · exact Or.inr ⟨_, rfl⟩
    · exact Or.inl rfl

/-- One thing that an event does. The paths that may be forgotten are given. -/
inductive Deed (lost : Path → Prop) (s : Service) : Service → Prop where
  /-- A path gets a record, unless it has one. -/
  | ensures (p : Path) : Deed lost s (s.ensure p).1
  /-- A document has another text, in the editor or on disk. -/
  | changes {id : Nat} {r : Record} {editor : Editor} (known : s.registry.Known id r)
      (table : ∀ p, editor.has p = s.editor.has p) : Deed lost s (s.touch id editor r.opened)
  /-- The diagnostics of a document are taken back. -/
  | retracts {id : Nat} {r : Record} (known : s.registry.Known id r) : Deed lost s (s.retract id)
  /-- A document that is not open is forgotten. -/
  | forgets {id : Nat} {r : Record} (known : s.registry.Known id r) (closed : r.opened = false)
      (may : lost r.path) : Deed lost s (s.forget r.path)
  /-- A document is analyzed, if there should be diagnostics for it. -/
  | analyzes {id : Nat} {r : Record} (known : s.registry.Known id r) : Deed lost s (s.analyze id)
  /-- A job is to answer a request for the diagnostics of documents. -/
  | asks {b : Job} (known : ∀ i ∈ b.inquiries, ∃ r, s.registry.Known i.record r) : Deed lost s (s.spawn b)
  /-- The diagnostics that a validation has found are published. -/
  | publishes (id : Nat) (found : List Diagnostic) : Deed lost s (s.publish id found)
  /-- The caches of a record change, or what is shown of it. -/
  | works {id : Nat} {f : Record → Record}
      (alike : ∀ r, s.registry.record? id = some r → r.Alike (f r)) : Deed lost s (s.modifyRecord id f)
  /-- The host is called, or its time is taken. -/
  | notes (log : List Exchange) (closed : List Nat) (nextGate : Nat) (measurements : Measurements) :
      Deed lost s { s with log, closed, nextGate, measurements }
  /-- The editor is told about an error. -/
  | reports (name : String) (e : ServiceError) : Deed lost s (s.report name e)
  /-- Jobs go on or end. -/
  | advances (jobs : List (Nat × Job)) : Deed lost s { s with jobs }
  /-- A request is answered. -/
  | replies (request : RequestId) (r : Reply) : Deed lost s (s.reply request r)
  /-- A request cannot be answered. -/
  | refuses (request : RequestId) (code : Int) (message : String) :
      Deed lost s (s.refuse request code message)
  /-- The editor is to ask for diagnostics again, if it can be asked to. -/
  | refreshes : Deed lost s s.refresh
  /-- Time passes, gates open, or the host answers otherwise. -/
  | waits {clock : Nat} (later : s.clock ≤ clock) (closed : List Nat) (host : Host) :
      Deed lost s { s with clock, closed, host }

/-- What an event does. -/
def Deeds (lost : Path → Prop) (s s' : Service) : Prop := Relation.ReflTransGen (Deed lost) s s'

namespace Deeds

theorem refl (s : Service) : Deeds lost s s := Relation.ReflTransGen.refl

theorem single (h : Deed lost s s') : Deeds lost s s' := Relation.ReflTransGen.single h

theorem trans (h : Deeds lost s s') (h' : Deeds lost s' t) : Deeds lost s t := Relation.ReflTransGen.trans h h'

theorem tail (h : Deeds lost s s') (h' : Deed lost s' t) : Deeds lost s t := Relation.ReflTransGen.tail h h'

/-- What lasts over every deed lasts over all of them. -/
theorem lasting {I : Service → Prop} (step : ∀ {s s'}, Deed lost s s' → I s → I s') (h : Deeds lost s s')
    (start : I s) : I s' := by
  induction h with
  | refl => exact start
  | tail _ deed ih => exact step deed ih

end Deeds

/-- A deed does not change how diagnostics are delivered. -/
theorem Deed.delivery (d : Deed lost s s') : s'.delivery = s.delivery := by
  cases d with
  | retracts => exact (retract_quiet s _).delivery
  | analyzes => exact (analyze_onward s _).delivery
  | publishes => exact (publish_quiet s _ _).delivery
  | _ => rfl

theorem Deed.settings (d : Deed lost s s') : s'.settings = s.settings := by
  cases d with
  | retracts => exact (retract_quiet s _).settings
  | analyzes => exact (analyze_onward s _).settings
  | publishes => exact (publish_quiet s _ _).settings
  | _ => rfl

/-- A deed does not change whether the settings are known, nor their version. -/
theorem Deed.ready (d : Deed lost s s') :
    s'.ready = s.ready ∧ s'.settingsVersion = s.settingsVersion := by
  cases d with
  | retracts => exact ⟨(retract_quiet s _).ready, (retract_quiet s _).settingsVersion⟩
  | analyzes => exact ⟨(analyze_onward s _).ready, (analyze_onward s _).settingsVersion⟩
  | publishes => exact ⟨(publish_quiet s _ _).ready, (publish_quiet s _ _).settingsVersion⟩
  | _ => exact ⟨rfl, rfl⟩

theorem Deed.sound (d : Deed lost s s') (h : s.registry.Sound) : s'.registry.Sound := by
  cases d with
  | ensures p => exact h.ensure p
  | changes => exact h.modify _ fun _ => rfl
  | retracts => exact (retract_quiet s _).sound h
  | forgets => exact h.forget _
  | analyzes => rwa [registry_analyze]
  | publishes => exact (publish_quiet s _ _).sound h
  | works alike =>
    refine ⟨h.apart, fun p n hp => ?_⟩
    obtain ⟨r, hr, same⟩ := h.known p n hp
    rw [record?_modifyRecord, hr]
    split
    next own =>
      subst own
      exact ⟨_, rfl, (alike r hr).path.symm ▸ same⟩
    · exact ⟨r, rfl, same⟩
  | _ => exact h

/-- Records keep their paths over a deed, and stay open or not. -/
theorem Deed.record (d : Deed lost s s') (hr : s.registry.record? id = some r) :
    ∃ r', s'.registry.record? id = some r' ∧ r'.path = r.path ∧ r'.opened = r.opened := by
  have quiet : ∀ {t}, Quiet s t → ∃ r', t.registry.record? id = some r' ∧ r'.path = r.path ∧
      r'.opened = r.opened := by
    intro t q
    obtain ⟨r', hr', g⟩ := q.records id r hr
    exact ⟨r', hr', g.path, g.opened⟩
  cases d with
  | ensures p => exact ⟨r, Registry.record?_ensure_of_record? hr p, rfl, rfl⟩
  | @changes n r₀ editor known =>
    rw [record?_touch known.1]
    split
    next own =>
      subst own
      obtain rfl := Option.some.inj (known.1.symm.trans hr)
      exact ⟨_, rfl, rfl, rfl⟩
    · exact ⟨r, hr, rfl, rfl⟩
  | retracts => exact quiet (retract_quiet s _)
  | publishes => exact quiet (publish_quiet s _ _)
  | analyzes => exact ⟨r, by rwa [registry_analyze], rfl, rfl⟩
  | @works n f alike =>
    rw [record?_modifyRecord, hr]
    split
    next own =>
      subst own
      exact ⟨f r, rfl, (alike r hr).path, (alike r hr).opened⟩
    · exact ⟨r, rfl, rfl, rfl⟩
  | _ => exact ⟨r, hr, rfl, rfl⟩

/-- A document that is not forgotten in a deed stays known by its record. -/
theorem Deed.known (sound : s.registry.Sound) (d : Deed lost s s') (known : s.registry.Known id r)
    (stays : ¬ lost r.path) :
    ∃ r', s'.registry.Known id r' ∧ r'.path = r.path ∧ r'.opened = r.opened := by
  obtain ⟨r', hr', path, opened⟩ := d.record known.1
  refine ⟨r', ⟨hr', ?_⟩, path, opened⟩
  rw [path]
  cases d with
  | ensures p => exact (known.ensure sound p).2
  | retracts => exact ((retract_quiet s _).find? _).trans known.2
  | publishes => exact ((publish_quiet s _ _).find? _).trans known.2
  | analyzes => rw [registry_analyze, known.2]
  | forgets other _ may =>
    refine ((Registry.known_forget other).2 ⟨known, ?_⟩).2
    rintro rfl
    obtain rfl := Option.some.inj (known.1.symm.trans other.1)
    exact stays may
  | _ => exact known.2

/-! ### Polls -/

theorem works_deeds (s : Service) (id : Nat) {f : Record → Record}
    (alike : ∀ r, s.registry.record? id = some r → r.Alike (f r)) : Deeds lost s (s.modifyRecord id f) :=
  .single (.works alike)

/-- Putting in place of a record one that is alike. -/
theorem replace_deeds {r' : Record} (hr : s.registry.record? id = some r) (alike : r.Alike r') :
    Deeds lost s (s.modifyRecord id fun _ => r') :=
  works_deeds s id fun _ h => Option.some.inj (hr.symm.trans h) ▸ alike

theorem alike_pollText (r : Record) (read : Nat) (closed : List Nat) :
    r.Alike (r.pollText read closed).1 := by
  unfold Record.pollText
  split
  · exact ⟨rfl, rfl, rfl, rfl⟩
  · split
    · exact ⟨rfl, rfl, rfl, rfl⟩
    · split <;> exact ⟨rfl, rfl, rfl, rfl⟩

theorem alike_requestText (r : Record) (editor : Editor) (call : Pending (List Char)) :
    r.Alike (r.requestText editor call).1 := by
  unfold Record.requestText
  split
  · split <;> exact ⟨rfl, rfl, rfl, rfl⟩
  · split <;> exact ⟨rfl, rfl, rfl, rfl⟩

theorem setProgress_deeds (s : Service) (id run : Nat) (progress : Progress) :
    Deeds lost s (s.setProgress id run progress) :=
  works_deeds s id fun _ _ => ⟨rfl, rfl, rfl, rfl⟩

theorem noteCall_deeds (s : Service) (x : Exchange) (held : Bool) : Deeds lost s (s.noteCall x held) := by
  unfold noteCall
  split
  · exact .single (.notes (x :: s.log) (s.closed ++ [s.nextGate]) (s.nextGate + 1) s.measurements)
  · exact .single (.notes (x :: s.log) s.closed s.nextGate s.measurements)

theorem conclude_deeds (s : Service) (id run : Nat) (token : Token)
    (outcome : Except ServiceError (List Diagnostic)) : Deeds lost s (s.conclude id run token outcome) := by
  have finished : ∀ t : Service, Deeds lost t (t.modifyRecord id fun r =>
      { r with results := r.results.finish Token.covers run outcome }) :=
    fun t => works_deeds t id fun _ _ => ⟨rfl, rfl, rfl, rfl⟩
  cases outcome with
  | error e => exact finished s
  | ok found =>
    have published : Deeds lost s (if s.isCurrent id token then s.publish id found else s) := by
      split
      · exact .single (.publishes id found)
      · exact .refl s
    exact published.trans (finished _)

theorem pollRun_deeds (s : Service) (id run : Nat) (token : Token) (sn : Snapshot) (text : List Char)
    (since : Nat) (call : Pending (List Char)) :
    Deeds lost s (s.pollRun id run token sn text since call) := by
  unfold pollRun
  split
  · split
    · exact conclude_deeds _ _ _ _ _
    · exact (Deeds.single (.notes s.log s.closed s.nextGate _)).trans (conclude_deeds _ _ _ _ _)
  · exact .refl s

theorem invoke_deeds (s : Service) (id run : Nat) (token : Token) (sn : Snapshot) (stage : Stage)
    (program : Path) (text : List Char) : Deeds lost s (s.invoke id run token sn stage program text) :=
  ((noteCall_deeds _ _ _).trans (setProgress_deeds _ _ _ _)).trans (pollRun_deeds _ _ _ _ _ _ _ _)

theorem pollRead_deeds (s : Service) (id run : Nat) (token : Token) (sn : Snapshot) (stage : Stage)
    (program : Path) (read : Nat) : Deeds lost s (s.pollRead id run token sn stage program read) := by
  unfold pollRead
  split
  · exact .refl s
  next r hr =>
    have alike := alike_pollText r read s.closed
    split
    next h =>
      rw [h] at alike
      exact (replace_deeds hr alike).trans (setProgress_deeds _ _ _ _)
    next h =>
      rw [h] at alike
      exact (replace_deeds hr alike).trans (invoke_deeds _ _ _ _ _ _ _ _)
    next h =>
      rw [h] at alike
      exact (replace_deeds hr alike).trans (conclude_deeds _ _ _ _ _)

theorem takeText_deeds (s : Service) (id run : Nat) (token : Token) (sn : Snapshot) (stage : Stage)
    (program : Path) : Deeds lost s (s.takeText id run token sn stage program) := by
  unfold takeText
  split
  · exact .refl s
  next r hr =>
    have alike := alike_requestText r s.editor (s.call (s.host.read r.path) s.host.holdsReads)
    dsimp only
    split
    · exact invoke_deeds _ _ _ _ _ _ _ _
    · exact conclude_deeds _ _ _ _ _
    next r' read started h =>
      rw [h] at alike
      have noted : ∀ (t : Service) (x : Exchange) (held : Bool),
          Deeds lost t (if started then t.noteCall x held else t) := by
        intro t x held
        split
        · exact noteCall_deeds t x held
        · exact .refl t
      exact ((replace_deeds hr alike).trans (noted _ _ _)).trans (pollRead_deeds _ _ _ _ _ _ _ _)

theorem pollValidation_deeds (s : Service) (id run : Nat) : Deeds lost s (s.pollValidation id run) := by
  unfold pollValidation
  split
  · exact .refl s
  · split
    · exact .refl s
    · split
      · exact conclude_deeds _ _ _ _ _
      · split
        · exact takeText_deeds _ _ _ _ _ _ _
        · exact pollRead_deeds _ _ _ _ _ _ _ _
        · exact pollRun_deeds _ _ _ _ _ _ _ _

theorem join_deeds (s : Service) (id run job : Nat) : Deeds lost s (s.join id run job) :=
  works_deeds s id fun _ _ => ⟨rfl, rfl, rfl, rfl⟩

theorem pollInquiry_deeds (s : Service) (job : Nat) (i : Inquiry) :
    Deeds lost s (s.pollInquiry job i).1 := by
  unfold pollInquiry
  split
  · exact pollValidation_deeds _ _ _
  · split
    · exact .refl s
    · have joined : ∀ (results : Results) (run : Nat),
          Deeds lost s (((s.modifyRecord i.record fun r => { r with results }).join i.record run job).await
            i run).1 := fun results run =>
        ((works_deeds s i.record (f := fun r => { r with results }) fun _ _ => ⟨rfl, rfl, rfl, rfl⟩).trans
          (join_deeds _ i.record run job)).trans (pollValidation_deeds _ _ _)
      split
      · exact .refl s
      · exact joined _ _
      · exact joined _ _

theorem show_deeds (s : Service) (id : Nat) (token : Option Token) : Deeds lost s (s.show_ id token) :=
  works_deeds s id fun _ _ => ⟨rfl, rfl, rfl, rfl⟩

theorem setJob_deeds (s : Service) (job : Nat) (b : Job) : Deeds lost s (s.setJob job b) :=
  .single (.advances _)

theorem endJob_deeds (s : Service) (job : Nat) : Deeds lost s (s.endJob job) := .single (.advances _)

theorem askForAnalysis_deeds (s : Service) (job : Nat) (i : Inquiry) :
    Deeds lost s (s.askForAnalysis job i) := by
  have asked : Deeds lost s (s.pollInquiry job i).1 := pollInquiry_deeds s job i
  unfold askForAnalysis
  split
  next h =>
    rw [h] at asked
    exact asked.trans (setJob_deeds _ _ _)
  next h =>
    rw [h] at asked
    exact asked.trans (endJob_deeds _ _)
  next h =>
    rw [h] at asked
    exact (asked.tail (.reports _ _)).trans (endJob_deeds _ _)

theorem pollAnalysis_deeds (s : Service) (job : Nat) (delay : Delay) (i : Inquiry) :
    Deeds lost s (s.pollAnalysis job delay i) := by
  unfold pollAnalysis
  split
  · exact askForAnalysis_deeds _ _ _
  · split
    · exact askForAnalysis_deeds _ _ _
    · exact setJob_deeds _ _ _
  · split
    · exact .refl s
    · split
      · exact askForAnalysis_deeds _ _ _
      · exact endJob_deeds _ _

theorem pollPull_deeds (s : Service) (job : Nat) (request : RequestId) (i : Inquiry) :
    Deeds lost s (s.pollPull job request i) := by
  have asked : Deeds lost s (s.pollInquiry job i).1 := pollInquiry_deeds s job i
  unfold pollPull
  split
  next h =>
    rw [h] at asked
    exact asked.trans (setJob_deeds _ _ _)
  next h =>
    rw [h] at asked
    exact ((asked.trans (show_deeds _ _ _)).tail (.replies _ _)).trans (endJob_deeds _ _)
  next h =>
    rw [h] at asked
    exact ((asked.tail (.reports _ _)).tail (.refuses _ _ _)).trans (endJob_deeds _ _)

theorem pollTarget_deeds (s : Service) (job : Nat) (t : Target) : Deeds lost s (s.pollTarget job t).1 := by
  have asked : Deeds lost s (s.pollInquiry job t.inquiry).1 := pollInquiry_deeds s job t.inquiry
  unfold pollTarget
  split
  · exact .refl s
  · split
    · exact .refl s
    · split
      next h =>
        rw [h] at asked
        exact asked
      next h =>
        rw [h] at asked
        exact asked.trans (show_deeds _ _ _)
      next h =>
        rw [h] at asked
        exact asked.tail (.reports _ _)

theorem pollTargets_deeds (s : Service) (job : Nat) (targets : List Target) :
    Deeds lost s (s.pollTargets job targets).1 := by
  induction targets generalizing s with
  | nil => exact .refl s
  | cons t targets ih => exact (pollTarget_deeds s job t).trans (ih _)

theorem pollWorkspace_deeds (s : Service) (job : Nat) (request : RequestId) (targets : List Target) :
    Deeds lost s (s.pollWorkspace job request targets) := by
  have asked : Deeds lost s (s.pollTargets job targets).1 := pollTargets_deeds s job targets
  unfold pollWorkspace
  dsimp only
  split
  · exact (asked.tail (.replies _ _)).trans (endJob_deeds _ _)
  · exact asked.trans (setJob_deeds _ _ _)

theorem poll_deeds (s : Service) (job : Nat) : Deeds lost s (s.poll job) := by
  unfold poll
  split
  · exact .refl s
  · exact pollAnalysis_deeds _ _ _ _
  · exact pollPull_deeds _ _ _ _
  · exact pollWorkspace_deeds _ _ _ _

/-! ### Handling documents -/

theorem ensure_deeds (s : Service) (p : Path) : Deeds lost s (s.ensure p).1 := .single (.ensures p)

/-- A record of a path that has one goes by that path. -/
theorem known_ensured (h : s.registry.Sound) (p : Path) :
    ∃ r, (s.ensure p).1.registry.Known (s.ensure p).2 r ∧ r.path.same p = true := h.known_ensure p

theorem bump_deed (known : s.registry.Known id r) : Deed lost s (s.bump id) := by
  rw [bump_eq_touch known.1]
  exact .changes known fun _ => rfl

theorem known_bump (known : s.registry.Known id r) :
    (s.bump id).registry.Known id (r.moved r.opened) := by
  rw [bump_eq_touch known.1]
  exact known_touch known _ _

/-- Documents whose records are known are analyzed one after another. -/
theorem analyzeAll_deeds (h : s.registry.Sound) : Deeds lost s s.analyzeAll := by
  refine (foldl_rest (f := Service.analyze)
    (I := fun l t => t.registry = s.registry ∧ (∀ n ∈ l, n ∈ s.registry.all) ∧ Deeds lost s t)
    (fun n l t ht => ?_) s.registry.all ⟨rfl, fun _ hn => hn, .refl s⟩).2.2
  obtain ⟨same, all, deeds⟩ := ht
  obtain ⟨r, known⟩ := h.mem_all.1 (all n List.mem_cons_self)
  exact ⟨(registry_analyze t n).trans same, fun m hm => all m (List.mem_cons_of_mem _ hm),
    deeds.tail (.analyzes (same ▸ known))⟩

/-- The diagnostics of all known documents are taken back, one after another. -/
theorem retractAll_deeds (h : s.registry.Sound) : Deeds lost s s.retractAll := by
  refine (foldl_rest (f := Service.retract)
    (I := fun l t => Quiet s t ∧ (∀ n ∈ l, n ∈ s.registry.all) ∧ Deeds lost s t)
    (fun n l t ht => ?_) s.registry.all ⟨.refl s, fun _ hn => hn, .refl s⟩).2.2
  obtain ⟨quiet, all, deeds⟩ := ht
  obtain ⟨r, known⟩ := h.mem_all.1 (all n List.mem_cons_self)
  obtain ⟨r', known', -⟩ := quiet.stays known
  exact ⟨quiet.trans (retract_quiet t n), fun m hm => all m (List.mem_cons_of_mem _ hm),
    deeds.tail (.retracts known')⟩

theorem takeBack_deeds (known : s.registry.Known id r) : Deeds lost s ((s.bump id).retract id) :=
  (Deeds.single (bump_deed known)).tail (.retracts (known_bump known))

/-- A document that is not open and belongs to no stage has its diagnostics taken back and is forgotten. -/
theorem dropUnmapped_deeds (known : s.registry.Known id r) (may : s.isMapped r.path = false → lost r.path) :
    Deeds lost s (s.dropUnmapped id) := by
  rw [dropUnmapped_eq known.1]
  split
  · exact .refl s
  next gone =>
    obtain ⟨closed, unmapped⟩ := not_or.1 gone
    rw [Bool.not_eq_true] at closed unmapped
    obtain ⟨r', known', g⟩ := (retract_quiet (s.bump id) id).stays (known_bump known)
    have path : r'.path = r.path := g.path
    rw [← path]
    exact (takeBack_deeds known).tail (.forgets known' (g.opened.trans closed) (path ▸ may unmapped))

theorem dropAllUnmapped_deeds (h : s.registry.Sound) (may : ∀ p, s.isMapped p = false → lost p) :
    Deeds lost s s.dropAllUnmapped := by
  refine (foldl_rest (f := Service.dropUnmapped) (I := fun l t => Dropping s t l ∧ Deeds lost s t)
    (fun n l t ht => ⟨ht.1.next, ?_⟩) _ ⟨.start h, .refl s⟩).2
  obtain ⟨r, known⟩ := ht.1.left n List.mem_cons_self
  refine ht.2.trans (dropUnmapped_deeds known fun unmapped => may r.path ?_)
  simpa only [isMapped, ht.1.settings] using unmapped

theorem withdraw_deeds (known : s.registry.Known id r) : Deeds lost s (s.withdraw id) := by
  rw [withdraw_eq known.1]
  split
  · exact .refl s
  · exact takeBack_deeds known

theorem withdrawClosed_deeds (h : s.registry.Sound) (change : SettingsChange) :
    Deeds lost s (s.withdrawClosed change) := by
  unfold withdrawClosed
  split
  · refine (foldl_rest (f := Service.withdraw) (I := fun l t => Withdrawing s t l ∧ Deeds lost s t)
      (fun n l t ht => ⟨ht.1.next h, ?_⟩) _ ⟨.start h, .refl s⟩).2
    obtain ⟨r, known, hr⟩ := ht.1.left n List.mem_cons_self
    exact ht.2.trans (withdraw_deeds ⟨hr, (ht.1.found r.path).trans known.2⟩)
  · exact .refl s

/-! ### Events -/

theorem diskDelete_deeds (h : s.registry.Sound) (p : Path) (may : ∀ q, p.same q = true → lost q) :
    Deeds lost s (s.diskDelete p) := by
  refine diskDelete_ind (.refl s) fun id r hid hr closed => ?_
  obtain ⟨r', known, same⟩ := h.of_find? hid
  obtain rfl := Option.some.inj (hr.symm.trans known.1)
  have forgotten : ∀ {t r'}, t.registry.Known id r' → (r.moved r.opened).Grows r' → Deeds lost s t →
      Deeds lost s (t.forget p) := by
    intro t r' known' g deeds
    have own : p.same r'.path = true := by
      rw [g.path, Path.same_comm]
      exact same
    have spelled : t.forget p = t.forget r'.path := by
      unfold Service.forget
      rw [forget_congr (p := p) (q := r'.path) own]
    rw [spelled]
    exact deeds.tail (.forgets known' (g.opened.trans closed) (may _ own))
  split
  · obtain ⟨r', known', g⟩ := (retract_quiet (s.bump id) id).stays (known_bump known)
    exact forgotten known' g (takeBack_deeds known)
  · exact forgotten (known_bump known) (.refl _) (.single (bump_deed known))

/-- A file event may have a document forgotten only if its file is deleted. -/
theorem fileEvent_deeds (h : s.registry.Sound) (e : Message.FileEvent)
    (may : e.kind = 3 → ∀ q, e.uri.Names q → lost q) : Deeds lost s (s.fileEvent e) := by
  refine fileEvent_ind (.refl s) (fun p _ => ensure_deeds s p) (fun p _ => ?_) (fun p _ => ?_)
    fun p hp deleted => diskDelete_deeds h p fun q same => may deleted q ⟨p, hp, same⟩
  · obtain ⟨r, known, -⟩ := known_ensured h p
    exact (ensure_deeds s p).tail (.analyzes known)
  · obtain ⟨r, known, -⟩ := known_ensured h p
    exact ((ensure_deeds s p).tail (bump_deed known)).tail (.analyzes (known_bump known))

/-- A request for the diagnostics of the workspace is for known documents. -/
theorem pullWorkspace_deeds (h : s.registry.Sound) (request : RequestId) (known : List Message.KnownResult) :
    Deeds lost s (s.pullWorkspace request known) := by
  refine .single (.asks fun i hi => ?_)
  obtain ⟨u, hu, rfl⟩ := List.mem_map.1 hi
  obtain ⟨n, hn, ht⟩ := List.mem_filterMap.1 hu
  obtain ⟨r, known⟩ := h.mem_all.1 hn
  obtain ⟨-, -, -, -, rfl, -⟩ := target?_eq ht
  exact ⟨r, known⟩

theorem pullDocument_deeds (h : s.registry.Sound) {request : RequestId} {p : Message.DocumentPull}
    (ht : s.pullDocument request p = .ok t) : Deeds lost s t := by
  obtain ⟨path, -, rfl | ⟨reply, rfl⟩ | ⟨r, hr, -, rfl⟩⟩ := pullDocument_eq ht
  · exact ensure_deeds s path
  · exact (ensure_deeds s path).tail (.replies _ _)
  · obtain ⟨r₁, known, -⟩ := known_ensured h path
    refine (ensure_deeds s path).tail (.asks fun i hi => ?_)
    obtain rfl := List.mem_singleton.1 hi
    exact ⟨r₁, known⟩

theorem reconsider_deeds (h : s.registry.Sound) (change : SettingsChange) :
    Deeds lost s (s.reconsider change) := by
  have withdrawn : Deeds lost s (s.withdrawClosed change) := withdrawClosed_deeds h change
  have sound : (s.withdrawClosed change).registry.Sound := withdrawn.lasting Deed.sound h
  rw [reconsider_eq]
  split
  · exact (retractAll_deeds h).tail .refreshes
  · split
    · exact (withdrawn.trans (analyzeAll_deeds sound)).tail .refreshes
    · exact withdrawn

theorem takeSettings_deeds (h : s.registry.Sound) (settings : Settings)
    (may : ∀ p, settings.extensions.stageOfPath p = none → lost p) :
    Deeds lost (s.replaceSettings settings) (s.takeSettings settings) := by
  rw [takeSettings_eq]
  split
  · refine dropAllUnmapped_deeds h fun p unmapped => may p ?_
    exact Option.isNone_iff_eq_none.1 (Option.isSome_eq_false_iff.1 unmapped)
  · exact .refl _

theorem configure_deeds (h : s.registry.Sound) (settings : Settings)
    (may : ∀ p, settings.extensions.stageOfPath p = none → lost p) :
    Deeds lost (s.replaceSettings settings) (s.configure settings) := by
  have sound : (s.takeSettings settings).registry.Sound := sound_takeSettings h
  have taken := takeSettings_deeds h settings may
  unfold configure
  dsimp only
  split
  · exact taken.trans (reconsider_deeds sound _)
  · exact taken.trans (analyzeAll_deeds sound)

/-- The editor opens or closes a document, whose text is in this table then. -/
def turn (s : Service) (uri : Uri) (table : Path → Editor) (opened : Bool) : Service :=
  match uri.path? with
  | some p => (s.ensure p).1.touch (s.ensure p).2 (table p) opened
  | none => s

theorem turn_cases (s : Service) (uri : Uri) (table : Path → Editor) (opened : Bool) :
    uri.path? = none ∧ s.turn uri table opened = s ∨ ∃ p, uri.path? = some p ∧
      s.turn uri table opened = (s.ensure p).1.touch (s.ensure p).2 (table p) opened := by
  unfold turn
  cases uri.path? with
  | none => exact Or.inl ⟨rfl, rfl⟩
  | some p => exact Or.inr ⟨p, rfl, rfl⟩

/-- What an event begins with: settings are taken over, or the editor opens or closes a document. -/
def onset (s : Service) : Event → Service
  | .opened uri text version => s.turn uri (fun p => s.editor.opened p text version) true
  | .closed uri => s.turn uri s.editor.closed false
  | .configured settings => s.replaceSettings settings
  | _ => s

/-- Once the editor has opened or closed a document, it is analyzed or has its diagnostics taken back. -/
theorem step_turn (h : s.registry.Sound) {e : Event} (turn : e.isTurn = true) :
    s.step e = s.onset e ∨ ∃ n r, (s.onset e).registry.Known n r ∧
      (s.step e = (s.onset e).analyze n ∨ s.step e = (s.onset e).retract n) := by
  cases e with
  | opened uri text version =>
    obtain ⟨no, same⟩ | ⟨p, hp, same⟩ := turn_cases s uri (fun p => s.editor.opened p text version) true
    · have begun : s.onset (.opened uri text version) = s := same
      refine Or.inl ?_
      rw [begun]
      simp only [step, didOpen, pathOf, no]
      rfl
    · have begun : s.onset (.opened uri text version) = _ := same
      have moved : ({ s with editor := s.editor.opened p text version }.ensure p).1.setOpened
          (s.ensure p).2 true = s.onset (.opened uri text version) :=
        (touch_eq_setOpened (s.ensure p).1 _ _ _).trans begun.symm
      obtain ⟨r, known, -⟩ := known_ensured h p
      refine Or.inr ⟨(s.ensure p).2, r.moved true, ?_, Or.inl ?_⟩
      · rw [begun]
        exact known_touch known _ true
      · rw [← moved]
        simp only [step, didOpen, pathOf, hp]
        rfl
  | closed uri =>
    obtain ⟨no, same⟩ | ⟨p, hp, same⟩ := turn_cases s uri s.editor.closed false
    · have begun : s.onset (.closed uri) = s := same
      refine Or.inl ?_
      rw [begun]
      simp only [step, didClose, pathOf, no]
      rfl
    · have begun : s.onset (.closed uri) = _ := same
      obtain ⟨r, known, -⟩ := known_ensured h p
      refine Or.inr ⟨(s.ensure p).2, r.moved false, ?_, ?_⟩
      · rw [begun]
        exact known_touch known _ false
      · rw [begun, step_closed s hp]
        split
        · exact Or.inl rfl
        · exact Or.inr rfl
  | _ => cases turn

theorem turn_deeds (h : s.registry.Sound) {e : Event} (turn : e.isTurn = true) :
    Deeds lost (s.onset e) (s.step e) := by
  obtain same | ⟨n, r, known, same | same⟩ := step_turn h turn
  · exact same.symm ▸ .refl _
  · exact same.symm ▸ .single (.analyzes known)
  · exact same.symm ▸ .single (.retracts known)

/-- An event does one thing after another, once it has begun. -/
theorem step_deeds (h : s.registry.Sound) (e : Event) : Deeds e.Loses (s.onset e) (s.step e) := by
  cases e with
  | opened uri text version => exact turn_deeds h rfl
  | closed uri => exact turn_deeds h rfl
  | edited uri edits version =>
    refine orUnchanged_ind (.refl s) fun t ht => ?_
    obtain ⟨p, editor, -, changed, rfl⟩ := didChange_eq ht
    obtain ⟨r, known, -⟩ := known_ensured h p
    have touched : ({ s with editor }.ensure p).1.bump (s.ensure p).2 =
        (s.ensure p).1.touch (s.ensure p).2 editor r.opened := touch_eq_bump known.1 editor
    rw [touched]
    have table := (Editor.has_changed changed).2
    exact ((ensure_deeds s p).tail (.changes known table)).tail (.analyzes (known_touch known _ _))
  | file e => exact fileEvent_deeds h e fun deleted q names => ⟨deleted, names⟩
  | configured settings => exact configure_deeds h settings fun _ unmapped => unmapped
  | pulled request p => exact orUnchanged_ind (.refl s) fun t ht => pullDocument_deeds h ht
  | pulledAll request known => exact pullWorkspace_deeds h request known
  | polled job => exact poll_deeds s job
  | elapsed milliseconds => exact .single (.waits (Nat.le_add_right _ _) s.closed s.host)
  | released gate => exact .single (.waits (Nat.le_refl _) (s.closed.filter (· != gate)) s.host)
  | host host => exact .single (.waits (Nat.le_refl _) s.closed { host with embedded := s.host.embedded })

/-- What lasts over new settings, over what the editor opens and closes, and over every deed lasts over an
event. -/
theorem step_lasting {I : Service → Prop} {e : Event} (sound : s.registry.Sound)
    (settles : ∀ settings, e = .configured settings → I s → I (s.replaceSettings settings))
    (moves : ∀ {t id r editor opened}, t.registry.Known id r → e.Turns r.path →
      (∀ q, PathMap.has editor q = if r.path.same q then opened else t.editor.has q) → I t →
        I (t.touch id editor opened))
    (step : ∀ {t t'}, t.registry.Sound → Deed e.Loses t t' → I t → I t') (h : I s) : I (s.step e) := by
  have lasting : ∀ {t t'}, Deed e.Loses t t' → t.registry.Sound ∧ I t → t'.registry.Sound ∧ I t' :=
    fun d h => ⟨d.sound h.1, step h.1 d h.2⟩
  have turned : ∀ {table : Path → Editor} {opened : Bool} (uri : Uri), (∀ p, uri.Names p → e.Turns p) →
      (∀ p q, (table p).has q = if p.same q then opened else s.editor.has q) →
        (s.turn uri table opened).registry.Sound ∧ I (s.turn uri table opened) := by
    intro table opened uri turns told
    obtain ⟨-, same⟩ | ⟨p, hp, same⟩ := turn_cases s uri table opened
    · exact same.symm ▸ ⟨sound, h⟩
    · have ensured := lasting (.ensures p) ⟨sound, h⟩
      obtain ⟨r, known, own⟩ := known_ensured sound p
      have names : uri.Names r.path := ⟨p, hp, (Path.same_comm _ _).trans own⟩
      rw [same]
      refine ⟨ensured.1.modify _ fun _ => rfl, moves known (turns _ names) (fun q => ?_) ensured.2⟩
      rw [told, PathMap.same_congr own]
      rfl
  have begun : (s.onset e).registry.Sound ∧ I (s.onset e) := by
    cases e with
    | opened uri text version => exact turned uri (fun _ names => names) fun p => s.editor.has_opened p text version
    | closed uri => exact turned uri (fun _ names => names) s.editor.has_closed
    | configured settings => exact ⟨sound, settles settings rfl h⟩
    | _ => exact ⟨sound, h⟩
  exact ((step_deeds sound e).lasting lasting begun).2

/-- What holds at the start holds in every session if it lasts over new settings, over what the editor opens
and closes, and over every deed. -/
theorem session_lasting {I : Service → Prop} {host : Host} {delivery : Delivery} {settings : Settings}
    {waits : Bool} (begins : I (start host delivery settings waits))
    (settles : ∀ {s} settings, I s → I (s.replaceSettings settings))
    (moves : ∀ {s id r editor opened}, s.registry.Known id r →
      (∀ q, PathMap.has editor q = if r.path.same q then opened else s.editor.has q) → I s →
        I (s.touch id editor opened))
    (step : ∀ {lost s s'}, s.registry.Sound → Deed lost s s' → I s → I s') (es : List Event) :
    I (session host delivery settings waits es) := by
  induction es using List.reverseRecOn with
  | nil => exact begins
  | append_singleton es e ih =>
    have sound := (session_intact host delivery settings waits es).registry
    rw [session_snoc]
    exact step_lasting sound (fun settings _ => settles settings) (fun known _ => moves known) step ih

/-- A session keeps to the way in which it delivers diagnostics. -/
theorem session_delivery (host : Host) (delivery : Delivery) (settings : Settings) (waits : Bool)
    (es : List Event) : (session host delivery settings waits es).delivery = delivery :=
  session_lasting (I := fun s => s.delivery = delivery) rfl (fun _ same => same) (fun _ _ same => same)
    (fun _ d same => d.delivery.trans same) es

/-- Without new settings a session keeps those that it has at the start. -/
theorem session_settings (host : Host) (delivery : Delivery) (settings : Settings) (waits : Bool)
    {es : List Event} (unset : ∀ e ∈ es, e.isConfigured = false) :
    (session host delivery settings waits es).settings = settings := by
  induction es using List.reverseRecOn with
  | nil => rfl
  | append_singleton es e ih =>
    have other : e.isConfigured = false := unset e (by simp)
    have sound := (session_intact host delivery settings waits es).registry
    rw [session_snoc]
    exact step_lasting (I := fun s => s.settings = settings) sound
      (fun _ he => by subst he; cases other) (fun _ _ _ same => same) (fun _ d same => d.settings.trans same)
      (ih fun x hx => unset x (List.mem_append_left _ hx))

/-- Only new settings make the settings known or change their version. -/
theorem step_ready (h : s.registry.Sound) {e : Event} (other : e.isConfigured = false) :
    (s.step e).ready = s.ready ∧ (s.step e).settingsVersion = s.settingsVersion :=
  step_lasting (I := fun t => t.ready = s.ready ∧ t.settingsVersion = s.settingsVersion) h
    (fun _ he => by subst he; cases other) (fun _ _ _ same => same)
    (fun _ d same => ⟨d.ready.1.trans same.1, d.ready.2.trans same.2⟩) ⟨rfl, rfl⟩

/-- The settings are known once they have been set, or from the start if they are not waited for. -/
theorem session_ready (host : Host) (delivery : Delivery) (settings : Settings) (waits : Bool)
    (es : List Event) :
    (session host delivery settings waits es).ready = (!waits || es.any Event.isConfigured) := by
  induction es using List.reverseRecOn with
  | nil => simp [session, after, start]
  | append_singleton es e ih =>
    have sound := (session_intact host delivery settings waits es).registry
    rw [List.any_append, List.any_cons, List.any_nil, Bool.or_false, ← Bool.or_assoc, ← ih, session, after_snoc]
    cases he : e.isConfigured with
    | false => exact (step_ready sound he).1.trans (Bool.or_false _).symm
    | true =>
      cases e with
      | configured new => rw [Bool.or_true]; exact (configure_onward _ new).ready
      | _ => cases he

end Service

end ShaderDiagnostics
