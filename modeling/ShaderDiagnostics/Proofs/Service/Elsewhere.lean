import ShaderDiagnostics.Proofs.Service.Housekeeping
import ShaderDiagnostics.Proofs.Service.Intake

/-!
# What happens elsewhere

Events that concern other documents leave a document alone (`Service.Spares`): the settings stay, and so do
what is known under its path and the version of its content, through all of a run (`Publishing.spares`). And
of these events only polls may change what is shown for the document (`Service.step_silent`).
-/

namespace ShaderDiagnostics

/-- The URI names the file at a path, in whatever spelling. -/
def Uri.Names (uri : Uri) (p : Path) : Prop := ∃ q, uri.path? = some q ∧ q.same p = true

/-- The event concerns neither the document at a path nor the settings. -/
def Event.Elsewhere (p : Path) : Event → Prop
  | .opened uri _ _ => ¬ uri.Names p
  | .edited uri _ _ => ¬ uri.Names p
  | .closed uri => ¬ uri.Names p
  | .file e => ¬ e.uri.Names p
  | .configured _ => False
  | _ => True

theorem Uri.apart_of_not_names {uri : Uri} {p q : Path} (h : ¬ uri.Names p) (hq : uri.path? = some q) :
    q.same p = false := by
  by_contra hs
  exact h ⟨q, hq, by simpa using hs⟩

/-- Paths that differ do not have the same record. -/
theorem Registry.Sound.find?_ne {g : Registry} (h : g.Sound) {p q : Path} {id : Nat}
    (hq : g.find? q = some id) (apart : q.same p = false) : g.find? p ≠ some id := by
  intro hp
  obtain ⟨r, known, hs⟩ := h.of_find? hq
  obtain ⟨r', known', hs'⟩ := h.of_find? hp
  obtain rfl := Option.some.inj (known.1.symm.trans known'.1)
  rw [PathMap.same_congr hs, apart] at hs'
  cases hs'

namespace Service

variable {leaving : Nat → Prop} {s s' t : Service} {p q : Path} {id : Nat} {e : Event} {es : List Event}

/-! ### One document -/

/-- The settings, the validator and the record known under a path stay, but for its caches and for what is
shown. -/
structure Spares (p : Path) (s s' : Service) : Prop where
  settings : s'.settings = s.settings
  validator : s'.validator = s.validator
  found : s'.registry.find? p = s.registry.find? p
  record : ∀ id r, s.registry.find? p = some id → s.registry.record? id = some r →
    ∃ r', s'.registry.record? id = some r' ∧ r'.path = r.path ∧ r'.version = r.version ∧
      r'.opened = r.opened

/-- Nothing has changed that matters to this. -/
theorem spares_of_same (p : Path) (settings : s'.settings = s.settings)
    (validator : s'.validator = s.validator) (registry : s'.registry = s.registry) : Spares p s s' :=
  ⟨settings, validator, by rw [registry], fun _ r _ hr => ⟨r, registry ▸ hr, rfl, rfl, rfl⟩⟩

namespace Spares

theorem trans (h : Spares p s s') (h' : Spares p s' t) : Spares p s t where
  settings := h'.settings.trans h.settings
  validator := h'.validator.trans h.validator
  found := h'.found.trans h.found
  record id r hf hr := by
    obtain ⟨r₁, hr₁, path₁, version₁, opened₁⟩ := h.record id r hf hr
    obtain ⟨r₂, hr₂, path₂, version₂, opened₂⟩ := h'.record id r₁ (h.found.trans hf) hr₁
    exact ⟨r₂, hr₂, path₂.trans path₁, version₂.trans version₁, opened₂.trans opened₁⟩

theorem snapshot (h : Spares p s s') : s'.snapshot = s.snapshot := by
  simp only [Service.snapshot, h.settings, h.validator]

end Spares

theorem Quiet.spares (h : Quiet s s') (p : Path) : Spares p s s' where
  settings := h.settings
  validator := h.validator
  found := h.find? p
  record id r _ hr := by
    obtain ⟨r', hr', g⟩ := h.records id r hr
    exact ⟨r', hr', g.path, g.version, g.opened⟩

/-- Another path gets a record, and the editor tells of it: the record is another one. -/
theorem ensure_spares (h : s.registry.Sound) (apart : q.same p = false) (editor : Editor) :
    Spares p s ({ s with editor }.ensure q).1 ∧
      ({ s with editor }.ensure q).1.registry.find? p ≠ some ({ s with editor }.ensure q).2 := by
  have found : ∀ p, (s.ensure q).1.registry.find? p =
      if q.same p then some (s.ensure q).2 else s.registry.find? p := Registry.find?_ensure s.registry q
  constructor
  · refine ⟨rfl, rfl, (found p).trans (if_neg (by simp [apart])), fun _ r _ hr => ?_⟩
    exact ⟨r, Registry.record?_ensure_of_record? hr q, rfl, rfl, rfl⟩
  · exact (h.ensure q).find?_ne ((found q).trans (if_pos (Path.same_refl q))) apart

/-- The record of another path may change. -/
theorem modifyRecord_spares (other : s.registry.find? p ≠ some id) (f : Record → Record) :
    Spares p s (s.modifyRecord id f) where
  settings := rfl
  validator := rfl
  found := rfl
  record n r hf hr := by
    have hn : n ≠ id := by
      rintro rfl
      exact other hf
    exact ⟨r, by rw [record?_modifyRecord, if_neg hn, hr], rfl, rfl, rfl⟩

theorem bump_spares (other : s.registry.find? p ≠ some id) : Spares p s (s.bump id) :=
  modifyRecord_spares other Record.bump

theorem setOpened_spares (other : s.registry.find? p ≠ some id) (opened : Bool) :
    Spares p s (s.setOpened id opened) := by
  let t := s.modifyRecord id fun r => { r with opened }
  have noted : Spares p s t := modifyRecord_spares other _
  have bumped : Spares p t (t.bump id) := bump_spares other
  exact noted.trans bumped

theorem analyze_spares (s : Service) (id : Nat) (p : Path) : Spares p s (s.analyze id) :=
  spares_of_same p (analyze_onward s id).settings (analyze_onward s id).validator (registry_analyze s id)

theorem forget_spares (s : Service) (apart : q.same p = false) : Spares p s (s.forget q) where
  settings := rfl
  validator := rfl
  found := (Registry.find?_forget s.registry q p).trans (if_neg (by simp [apart]))
  record _ r _ hr := ⟨r, hr, rfl, rfl, rfl⟩

theorem fileEvent_spares (h : s.registry.Sound) {e : Message.FileEvent} (far : ¬ e.uri.Names p) :
    Spares p s (s.fileEvent e) := by
  have ensured := fun q (hq : e.uri.path? = some q) => ensure_spares h (Uri.apart_of_not_names far hq) s.editor
  refine fileEvent_ind (spares_of_same p rfl rfl rfl) (fun q hq => (ensured q hq).1)
    (fun q hq => (ensured q hq).1.trans (analyze_spares _ _ p))
    (fun q hq => ((ensured q hq).1.trans (bump_spares (ensured q hq).2)).trans (analyze_spares _ _ p))
    fun q hq _ => ?_
  have apart := Uri.apart_of_not_names far hq
  refine diskDelete_ind (spares_of_same p rfl rfl rfl) fun id _ hid _ _ => Spares.trans ?_ (forget_spares _ apart)
  have bumped : Spares p s (s.bump id) := bump_spares (h.find?_ne hid apart)
  split
  · exact bumped.trans ((retract_quiet _ id).spares p)
  · exact bumped

/-- An event that concerns another document leaves this one alone. -/
theorem Kept.spares (k : s.Kept leaving) (pull : e.isPull = false) (far : e.Elsewhere p) :
    Spares p s (s.step e) := by
  cases e with
  | opened uri text version =>
    refine orUnchanged_ind (spares_of_same p rfl rfl rfl) fun t ht => ?_
    obtain ⟨q, hq, rfl⟩ := didOpen_eq ht
    obtain ⟨ensured, other⟩ := ensure_spares k.registry (Uri.apart_of_not_names far hq)
      (s.editor.opened q text version)
    exact (ensured.trans (setOpened_spares other true)).trans (analyze_spares _ _ p)
  | edited uri edits version =>
    refine orUnchanged_ind (spares_of_same p rfl rfl rfl) fun t ht => ?_
    obtain ⟨q, editor, hq, -, rfl⟩ := didChange_eq ht
    obtain ⟨ensured, other⟩ := ensure_spares k.registry (Uri.apart_of_not_names far hq) editor
    exact (ensured.trans (bump_spares other)).trans (analyze_spares _ _ p)
  | closed uri =>
    refine orUnchanged_ind (spares_of_same p rfl rfl rfl) fun t ht => ?_
    obtain ⟨q, hq, rfl⟩ := didClose_eq ht
    obtain ⟨ensured, other⟩ := ensure_spares k.registry (Uri.apart_of_not_names far hq)
      (s.editor.closed q)
    have moved := ensured.trans (setOpened_spares other false)
    dsimp only
    split
    · exact moved.trans (analyze_spares _ _ p)
    · exact moved.trans ((retract_quiet _ _).spares p)
  | file e => exact fileEvent_spares k.registry far
  | configured settings => exact far.elim
  | pulled id request => cases pull
  | pulledAll id known => cases pull
  | polled job =>
    have begun : Spares p s { s with jobs := (s.poll job).jobs } := spares_of_same p rfl rfl rfl
    exact begun.trans ((k.poll_quiet job).spares p)
  | elapsed milliseconds => exact (elapse_quiet s milliseconds).spares p
  | released gate => exact (release_quiet s gate).spares p
  | host host => exact spares_of_same p rfl rfl rfl

/-- A run that concerns other documents leaves this one alone. -/
theorem Publishing.spares (h : Publishing s es) (o : Orderly s) (far : ∀ e ∈ es, e.Elsewhere p) :
    Spares p s (s.after es) := by
  induction es using List.reverseRecOn with
  | nil => exact spares_of_same p rfl rfl rfl
  | append_singleton es e ih =>
    rw [after_snoc]
    have before := ih h.take fun x hx => far x (List.mem_append_left _ hx)
    exact before.trans ((h.take.orderly o).kept.spares h.last.1 (far e (by simp)))

/-! ### What is shown -/

/-- If diagnostics are published, what is shown for a path stays. -/
structure Silent (p : Path) (s s' : Service) : Prop where
  delivery : s'.delivery = s.delivery
  shown : s.delivery.isPush = true → ∀ uri, Uri.ofPath? p = some uri → s'.last? uri = s.last? uri

namespace Silent

/-- Nothing has been published. -/
theorem of_published (p : Path) (delivery : s'.delivery = s.delivery)
    (same : s'.published = s.published) : Silent p s s' :=
  ⟨delivery, fun _ uri _ => last?_of_published same uri⟩

theorem refl (p : Path) (s : Service) : Silent p s s := of_published p rfl rfl

theorem trans (h : Silent p s s') (h' : Silent p s' t) : Silent p s t where
  delivery := h'.delivery.trans h.delivery
  shown push uri hu := by
    have later := h'.shown (h.delivery.symm ▸ push) uri hu
    exact later.trans (h.shown push uri hu)

end Silent

/-- An analysis that is asked for shows nothing yet. -/
theorem published_analyze (s : Service) (id : Nat) : (s.analyze id).published = s.published := by
  unfold analyze
  split
  · rfl
  · split <;> rfl

theorem analyze_silent (s : Service) (id : Nat) (p : Path) : Silent p s (s.analyze id) :=
  .of_published p (analyze_onward s id).delivery (published_analyze s id)

/-- The diagnostics of another document are taken back. -/
theorem retract_silent {r : Record} (hr : s.registry.record? id = some r) (apart : r.path.same p = false) :
    Silent p s (s.retract id) where
  delivery := (retract_quiet s id).delivery
  shown push uri hu := by
    rw [last?_retract push hr, if_neg]
    intro hp
    rw [Uri.same_of_ofPath? hp hu] at apart
    cases apart

/-- Something changes that is known of documents, before anything is said about it. -/
theorem registry_silent (s : Service) (editor : Editor) (registry : Registry) (p : Path) :
    Silent p s { s with editor, registry } := .of_published p rfl rfl

theorem forget_silent (s : Service) (q p : Path) : Silent p s (s.forget q) := .of_published p rfl rfl

theorem fileEvent_silent (h : s.registry.Sound) {e : Message.FileEvent} (far : ¬ e.uri.Names p) :
    Silent p s (s.fileEvent e) := by
  refine fileEvent_ind (.refl p s) (fun _ _ => registry_silent s _ _ p)
    (fun _ _ => (registry_silent s _ _ p).trans (analyze_silent _ _ p))
    (fun _ _ => (registry_silent s _ _ p).trans ((registry_silent _ _ _ p).trans (analyze_silent _ _ p)))
    fun q hq _ => ?_
  refine diskDelete_ind (.refl p s) fun id _ hid _ _ => Silent.trans ?_ (forget_silent _ q p)
  have begun : Silent p s (s.bump id) := .of_published p rfl rfl
  split
  · obtain ⟨r, known, same⟩ := h.of_find? hid
    have bumped : (s.bump id).registry.record? id = some r.bump := by
      rw [bump, record?_modifyRecord, if_pos rfl, known.1]
      rfl
    have apart : r.bump.path.same p = false :=
      (PathMap.same_congr same p).trans (Uri.apart_of_not_names far hq)
    exact begun.trans (retract_silent bumped apart)
  · exact begun

/-- An event that concerns another document shows nothing else for this one, unless it is a poll. -/
theorem step_silent (h : s.registry.Sound) (poll : ∀ job, e ≠ .polled job) (pull : e.isPull = false)
    (far : e.Elsewhere p) : Silent p s (s.step e) := by
  cases e with
  | opened uri text version =>
    refine orUnchanged_ind (.refl p s) fun t ht => ?_
    obtain ⟨q, -, rfl⟩ := didOpen_eq ht
    exact (registry_silent s _ _ p).trans (analyze_silent _ _ p)
  | edited uri edits version =>
    refine orUnchanged_ind (.refl p s) fun t ht => ?_
    obtain ⟨q, editor, -, -, rfl⟩ := didChange_eq ht
    exact (registry_silent s editor _ p).trans (analyze_silent _ _ p)
  | closed uri =>
    refine orUnchanged_ind (.refl p s) fun t ht => ?_
    obtain ⟨q, hq, rfl⟩ := didClose_eq ht
    obtain ⟨r, known, same⟩ := h.known_ensure q
    have moved : ({ s with editor := s.editor.closed q }.ensure q).1.setOpened (s.ensure q).2 false =
        (s.ensure q).1.touch (s.ensure q).2 (s.editor.closed q) false :=
      touch_eq_setOpened (s.ensure q).1 _ _ _
    have apart : (r.moved false).path.same p = false :=
      (PathMap.same_congr same p).trans (Uri.apart_of_not_names far hq)
    dsimp only
    split
    · exact (registry_silent s _ _ p).trans (analyze_silent _ _ p)
    · rw [moved]
      exact (registry_silent s _ _ p).trans (retract_silent (known_touch known _ false).1 apart)
  | file e => exact fileEvent_silent h far
  | configured settings => exact far.elim
  | pulled request pull => cases pull
  | pulledAll request known => cases pull
  | polled job => exact absurd rfl (poll job)
  | elapsed milliseconds => exact .of_published p rfl rfl
  | released gate => exact .of_published p rfl rfl
  | host host => exact .of_published p rfl rfl

end Service

end ShaderDiagnostics
