import ShaderDiagnostics.Proofs.Service.Answering

/-!
# What a request for diagnostics does while it goes on

A poll of a job goes on with the requests of the job. Each of these calls the host for nothing but its own
record, leaves other records alone, and what the editor shows of any record until there is an answer
(`Service.Pursues`). So a poll calls the host only for records that the job asks for (`Service.poll_hears`).
-/

namespace ShaderDiagnostics.Service

variable {wanted wanted' : Nat → Prop} {s s' t : Service} {id n : Nat} {r : Record}

/-- Whatever the host has been called for since then is about one of these records. -/
def Hears (wanted : Nat → Prop) (s s' : Service) : Prop :=
  ∀ x ∈ s'.log, x ∈ s.log ∨ ∃ id, wanted id ∧ x.isFor id = true

/-- Requests for the diagnostics of these records have gone on: the host has been called for nothing else, other
records are what they were, and so is what the editor shows of records. -/
structure Pursues (wanted : Nat → Prop) (s s' : Service) : Prop where
  hears : Hears wanted s s'
  others : ∀ n, ¬ wanted n → s'.registry.record? n = s.registry.record? n
  display : ∀ n r, s.registry.record? n = some r →
    ∃ r', s'.registry.record? n = some r' ∧ r'.display = r.display

namespace Hears

theorem of_log (log : s'.log = s.log) : Hears wanted s s' := fun _ hx => Or.inl (log ▸ hx)

theorem trans (h : Hears wanted s s') (h' : Hears wanted s' t) : Hears wanted s t :=
  fun x hx => (h' x hx).elim (h x) Or.inr

theorem mono (h : Hears wanted s s') (more : ∀ id, wanted id → wanted' id) : Hears wanted' s s' :=
  fun x hx => (h x hx).imp_right fun ⟨id, hid, own⟩ => ⟨id, more id hid, own⟩

end Hears

namespace Pursues

/-- The host has not been called, and the records are what they were. -/
theorem of_same (log : s'.log = s.log) (registry : s'.registry = s.registry) : Pursues wanted s s' :=
  ⟨.of_log log, fun _ _ => by rw [registry], fun _ r hr => ⟨r, registry.symm ▸ hr, rfl⟩⟩

theorem refl (s : Service) : Pursues wanted s s := .of_same rfl rfl

theorem trans (h : Pursues wanted s s') (h' : Pursues wanted s' t) : Pursues wanted s t := by
  refine ⟨h.hears.trans h'.hears, fun n other => (h'.others n other).trans (h.others n other), fun n r hr => ?_⟩
  obtain ⟨r₁, hr₁, same₁⟩ := h.display n r hr
  obtain ⟨r₂, hr₂, same₂⟩ := h'.display n r₁ hr₁
  exact ⟨r₂, hr₂, same₂.trans same₁⟩

end Pursues

/-! ### Validations -/

theorem modifyRecord_pursues (s : Service) (hn : wanted n) {f : Record → Record}
    (display : ∀ r, s.registry.record? n = some r → (f r).display = r.display) :
    Pursues wanted s (s.modifyRecord n f) := by
  refine ⟨.of_log rfl, fun m other => ?_, fun m r hr => ?_⟩
  · rw [record?_modifyRecord, if_neg]
    rintro rfl
    exact other hn
  · rw [record?_modifyRecord, hr]
    split
    next own => exact ⟨f r, rfl, display r (own ▸ hr)⟩
    · exact ⟨r, rfl, rfl⟩

theorem replace_pursues {r' : Record} (hid : wanted id) (hr : s.registry.record? id = some r)
    (display : r'.display = r.display) : Pursues wanted s (s.modifyRecord id fun _ => r') :=
  modifyRecord_pursues s hid fun r₁ h₁ => by
    obtain rfl := Option.some.inj (hr.symm.trans h₁)
    exact display

theorem publish_pursues (s : Service) (hid : wanted id) (found : List Diagnostic) :
    Pursues wanted s (s.publish id found) := by
  unfold publish
  split
  · exact .refl s
  · split
    · split
      · exact .refl s
      · exact (modifyRecord_pursues s hid (f := Record.advance) fun _ _ => rfl).trans (.of_same rfl rfl)
    · exact .refl s

theorem setProgress_pursues (s : Service) (hid : wanted id) (run : Nat) (progress : Progress) :
    Pursues wanted s (s.setProgress id run progress) := modifyRecord_pursues s hid fun _ _ => rfl

/-- A call of the host for a record. -/
theorem noteCall_pursues (s : Service) {x : Exchange} (hid : wanted id) (own : x.isFor id = true)
    (held : Bool) : Pursues wanted s (s.noteCall x held) := by
  have noted : (s.noteCall x held).log = x :: s.log ∧ (s.noteCall x held).registry = s.registry := by
    unfold noteCall
    split <;> exact ⟨rfl, rfl⟩
  refine ⟨fun y hy => ?_, fun n _ => by rw [noted.2], fun n r hr => ⟨r, noted.2.symm ▸ hr, rfl⟩⟩
  rw [noted.1] at hy
  rcases List.mem_cons.1 hy with rfl | hy
  · exact Or.inr ⟨id, hid, own⟩
  · exact Or.inl hy

theorem conclude_pursues (s : Service) (hid : wanted id) (run : Nat) (token : Token)
    (outcome : Except ServiceError (List Diagnostic)) :
    Pursues wanted s (s.conclude id run token outcome) := by
  have finished : ∀ t : Service, Pursues wanted t (t.modifyRecord id fun r =>
      { r with results := r.results.finish Token.covers run outcome }) :=
    fun t => modifyRecord_pursues t hid fun _ _ => rfl
  cases outcome with
  | error e => exact finished s
  | ok found =>
    have said : Pursues wanted s (if s.isCurrent id token then s.publish id found else s) := by
      split
      · exact publish_pursues s hid found
      · exact .refl s
    exact said.trans (finished _)

theorem pollRun_pursues (s : Service) (hid : wanted id) (run : Nat) (token : Token) (sn : Snapshot)
    (text : List Char) (since : Nat) (call : Pending (List Char)) :
    Pursues wanted s (s.pollRun id run token sn text since call) := by
  unfold pollRun
  split
  · split
    · exact conclude_pursues _ hid _ _ _
    · have measured : Pursues wanted s
          { s with measurements := s.measurements.add ((s.clock - since) * 1000000) } := .of_same rfl rfl
      exact measured.trans (conclude_pursues _ hid _ _ _)
  · exact .refl s

theorem invoke_pursues (s : Service) (hid : wanted id) (run : Nat) (token : Token) (sn : Snapshot)
    (stage : Stage) (program : Path) (text : List Char) :
    Pursues wanted s (s.invoke id run token sn stage program text) :=
  ((noteCall_pursues s hid (x := .run id _ _ _) (beq_self_eq_true id) _).trans
    (setProgress_pursues _ hid _ _)).trans (pollRun_pursues _ hid _ _ _ _ _ _)

theorem display_pollText (r : Record) (read : Nat) (closed : List Nat) :
    (r.pollText read closed).1.display = r.display := by
  unfold Record.pollText
  split
  · rfl
  · split
    · rfl
    · split <;> rfl

theorem display_requestText (r : Record) (editor : Editor) (call : Pending (List Char)) :
    (r.requestText editor call).1.display = r.display := by
  unfold Record.requestText
  split
  · split <;> rfl
  · split <;> rfl

theorem pollRead_pursues (s : Service) (hid : wanted id) (run : Nat) (token : Token) (sn : Snapshot)
    (stage : Stage) (program : Path) (read : Nat) :
    Pursues wanted s (s.pollRead id run token sn stage program read) := by
  unfold pollRead
  split
  · exact .refl s
  next r hr =>
    have same := display_pollText r read s.closed
    split
    next h =>
      rw [h] at same
      exact (replace_pursues hid hr same).trans (setProgress_pursues _ hid _ _)
    next h =>
      rw [h] at same
      exact (replace_pursues hid hr same).trans (invoke_pursues _ hid _ _ _ _ _ _)
    next h =>
      rw [h] at same
      exact (replace_pursues hid hr same).trans (conclude_pursues _ hid _ _ _)

theorem takeText_pursues (s : Service) (hid : wanted id) (run : Nat) (token : Token) (sn : Snapshot)
    (stage : Stage) (program : Path) : Pursues wanted s (s.takeText id run token sn stage program) := by
  unfold takeText
  split
  · exact .refl s
  next r hr =>
    have same := display_requestText r s.editor (s.call (s.host.read r.path) s.host.holdsReads)
    dsimp only
    split
    · exact invoke_pursues s hid _ _ _ _ _ _
    · exact conclude_pursues _ hid _ _ _
    next r' read started h =>
      rw [h] at same
      have noted : ∀ (v : Service) {x : Exchange} (_ : x.isFor id = true) (held : Bool),
          Pursues wanted v (if started then v.noteCall x held else v) := by
        intro v x own held
        split
        · exact noteCall_pursues v hid own held
        · exact .refl v
      exact ((replace_pursues hid hr same).trans
        (noted _ (x := .read id _ r'.path r'.version _) (beq_self_eq_true id) _)).trans
          (pollRead_pursues _ hid _ _ _ _ _ _)

/-- A validation that goes on calls the host for its record. -/
theorem pollValidation_pursues (s : Service) (hid : wanted id) (run : Nat) :
    Pursues wanted s (s.pollValidation id run) := by
  unfold pollValidation
  split
  · exact .refl s
  · split
    · exact .refl s
    · split
      · exact conclude_pursues _ hid _ _ _
      · split
        · exact takeText_pursues s hid _ _ _ _ _
        · exact pollRead_pursues s hid _ _ _ _ _ _
        · exact pollRun_pursues _ hid _ _ _ _ _ _

/-! ### Jobs -/

theorem join_pursues (s : Service) (hid : wanted id) (run job : Nat) : Pursues wanted s (s.join id run job) :=
  modifyRecord_pursues s hid fun _ _ => rfl

/-- A request that goes on calls the host for its record, and shows nothing. -/
theorem pollInquiry_pursues (s : Service) (job : Nat) {i : Inquiry} (own : wanted i.record) :
    Pursues wanted s (s.pollInquiry job i).1 := by
  unfold pollInquiry
  split
  · exact pollValidation_pursues s own _
  · split
    · exact .refl s
    · have joined : ∀ (results : Results) (run : Nat), Pursues wanted s
          (((s.modifyRecord i.record fun r => { r with results }).join i.record run job).await i run).1 :=
        fun results run =>
          ((modifyRecord_pursues s own (f := fun r => { r with results }) fun _ _ => rfl).trans
            (join_pursues _ own run job)).trans (pollValidation_pursues _ own _)
      split
      · exact .refl s
      · exact joined _ _
      · exact joined _ _

theorem pollTarget_hears (s : Service) (job : Nat) {t : Target} (own : wanted t.inquiry.record) :
    Hears wanted s (s.pollTarget job t).1 := by
  have asked : Hears wanted s (s.pollInquiry job t.inquiry).1 := (pollInquiry_pursues s job own).hears
  unfold pollTarget
  split
  · exact .of_log rfl
  · split
    · exact .of_log rfl
    · split
      all_goals
        next h =>
          rw [h] at asked
          exact asked

theorem pollTargets_hears (s : Service) (job : Nat) {targets : List Target}
    (own : ∀ t ∈ targets, wanted t.inquiry.record) : Hears wanted s (s.pollTargets job targets).1 := by
  induction targets generalizing s with
  | nil => exact .of_log rfl
  | cons t rest ih =>
    exact (pollTarget_hears s job (own t List.mem_cons_self)).trans
      (ih _ fun u hu => own u (List.mem_cons_of_mem _ hu))

theorem askForAnalysis_hears (s : Service) (job : Nat) {i : Inquiry} (own : wanted i.record) :
    Hears wanted s (s.askForAnalysis job i) := by
  have asked : Hears wanted s (s.pollInquiry job i).1 := (pollInquiry_pursues s job own).hears
  unfold askForAnalysis
  split
  all_goals
    next h =>
      rw [h] at asked
      exact asked

theorem pollAnalysis_hears (s : Service) (job : Nat) (delay : Delay) {i : Inquiry} (own : wanted i.record) :
    Hears wanted s (s.pollAnalysis job delay i) := by
  unfold pollAnalysis
  split
  · exact askForAnalysis_hears s job own
  · split
    · exact askForAnalysis_hears s job own
    · exact .of_log rfl
  · split
    · exact .of_log rfl
    · split
      · exact askForAnalysis_hears s job own
      · exact .of_log rfl

theorem pollPull_hears (s : Service) (job : Nat) (request : RequestId) {i : Inquiry} (own : wanted i.record) :
    Hears wanted s (s.pollPull job request i) := by
  have asked : Hears wanted s (s.pollInquiry job i).1 := (pollInquiry_pursues s job own).hears
  unfold pollPull
  split
  all_goals
    next h =>
      rw [h] at asked
      exact asked

theorem pollWorkspace_hears (s : Service) (job : Nat) (request : RequestId) {targets : List Target}
    (own : ∀ t ∈ targets, wanted t.inquiry.record) : Hears wanted s (s.pollWorkspace job request targets) := by
  have asked : Hears wanted s (s.pollTargets job targets).1 := pollTargets_hears s job own
  unfold pollWorkspace
  dsimp only
  split
  · exact asked
  · exact asked

/-- A poll of a job calls the host for nothing but the records that the job asks for. -/
theorem poll_hears {b : Job} (hj : s.job? n = some b) :
    Hears (fun id => ∃ i ∈ b.inquiries, i.record = id) s (s.poll n) := by
  unfold poll
  rw [hj]
  cases b with
  | analysis delay i => exact pollAnalysis_hears s n delay ⟨i, List.mem_singleton_self i, rfl⟩
  | pull request i => exact pollPull_hears s n request ⟨i, List.mem_singleton_self i, rfl⟩
  | workspace request targets =>
    exact pollWorkspace_hears s n request fun t ht => ⟨t.inquiry, List.mem_map_of_mem ht, rfl⟩

end ShaderDiagnostics.Service
