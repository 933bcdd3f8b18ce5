import ShaderDiagnostics.Proofs.Service.Deeds

/-!
# What is owed to the editor

A request for diagnostics is answered at once or gets a job, and such a job is done when it answers. So as far as
the answers sent and the jobs left are counted together, a poll changes nothing, whichever way it leaves the job
(`Service.Intact.poll_accounts`), and a request for diagnostics that is accepted counts once
(`Service.pullDocument_accounts`). Other events go on in the background (`Service.Background`): they tell the editor
of diagnostics, ask it to ask again and start analyses, and none of these answers anything.
-/

namespace ShaderDiagnostics

/-- The request that a message answers, if it is an answer. -/
def Outgoing.answered? : Outgoing → Option RequestId
  | .reply id _ => some id
  | .refusal id _ _ => some id
  | _ => none

namespace Service

variable {s s' t : Service} {job : Nat} {b : Job} {request : RequestId}

/-- How many answers have been sent to the requests with an id. -/
def responses (s : Service) (id : RequestId) : Nat :=
  s.outbox.sent.countP fun m => m.answered? = some id

/-- How many jobs are to answer a request with an id. -/
def unfinished (s : Service) (id : RequestId) : Nat :=
  s.jobs.countP fun j => j.2.request? = some id

/-! ### Answers and jobs -/

theorem responses_tell (s : Service) (notice : Notice) (id : RequestId) :
    (s.tell notice).responses id = s.responses id :=
  List.countP_cons_of_neg (by simp [Outgoing.answered?])

theorem responses_reply (s : Service) (request : RequestId) (reply : Reply) (id : RequestId) :
    (s.reply request reply).responses id = s.responses id + if request = id then 1 else 0 := by
  refine (List.countP_cons ..).trans ?_
  simp [responses, Outgoing.answered?]

theorem responses_refuse (s : Service) (request : RequestId) (code : Int) (message : String) (id : RequestId) :
    (s.refuse request code message).responses id = s.responses id + if request = id then 1 else 0 := by
  refine (List.countP_cons ..).trans ?_
  simp [responses, Outgoing.answered?]

theorem unfinished_spawn (s : Service) (b : Job) (id : RequestId) :
    (s.spawn b).unfinished id = s.unfinished id + if b.request? = some id then 1 else 0 := by
  refine (List.countP_append ..).trans ?_
  simp [unfinished, List.countP_cons]

section

variable (distinct : (s.jobs.map (·.1)).Nodup) (here : (job, b) ∈ s.jobs)
include distinct here

/-- A job that is done leaves the others. -/
theorem unfinished_endJob (id : RequestId) :
    s.unfinished id = (s.endJob job).unfinished id + if b.request? = some id then 1 else 0 := by
  obtain ⟨front, back, jobs⟩ := List.append_of_mem here
  have rest : (s.endJob job).jobs = front ++ back := by
    rw [jobs, List.map_append, List.map_cons, List.nodup_middle, List.nodup_cons, ← List.map_append] at distinct
    have apart : ∀ j ∈ front ++ back, (j.1 != job) = true := fun j hj =>
      bne_iff_ne.2 fun own => distinct.1 (List.mem_map.2 ⟨j, hj, own⟩)
    show s.jobs.filter (fun j => j.1 != job) = front ++ back
    rw [jobs, List.filter_append, List.filter_cons_of_neg (by simp), ← List.filter_append,
      List.filter_eq_self.2 apart]
  rw [unfinished, unfinished, jobs, rest, List.countP_append, List.countP_append, List.countP_cons]
  simp only [decide_eq_true_eq, Nat.add_assoc]

/-- A job that goes on has the same request to answer. -/
theorem unfinished_setJob {b' : Job} (same : b'.request? = b.request?) (id : RequestId) :
    (s.setJob job b').unfinished id = s.unfinished id := by
  refine (List.countP_map ..).trans (List.countP_congr fun j hj => ?_)
  simp only [Function.comp_apply]
  split
  next own =>
    obtain rfl : j = (job, b) := List.inj_on_of_nodup_map distinct hj here (eq_of_beq own)
    simp only [same]
  · rfl

/-- However a poll leaves a job, the answers sent and the jobs left are as many as before. -/
theorem Leaves.accounts (h : Leaves s job b s') (id : RequestId) :
    s'.responses id + s'.unfinished id = s.responses id + s.unfinished id := by
  have ended := unfinished_endJob distinct here id
  cases h with
  | rests => rfl
  | goesOn heir => rw [unfinished_setJob distinct here heir.same.request?]; rfl
  | ends background =>
    rw [background, if_neg nofun] at ended
    rw [ended]
    rfl
  | @answers request reply right =>
    have answered := responses_reply s request reply id
    simp only [right.request?, Option.some.injEq] at ended
    show (s.reply request reply).responses id + (s.endJob job).unfinished id = _
    omega
  | @refuses request code message own =>
    have answered := responses_refuse s request code message id
    simp only [own, Option.some.injEq] at ended
    show (s.refuse request code message).responses id + (s.endJob job).unfinished id = _
    omega

end

/-- A poll answers a request only if a job is done with it. -/
theorem Intact.poll_accounts (h : s.Intact) (job : Nat) (id : RequestId) :
    (s.poll job).responses id + (s.poll job).unfinished id = s.responses id + s.unfinished id := by
  rcases h.poll_cases job with same | ⟨b, t, hb, course, leaves⟩
  · rw [same]
  · have jobs : t.jobs = s.jobs := course.quiet.jobs
    obtain ⟨notices, sent⟩ := course.tells
    have told : t.responses id = s.responses id := by
      rw [responses, sent, List.countP_append, List.countP_map, List.countP_eq_zero.2, Nat.zero_add, responses]
      simp [Outgoing.answered?]
    rw [leaves.accounts (jobs ▸ h.distinct) (jobs ▸ mem_of_job? hb), told, unfinished, jobs, unfinished]

/-! ### Requests for diagnostics -/

/-- A request for the diagnostics of a document that is accepted has been answered or has a job. -/
theorem pullDocument_accounts (h : s.registry.Sound) {p : Message.DocumentPull}
    (accepted : s.pullDocument request p = .ok t) (id : RequestId) :
    t.responses id + t.unfinished id =
      s.responses id + s.unfinished id + if request = id then 1 else 0 := by
  obtain ⟨path, -, he⟩ := ok_of_pathOf accepted
  obtain ⟨r, known, -⟩ := known_ensured h path
  have hr : (s.ensure path).1.registry.record? (s.ensure path).2 = some r := known.1
  dsimp only at he
  rw [hr] at he
  dsimp only at he
  have ensured : (s.ensure path).1.responses id = s.responses id := rfl
  have answered : ∀ reply, ((s.ensure path).1.reply request reply).responses id +
      ((s.ensure path).1.reply request reply).unfinished id =
        s.responses id + s.unfinished id + if request = id then 1 else 0 := by
    intro reply
    rw [responses_reply, ensured, Nat.add_right_comm]
    rfl
  split at he
  · obtain rfl := Except.ok.inj he
    exact answered _
  · split at he
    · obtain rfl := Except.ok.inj he
      exact answered _
    · obtain rfl := Except.ok.inj he
      rw [unfinished_spawn]
      simp only [Job.request?, Option.some.injEq, ← Nat.add_assoc]
      rfl

/-- A request for the diagnostics of the workspace has a job. -/
theorem pullWorkspace_accounts (s : Service) (request : RequestId) (known : List Message.KnownResult)
    (id : RequestId) :
    (s.pullWorkspace request known).responses id + (s.pullWorkspace request known).unfinished id =
      s.responses id + s.unfinished id + if request = id then 1 else 0 := by
  rw [pullWorkspace, unfinished_spawn]
  simp only [Job.request?, Option.some.injEq, ← Nat.add_assoc]
  rfl

/-! ### In the background -/

/-- The service has gone on without an answer to a request and without a new job for one. -/
structure Background (s s' : Service) : Prop where
  sent : ∃ news, s'.outbox.sent = news ++ s.outbox.sent ∧ ∀ m ∈ news, m.answered? = none
  jobs : ∃ added, s'.jobs = s.jobs ++ added ∧ ∀ j ∈ added, j.2.request? = none

namespace Background

theorem of_same (outbox : s'.outbox = s.outbox) (jobs : s'.jobs = s.jobs) : Background s s' :=
  ⟨⟨[], by rw [outbox]; rfl, by simp⟩, [], by simp [jobs], by simp⟩

theorem refl (s : Service) : Background s s := of_same rfl rfl

/-- Something that concerns neither messages nor jobs has come before. -/
theorem before (h : Background t s') (outbox : t.outbox = s.outbox) (jobs : t.jobs = s.jobs) :
    Background s s' := by
  obtain ⟨sent, background⟩ := h
  rw [outbox] at sent
  rw [jobs] at background
  exact ⟨sent, background⟩

theorem trans (h : Background s s') (h' : Background s' t) : Background s t := by
  obtain ⟨⟨news, sent, quiet⟩, added, jobs, background⟩ := h
  obtain ⟨⟨news', sent', quiet'⟩, added', jobs', background'⟩ := h'
  refine ⟨⟨news' ++ news, by rw [sent', sent, List.append_assoc], ?_⟩,
    added ++ added', by rw [jobs', jobs, List.append_assoc], ?_⟩
  · exact fun m hm => (List.mem_append.1 hm).elim (quiet' m) (quiet m)
  · exact fun j hj => (List.mem_append.1 hj).elim (background j) (background' j)

theorem foldl {f : Service → Nat → Service} (h : ∀ s n, Background s (f s n)) (l : List Nat) (s : Service) :
    Background s (l.foldl f s) :=
  List.foldlRecOn l f (refl s) fun t quiet n _ => quiet.trans (h t n)

/-- A message that is no answer. -/
theorem send (s : Service) {m : Outgoing} (plain : m.answered? = none) :
    Background s { s with outbox := s.outbox.send m } :=
  ⟨⟨[m], rfl, by simpa using plain⟩, [], (List.append_nil _).symm, by simp⟩

theorem responses_eq (h : Background s s') (id : RequestId) : s'.responses id = s.responses id := by
  obtain ⟨news, sent, quiet⟩ := h.sent
  have silent : (news.countP fun m => m.answered? = some id) = 0 :=
    List.countP_eq_zero.2 fun m hm => by simp [quiet m hm]
  rw [responses, sent, List.countP_append, silent, Nat.zero_add, responses]

theorem unfinished_eq (h : Background s s') (id : RequestId) : s'.unfinished id = s.unfinished id := by
  obtain ⟨added, jobs, background⟩ := h.jobs
  have idle : (added.countP fun j => j.2.request? = some id) = 0 :=
    List.countP_eq_zero.2 fun j hj => by simp [background j hj]
  rw [unfinished, jobs, List.countP_append, idle, Nat.add_zero, unfinished]

end Background

theorem ask_background (s : Service) (q : Question) : Background s (s.ask q) :=
  ⟨⟨[.question s.outbox.next q], rfl, by simp [Outgoing.answered?]⟩, [], (List.append_nil _).symm, by simp⟩

theorem report_background (s : Service) (name : String) (e : ServiceError) :
    Background s (s.report name e) :=
  .send s rfl

theorem publish_background (s : Service) (id : Nat) (found : List Diagnostic) :
    Background s (s.publish id found) := by
  cases hr : s.registry.record? id with
  | none =>
    have same : s.publish id found = s := by
      unfold publish
      rw [hr]
    exact same.symm ▸ .refl s
  | some r =>
    rcases publish_cases hr found with same | ⟨outbox, same, notices, sent⟩
    · exact same.symm ▸ .refl s
    · rw [same]
      exact ⟨⟨notices.map .notice, sent, by simp [Outgoing.answered?]⟩, [], (List.append_nil _).symm, by simp⟩

theorem retract_background (s : Service) (id : Nat) : Background s (s.retract id) :=
  (publish_background _ id []).before rfl rfl

theorem analyze_background (s : Service) (id : Nat) : Background s (s.analyze id) := by
  unfold analyze
  split
  · exact .refl s
  · split
    · exact ⟨⟨[], rfl, by simp⟩, [_], rfl, by simp [Job.request?]⟩
    · exact .refl s

/-- The diagnostics of a document that has changed are taken back. -/
theorem takeBack_background (s : Service) (id : Nat) : Background s ((s.bump id).retract id) :=
  (retract_background _ id).before rfl rfl

theorem withdraw_background (s : Service) (id : Nat) : Background s (s.withdraw id) :=
  unlessOpened_ind (.refl s) fun _ _ _ => takeBack_background s id

theorem dropUnmapped_background (s : Service) (id : Nat) : Background s (s.dropUnmapped id) :=
  dropUnmapped_ind (.refl s) fun _ _ _ _ => (takeBack_background s id).trans (.of_same rfl rfl)

theorem diskDelete_background (s : Service) (p : Path) : Background s (s.diskDelete p) := by
  refine diskDelete_ind (.refl s) fun id _ _ _ _ => ?_
  split
  · exact (takeBack_background s id).trans (.of_same rfl rfl)
  · exact .of_same rfl rfl

theorem fileEvent_background (s : Service) (e : Message.FileEvent) : Background s (s.fileEvent e) :=
  fileEvent_ind (.refl s) (fun _ _ => .of_same rfl rfl) (fun _ _ => (analyze_background _ _).before rfl rfl)
    (fun _ _ => (analyze_background _ _).before rfl rfl) fun p _ _ => diskDelete_background s p

theorem refresh_background (s : Service) : Background s s.refresh := by
  unfold refresh Outbox.refresh
  split
  · exact ask_background s .refresh
  · exact .refl s

theorem configure_background (s : Service) (settings : Settings) : Background s (s.configure settings) := by
  have taken : Background s (s.takeSettings settings) := by
    have replaced : Background s (s.replaceSettings settings) := .of_same rfl rfl
    rw [takeSettings_eq]
    split
    · exact replaced.trans (.foldl dropUnmapped_background _ _)
    · exact replaced
  have withdrawn : ∀ (t : Service) change, Background t (t.withdrawClosed change) := by
    intro t change
    unfold withdrawClosed
    split
    · exact .foldl withdraw_background _ t
    · exact .refl t
  have analyzed : ∀ t : Service, Background t t.analyzeAll := fun t => .foldl analyze_background _ t
  unfold configure
  dsimp only
  split
  · refine taken.trans ?_
    rw [reconsider_eq]
    split
    · exact (Background.foldl retract_background _ _).trans (refresh_background _)
    · split
      · exact ((withdrawn _ _).trans (analyzed _)).trans (refresh_background _)
      · exact withdrawn _ _
  · exact taken.trans (analyzed _)

/-- An event that is no poll and no request for diagnostics goes on in the background. -/
theorem step_background (s : Service) {e : Event} (poll : ∀ job, e ≠ .polled job) (pull : e.isPull = false) :
    Background s (s.step e) := by
  cases e with
  | opened uri text version =>
    refine orUnchanged_ind (.refl s) fun t ht => ?_
    obtain ⟨p, -, rfl⟩ := didOpen_eq ht
    exact (analyze_background _ _).before rfl rfl
  | edited uri edits version =>
    refine orUnchanged_ind (.refl s) fun t ht => ?_
    obtain ⟨p, editor, -, -, rfl⟩ := didChange_eq ht
    exact (analyze_background _ _).before rfl rfl
  | closed uri =>
    refine orUnchanged_ind (.refl s) fun t ht => ?_
    obtain ⟨p, -, rfl⟩ := didClose_eq ht
    dsimp only
    split
    · exact (analyze_background _ _).before rfl rfl
    · exact (retract_background _ _).before rfl rfl
  | file e => exact fileEvent_background s e
  | configured settings => exact configure_background s settings
  | pulled request p => cases pull
  | pulledAll request known => cases pull
  | polled job => exact absurd rfl (poll job)
  | elapsed milliseconds => exact .of_same rfl rfl
  | released gate => exact .of_same rfl rfl
  | host host => exact .of_same rfl rfl

end Service

end ShaderDiagnostics
