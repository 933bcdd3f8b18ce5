import ShaderDiagnostics.Proofs.Service.Deeds
import ShaderDiagnostics.Proofs.Service.Handing
import ShaderDiagnostics.Proofs.Service.ResultIds

/-!
# What the editor is known to show

A record notes the token of the diagnostics that have been handed over last for it, and an editor that names
the current token is told that nothing has changed only if it is the token noted. As long as neither the
document nor the settings get a new version, nothing but polls changes what is noted (`Service.step_abides`),
so it is the last token handed over (`Service.Unaltered.shown`). An answer that comes late may be for an older
token, and it is noted all the same. Hence an editor that names the current token, under which it has got a full
report, is told that nothing has changed if and only if that is the token of what has been handed over last
since it first asked (`Service.unchanged_iff`); it is not told so if a slower answer has come in between
(`Service.late_displaces`).
-/

namespace ShaderDiagnostics.Service

variable {s s' t : Service} {id n : Nat} {r : Record} {e : Event} {es : List Event} {p : Path}

/-! ### What happens besides polls -/

/-- A record stays, and either it has got the next version, or it shows what it has shown. -/
def Abides (id : Nat) (s s' : Service) : Prop :=
  ∀ r, s.registry.record? id = some r → ∃ r', s'.registry.record? id = some r' ∧
    (r'.version = r.version ∧ r'.display = r.display ∨ r'.version = r.version + 1)

namespace Abides

theorem of_record (h : ∀ r, s.registry.record? id = some r → s'.registry.record? id = some r) :
    Abides id s s' := fun r hr => ⟨r, h r hr, Or.inl ⟨rfl, rfl⟩⟩

theorem of_registry (h : s'.registry = s.registry) : Abides id s s' := of_record fun _ hr => h ▸ hr

theorem refl (s : Service) : Abides id s s := of_registry rfl

/-- Nothing has changed about the records before. -/
theorem before (h : Abides id s' t)
    (same : ∀ r, s.registry.record? id = some r → s'.registry.record? id = some r) : Abides id s t :=
  fun r hr => h r (same r hr)

/-- Nothing changes about the records afterwards. -/
theorem beside (h : Abides id s s') (same : t.registry.record? id = s'.registry.record? id) : Abides id s t :=
  fun r hr => same.symm ▸ h r hr

/-- An analysis does not touch records. -/
theorem analyze (h : Abides id s s') (n : Nat) : Abides id s (s'.analyze n) :=
  h.beside (by rw [registry_analyze])

end Abides

theorem touch_abides (hr : s.registry.record? n = some r) (editor : Editor) (opened : Bool) :
    Abides id s (s.touch n editor opened) := by
  intro r₁ h₁
  rw [record?_touch hr]
  split
  next own =>
    obtain rfl := Option.some.inj ((own ▸ h₁).symm.trans hr)
    exact ⟨_, rfl, Or.inr rfl⟩
  · exact ⟨r₁, h₁, Or.inl ⟨rfl, rfl⟩⟩

/-- Diagnostics that are taken back with a new version. -/
theorem touch_retract_abides (hr : s.registry.record? n = some r) (editor : Editor) (opened : Bool) :
    Abides id s ((s.touch n editor opened).retract n) := by
  obtain ⟨sequence, display, taken⟩ :=
    record?_retract ((record?_touch hr editor opened n).trans (if_pos rfl))
  intro r₁ h₁
  rw [taken, record?_touch hr]
  split
  next own =>
    obtain rfl := Option.some.inj ((own ▸ h₁).symm.trans hr)
    exact ⟨_, rfl, Or.inr rfl⟩
  · exact ⟨r₁, h₁, Or.inl ⟨rfl, rfl⟩⟩

theorem bump_abides (hr : s.registry.record? n = some r) : Abides id s (s.bump n) :=
  bump_eq_touch hr ▸ touch_abides hr _ _

theorem takeBack_abides (hr : s.registry.record? n = some r) : Abides id s ((s.bump n).retract n) :=
  bump_eq_touch hr ▸ touch_retract_abides hr _ _

theorem fileEvent_abides (h : s.registry.Sound) (e : Message.FileEvent) : Abides id s (s.fileEvent e) := by
  have ensured : ∀ p r, s.registry.record? id = some r → (s.ensure p).1.registry.record? id = some r :=
    fun p _ hr => Registry.record?_ensure_of_record? hr p
  refine fileEvent_ind (.refl s) (fun p _ => .of_record (ensured p))
    (fun p _ => ((Abides.refl _).analyze _).before (ensured p)) (fun p _ => ?_) fun p _ _ => ?_
  · obtain ⟨r, known, -⟩ := known_ensured h p
    exact ((bump_abides known.1).analyze _).before (ensured p)
  · refine diskDelete_ind (.refl s) fun n r _ hr _ => ?_
    split
    · exact (takeBack_abides hr).beside rfl
    · exact (bump_abides hr).beside rfl

/-- If the diagnostics of documents that are not open are taken back, their records get the next version. -/
theorem withdrawClosed_abides (h : s.registry.Sound) (change : SettingsChange) :
    Abides id s (s.withdrawClosed change) := by
  unfold withdrawClosed
  split
  · intro r hr
    -- a record that is left to be looked at is what it was
    refine (foldl_rest (f := Service.withdraw) (I := fun l t => Withdrawing s t l ∧
      ∃ r', t.registry.record? id = some r' ∧
        (r'.version = r.version ∧ r'.display = r.display ∨ id ∉ l ∧ r'.version = r.version + 1))
      (fun n l t ht => ?_) s.registry.all ⟨.start h, r, hr, Or.inl ⟨rfl, rfl⟩⟩).2.imp fun r' h' =>
        ⟨h'.1, h'.2.imp_right And.right⟩
    obtain ⟨w, r', hr', abides⟩ := ht
    refine ⟨w.next h, ?_⟩
    obtain ⟨r₁, known₁, h₁⟩ := w.left n List.mem_cons_self
    have looked : r'.version = r.version ∧ r'.display = r.display ∨ id ∉ l ∧ r'.version = r.version + 1 :=
      abides.imp_right fun ⟨hn, hv⟩ => ⟨fun hl => hn (List.mem_cons_of_mem _ hl), hv⟩
    rw [withdraw_eq h₁]
    split
    · exact ⟨r', hr', looked⟩
    · obtain ⟨sequence, display, taken⟩ := record?_takeBack h₁
      rw [taken]
      split
      next own =>
        subst own
        obtain rfl := Option.some.inj (known₁.1.symm.trans hr)
        exact ⟨_, rfl, Or.inr ⟨(List.nodup_cons.1 w.nodup).1, rfl⟩⟩
      · exact ⟨r', hr', looked⟩
  · exact .refl s

/-- Unless settings get another version, a record that gets no new version shows what it has shown. -/
theorem configure_abides (h : s.registry.Sound) {settings : Settings}
    (level : (s.configure settings).settingsVersion = s.settingsVersion) :
    Abides id s (s.configure settings) := by
  have quiet : (SettingsChange.between s.settings settings).bumps = false := by
    have version := (configure_onward s settings).settingsVersion
    rw [level] at version
    by_contra bumps
    rw [Bool.not_eq_false] at bumps
    exact absurd (UInt32.left_eq_add.1 (version.trans (if_pos bumps))) (by decide)
  obtain ⟨enable, extensions⟩ : (SettingsChange.between s.settings settings).enable = false ∧
      (SettingsChange.between s.settings settings).extensions = false := by
    simp only [SettingsChange.bumps, SettingsChange.between, Bool.or_eq_false_iff] at quiet ⊢
    exact ⟨quiet.1.1.1.1.1.1, quiet.1.1.1.1.1.2⟩
  have taken : s.takeSettings settings = s.replaceSettings settings := by
    rw [takeSettings_eq, extensions]
    rfl
  have replaced : Abides id s (s.replaceSettings settings) := .of_registry rfl
  unfold configure
  dsimp only
  rw [taken]
  split
  · have withdrawn : Abides id s _ := withdrawClosed_abides (s := s.replaceSettings settings) h
      (SettingsChange.between s.settings settings)
    rw [reconsider_eq, enable, Bool.false_and, if_neg Bool.false_ne_true]
    split
    · have analyzed := congrArg (fun g => g.record? id) (registry_analyzeAll
        ((s.replaceSettings settings).withdrawClosed (SettingsChange.between s.settings settings)))
      exact withdrawn.beside analyzed
    · exact withdrawn
  · exact replaced.beside (by rw [registry_analyzeAll])

/-- Only polls change what a record shows as long as neither its document nor the settings get a new
version. -/
theorem step_abides (h : s.registry.Sound) (other : ∀ job, e ≠ .polled job)
    (level : (s.step e).settingsVersion = s.settingsVersion) : Abides id s (s.step e) := by
  have ensured : ∀ p r, s.registry.record? id = some r → (s.ensure p).1.registry.record? id = some r :=
    fun p _ hr => Registry.record?_ensure_of_record? hr p
  cases e with
  | opened uri text version =>
    refine orUnchanged_ind (.refl s) fun t ht => ?_
    obtain ⟨p, -, rfl⟩ := didOpen_eq ht
    obtain ⟨r, known, -⟩ := known_ensured h p
    have moved : ({ s with editor := s.editor.opened p text version }.ensure p).1.setOpened (s.ensure p).2
        true = (s.ensure p).1.touch (s.ensure p).2 _ true := touch_eq_setOpened (s.ensure p).1 _ _ _
    rw [moved]
    exact ((touch_abides known.1 _ _).analyze _).before (ensured p)
  | edited uri edits version =>
    refine orUnchanged_ind (.refl s) fun t ht => ?_
    obtain ⟨p, editor, -, -, rfl⟩ := didChange_eq ht
    obtain ⟨r, known, -⟩ := known_ensured h p
    have touched : ({ s with editor }.ensure p).1.bump (s.ensure p).2 =
        (s.ensure p).1.touch (s.ensure p).2 editor r.opened := touch_eq_bump known.1 editor
    rw [touched]
    exact ((touch_abides known.1 _ _).analyze _).before (ensured p)
  | closed uri =>
    refine orUnchanged_ind (.refl s) fun t ht => ?_
    obtain ⟨p, -, rfl⟩ := didClose_eq ht
    obtain ⟨r, known, -⟩ := known_ensured h p
    have moved : ({ s with editor := s.editor.closed p }.ensure p).1.setOpened (s.ensure p).2 false =
        (s.ensure p).1.touch (s.ensure p).2 _ false := touch_eq_setOpened (s.ensure p).1 _ _ _
    dsimp only
    rw [moved]
    split
    · exact ((touch_abides known.1 _ _).analyze _).before (ensured p)
    · exact (touch_retract_abides known.1 _ _).before (ensured p)
  | file e => exact fileEvent_abides h e
  | configured settings => exact configure_abides h level
  | pulled request p =>
    refine orUnchanged_ind (.refl s) fun t ht => ?_
    obtain ⟨path, -, rfl | ⟨reply, rfl⟩ | ⟨r, -, -, rfl⟩⟩ := pullDocument_eq ht
    all_goals exact .of_record (ensured path)
  | polled job => exact absurd rfl (other job)
  | _ => exact .of_registry rfl

/-- What a record shows after an event that brings no new version is what the event has handed over last. -/
theorem step_shown (h : s.Intact)
    (content : (s.step e).registry.version id = s.registry.version id)
    (level : (s.step e).settingsVersion = s.settingsVersion) : Shown id (s.handsOver id e) s (s.step e) := by
  by_cases poll : ∃ job, e = .polled job
  · obtain ⟨job, rfl⟩ := poll
    exact poll_shown s id job
  · have other : ∀ job, e ≠ .polled job := fun job he => poll ⟨job, he⟩
    have none : s.handsOver id e = [] := by
      cases e with
      | polled job => exact absurd rfl (other job)
      | _ => rfl
    intro r hr
    obtain ⟨r', hr', ⟨-, same⟩ | raised⟩ := step_abides h.registry other level r hr
    · exact ⟨r', hr', by rw [none, same]; rfl⟩
    · rw [Registry.version_of_record? hr, Registry.version_of_record? hr', raised] at content
      exact absurd (UInt32.left_eq_add.1 content.symm) (by decide)

/-! ### Runs without new versions -/

/-- Over a run neither the document of a record nor the settings get a new version. -/
structure Unaltered (s : Service) (id : Nat) (es : List Event) : Prop where
  content : rises (fun s => s.registry.version id) s es = 0
  settings : rises Service.settingsVersion s es = 0

theorem Unaltered.cons (h : Unaltered s id (e :: es)) :
    (s.step e).registry.version id = s.registry.version id ∧ (s.step e).settingsVersion = s.settingsVersion ∧
      Unaltered (s.step e) id es :=
  ⟨(rises_cons_eq_zero h.content).1, (rises_cons_eq_zero h.settings).1, (rises_cons_eq_zero h.content).2,
    (rises_cons_eq_zero h.settings).2⟩

/-- Versions are what they were after a run that brings no new ones. -/
theorem Unaltered.level (h : Unaltered s id es) :
    (s.after es).registry.version id = s.registry.version id ∧
      (s.after es).settingsVersion = s.settingsVersion := by
  induction es generalizing s with
  | nil => exact ⟨rfl, rfl⟩
  | cons e es ih =>
    obtain ⟨content, settings, rest⟩ := h.cons
    obtain ⟨content', settings'⟩ := ih rest
    exact ⟨content'.trans content, settings'.trans settings⟩

/-- What a record shows after a run that brings no new versions is what the run has handed over last. -/
theorem Unaltered.shown (h : Unaltered s id es) (intact : s.Intact) :
    Shown id (s.handed id es) s (s.after es) := by
  induction es generalizing s with
  | nil => exact .refl s
  | cons e es ih =>
    obtain ⟨content, settings, rest⟩ := h.cons
    exact (step_shown intact content settings).trans (ih rest (intact.step e))

/-! ### What the editor is told -/

variable {request : RequestId} {p : Message.DocumentPull} {path : Path} {token : Token}

theorem replies_reply (s : Service) (request : RequestId) (reply : Reply) :
    Replies s (s.reply request reply) request reply := by
  have sent : (s.reply request reply).outbox.sent = [.reply request reply] ++ s.outbox.sent := rfl
  unfold Replies
  rw [Outbox.since_of_append sent]
  exact List.mem_singleton_self _

/-- An editor that names the current token is told at once that nothing has changed if and only if the document
is in scope and the record shows that token. -/
theorem replies_unchanged_iff (known : s.registry.Known id r) (asked : p.uri.path? = some path)
    (same : r.path.same path = true) (named : p.previous = some (s.tokenOf r).text) :
    Replies s (s.step (.pulled request p)) request (.document (.unchanged (s.tokenOf r))) ↔
      s.inScope r = true ∧ r.display = some (s.tokenOf r) := by
  have found : s.registry.find? path = some id := (PathMap.get?_congr _ same).symm.trans known.2
  have there : s.ensure path = (s, id) := by
    unfold ensure Registry.ensure
    rw [found]
  have told : s.pullDocument request p = .ok (
      if s.inScope r = true then
        if r.display = some (s.tokenOf r) then s.reply request (.document (.unchanged (s.tokenOf r)))
        else s.spawn (.pull request (s.inquire id r))
      else s.reply request (.document (.full none []))) := by
    have name : pathOf p.uri = .ok path := by simp only [pathOf, asked]
    have shown : s.isShown id (s.tokenOf r) p.previous = decide (r.display = some (s.tokenOf r)) := by
      simp [isShown, known.1, named, beq_eq_decide]
    simp only [pullDocument, name, bind, Except.bind, there, known.1, shown]
    cases s.inScope r with
    | false => rfl
    | true => by_cases shown : r.display = some (s.tokenOf r) <;> simp [shown, pure, Except.pure]
  have step : s.step (.pulled request p) = _ := congrArg s.orUnchanged told
  rw [step]
  by_cases scope : s.inScope r = true
  · by_cases shown : r.display = some (s.tokenOf r)
    · rw [if_pos scope, if_pos shown]
      exact iff_of_true (replies_reply s request _) ⟨scope, shown⟩
    · rw [if_pos scope, if_neg shown]
      exact iff_of_false (Tells.of_outbox rfl).not_replies fun h => shown h.2
  · rw [if_neg scope]
    refine iff_of_false (fun h => ?_) fun h => scope h.1
    cases (h.of_reply rfl).2

variable {host : Host} {delivery : Delivery} {settings : Settings} {waits : Bool}
  {before between since : List Event} {found : List Diagnostic} {r' : Record}

/-- **Unchanged again.** The editor has asked for diagnostics and has got a full report on a document, and since
it asked neither the document nor the settings have got another version. If it asks for the document, which is
still known, and names the token of the report, then it is told at once that nothing has changed if and only if
the document is in scope and the diagnostics of the document that have been handed over last since it first
asked are those of that token. -/
theorem unchanged_iff
    (served : Served (start host delivery settings waits) before e between id r (.full (some token) found))
    (past : between ++ [.polled ((start host delivery settings waits).after before).nextJob] <+: since)
    (unaltered : Unaltered (session host delivery settings waits (before ++ [e])) id since)
    (known : (session host delivery settings waits (before ++ e :: since)).registry.Known id r')
    (asked : p.uri.path? = some path) (same : r'.path.same path = true)
    (named : p.previous = some token.text) :
    let first := session host delivery settings waits (before ++ [e])
    let now := session host delivery settings waits (before ++ e :: since)
    Replies now (now.step (.pulled request p)) request (.document (.unchanged token)) ↔
      now.inScope r' = true ∧ (first.handed id since).getLast? = some token := by
  intro first now
  have later : now = first.after since := by
    show session host delivery settings waits (before ++ e :: since) = _
    rw [List.append_cons, session, after_append]
    rfl
  have hr : first.registry.record? id = some r := served.known.1
  have hr' : (first.after since).registry.record? id = some r' := later ▸ known.1
  have current : token = now.tokenOf r' := by
    obtain ⟨name, -⟩ := served.fits
    obtain ⟨content, level⟩ : (first.after since).registry.version id = first.registry.version id ∧
      (first.after since).settingsVersion = first.settingsVersion := unaltered.level
    rw [Registry.version_of_record? hr', Registry.version_of_record? hr] at content
    rw [Option.some.inj name, later]
    show first.tokenOf r = _
    simp only [tokenOf, Record.token, content, level]
  have handed : token ∈ first.handed id since := by
    obtain ⟨rest, rfl⟩ := past
    rw [handed_append]
    exact List.mem_append_left _ served.handed
  obtain ⟨r₁, hr₁, shown⟩ := unaltered.shown (session_intact host delivery settings waits _) r hr
  obtain rfl := Option.some.inj (hr₁.symm.trans hr')
  obtain ⟨last, hl⟩ : ∃ last, (first.handed id since).getLast? = some last :=
    ⟨_, List.getLast?_eq_some_getLast (List.ne_nil_of_mem handed)⟩
  rw [hl, Option.some_or] at shown
  rw [current] at named ⊢
  rw [replies_unchanged_iff known asked same named, shown, hl]

/-- The shader is opened, asked for and edited. -/
def overtaking : List Event := [.opened shaderUri "x".toList 1, asking] ++ revising

/-- The editor asks for the diagnostics of the shader once more. -/
def askingAgain : Event := .pulled (.number 2) ⟨shaderUri, none⟩

/-- The editor asks for the diagnostics of the shader, naming what it has been sent after its edit. -/
def recalling : Event := .pulled (.number 3) ⟨shaderUri, some "3:0"⟩

/-- The requests are answered in order. Then the editor is told that nothing has changed since the second
answer. -/
theorem ordered_unchanged :
    let first := session strictHost (.pull false) promptSettings false (overtaking ++ [askingAgain])
    let now := session strictHost (.pull false) promptSettings false
      (overtaking ++ askingAgain :: [.polled 1, .polled 3])
    Unaltered first 0 [.polled 1, .polled 3] ∧ first.handed 0 [.polled 1, .polled 3] = [⟨2, 0⟩, ⟨3, 0⟩] ∧
      Replies now (now.step recalling) (.number 3) (.document (.unchanged ⟨3, 0⟩)) := by
  intro first now
  obtain ⟨r₀, served⟩ : ∃ r, Served (start strictHost (.pull false) promptSettings false) overtaking
      askingAgain [.polled 1] 0 r (.full (some ⟨3, 0⟩) (fault 2)) :=
    served_of_sent (by decide +kernel) (by decide +kernel) (by decide +kernel)
  have unaltered : Unaltered first 0 [.polled 1, .polled 3] := ⟨by decide +kernel, by decide +kernel⟩
  have handed : first.handed 0 [.polled 1, .polled 3] = [⟨2, 0⟩, ⟨3, 0⟩] := by decide +kernel
  obtain ⟨path, r, asked, known, same⟩ : ∃ path r, shaderUri.path? = some path ∧ now.registry.Known 0 r ∧
    r.path.same path = true := known_of_any (p := ⟨shaderUri, some "3:0"⟩) (by decide +kernel)
  have scope : (now.registry.record? 0).all now.inScope = true := by decide +kernel
  rw [known.1] at scope
  refine ⟨unaltered, handed, (unchanged_iff served ?_ unaltered known asked same rfl).2 ⟨scope, ?_⟩⟩
  · have next : ((start strictHost (.pull false) promptSettings false).after overtaking).nextJob = 3 := by
      decide +kernel
    rw [next]
    exact List.prefix_rfl
  · exact congrArg List.getLast? handed

/-- The second request is answered first, and the first one then. Neither the shader nor the settings have got
another version since the second request, and the shader is in scope; but the editor is not told at once that
nothing has changed since the second answer, and then gets the same full report again. -/
theorem late_displaces :
    let first := session strictHost (.pull false) promptSettings false (overtaking ++ [askingAgain])
    let now := session strictHost (.pull false) promptSettings false
      (overtaking ++ askingAgain :: [.polled 3, .polled 1])
    (∃ r, Served (start strictHost (.pull false) promptSettings false) overtaking askingAgain [] 0 r
      (.full (some ⟨3, 0⟩) (fault 2))) ∧
      Unaltered first 0 [.polled 3, .polled 1] ∧
      (∃ r, now.registry.Known 0 r ∧ now.tokenOf r = ⟨3, 0⟩ ∧ now.inScope r = true) ∧
      ¬ Replies now (now.step recalling) (.number 3) (.document (.unchanged ⟨3, 0⟩)) ∧
      Replies (now.step recalling) ((now.step recalling).poll 4) (.number 3)
        (.document (.full (some ⟨3, 0⟩) (fault 2))) := by
  intro first now
  refine ⟨served_of_sent (by decide +kernel) (by decide +kernel) (by decide +kernel),
    ⟨by decide +kernel, by decide +kernel⟩, ?_, fun told => ?_, replies_of_findSome? (by decide +kernel)⟩
  · obtain ⟨path, r, -, known, -⟩ : ∃ path r, shaderUri.path? = some path ∧ now.registry.Known 0 r ∧
      r.path.same path = true := known_of_any (p := ⟨shaderUri, some "3:0"⟩) (by decide +kernel)
    have facts : (now.registry.record? 0).all
        (fun r => decide (now.tokenOf r = ⟨3, 0⟩) && now.inScope r) = true := by decide +kernel
    rw [known.1] at facts
    simp only [Option.all_some, Bool.and_eq_true, decide_eq_true_eq] at facts
    exact ⟨r, known, facts⟩
  · have silent : (now.step recalling).outbox.since now.outbox.sent.length = [] :=
      List.isEmpty_iff.1 (by decide +kernel)
    unfold Replies at told
    rw [silent] at told
    cases told

end ShaderDiagnostics.Service
