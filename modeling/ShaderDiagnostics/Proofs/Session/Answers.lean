import ShaderDiagnostics.Proofs.Service.Deeds
import ShaderDiagnostics.Server

/-!
# Settings that the editor answers with

An editor that answers questions for settings is asked at the start of the session and whenever it tells that
they have changed, so several questions may be open at once. Questions have growing numbers, and each is
answered at most once; answers under any other number are ignored (`Session.Dialogue`). Nothing but answers
changes the settings, and each answer does, whichever question it belongs to: the settings are those of the
answer that has come last, which is the answer to the question asked last as long as answers come in order.
-/

namespace ShaderDiagnostics

/-! ### Questions for settings -/

theorem questionId_inj {m n : Nat} : questionId m = questionId n ↔ m = n := by
  constructor
  · intro h
    have texts : "glsl-lsp/" ++ toString m = "glsl-lsp/" ++ toString n := RequestId.text.inj h
    have digits := (String.append_right_inj _).1 texts
    rw [Nat.toString_eq_ofList_toDigits, Nat.toString_eq_ofList_toDigits, String.ofList_inj] at digits
    rw [← Nat.ofDigitChars_ten_toDigits (n := m), digits, Nat.ofDigitChars_ten_toDigits]
  · exact congrArg questionId

namespace Outbox

variable {o : Outbox}

/-- The numbers of the questions for settings, in the order in which they have been asked. -/
def settingsAsked (o : Outbox) : List Nat :=
  o.sent.reverse.filterMap fun
    | .question n .settings => some n
    | _ => none

theorem settingsAsked_send {m : Outgoing} (plain : ∀ n, m ≠ .question n .settings) :
    (o.send m).settingsAsked = o.settingsAsked := by
  unfold settingsAsked send
  rw [List.reverse_cons, List.filterMap_append, List.filterMap_cons, List.filterMap_nil]
  split
  · exact List.append_nil _
  next heard =>
    split at heard
    next n => exact absurd rfl (plain n)
    · cases heard

theorem settingsAsked_ask {q : Question} (other : q ≠ .settings) :
    (o.ask q).settingsAsked = o.settingsAsked :=
  settingsAsked_send (o := o) (m := .question o.next q) fun _ h => other (Outgoing.question.inj h).2

theorem settingsAsked_publish (o : Outbox) (d : Delivery) (uri : Uri) (found : List Diagnostic)
    (number : Int) : (o.publish d uri found number).settingsAsked = o.settingsAsked := by
  cases d with
  | push versions => exact settingsAsked_send nofun
  | _ => rfl

theorem next_publish (o : Outbox) (d : Delivery) (uri : Uri) (found : List Diagnostic) (number : Int) :
    (o.publish d uri found number).next = o.next := by
  cases d <;> rfl

theorem settingsAsked_ask_settings (o : Outbox) :
    (o.ask .settings).settingsAsked = o.settingsAsked ++ [o.next] := by
  simp [settingsAsked, ask]

end Outbox

/-! ### What does not ask for settings -/

namespace Service

variable {s s' t : Service}

/-- The service has gone on under the same settings, and none have been asked for. -/
structure Aside (s s' : Service) : Prop where
  settings : s'.settings = s.settings
  asked : s'.outbox.settingsAsked = s.outbox.settingsAsked
  next : s.outbox.next ≤ s'.outbox.next
  sound : s.registry.Sound → s'.registry.Sound

namespace Aside

theorem refl (s : Service) : Aside s s := ⟨rfl, rfl, Nat.le_refl _, id⟩

theorem trans (h : Aside s s') (h' : Aside s' t) : Aside s t :=
  ⟨h'.settings.trans h.settings, h'.asked.trans h.asked, Nat.le_trans h.next h'.next, h'.sound ∘ h.sound⟩

end Aside

/-- Messages do not ask for settings, unless they do. -/
theorem aside_send (s : Service) {m : Outgoing} (plain : ∀ n, m ≠ .question n .settings) :
    Aside s { s with outbox := s.outbox.send m } :=
  ⟨rfl, Outbox.settingsAsked_send plain, Nat.le_refl _, id⟩

theorem aside_ask (s : Service) {q : Question} (other : q ≠ .settings) : Aside s (s.ask q) :=
  ⟨rfl, Outbox.settingsAsked_ask other, Nat.le_succ _, id⟩

theorem aside_publish (s : Service) (id : Nat) (found : List Diagnostic) :
    Aside s (s.publish id found) := by
  have sound := (publish_quiet s id found).sound
  have settings := (publish_quiet s id found).settings
  revert sound settings
  unfold publish
  split
  · exact fun _ _ => .refl s
  · split
    · split
      · exact fun _ _ => .refl s
      · exact fun sound settings => ⟨settings, Outbox.settingsAsked_publish _ _ _ _ _,
          Nat.le_of_eq (Outbox.next_publish _ _ _ _ _).symm, sound⟩
    · exact fun _ _ => .refl s

theorem aside_refresh (s : Service) : Aside s s.refresh := by
  unfold refresh Outbox.refresh
  split
  · exact aside_ask s nofun
  · exact .refl s

/-- No deed asks for settings. -/
theorem Deed.aside {lost : Path → Prop} (d : Deed lost s s') : Aside s s' := by
  have sound := d.sound
  cases d with
  | publishes id found => exact aside_publish s id found
  | @retracts id =>
    have shown : Aside s (s.show_ id none) := ⟨rfl, rfl, Nat.le_refl _, (show_quiet s id none).sound⟩
    exact shown.trans (aside_publish _ id [])
  | refreshes => exact aside_refresh s
  | reports name e => exact aside_send s nofun
  | replies request r => exact aside_send s nofun
  | refuses request code message => exact aside_send s nofun
  | @analyzes id =>
    rcases Service.analyze_cases s id with same | ⟨b, same⟩
    · exact same.symm ▸ .refl s
    · exact same.symm ▸ ⟨rfl, rfl, Nat.le_refl _, fun h => h⟩
  | _ => exact ⟨rfl, rfl, Nat.le_refl _, sound⟩

/-- Nothing but new settings changes the settings. -/
theorem step_aside (h : s.registry.Sound) {e : Event} (other : ∀ settings, e ≠ .configured settings) :
    Aside s (s.step e) :=
  step_lasting h (fun settings he => absurd he (other settings))
    (fun _ _ _ rest => rest.trans ⟨rfl, rfl, Nat.le_refl _, fun sound => sound.modify _ fun _ => rfl⟩)
    (fun _ d rest => rest.trans d.aside) (.refl s)

end Service

/-! ### Messages -/

namespace Session

variable {s s' t : Session} {settings : Settings} {answers : List (Nat × Settings)}

/-- The settings that an answer carries: the defaults, unless it has a result that can be read. -/
def carried (result : Option Json) (error : Option String) : Settings :=
  match error, result with
  | none, some result =>
    match answeredSettings result with
    | .ok settings => settings
    | .error _ => Settings.standard
  | _, _ => Settings.standard

/-- The session has gone on to settings, none of which it has asked for or got an answer to. -/
structure Goes (s s' : Session) (settings : Settings) : Prop where
  settings : s'.service.settings = settings
  inquiries : s'.service.outbox.settingsAsked = s.service.outbox.settingsAsked
  next : s.service.outbox.next ≤ s'.service.outbox.next
  sound : s.service.registry.Sound → s'.service.registry.Sound
  asked : s'.asked = s.asked
  support : s'.support = s.support

/-- The session has gone on under the same settings. -/
abbrev Goes.Still (s s' : Session) : Prop := Goes s s' s.service.settings

theorem Goes.trans (h : Goes s s' settings) (h' : Goes.Still s' t) : Goes s t settings where
  settings := h'.settings.trans h.settings
  inquiries := h'.inquiries.trans h.inquiries
  next := Nat.le_trans h.next h'.next
  sound := h'.sound ∘ h.sound
  asked := h'.asked.trans h.asked
  support := h'.support.trans h.support

theorem goes_refl (s : Session) : Goes.Still s s := ⟨rfl, rfl, Nat.le_refl _, id, rfl, rfl⟩

theorem goes_update {f : Service → Service} (h : Service.Aside s.service (f s.service)) :
    Goes.Still s (s.update f) :=
  ⟨h.settings, h.asked, h.next, h.sound, rfl, rfl⟩

theorem goes_watchFiles (s : Session) : Goes.Still s s.watchFiles := by
  have watched : ∀ t : Session, Goes.Still t
      { t.update fun v => v.ask (.watch v.settings.extensions.distinct) with watching := true } := fun t =>
    have aside := Service.aside_ask t.service (q := .watch t.service.settings.extensions.distinct) nofun
    ⟨aside.settings, aside.asked, aside.next, aside.sound, rfl, rfl⟩
  unfold watchFiles
  split
  · dsimp only
    split
    · exact (goes_update (Service.aside_ask s.service (q := .unwatch) nofun)).trans (watched _)
    · exact watched s
  · exact goes_refl s

/-- New settings are taken over. -/
theorem goes_configure (h : s.service.registry.Sound) (settings : Settings) :
    Goes s (s.configure settings) settings := by
  have deeds : Service.Deeds (fun _ => True) (s.service.replaceSettings settings)
      (s.service.configure settings) := Service.configure_deeds h settings fun _ _ => trivial
  have aside := deeds.lasting (I := Service.Aside _) (fun d rest => rest.trans d.aside) (.refl _)
  have configured : Goes s (s.update fun v => v.configure settings) settings :=
    ⟨aside.settings, aside.asked, aside.next, aside.sound, rfl, rfl⟩
  unfold configure
  dsimp only
  split
  · exact configured.trans (goes_watchFiles _)
  · exact configured

/-- An answer sets the settings that it carries. -/
theorem goes_answered (h : s.service.registry.Sound) (result : Option Json) (error : Option String) :
    Goes s (s.settingsAnswered result error) (carried result error) := by
  unfold settingsAnswered carried
  split
  · exact goes_configure h _
  · exact goes_configure h _
  · split
    next settings read =>
      simp only [read]
      exact goes_configure h settings
    next fault read =>
      simp only [read]
      have told : Goes.Still s (s.update fun v => v.report settingsMethod (.payload fault)) :=
        goes_update (Service.aside_send s.service nofun)
      obtain ⟨settings, inquiries, next, sound, asked, support⟩ := goes_configure (told.sound h)
        Settings.standard
      exact ⟨settings, inquiries.trans told.inquiries, Nat.le_trans told.next next, fun _ => sound (told.sound h),
        asked, support⟩

/-- A message that is carried out as an event of the service leaves the settings alone. -/
theorem goes_attempt (h : s.service.registry.Sound) {x : Except ServiceError Service} {e : Event}
    (other : ∀ settings, e ≠ .configured settings) (step : s.service.step e = s.service.orUnchanged x)
    (ht : s.attempt x = .ok t) : Goes.Still s t := by
  cases x with
  | error fault => cases ht
  | ok v =>
    obtain rfl := Except.ok.inj ht
    have aside := Service.step_aside h other
    rw [step] at aside
    exact goes_update (f := fun _ => v) aside

theorem goes_files (h : s.service.registry.Sound) (events : List Message.FileEvent) :
    Goes.Still s (s.update fun v => v.didChangeFiles events) := by
  refine goes_update ?_
  unfold Service.didChangeFiles
  generalize s.service = v at h
  induction events generalizing v with
  | nil => exact .refl v
  | cons e events ih =>
    have first : Service.Aside v (v.fileEvent e) := Service.step_aside (e := .file e) h nofun
    exact first.trans (ih _ (first.sound h))

/-- Something that is done once parameters have been read. -/
theorem ok_of_params {α β : Type} {d : Json.Decoder α} {j : Json} {f : α → Except ServiceError β} {b : β}
    (h : (params d j).bind f = .ok b) : ∃ a, f a = .ok b := by
  unfold params at h
  split at h
  · exact ⟨_, h⟩
  · cases h

/-- What a message does about settings, if it is not an answer: nothing, it has them asked for, or it sets
them, unless the editor answers questions for settings. -/
inductive Heeds (s t : Session) : Prop where
  | still (goes : Goes.Still s t)
  | asks (same : t = s.askSettings)
  | sets (told : s.support.answersSettings = false) (settings : Settings) (goes : Goes s t settings)

theorem Heeds.support (h : Heeds s t) : t.support = s.support := by
  cases h with
  | still goes => exact goes.support
  | asks same => rw [same]; rfl
  | sets told settings goes => exact goes.support

theorem Heeds.sound (h : Heeds s t) (sound : s.service.registry.Sound) : t.service.registry.Sound := by
  cases h with
  | still goes => exact goes.sound sound
  | asks same => rw [same]; exact sound
  | sets told settings goes => exact goes.sound sound

theorem heeds_carryOut (h : s.service.registry.Sound) {method : String} {j : Json}
    (ht : s.carryOut method j = .ok t) : Heeds s t := by
  unfold carryOut at ht
  split at ht
  · obtain ⟨o, ht⟩ := ok_of_params ht
    exact .still (goes_attempt h (e := .opened o.uri o.text.toList o.version) nofun rfl ht)
  · obtain ⟨c, ht⟩ := ok_of_params ht
    exact .still (goes_attempt h (e := .edited c.uri c.edits c.version) nofun rfl ht)
  · obtain ⟨uri, ht⟩ := ok_of_params ht
    exact .still (goes_attempt h (e := .closed uri) nofun rfl ht)
  · unfold params at ht
    split at ht
    next events _ =>
      obtain rfl := Except.ok.inj ht
      exact .still (goes_files h events)
    · cases ht
  · obtain ⟨settings, ht⟩ := ok_of_params ht
    unfold settingsChanged at ht
    split at ht
    · exact .asks (Except.ok.inj ht).symm
    next told =>
      split at ht
      next settings _ =>
        obtain rfl := Except.ok.inj ht
        exact .sets (Bool.eq_false_iff.2 told) settings (goes_configure h settings)
      · cases ht
  · obtain rfl := Except.ok.inj ht
    exact .still (goes_refl s)

theorem heeds_notification (h : s.service.registry.Sound) (method : String) (j : Json) :
    Heeds s (s.onNotification method j) := by
  unfold onNotification
  split
  next t ht => exact heeds_carryOut h ht
  · exact .still (goes_update (Service.aside_send s.service nofun))

/-- A request leaves the settings alone. -/
theorem goes_request (h : s.service.registry.Sound) (id : RequestId) (method : String) (j : Json) :
    Goes.Still s (s.onRequest id method j) := by
  unfold onRequest
  split
  · exact goes_update (Service.aside_send s.service nofun)
  · split
    · have told := Service.aside_send s.service (m := .notice (.usage s.service.usage)) nofun
      have aside := told.trans (Service.aside_send _ (m := .reply id .done) nofun)
      exact ⟨aside.settings, aside.asked, aside.next, aside.sound, rfl, rfl⟩
    · split
      · exact goes_update (Service.aside_send s.service nofun)
      next t begun =>
        unfold beginRequest at begun
        split at begun
        · obtain ⟨p, ht⟩ := ok_of_params (Option.some.inj begun)
          exact goes_attempt h (e := .pulled id p) nofun rfl ht
        · split at begun
          · have begun := Option.some.inj begun
            unfold params at begun
            split at begun
            next known _ =>
              obtain rfl := Except.ok.inj begun
              exact goes_update (Service.step_aside (e := .pulledAll id known) h nofun)
            · cases begun
          · cases begun
      next e _ =>
        refine goes_update (f := fun v => (v.report method e).refuse id Service.internalError e.message) ?_
        exact (Service.aside_send s.service (m := .notice (e.notice method)) nofun).trans
          (Service.aside_send _ nofun)

/-! ### Questions and answers -/

/-- The questions for settings that have been asked are open or answered, each once. Their numbers grow. Once
a question has been answered, the settings are those of the last answer. -/
structure Dialogue (s : Session) (answers : List (Nat × Settings)) : Prop where
  sound : s.service.registry.Sound
  asked : s.service.outbox.settingsAsked.Perm (s.asked ++ answers.map (·.1))
  increasing : s.service.outbox.settingsAsked.Pairwise (· < ·)
  below : ∀ n ∈ s.service.outbox.settingsAsked, n < s.service.outbox.next
  latest : ∀ a, answers.getLast? = some a → s.service.settings = a.2

theorem Dialogue.still (d : Dialogue s answers) (g : Goes.Still s s') : Dialogue s' answers where
  sound := g.sound d.sound
  asked := by rw [g.inquiries, g.asked]; exact d.asked
  increasing := by rw [g.inquiries]; exact d.increasing
  below n hn := Nat.lt_of_lt_of_le (d.below n (g.inquiries ▸ hn)) g.next
  latest a ha := g.settings.trans (d.latest a ha)

/-- A question for settings has a number of its own. -/
theorem Dialogue.ask (d : Dialogue s answers) : Dialogue s.askSettings answers := by
  have asked : s.askSettings.service.outbox.settingsAsked =
      s.service.outbox.settingsAsked ++ [s.service.outbox.next] :=
    Outbox.settingsAsked_ask_settings s.service.outbox
  refine ⟨d.sound, ?_, ?_, fun n hn => ?_, d.latest⟩
  · rw [asked]
    change List.Perm _ ((s.asked ++ [s.service.outbox.next]) ++ _)
    refine (d.asked.append_right _).trans ?_
    rw [List.append_assoc, List.append_assoc]
    exact List.perm_append_comm.append_left _
  · rw [asked, List.pairwise_append]
    refine ⟨d.increasing, List.pairwise_singleton _ _, fun m hm n hn => ?_⟩
    rw [List.mem_singleton.1 hn]
    exact d.below m hm
  · rw [asked, List.mem_append, List.mem_singleton] at hn
    exact Nat.lt_succ_of_le (hn.elim (fun old => Nat.le_of_lt (d.below n old)) Nat.le_of_eq)

theorem askSettings_asks (s : Session) : s.askSettings.service.outbox.settingsAsked ≠ [] := by
  change (s.service.outbox.ask .settings).settingsAsked ≠ []
  rw [Outbox.settingsAsked_ask_settings]
  exact List.append_ne_nil_of_right_ne_nil _ (List.cons_ne_nil _ _)

theorem Dialogue.nodup (d : Dialogue s answers) : (s.asked ++ answers.map (·.1)).Nodup :=
  d.asked.nodup_iff.1 (d.increasing.imp Nat.ne_of_lt)

/-- An answer to an open question closes it and sets the settings that it carries. -/
theorem goes_response (h : s.service.registry.Sound) {n : Nat} (hn : n ∈ s.asked) (result : Option Json)
    (error : Option String) :
    Goes { s with asked := s.asked.filter (· != n) } (s.onResponse (questionId n) result error)
      (carried result error) := by
  have found : (s.asked.any fun m => questionId m == questionId n) = true :=
    List.any_eq_true.2 ⟨n, hn, beq_self_eq_true _⟩
  have rest : (s.asked.filter fun m => questionId m != questionId n) = s.asked.filter (· != n) := by
    refine List.filter_congr fun m _ => ?_
    rw [Bool.eq_iff_iff, bne_iff_ne, bne_iff_ne, ne_eq, questionId_inj]
  rw [onResponse, if_pos found, rest]
  exact goes_answered (s := { s with asked := s.asked.filter (· != n) }) h result error

/-- The last answer counts. -/
theorem Dialogue.answer (d : Dialogue s answers) {n : Nat} (hn : n ∈ s.asked) (result : Option Json)
    (error : Option String) :
    Dialogue (s.onResponse (questionId n) result error) (answers ++ [(n, carried result error)]) := by
  have g := goes_response d.sound hn result error
  refine ⟨g.sound d.sound, ?_, ?_, fun m hm => ?_, fun a ha => ?_⟩
  · rw [g.inquiries, g.asked, List.map_append]
    refine d.asked.trans ?_
    have closed : s.asked.Perm (s.asked.filter (· != n) ++ [n]) := by
      rw [← (List.nodup_append.1 d.nodup).1.erase_eq_filter]
      exact (List.perm_cons_erase hn).trans (List.perm_append_singleton n _).symm
    refine (closed.append_right _).trans ?_
    rw [List.append_assoc]
    exact List.perm_append_comm.append_left _
  · rw [g.inquiries]
    exact d.increasing
  · rw [g.inquiries] at hm
    exact Nat.lt_of_lt_of_le (d.below m hm) g.next
  · rw [List.getLast?_append, List.getLast?_singleton] at ha
    obtain rfl := Option.some.inj ha
    exact g.settings

/-- A response under any other number than that of an open question changes nothing. -/
theorem onResponse_other {id : RequestId} (other : ∀ n ∈ s.asked, questionId n ≠ id)
    (result : Option Json) (error : Option String) : s.onResponse id result error = s := by
  refine if_neg fun found => ?_
  obtain ⟨n, hn, same⟩ := List.any_eq_true.1 found
  exact other n hn (eq_of_beq same)

end Session

/-! ### Connections -/

/-- What may happen to a connection. -/
inductive Happening where
  /-- A message comes. -/
  | received (m : Incoming)
  /-- The editor leaves. -/
  | left
  /-- A job is polled. -/
  | polled (job : Nat)
  /-- Some time passes. -/
  | elapsed (milliseconds : Nat)
  /-- A gate opens. -/
  | released (gate : Nat)
  /-- The host answers otherwise from now on. -/
  | host (h : Host)

/-- The question for settings that a message answers, if it is open, and the settings that the answer
carries. -/
def Session.answered? (s : Session) : Incoming → Option (Nat × Settings)
  | .response id result error =>
    (s.asked.find? fun n => questionId n == id).map fun n => (n, carried result error)
  | _ => none

namespace Server

variable {s : Server} {given : List (Nat × Settings)}

/-- The connection after something has happened. -/
def happen (s : Server) : Happening → Server
  | .received m => s.receive m
  | .left => s.hangUp
  | .polled job => s.update fun v => v.step (.polled job)
  | .elapsed milliseconds => s.update fun v => v.step (.elapsed milliseconds)
  | .released gate => s.update fun v => v.step (.released gate)
  | .host h => s.update fun v => v.step (.host h)

/-- The connection after all that has happened. -/
def after (s : Server) (hs : List Happening) : Server := hs.foldl happen s

/-- The question for settings that is answered, and the settings that the answer carries. -/
def answered? (s : Server) : Happening → Option (Nat × Settings)
  | .received m => s.session?.bind fun session => session.answered? m
  | _ => none

/-- The answers to questions for settings, in the order in which they come. -/
def answers (s : Server) : List Happening → List (Nat × Settings)
  | [] => []
  | h :: hs => (s.answered? h).toList ++ (s.happen h).answers hs

theorem answers_snoc (s : Server) (hs : List Happening) (h : Happening) :
    s.answers (hs ++ [h]) = s.answers hs ++ ((s.after hs).answered? h).toList := by
  induction hs generalizing s with
  | nil => simp [answers, after]
  | cons h' hs ih =>
    rw [List.cons_append, answers, ih, ← List.append_assoc]
    rfl

theorem after_snoc (s : Server) (hs : List Happening) (h : Happening) :
    s.after (hs ++ [h]) = (s.after hs).happen h := by
  simp [after]

/-- What has been said about settings: nothing before the session. In a session with an editor that answers
questions for settings, at least one has been asked. -/
def Converses (s : Server) (given : List (Nat × Settings)) : Prop :=
  match s.phase with
  | .silent outbox => outbox.settingsAsked = [] ∧ given = []
  | .greeted session => session.Dialogue [] ∧ given = []
  | .inSession session => session.service.registry.Sound ∧ (session.support.answersSettings = true →
      session.Dialogue given ∧ session.service.outbox.settingsAsked ≠ [])
  | .ended _ _ => True

/-- A session begins without a word about settings. -/
theorem dialogue_begins (s : Server) (capabilities : Json) (options : Option Json) {outbox : Outbox}
    (silent : outbox.settingsAsked = []) (id : RequestId) (r : Reply) :
    ((s.sessionOf capabilities options outbox).update fun v => v.reply id r).Dialogue [] := by
  have begun : (s.sessionOf capabilities options outbox).Dialogue [] := by
    have asked : (s.sessionOf capabilities options outbox).service.outbox.settingsAsked = [] := silent
    let support := ClientSupport.ofCapabilities capabilities
    have sound := Service.intact_start s.host support.delivery (settingsOf options) support.answersSettings
    refine ⟨sound.registry, ?_, ?_, ?_, nofun⟩
    all_goals rw [asked]
    · exact .refl _
    · exact .nil
    · exact nofun
  exact begun.still (Session.goes_update (Service.aside_send _ nofun))

theorem converses_greeting {outbox : Outbox} (silent : outbox.settingsAsked = []) (phase : s.phase = .silent outbox)
    (m : Incoming) : Converses (s.beforeGreeting outbox m) [] := by
  unfold beforeGreeting
  split
  next id method params =>
    split
    · unfold greet
      split
      · exact trivial
      · exact ⟨dialogue_begins s _ _ silent _ _, rfl⟩
    · exact ⟨(Outbox.settingsAsked_send (m := .refusal id _ _) nofun).trans silent, rfl⟩
  · split
    · exact trivial
    · unfold Converses
      rw [phase]
      exact ⟨silent, rfl⟩
  · exact trivial

/-- A session in which settings are asked for from the start. -/
theorem converses_initialized {session : Session} (d : session.Dialogue []) :
    Converses { s with phase := .inSession session.initialized } [] := by
  have watching := Session.goes_watchFiles session
  have following : Session.Goes.Still session
      (if session.watchFiles.support.tellsSettings then
        session.watchFiles.update fun v => v.ask .followSettings else session.watchFiles) := by
    split
    · exact watching.trans (Session.goes_update (Service.aside_ask _ nofun))
    · exact watching
  have silent := d.still following
  change Converses { s with phase := .inSession (if _ then _ else _) } []
  generalize (if session.watchFiles.support.tellsSettings then
    session.watchFiles.update fun v => v.ask .followSettings else session.watchFiles) = t at silent
  split
  · exact ⟨silent.sound, fun _ => ⟨silent.ask, Session.askSettings_asks t⟩⟩
  next quiet => exact ⟨silent.sound, fun supports => absurd supports quiet⟩

section

variable {session t : Session} (sound : session.service.registry.Sound)
  (d : session.support.answersSettings = true → session.Dialogue given ∧ session.service.outbox.settingsAsked ≠ [])
include sound d

theorem converses_of_heeds (heeds : session.Heeds t) : Converses { s with phase := .inSession t } given := by
  refine ⟨heeds.sound sound, fun supports => ?_⟩
  obtain ⟨d, begun⟩ := d (heeds.support ▸ supports)
  cases heeds with
  | still goes => exact ⟨d.still goes, by rw [goes.inquiries]; exact begun⟩
  | asks same =>
    subst same
    exact ⟨d.ask, Session.askSettings_asks session⟩
  | sets told _ goes =>
    rw [goes.support, told] at supports
    cases supports

/-- A response keeps up the dialogue: it answers an open question, or it is passed over. -/
theorem converses_response (id : RequestId) (result : Option Json) (error : Option String) :
    Converses { s with phase := .inSession (session.onResponse id result error) }
      (given ++ (session.answered? (.response id result error)).toList) := by
  show Converses _ (given ++
    ((session.asked.find? fun n => questionId n == id).map fun n => (n, Session.carried result error)).toList)
  cases found : session.asked.find? fun n => questionId n == id with
  | none =>
    have other : session.onResponse id result error = session :=
      Session.onResponse_other (fun n hn same => List.find?_eq_none.1 found n hn (beq_iff_eq.2 same)) result error
    rw [other]
    exact (List.append_nil given).symm ▸ converses_of_heeds sound d (.still (Session.goes_refl session))
  | some n =>
    have hn := List.mem_of_find?_eq_some found
    have own : questionId n = id := eq_of_beq (List.find?_some (p := fun n => questionId n == id) found)
    subst own
    have goes := Session.goes_response sound hn result error
    refine ⟨goes.sound sound, fun supports => ?_⟩
    rw [goes.support] at supports
    obtain ⟨d, begun⟩ := d supports
    exact ⟨d.answer hn result error, by rw [goes.inquiries]; exact begun⟩

/-- A message of a session keeps up the dialogue. -/
theorem converses_handle {m : Incoming} (ht : session.handle m = some t) :
    Converses { s with phase := .inSession t } (given ++ (session.answered? m).toList) := by
  cases m with
  | request id method j =>
    obtain rfl := Option.some.inj ht
    exact (List.append_nil given).symm ▸
      converses_of_heeds sound d (.still (Session.goes_request sound id method j))
  | notification method j =>
    change (if method = Session.exitMethod then none else some _) = some t at ht
    split at ht
    · cases ht
    · obtain rfl := Option.some.inj ht
      exact (List.append_nil given).symm ▸ converses_of_heeds sound d (Session.heeds_notification sound method j)
  | response id result error =>
    obtain rfl := Option.some.inj ht
    exact converses_response sound d id result error

end

/-- Jobs, time and the host do not matter to the dialogue. -/
theorem Converses.update (c : Converses s given) {e : Event} (other : ∀ settings, e ≠ .configured settings) :
    Converses (s.update fun v => v.step e) given := by
  unfold Server.update
  split
  next session phase =>
    unfold Converses at c
    rw [phase] at c
    obtain ⟨sound, d⟩ := c
    have goes : Session.Goes.Still session (session.update fun v => v.step e) :=
      Session.goes_update (f := fun v => v.step e) (Service.step_aside sound other)
    refine ⟨goes.sound sound, fun supports => ?_⟩
    obtain ⟨d, begun⟩ := d supports
    exact ⟨d.still goes, by rw [goes.inquiries]; exact begun⟩
  · exact c

/-- A message keeps up the dialogue. -/
theorem Converses.receive (c : Converses s given) (m : Incoming) :
    Converses (s.receive m) (given ++ (s.answered? (.received m)).toList) := by
  have unheard : s.session? = none → (s.answered? (.received m)).toList = [] := by
    intro none
    rw [answered?, none]
    rfl
  unfold Converses at c
  unfold Server.receive
  split
  next outbox phase =>
    rw [phase] at c
    obtain ⟨silent, rfl⟩ := c
    rw [unheard (by rw [session?, phase])]
    exact converses_greeting silent phase m
  next session phase =>
    rw [phase] at c
    obtain ⟨d, rfl⟩ := c
    rw [unheard (by rw [session?, phase])]
    split
    · split
      · exact converses_initialized d
      · exact trivial
    · exact trivial
  next session phase =>
    rw [phase] at c
    obtain ⟨sound, d⟩ := c
    have heard : s.answered? (.received m) = session.answered? m := by
      rw [answered?, session?, phase]
      rfl
    rw [heard]
    split
    next t ht => exact converses_handle sound d ht
    · exact trivial
  next outbox fault phase =>
    unfold Converses
    rw [phase]
    exact trivial

/-- Whatever happens keeps up the dialogue. -/
theorem Converses.happen (c : Converses s given) (h : Happening) :
    Converses (s.happen h) (given ++ (s.answered? h).toList) := by
  cases h with
  | received m => exact c.receive m
  | left =>
    change Converses s.hangUp _
    unfold hangUp
    split
    · exact trivial
    · exact trivial
    · exact trivial
    next phase =>
      unfold Converses
      rw [phase]
      exact trivial
  | polled job => exact (List.append_nil given).symm ▸ c.update nofun
  | elapsed milliseconds => exact (List.append_nil given).symm ▸ c.update nofun
  | released gate => exact (List.append_nil given).symm ▸ c.update nofun
  | host h => exact (List.append_nil given).symm ▸ c.update nofun

/-- Every connection keeps up the dialogue. -/
theorem converses (host : Host) (hs : List Happening) :
    Converses ((start host).after hs) ((start host).answers hs) := by
  induction hs using List.reverseRecOn with
  | nil => exact ⟨rfl, rfl⟩
  | append_singleton hs h ih =>
    rw [after_snoc, answers_snoc]
    exact ih.happen h

section

variable {host : Host} {hs : List Happening} {session : Session}

/-- **Settings.** In every session with an editor that answers questions for settings, whatever it asks and
tells, and in whatever order it answers: each question for settings has a number of its own, above those of
earlier ones, and is open or has been answered once, not both; a response under any other number than that of
an open question changes nothing; and the settings are those of the answer that has come last. So once no
question is open, the question asked last has one answer, and the settings are those it carries if it has come
last, as it has if answers have come in the order of questions. -/
theorem settings_answered (inSession : ((start host).after hs).session? = some session)
    (supports : session.support.answersSettings = true) :
    let asked := session.service.outbox.settingsAsked
    let given := (start host).answers hs
    asked.Pairwise (· < ·) ∧ asked.Perm (session.asked ++ given.map (·.1)) ∧
      (∀ id result error, (∀ n ∈ session.asked, questionId n ≠ id) →
        session.onResponse id result error = session) ∧
      (∀ a, given.getLast? = some a → session.service.settings = a.2) ∧
      (session.asked = [] → ∃ n settings, asked.getLast? = some n ∧
        (∀ settings', (n, settings') ∈ given ↔ settings' = settings) ∧
        (given.getLast? = some (n, settings) → session.service.settings = settings) ∧
        ((given.map (·.1)).Pairwise (· < ·) → session.service.settings = settings)) := by
  intro asked given
  have c := converses host hs
  have phase : ((start host).after hs).phase = .inSession session := by
    unfold session? at inSession
    split at inSession
    next phase => rw [phase, Option.some.inj inSession]
    · cases inSession
  unfold Converses at c
  rw [phase] at c
  obtain ⟨d, begun⟩ := c.2 supports
  refine ⟨d.increasing, d.asked, fun id result error other => Session.onResponse_other other result error,
    d.latest, fun idle => ?_⟩
  have all : asked.Perm (given.map (·.1)) := by
    have := d.asked
    rwa [idle, List.nil_append] at this
  have distinct : (given.map (·.1)).Nodup := all.nodup_iff.1 (d.increasing.imp Nat.ne_of_lt)
  obtain ⟨n, hn⟩ : ∃ n, asked.getLast? = some n := ⟨_, List.getLast?_eq_some_getLast begun⟩
  obtain ⟨⟨m, settings⟩, answered, rfl⟩ := List.mem_map.1 (all.subset (List.mem_of_getLast? hn))
  refine ⟨m, settings, hn, fun settings' => ⟨fun also => ?_, fun same => same ▸ answered⟩, d.latest _,
    fun ordered => ?_⟩
  · exact (Prod.mk.inj (List.inj_on_of_nodup_map distinct also answered rfl)).2
  · have same : asked = given.map (·.1) :=
      all.eq_of_pairwise (fun a b _ _ above below => absurd (Nat.lt_trans above below) (Nat.lt_irrefl a))
        d.increasing ordered
    rw [same, List.getLast?_map] at hn
    obtain ⟨⟨last, settings'⟩, hlast, own⟩ := Option.map_eq_some_iff.1 hn
    obtain rfl : last = m := own
    have carried := List.inj_on_of_nodup_map distinct (List.mem_of_getLast? hlast) answered rfl
    exact d.latest _ (carried ▸ hlast)

end

/-- An editor that answers questions for settings begins a session and then tells that its settings have
changed. -/
def greetings : List Happening :=
  [.received (.request (.number 0) initializeMethod (Json.object [("capabilities",
      Json.object [("workspace", Json.object [("configuration", .bool true)])])])),
    .received (.notification initializedMethod (Json.object [])),
    .received (.notification "workspace/didChangeConfiguration" (Json.object [("settings", .null)]))]

/-- The editor answers a question for settings: whether the validator is to run. -/
def reply (number : Nat) (enable : Bool) : Happening :=
  .received (.response (questionId number)
    (some (.arr [Json.object [("diagnostics", Json.object [("enable", .bool enable)])]])) none)

/-- The default settings, but for whether the validator runs. -/
def switched (enable : Bool) : Settings :=
  { Settings.standard with diagnostics := { DiagnosticSettings.standard with enable } }

/-- The second question is answered last: its answer counts. -/
theorem answered_in_order :
    ∃ session, ((start Host.none).after (greetings ++ [reply 1 false, reply 2 true])).session? = some session ∧
      session.asked = [] ∧ session.service.settings = switched true := by
  have given : (start Host.none).answers (greetings ++ [reply 1 false, reply 2 true]) =
      [(1, switched false), (2, switched true)] := by decide +kernel
  have look : ((start Host.none).after (greetings ++ [reply 1 false, reply 2 true])).session?.map
      (fun session => (session.asked, session.support.answersSettings)) = some ([], true) := by
    decide +kernel
  obtain ⟨session, inSession, look⟩ := Option.map_eq_some_iff.1 look
  obtain ⟨idle, supports⟩ := Prod.mk.inj look
  obtain ⟨-, -, -, latest, -⟩ := settings_answered inSession supports
  exact ⟨session, inSession, idle, latest (2, switched true) (by rw [given]; rfl)⟩

/-- The second question is answered first: the answer to the first one counts. -/
theorem answered_out_of_order :
    (start Host.none).answers (greetings ++ [reply 2 true, reply 1 false]) =
        [(2, switched true), (1, switched false)] ∧
      ∃ session, ((start Host.none).after (greetings ++ [reply 2 true, reply 1 false])).session? =
          some session ∧ session.support.answersSettings = true ∧ session.asked = [] ∧
        session.service.outbox.settingsAsked.getLast? = some 2 ∧
        session.service.settings = switched false ∧ session.service.settings ≠ switched true := by
  refine ⟨by decide +kernel, ?_⟩
  have look : ((start Host.none).after (greetings ++ [reply 2 true, reply 1 false])).session?.map
      (fun session => (session.support.answersSettings, session.asked,
        session.service.outbox.settingsAsked.getLast?, session.service.settings)) =
        some (true, [], some 2, switched false) := by
    decide +kernel
  obtain ⟨session, inSession, look⟩ := Option.map_eq_some_iff.1 look
  simp only [Prod.mk.injEq] at look
  obtain ⟨supports, idle, last, settings⟩ := look
  refine ⟨session, inSession, supports, idle, last, settings, ?_⟩
  rw [settings]
  decide +kernel

end Server

end ShaderDiagnostics
