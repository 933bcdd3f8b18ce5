import ShaderDiagnostics.Proofs.Service.Freshness

/-!
# What result ids stand for

A result id is the text of a token. As long as a document keeps its record, the diagnostics sent under its
current token are those of the one validation for that token that has ended well (`Service.session_latest`,
`Service.current_stands`). What the editor is told at once not to have changed is named by the current
token; a job names the token of its request, which may not be the current one any more. If it is, then what
the editor has been told is right (`Service.unchanged_stands`).

It is not enough that the document has the same URI. A document that is deleted from disk loses its record,
and the next one counts from the start: its tokens name other diagnostics (`Service.renewed_stands_not`).
-/

namespace ShaderDiagnostics.Service

variable {asks : Inquiry → Prop} {s s' : Service} {id n : Nat} {r r' : Record} {t : Token}
  {log xs : List Exchange} {found : List Diagnostic} {request : RequestId} {p : Message.DocumentPull}

/-! ### The current token -/

/-- If only tokens are asked for that a token covers, then that stays the latest one. -/
theorem Act.latest (a : Act asks s id r r' xs)
    (known : ∀ i, asks i → i.record = id → t.covers i.token = true)
    (sound : r.results.Sound Token.covers) (latest : r.results.Latest Token.covers t) :
    r'.results.Sound Token.covers ∧ r'.results.Latest Token.covers t := by
  cases a with
  | publishes => exact ⟨sound, latest⟩
  | shows => exact ⟨sound, latest⟩
  | reads => exact ⟨sound, latest⟩
  | gets => exact ⟨sound, latest⟩
  | @requests i asked own =>
    refine ⟨sound.request _ _, ?_⟩
    show (r.results.request Token.covers i.token ⟨i.snapshot, .fresh, []⟩).1.Latest Token.covers t
    rcases Cache.request_cases Token.covers r.results i.token ⟨i.snapshot, .fresh, []⟩ with
      same | ⟨⟨bare, free⟩, new⟩
    · rwa [same]
    · rw [new]
      exact latest.start (known i asked own) _ bare free
  | joins => dsimp only; exact ⟨sound.modifyWork _ _, latest.modifyWork _ _⟩
  | waits => dsimp only; exact ⟨sound.modifyWork _ _, latest.modifyWork _ _⟩
  | runs => dsimp only; exact ⟨sound.modifyWork _ _, latest.modifyWork _ _⟩
  | ends => exact ⟨sound.finish _ _, latest.finish Token.covers_antisymm sound _ _⟩

variable {host : Host} {delivery : Delivery} {settings : Settings} {waits : Bool} {es : List Event}
  {before between : List Event} {e : Event}

/-- The current token of a document is the latest one of its record. -/
theorem session_latest (few : contentRises host delivery settings waits id es + 1 < UInt32.size)
    (few' : settingsRises host delivery settings waits es < UInt32.size)
    (hr : (session host delivery settings waits es).registry.record? id = some r) :
    r.results.Sound Token.covers ∧
      r.results.Latest Token.covers ((session host delivery settings waits es).tokenOf r) := by
  have covers : ∀ {es₁ es₂}, es₁ <+: es₂ → es₂ <+: es →
      Token.covers
        ⟨(session host delivery settings waits es₂).registry.version id,
          (session host delivery settings waits es₂).settingsVersion⟩
        ⟨(session host delivery settings waits es₁).registry.version id,
          (session host delivery settings waits es₁).settingsVersion⟩ = true := fun h₁ h₂ =>
    later_covers (Nat.lt_of_le_of_lt (Nat.add_le_add_right (rises_mono _ h₂) 1) few)
      (Nat.lt_of_le_of_lt (rises_mono _ h₂) few') h₁
  have raise : ∀ {before e} {c : Results}, before ++ [e] <+: es →
      c.Latest Token.covers
        ⟨(session host delivery settings waits before).registry.version id,
          (session host delivery settings waits before).settingsVersion⟩ →
      c.Latest Token.covers
        ⟨(session host delivery settings waits (before ++ [e])).registry.version id,
          (session host delivery settings waits (before ++ [e])).settingsVersion⟩ := by
    intro before e c hb h
    have up := covers (List.prefix_append before [e]) hb
    by_cases same : Token.covers
        ⟨(session host delivery settings waits before).registry.version id,
          (session host delivery settings waits before).settingsVersion⟩
        ⟨(session host delivery settings waits (before ++ [e])).registry.version id,
          (session host delivery settings waits (before ++ [e])).settingsVersion⟩ = true
    · rwa [Token.covers_antisymm _ _ up same]
    · exact (Token.raise h up (Bool.eq_false_iff.2 same)).1
  have h := session_record (I := fun before _ r => r.results.Sound Token.covers ∧
      r.results.Latest Token.covers
        ⟨(session host delivery settings waits before).registry.version id,
          (session host delivery settings waits before).settingsVersion⟩)
    (fun _ results _ => by rw [results]; exact ⟨Cache.sound_empty, .empty _⟩)
    (fun _ _ results h => results ▸ h) (fun hb h => ⟨h.1, raise hb h.2⟩)
    (fun hb q hr a h => a.latest (fun i asked own => ?_) h.1 h.2) (fun _ h => h) hr
  · rw [Registry.version_of_record? hr] at h
    exact h
  · subst own
    obtain ⟨m, ⟨earlier, hp, rfl⟩, token, -⟩ := session_taken host delivery settings waits _ asked
    rw [token]
    exact covers hp hb

/-- What a validation for a token that covers the current one has found is the completed result. -/
theorem completed_of_finds (few : contentRises host delivery settings waits id es + 1 < UInt32.size)
    (few' : settingsRises host delivery settings waits es < UInt32.size)
    (hr : (session host delivery settings waits es).registry.record? id = some r) {i : Inquiry}
    (own : i.record = id) (current : i.token = (session host delivery settings waits es).tokenOf r)
    (finds : (session host delivery settings waits es).Finds i found) :
    r.results.completed = some ((session host delivery settings waits es).tokenOf r, found) := by
  obtain ⟨sound, latest⟩ := session_latest few few' hr
  obtain ⟨r', n, v, hr', hv, hc, ho⟩ := finds
  obtain rfl := Option.some.inj ((own ▸ hr').symm.trans hr)
  have version : v.version = (session host delivery settings waits es).tokenOf r' :=
    Token.covers_antisymm _ _ (current ▸ hc) (latest.bound n v hv)
  obtain ⟨⟨u, d⟩, slot, rfl⟩ := Option.map_eq_some_iff.1 (latest.completed n v found hv version ho)
  obtain ⟨m, w, hw, hu, hd⟩ := sound.completed _ _ slot
  have same : n = m := latest.once n m v w hv hw version hu (Cache.unfailed_of_ok ho)
    (Cache.unfailed_of_ok hd)
  subst same
  obtain rfl := Option.some.inj (hv.symm.trans hw)
  obtain rfl : found = d := by simpa [ho] using hd
  exact slot

/-- A request that the completed result covers is answered from that. -/
theorem pollInquiry_of_completed {i : Inquiry} (hr : s.registry.record? i.record = some r)
    (fresh : i.run = none) (slot : r.results.completed = some (t, found))
    (covers : t.covers i.token = true) (job : Nat) : (s.pollInquiry job i).2.2 = some (.ok found) := by
  simp [pollInquiry, fresh, hr, Cache.request, slot, covers]

/-! ### Unchanged diagnostics -/

/-- Whoever answers one request at a time answers that one. -/
theorem Replies.of_reply {id : RequestId} {reply reply' : Reply} (outbox : s'.outbox = s.outbox)
    (h : Replies s (s'.reply id reply') request reply) : request = id ∧ reply = reply' := by
  have sent : (s'.reply id reply').outbox.sent = [.reply id reply'] ++ s.outbox.sent := by
    rw [← outbox]
    rfl
  unfold Replies at h
  rw [Outbox.since_of_append sent] at h
  simpa using h

/-- The editor is told at once that diagnostics have not changed only if it names the current token of the
document, and that is the one whose diagnostics it shows. -/
theorem Intact.unchanged {request' : RequestId} (intact : s.Intact)
    (h : Replies s (s.step (.pulled request p)) request' (.document (.unchanged t))) :
    ∃ path id r, p.uri.path? = some path ∧ (s.step (.pulled request p)).registry.Known id r ∧
      r.path.same path = true ∧ t = (s.step (.pulled request p)).tokenOf r ∧ r.display = some t ∧
      p.previous = some t.text := by
  show ∃ path id r, p.uri.path? = some path ∧
    (s.orUnchanged (s.pullDocument request p)).registry.Known id r ∧ r.path.same path = true ∧
    t = (s.orUnchanged (s.pullDocument request p)).tokenOf r ∧ r.display = some t ∧
    p.previous = some t.text
  change Replies s (s.orUnchanged (s.pullDocument request p)) request' _ at h
  cases ht : s.pullDocument request p with
  | error e =>
    rw [ht] at h
    exact absurd h (Tells.of_outbox rfl).not_replies
  | ok s' =>
    rw [ht] at h
    change Replies s s' request' _ at h
    obtain ⟨path, hp, he⟩ := ok_of_pathOf ht
    obtain ⟨r, known, same⟩ := intact.registry.known_ensure path
    have hr : (s.ensure path).1.registry.record? (s.ensure path).2 = some r := known.1
    dsimp only at he
    rw [hr] at he
    dsimp only at he
    split at he
    · obtain rfl := Except.ok.inj he
      cases (h.of_reply rfl).2
    · split at he
      next shown =>
        obtain rfl := Except.ok.inj he
        obtain rfl : t = (s.ensure path).1.tokenOf r := by
          simpa using (h.of_reply rfl).2
        simp only [isShown, hr, Bool.and_eq_true, beq_iff_eq] at shown
        exact ⟨path, _, r, hp, known, same, rfl, shown.1, shown.2⟩
      · obtain rfl := Except.ok.inj he
        exact absurd h (Tells.of_outbox rfl).not_replies

/-- The editor has asked for the diagnostics of the document of a record, by the end of the first events; and
at the end of the second ones it is told that they have not changed since those of a token. -/
inductive Reassured (s₀ : Service) (id : Nat) (r : Record) (t : Token) :
    List Event → List Event → Prop where
  /-- It is told at once. -/
  | atOnce {before : List Event} {e : Event} {request : RequestId} {reply : Reply}
      (known : (s₀.after (before ++ [e])).registry.Known id r) (on : ReportOn r e reply (.unchanged t))
      (told : Replies (s₀.after before) (s₀.after (before ++ [e])) request reply) :
      Reassured s₀ id r t (before ++ [e]) (before ++ [e])
  /-- A job tells it. -/
  | later {before between : List Event} {e : Event}
      (served : Served s₀ before e between id r (.unchanged t)) :
      Reassured s₀ id r t (before ++ [e]) (untilAnswer s₀ before e between)

theorem Reassured.known {s₀ : Service} {asked : List Event} (h : Reassured s₀ id r t asked es) :
    (s₀.after asked).registry.Known id r := by
  cases h with
  | atOnce known => exact known
  | later served => exact served.known

theorem Reassured.past {s₀ : Service} {asked : List Event} (h : Reassured s₀ id r t asked es) :
    asked <+: es := by
  cases h with
  | atOnce => exact List.prefix_rfl
  | @later before between e =>
    exact ⟨between ++ [.polled (s₀.after before).nextJob], by simp [untilAnswer]⟩

/-- The token that the editor is told is the one that the document had when the editor asked. -/
theorem Reassured.token {asked : List Event}
    (h : Reassured (start host delivery settings waits) id r t asked es) :
    t = (session host delivery settings waits asked).tokenOf r := by
  cases h with
  | later served => exact served.fits
  | @atOnce before e request reply known on told =>
    have intact := session_intact host delivery settings waits before
    have step : (session host delivery settings waits before).step e =
        session host delivery settings waits (before ++ [e]) := (after_snoc _ before e).symm
    change Replies (session host delivery settings waits before)
      (session host delivery settings waits (before ++ [e])) request reply at told
    rw [← step] at told ⊢
    cases on with
    | workspace => exact absurd told (Tells.of_outbox rfl).not_replies
    | document asked same =>
      obtain ⟨path, id', r', hp, known', same', token, -⟩ := intact.unchanged told
      obtain rfl := Option.some.inj (hp.symm.trans asked)
      rw [step] at known'
      have samePath : r'.path.same r.path = true := by
        rw [Path.same_iff] at same same' ⊢
        exact same'.trans same.symm
      obtain rfl := Registry.Sound.unique known' known samePath
      obtain rfl := Option.some.inj (known'.1.symm.trans known.1)
      exact token

/-- A full report that has been sent under the current token of a document, while it had its record, says
what a full report would say now. -/
theorem current_stands (few : contentRises host delivery settings waits id es + 1 < UInt32.size)
    (few' : settingsRises host delivery settings waits es < UInt32.size)
    (hr : (session host delivery settings waits es).registry.record? id = some r)
    (past : untilAnswer (start host delivery settings waits) before e between <+: es)
    (served : Served (start host delivery settings waits) before e between id r'
      (.full (some ((session host delivery settings waits es).tokenOf r)) found)) (job : Nat) :
    ((session host delivery settings waits es).pollInquiry job
      ((session host delivery settings waits es).inquire id r)).2.2 = some (.ok found) := by
  obtain ⟨token, finds⟩ := served.fits
  have slot := completed_of_finds few few' hr rfl (Option.some.inj token).symm
    (finds.lasts (session_lasts past))
  exact pollInquiry_of_completed hr rfl slot (Token.covers_refl _) job

/-- **Unchanged diagnostics.** When the editor is told that the diagnostics of a document have not changed
since those of a token, then that is the token that the document had when the editor asked; and if it still
is, as it is when the editor is told at once, then every full report that has been sent under it while the
document had this record says what a full report would say now. No version must get around. -/
theorem unchanged_stands {asked : List Event}
    (few : contentRises host delivery settings waits id es + 1 < UInt32.size)
    (few' : settingsRises host delivery settings waits es < UInt32.size)
    (h : Reassured (start host delivery settings waits) id r t asked es) :
    let now := session host delivery settings waits es
    t = (session host delivery settings waits asked).tokenOf r ∧
      ∃ r', now.registry.record? id = some r' ∧ (asked = es → r' = r) ∧ (t = now.tokenOf r' →
        ∀ before e between r₀ found,
          untilAnswer (start host delivery settings waits) before e between <+: es →
          Served (start host delivery settings waits) before e between id r₀ (.full (some t) found) →
          ∀ job, (now.pollInquiry job (now.inquire id r')).2.2 = some (.ok found)) := by
  intro now
  obtain ⟨r', hr', -⟩ := (session_lasts h.past).records id r h.known.1
  refine ⟨h.token, r', hr', ?_, ?_⟩
  · rintro rfl
    exact Option.some.inj (hr'.symm.trans h.known.1)
  · rintro rfl before e between r₀ found past served job
    exact current_stands few few' hr' past served job

/-- The editor is told at once that diagnostics have not changed if that is found among the messages that are
sent when it asks. -/
theorem reassured_of_sent {s₀ : Service}
    (known : (p.uri.path?.any fun path =>
      ((s₀.after (before ++ [.pulled request p])).registry.record? id).any fun r =>
        decide ((s₀.after (before ++ [.pulled request p])).registry.find? r.path = some id) &&
          r.path.same path) = true)
    (sent : ((s₀.after (before ++ [.pulled request p])).outbox.since
      (s₀.after before).outbox.sent.length).findSome? (documentReport? request) = some (.unchanged t)) :
    ∃ r, Reassured s₀ id r t (before ++ [.pulled request p]) (before ++ [.pulled request p]) := by
  obtain ⟨path, r, hp, known, same⟩ := known_of_any known
  exact ⟨r, .atOnce known (.document hp same) (replies_of_findSome? sent)⟩

/-- The shader is opened and asked for. -/
def visiting : List Event :=
  untilAnswer (start strictHost (.pull false) promptSettings false) [.opened shaderUri "x".toList 1]
    asking []

/-- The editor asks again, naming what it has been sent. -/
def again : Event := .pulled (.number 2) ⟨shaderUri, some "2:0"⟩

/-- The editor asks again for the diagnostics that it has been sent for the shader. -/
theorem repeated_stands :
    let s₀ := start strictHost (.pull false) promptSettings false
    let now := session strictHost (.pull false) promptSettings false (visiting ++ [again])
    contentRises strictHost (.pull false) promptSettings false 0 (visiting ++ [again]) + 1 < UInt32.size ∧
      settingsRises strictHost (.pull false) promptSettings false (visiting ++ [again]) < UInt32.size ∧
      ∃ r, Reassured s₀ 0 r ⟨2, 0⟩ (visiting ++ [again]) (visiting ++ [again]) ∧
        ∀ job, (now.pollInquiry job (now.inquire 0 r)).2.2 = some (.ok (fault 0)) := by
  intro s₀ now
  have length : (visiting ++ [again]).length = 4 := by decide
  have few : contentRises strictHost (.pull false) promptSettings false 0 (visiting ++ [again]) + 1 <
      UInt32.size := Nat.lt_of_le_of_lt (Nat.succ_le_succ (length ▸ rises_le_length _ _)) (by decide)
  have few' : settingsRises strictHost (.pull false) promptSettings false (visiting ++ [again]) <
      UInt32.size := Nat.lt_of_le_of_lt (length ▸ rises_le_length _ _) (by decide)
  obtain ⟨r, told⟩ : ∃ r, Reassured s₀ 0 r ⟨2, 0⟩ (visiting ++ [again]) (visiting ++ [again]) :=
    reassured_of_sent (by decide +kernel) (by decide +kernel)
  obtain ⟨r₀, served⟩ : ∃ r₀, Served s₀ [.opened shaderUri "x".toList 1] asking [] 0 r₀
      (.full (some ⟨2, 0⟩) (fault 0)) :=
    served_of_sent (by decide +kernel) (by decide +kernel) (by decide +kernel)
  obtain ⟨token, r', -, same, stands⟩ := unchanged_stands few few' told
  obtain rfl := same rfl
  have past : untilAnswer s₀ [.opened shaderUri "x".toList 1] asking [] <+: visiting ++ [again] :=
    List.prefix_append visiting [again]
  exact ⟨few, few', r', told, stands token _ _ _ _ _ past served⟩

/-! ### A document with another record -/

/-- A host that has the given text of the shader on disk, and a validator that finds fault with an `x`. -/
def diskHost (text : List Char) : Host :=
  ({ strictScript with
    files := PathMap.empty.insert (Path.ofString "/a.vert") text
    rules := [faulting "x".toList, ⟨[], .prints []⟩] } : ScriptedHost).host

/-- The default settings, but for the delay, and for all documents of the workspace. -/
def workspaceSettings : Settings :=
  { promptSettings with diagnostics := { promptSettings.diagnostics with workspace := true } }

/-- The shader appears on disk and is analyzed. -/
def appearing : List Event := [.file ⟨shaderUri, 1⟩, .polled 0]

/-- The shader is asked for; then it is deleted from disk and appears with another text, and the workspace is
asked for. -/
def renewing : List Event :=
  untilAnswer (start (diskHost "x".toList) (.pull false) workspaceSettings false) appearing asking [] ++
    [.host (diskHost "y".toList), .file ⟨shaderUri, 3⟩, .file ⟨shaderUri, 1⟩, .polled 2,
      .pulledAll (.number 2) [], .polled 3]

/-- The editor asks for the shader once more, naming what it was sent at first. -/
def returning : Event := .pulled (.number 3) ⟨shaderUri, some "1:0"⟩

/-- The editor has been sent a full report with a fault under a token. The shader gets another record and
another text, and then the editor is told that what it has under the same token has not changed, although
a full report would say now that there is no fault. -/
theorem renewed_stands_not :
    let s₀ := start (diskHost "x".toList) (.pull false) workspaceSettings false
    let now := session (diskHost "x".toList) (.pull false) workspaceSettings false
      (renewing ++ [returning])
    untilAnswer s₀ appearing asking [] <+: renewing ++ [returning] ∧
      (∃ r, Served s₀ appearing asking [] 0 r (.full (some ⟨1, 0⟩) (fault 0)) ∧
        Uri.ofPath? r.path = some shaderUri) ∧
      ∃ r, Reassured s₀ 1 r ⟨1, 0⟩ (renewing ++ [returning]) (renewing ++ [returning]) ∧
        Uri.ofPath? r.path = some shaderUri ∧
        ∀ job, (now.pollInquiry job (now.inquire 1 r)).2.2 = some (.ok []) := by
  intro s₀ now
  have past : untilAnswer s₀ appearing asking [] <+: renewing ++ [returning] := by
    unfold renewing
    rw [List.append_assoc]
    exact List.prefix_append _ _
  obtain ⟨r₀, served⟩ : ∃ r, Served s₀ appearing asking [] 0 r (.full (some ⟨1, 0⟩) (fault 0)) :=
    served_of_sent (by decide +kernel) (by decide +kernel) (by decide +kernel)
  have named : ((s₀.after (appearing ++ [asking])).registry.record? 0).map
      (fun r => Uri.ofPath? r.path) = some (some shaderUri) := by decide +kernel
  rw [served.known.1] at named
  obtain ⟨r, told⟩ : ∃ r, Reassured s₀ 1 r ⟨1, 0⟩ (renewing ++ [returning]) (renewing ++ [returning]) :=
    reassured_of_sent (by decide +kernel) (by decide +kernel)
  have renewed : (now.registry.record? 1).any (fun r => decide (Uri.ofPath? r.path = some shaderUri) &&
      decide (r.results.completed = some (now.tokenOf r, []))) = true := by decide +kernel
  have hr : now.registry.record? 1 = some r := told.known.1
  rw [hr] at renewed
  simp only [Option.any_some, Bool.and_eq_true, decide_eq_true_eq] at renewed
  refine ⟨past, ⟨r₀, served, Option.some.inj named⟩, r, told, renewed.1, fun job => ?_⟩
  exact pollInquiry_of_completed hr rfl renewed.2 (Token.covers_refl _) job

end ShaderDiagnostics.Service
