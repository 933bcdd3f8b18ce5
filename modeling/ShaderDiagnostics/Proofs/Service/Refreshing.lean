import ShaderDiagnostics.Proofs.Service.Retraction

/-!
# When the editor is asked to ask again

An editor that asks for diagnostics, and that can be asked to ask for them again, is asked to once, and told
nothing else, when settings come in that outdate results or change the scope (`Service.settings_refresh`). The
first settings of a session that has waited for them are the exception. But diagnostics may have been asked for
before those, and answered by the settings of the start; the editor does not learn then that the answers are
outdated (`Service.deferred_unrefreshed`).

So over a whole session the version of the settings rises at most once more often than the editor is asked
(`Service.rises_le_refreshes`), and never more often if the session has not waited.
-/

namespace ShaderDiagnostics

/-- How many times the editor has been asked to ask again. -/
def Outbox.refreshes (o : Outbox) : Nat :=
  o.sent.countP fun
    | .question _ .refresh => true
    | _ => false

namespace Outbox

variable {o o' : Outbox}

theorem refreshes_le {news : List Outgoing} (sent : o'.sent = news ++ o.sent) : o.refreshes ≤ o'.refreshes := by
  unfold refreshes
  rw [sent, List.countP_append]
  exact Nat.le_add_left _ _

/-- More messages have been sent, and none of them asks for anything but to ask again. -/
def Sends (o o' : Outbox) : Prop :=
  ∃ news, o'.sent = news ++ o.sent ∧ ∀ m ∈ news, ∀ n q, m = .question n q → q = .refresh

theorem Sends.nothing (o : Outbox) : o.Sends o := ⟨[], rfl, nofun⟩

theorem Sends.one {m : Outgoing} (sent : o'.sent = m :: o.sent)
    (plain : ∀ n q, m = .question n q → q = .refresh) : o.Sends o' :=
  ⟨[m], sent, fun _ hm => List.mem_singleton.1 hm ▸ plain⟩

end Outbox

namespace Service

variable {lost : Path → Prop} {s s' : Service} {e : Event}

/-! ### Messages stay sent -/

theorem publish_sends (s : Service) (id : Nat) (found : List Diagnostic) :
    s.outbox.Sends (s.publish id found).outbox := by
  have told : ∀ (o : Outbox) (d : Delivery) uri number, o.Sends (o.publish d uri found number) := by
    intro o d uri number
    cases d with
    | push versions => exact .one rfl nofun
    | _ => exact .nothing o
  unfold publish
  split
  · exact .nothing _
  · split
    · split
      · exact .nothing _
      · exact told s.outbox s.delivery _ _
    · exact .nothing _

/-- A deed takes back no message. -/
theorem Deed.sends (d : Deed lost s s') : s.outbox.Sends s'.outbox := by
  cases d with
  | publishes id found => exact publish_sends s id found
  | @retracts id => exact publish_sends (s.show_ id none) id []
  | @analyzes id =>
    rcases analyze_cases s id with same | ⟨b, same⟩
    · exact same.symm ▸ .nothing _
    · exact same.symm ▸ .nothing _
  | refreshes =>
    cases hd : s.delivery with
    | pull again =>
      cases again with
      | true =>
        refine .one (m := .question s.outbox.next .refresh) (by rw [refresh, hd]; rfl) fun n q same => ?_
        exact (Outgoing.question.inj same).2.symm
      | false => exact ⟨[], by rw [refresh, hd]; rfl, List.forall_mem_nil _⟩
    | _ => exact ⟨[], by rw [refresh, hd]; rfl, List.forall_mem_nil _⟩
  | reports name fault => exact .one rfl fun n q same => by cases same
  | replies request r => exact .one rfl fun n q same => by cases same
  | refuses request code message => exact .one rfl fun n q same => by cases same
  | _ => exact .nothing _

theorem step_refreshes (h : s.registry.Sound) (e : Event) : s.outbox.refreshes ≤ (s.step e).outbox.refreshes :=
  step_lasting (I := fun t => s.outbox.refreshes ≤ t.outbox.refreshes) h (fun _ _ le => le)
    (fun _ _ _ le => le)
    (fun _ d le => by
      obtain ⟨news, sent, -⟩ := d.sends
      exact Nat.le_trans le (Outbox.refreshes_le sent))
    (Nat.le_refl _)

/-! ### New settings -/

/-- What new settings send to an editor that asks for diagnostics. -/
theorem configure_sends (h : s.registry.Sound) (pull : s.delivery = .pull true) (settings : Settings) :
    (s.configure settings).outbox.sent =
      (if s.ready && ((SettingsChange.between s.settings settings).bumps ||
          (SettingsChange.between s.settings settings).workspace) then
        [.question s.outbox.next .refresh] else []) ++ s.outbox.sent := by
  have unpublished : (s.replaceSettings settings).delivery.isPush = false := by
    show s.delivery.isPush = false
    rw [pull]
    rfl
  cases ready : s.ready with
  | false =>
    have taken := (sweeps_takeSettings s settings).trans (sweeps_analyzeAll _)
    rw [configure, if_neg (Bool.eq_false_iff.1 ready), taken.unsent unpublished]
    rfl
  | true =>
    obtain ⟨t, ids, sweeps, -, -, configured⟩ := configure_sweeps h ready settings
    have unsent : t.outbox = s.outbox := sweeps.unsent unpublished
    have delivery : t.delivery = .pull true := sweeps.delivery.trans pull
    rw [configured, Bool.true_and]
    split
    · rw [refresh, delivery, unsent]
      rfl
    · rw [unsent]
      rfl

/-- An event raises the version of the settings only if the editor is asked to ask again, or if the settings
become known. -/
theorem rise_le_refreshes (h : s.registry.Sound) (pull : s.delivery = .pull true) (e : Event) :
    s.outbox.refreshes + (if (s.step e).settingsVersion = s.settingsVersion then 0 else 1) ≤
      (s.step e).outbox.refreshes + if e.isConfigured && !s.ready then 1 else 0 := by
  have more : s.outbox.refreshes ≤ (s.step e).outbox.refreshes := step_refreshes h e
  by_cases same : (s.step e).settingsVersion = s.settingsVersion
  · rw [if_pos same]
    exact Nat.le_trans more (Nat.le_add_right _ _)
  · cases e with
    | configured new =>
      have bumps : (SettingsChange.between s.settings new).bumps = true := by
        by_contra quiet
        exact same ((configure_onward s new).settingsVersion.trans (if_neg quiet))
      have sent : (s.step (.configured new)).outbox.sent = _ := configure_sends h pull new
      rw [if_neg same, Outbox.refreshes, Outbox.refreshes, sent, bumps]
      cases s.ready <;> simp [Event.isConfigured]
    | _ => exact absurd (step_ready h rfl).2 same

/-- **Refresh.** In a session with an editor that asks for diagnostics and can be asked to ask again, new
settings raise their version if they outdate results. If settings were known before, they send one message then,
and also if the scope changes: the editor is asked to ask again. Otherwise nothing is sent. -/
theorem settings_refresh (host : Host) (initial : Settings) (waits : Bool) (es : List Event) (new : Settings) :
    let s := session host (.pull true) initial waits es
    let s' := s.step (.configured new)
    let change := SettingsChange.between s.settings new
    s.ready = (!waits || es.any Event.isConfigured) ∧
      s'.settingsVersion = (if change.bumps then s.settingsVersion + 1 else s.settingsVersion) ∧
      s'.outbox.since s.outbox.sent.length =
        if s.ready && (change.bumps || change.workspace) then [.question s.outbox.next .refresh] else [] := by
  intro s s' change
  have sound : s.registry.Sound := (session_intact host (.pull true) initial waits es).registry
  refine ⟨session_ready host _ initial waits es, (configure_onward s new).settingsVersion, ?_⟩
  have sent : s'.outbox.sent = _ := configure_sends sound (session_delivery host _ initial waits es) new
  rw [Outbox.since_of_append sent]
  split <;> rfl

/-- The default settings, but for the delay, and with validation switched off. -/
def idleSettings : Settings :=
  { promptSettings with diagnostics := { promptSettings.diagnostics with enable := false } }

/-- The shader is opened and asked for while validation is off, and the editor is answered that there are no
diagnostics. The first settings switch validation on: their version rises and the shader is in scope from then
on, but the editor is sent nothing. -/
theorem deferred_unrefreshed :
    let s := session strictHost (.pull true) idleSettings true [.opened shaderUri "x".toList 1]
    let asked := s.step asking
    let s' := asked.step (.configured promptSettings)
    Replies s asked (.number 1) (.document (.full none [])) ∧
      s'.settingsVersion = asked.settingsVersion + 1 ∧ s'.outbox.since asked.outbox.sent.length = [] ∧
      (s'.recordAt? (Path.ofString "/a.vert")).any s'.inScope = true := by
  intro s asked s'
  exact ⟨replies_of_findSome? (by decide +kernel), by decide +kernel,
    List.isEmpty_iff.1 (by decide +kernel), by decide +kernel⟩

/-- Over a session the version of the settings rises at most once more often than the editor is asked to ask
again, and only if the session has waited for the first settings. -/
theorem rises_le_refreshes (host : Host) (initial : Settings) (waits : Bool) (es : List Event) :
    settingsRises host (.pull true) initial waits es ≤
      (session host (.pull true) initial waits es).outbox.refreshes +
        if waits && es.any Event.isConfigured then 1 else 0 := by
  induction es using List.reverseRecOn with
  | nil => exact Nat.zero_le _
  | append_singleton es e ih =>
    have sound := (session_intact host (.pull true) initial waits es).registry
    have step := rise_le_refreshes sound (session_delivery host (.pull true) initial waits es) e
    have ready := session_ready host (.pull true) initial waits es
    have rises : settingsRises host (.pull true) initial waits (es ++ [e]) =
        settingsRises host (.pull true) initial waits es + rises Service.settingsVersion
          (session host (.pull true) initial waits es) [e] := rises_append _ es [e]
    have now : session host (.pull true) initial waits (es ++ [e]) =
        (session host (.pull true) initial waits es).step e := after_snoc _ es e
    -- the settings become known once, and not at all if they are not waited for
    have once : (if waits && es.any Event.isConfigured then 1 else 0) +
        (if e.isConfigured && !(session host (.pull true) initial waits es).ready then 1 else 0) ≤
          if waits && (es ++ [e]).any Event.isConfigured then 1 else 0 := by
      rw [ready, List.any_append, List.any_cons, List.any_nil, Bool.or_false]
      cases waits <;> cases es.any Event.isConfigured <;> cases e.isConfigured <;> decide
    rw [now, rises, Service.rises, Service.rises]
    omega

end Service

end ShaderDiagnostics
