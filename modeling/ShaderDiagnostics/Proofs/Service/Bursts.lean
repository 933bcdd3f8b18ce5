import ShaderDiagnostics.Proofs.Service.Delays
import ShaderDiagnostics.Proofs.Service.OpenDocuments

/-!
# Edits in quick succession

Every edit of a document schedules an analysis of its own, and each of them wakes up after the delay. Edits that
follow each other within the delay are validated once all the same (`Service.edits_debounced`): an analysis
that is due has been scheduled for the content that the document has still, so none is due before the last edit
(`Service.Delaying.orders_soon`), and after it only the one that the last edit has scheduled
(`Service.Last`). What that one asks for nothing covers, since all that has been validated is older.
-/

namespace ShaderDiagnostics

/-- Whether an event is neither the editor's doing nor the disk's: jobs are polled, time passes, and the host
answers. -/
def Event.isPassing : Event → Bool
  | .polled _ => true
  | .elapsed _ => true
  | .released _ => true
  | .host _ => true
  | _ => false

theorem Delay.ahead_ne_over (milliseconds : Nat) : Delay.ahead milliseconds ≠ .over := by simp

theorem Delay.running_ne_over (deadline : Nat) : Delay.running deadline ≠ .over := by simp

/-- A wait that has begun is over at some time at the latest. -/
def Delay.EndsBy (time : Nat) : Delay → Prop
  | .running deadline => deadline ≤ time
  | _ => False

theorem Delay.EndsBy.unasked {time : Nat} {delay : Delay} (h : delay.EndsBy time) : delay ≠ .over := by
  rintro rfl
  exact h

namespace Service

variable {s s' s₀ t : Service} {id job n d : Nat} {r r' : Record} {i : Inquiry} {b : Job} {e x : Event}
  {es es' before burst front between rest : List Event} {l : List (Token × List Nat)}

/-! ### Edits -/

/-- An event edits the document of a record, which is open and in scope. -/
structure Edits (s : Service) (id : Nat) (e : Event) : Prop where
  edit : ∃ uri edits version p, e = .edited uri edits version ∧ uri.path? = some p ∧
    s.registry.find? p = some id
  inside : ∃ r, s.registry.record? id = some r ∧ r.opened = true ∧ s.inScope r = true

/-- Edits of the document of a record in quick succession: each comes before the delay is over since the one
before, whatever else happens in between. -/
inductive Burst (s : Service) (id d : Nat) : List Event → Prop where
  /-- There is one edit. -/
  | first {e : Event} (edit : s.Edits id e) : Burst s id d [e]
  /-- There is one edit more. -/
  | next {es between : List Event} {e : Event} (burst : Burst s id d es)
      (soon : (s.after (es ++ between)).clock < (s.after es).clock + d)
      (edit : (s.after (es ++ between)).Edits id e) : Burst s id d (es ++ between ++ [e])

theorem analyze_eq (hr : s.registry.record? id = some r) (ready : s.ready = true) (on : s.delivery ≠ .off)
    (inside : s.inScope r = true) : s.analyze id =
      s.spawn (.analysis (.ahead s.settings.diagnostics.delay) ⟨id, s.tokenOf r, s.snapshot, none⟩) := by
  have able : (s.ready && s.delivery != .off && s.inScope r) = true := by
    rw [ready, inside, bne_iff_ne.2 on]
    rfl
  unfold analyze
  rw [hr]
  exact if_pos able

/-- Among some events a job is polled, the delay passes, and the job is polled again. -/
def Wakes (s : Service) (n d : Nat) (es : List Event) : Prop :=
  ∃ first wait last, es = first ++ .polled n :: (wait ++ .polled n :: last) ∧
    (s.after first).clock + d ≤ (s.after (first ++ .polled n :: wait)).clock

/-- An edit of a document that is known and can be changed. -/
theorem didChange_ok {uri : Uri} {edits : List Document.Edit} {version : Int} {p : Path} {editor : Editor}
    (hp : uri.path? = some p) (hf : s.registry.find? p = some id)
    (changed : s.editor.changed? p edits version = some editor) :
    s.didChange uri edits version = .ok (({ s with editor }.bump id).analyze id) := by
  have name : pathOf uri = .ok p := by simp only [pathOf, hp]
  have ensured : ({ s with editor } : Service).ensure p = ({ s with editor }, id) := ensure_of_find? hf
  simp only [didChange, name, bind, Except.bind, changed, ensured]
  rfl

/-- What an edit does: the document has another version, and there is an analysis for it. -/
theorem Edits.step (h : s.Edits id e) (matched : s.Matched) (sound : s.registry.Sound) (ready : s.ready = true)
    (on : s.delivery ≠ .off) : (s.step e).registry.version id = s.registry.version id + 1 ∧
      (∃ r, (s.step e).registry.record? id = some r) ∧
      (s.step e).jobs = s.jobs ++ [(s.nextJob, .analysis (.ahead s.settings.diagnostics.delay)
        ⟨id, (s.step e).latest id, s.snapshot, none⟩)] := by
  obtain ⟨⟨uri, edits, version, p, rfl, hp, hf⟩, r, hr, opened, inside⟩ := h
  have has : s.editor.has p = true := (matched.has_iff sound p).2 ⟨r, by rw [recordAt?, hf]; exact hr, opened⟩
  obtain ⟨editor, changed⟩ : ∃ editor, s.editor.changed? p edits version = some editor := by
    cases changed : s.editor.changed? p edits version with
    | none => cases has.symm.trans (Editor.changed?_eq_none.1 changed)
    | some editor => exact ⟨editor, rfl⟩
  have moved : s.step (.edited uri edits version) = ({ s with editor }.bump id).analyze id := by
    rw [Service.step, didChange_ok hp hf changed]
    rfl
  have record : ({ s with editor }.bump id).registry.record? id = some r.bump := by
    rw [bump, record?_modifyRecord, if_pos rfl]
    show (s.registry.record? id).map _ = _
    rw [hr]
    rfl
  rw [moved, analyze_eq record ready on inside]
  have now : ∀ b, (({ s with editor }.bump id).spawn b).registry.record? id = some r.bump := fun _ => record
  refine ⟨?_, ⟨r.bump, now _⟩, ?_⟩
  · rw [Registry.version_of_record? (now _), Registry.version_of_record? hr]
    rfl
  · rw [latest, Registry.version_of_record? (now _)]
    rfl

theorem Edits.not_poll (h : s.Edits id e) (job : Nat) : e ≠ .polled job := by
  obtain ⟨⟨uri, edits, version, p, rfl, -⟩, -⟩ := h
  exact nofun

/-- Once the settings are known they stay so. -/
theorem Intact.ready_step (h : s.Intact) (ready : s.ready = true) (e : Event) : (s.step e).ready = true :=
  step_lasting (I := fun t => t.ready = true) h.registry (fun _ _ _ => rfl) (fun _ _ _ ready => ready)
    (fun _ d ready => d.ready.1.trans ready) ready

theorem Intact.ready_after (h : s.Intact) (ready : s.ready = true) (es : List Event) :
    (s.after es).ready = true := by
  induction es using List.reverseRecOn with
  | nil => exact ready
  | append_singleton es e ih =>
    rw [after_snoc]
    exact (h.after es).ready_step ih e

/-! ### What is not validated -/

variable {host : Host} {delivery : Delivery} {settings : Settings} {waits : Bool}

/-- Before an event that changes a document its version is lower than afterwards, unless it gets around. -/
theorem version_lt (few : contentRises host delivery settings waits id es + 1 < UInt32.size)
    (risen : (session host delivery settings waits (before ++ [e])).registry.version id ≠
      (session host delivery settings waits before).registry.version id)
    (early : front <+: before) (late : before ++ [e] <+: rest) (past : rest <+: es) :
    (session host delivery settings waits front).registry.version id <
      (session host delivery settings waits rest).registry.version id := by
  have fewer : ∀ {es'}, es' <+: es → contentRises host delivery settings waits id es' + 1 < UInt32.size :=
    fun hp => Nat.lt_of_le_of_lt (Nat.add_le_add_right (rises_mono _ hp) 1) few
  have rose := version_le (fewer (late.trans past)) (List.prefix_append before [e])
  have first := version_le (fewer ((List.prefix_append before [e]).trans (late.trans past))) early
  have last := version_le (fewer past) late
  rw [UInt32.lt_iff_toNat_lt]
  rw [UInt32.le_iff_toNat_le] at rose first last
  have apart := mt UInt32.toNat_inj.1 risen
  omega

/-- A document is not validated before the delay is over since it has changed. -/
theorem Delaying.orders_soon (h : Delaying host delivery settings waits es d)
    (few : contentRises host delivery settings waits id es + 1 < UInt32.size)
    (risen : (session host delivery settings waits (before ++ [e])).registry.version id ≠
      (session host delivery settings waits before).registry.version id)
    (late : before ++ [e] <+: rest) (past : rest ++ [x] <+: es)
    (soon : (session host delivery settings waits rest).clock <
      (session host delivery settings waits (before ++ [e])).clock + d) :
    (session host delivery settings waits (rest ++ [x])).orders id =
      (session host delivery settings waits rest).orders id := by
  rcases (h.mono past).orders_cases id with same | ⟨n, i, -, rfl, due, -⟩
  · exact same
  · obtain ⟨since, ⟨m, ⟨first, hf, rfl⟩, rfl, -, token⟩, waited, current⟩ := due
    have here : rest <+: es := (List.prefix_append rest [x]).trans past
    have latest := (isCurrent_iff_latest.1 current).2
    -- the analysis is for the content that the document still has, so it has been scheduled since the change
    have since : before ++ [e] <+: first := by
      rcases List.prefix_or_prefix_of_prefix late hf with since | early
      · exact since
      · rcases List.prefix_concat_iff.1 early with same | early
        · exact same ▸ List.prefix_rfl
        · have older := version_lt few risen early late here
          have same : (session host delivery settings waits first).registry.version i.record =
              (session host delivery settings waits rest).registry.version i.record :=
            congrArg Token.content (token.symm.trans latest.symm)
          exact absurd (same ▸ older) (UInt32.lt_irrefl _)
    obtain ⟨more, rfl⟩ := since
    have later := (session_intact host delivery settings waits (before ++ [e])).clock_le_after more
    rw [← session_append] at later
    exact absurd (Nat.lt_of_lt_of_le soon (Nat.le_trans (Nat.add_le_add_right later d) waited))
      (Nat.lt_irrefl _)

/-- An edit in a session changes the version of the document, and asks for nothing yet. -/
theorem session_edit (ready : (session host delivery settings waits es).ready = true) (on : delivery ≠ .off)
    (edit : (session host delivery settings waits es).Edits id e) :
    (session host delivery settings waits (es ++ [e])).registry.version id ≠
        (session host delivery settings waits es).registry.version id ∧
      (session host delivery settings waits (es ++ [e])).orders id =
        (session host delivery settings waits es).orders id := by
  have now := session_snoc host delivery settings waits es e
  obtain ⟨risen, -⟩ := edit.step (session_matched host delivery settings waits es)
    (session_intact host delivery settings waits es).registry ready
    ((session_delivery host delivery settings waits es).symm ▸ on)
  rw [now, risen]
  exact ⟨by simp, (step_brings _ edit.not_poll).orders id⟩

/-- A document is not validated while the delay is not over since it has changed. -/
theorem Delaying.orders_between (h : Delaying host delivery settings waits es d)
    (few : contentRises host delivery settings waits id es + 1 < UInt32.size)
    (risen : (session host delivery settings waits (before ++ [e])).registry.version id ≠
      (session host delivery settings waits before).registry.version id)
    (past : before ++ [e] ++ between <+: es)
    (soon : (session host delivery settings waits (before ++ [e] ++ between)).clock <
      (session host delivery settings waits (before ++ [e])).clock + d) :
    (session host delivery settings waits (before ++ [e] ++ between)).orders id =
      (session host delivery settings waits (before ++ [e])).orders id := by
  induction between using List.reverseRecOn with
  | nil => rw [List.append_nil]
  | append_singleton between x ih =>
    rw [← List.append_assoc] at past soon ⊢
    have time := (session_intact host delivery settings waits (before ++ [e] ++ between)).clock_le x
    rw [← session_snoc] at time
    have sooner := Nat.lt_of_le_of_lt time soon
    exact (h.orders_soon few risen (List.prefix_append _ between) past sooner).trans
      (ih ((List.prefix_append _ [x]).trans past) sooner)

/-- Edits in quick succession end with an edit, and nothing has been asked for since the first one. -/
theorem Delaying.orders_burst (h : Delaying host delivery settings waits es d)
    (few : contentRises host delivery settings waits id es + 1 < UInt32.size) (on : delivery ≠ .off)
    (ready : (session host delivery settings waits before).ready = true)
    (quick : Burst (session host delivery settings waits before) id d burst) (past : before ++ burst <+: es) :
    ∃ front e, before ++ burst = front ++ [e] ∧ before <+: front ∧
      (session host delivery settings waits front).ready = true ∧
      (session host delivery settings waits front).Edits id e ∧
      (session host delivery settings waits (before ++ burst)).orders id =
        (session host delivery settings waits before).orders id := by
  induction quick with
  | @first e edit =>
    exact ⟨before, e, rfl, List.prefix_rfl, ready, edit, (session_edit ready on edit).2⟩
  | @next burst between e quick soon edit ih =>
    have split : before ++ (burst ++ between ++ [e]) = before ++ burst ++ between ++ [e] := by simp
    rw [split] at past ⊢
    rw [← session_append, ← session_append, ← List.append_assoc] at soon
    rw [← session_append, ← List.append_assoc] at edit
    have idle := (List.prefix_append (before ++ burst ++ between) [e]).trans past
    obtain ⟨front, e', last, begun, ready', edit', same⟩ := ih ((List.prefix_append _ between).trans idle)
    have later := (session_intact host delivery settings waits before).ready_after ready (burst ++ between)
    rw [← session_append, ← List.append_assoc] at later
    refine ⟨before ++ burst ++ between, e, rfl, ?_, later, edit, ?_⟩
    · exact (List.prefix_append before burst).trans (List.prefix_append _ between)
    · refine (session_edit later on edit).2.trans (Eq.trans ?_ same)
      rw [last] at idle soon ⊢
      exact h.orders_between few (session_edit ready' on edit').1 idle soon

/-- What has been validated is no newer than the document. -/
theorem Delaying.content_le (h : Delaying host delivery settings waits es d)
    (few : contentRises host delivery settings waits id es + 1 < UInt32.size) (past : before <+: es) :
    ∀ o ∈ (session host delivery settings waits before).orders id,
      o.1.content ≤ (session host delivery settings waits before).registry.version id := by
  induction before using List.reverseRecOn with
  | nil => exact fun o ho => nomatch ho
  | append_singleton before e ih =>
    have ih := ih ((List.prefix_append before [e]).trans past)
    have fewer : contentRises host delivery settings waits id (before ++ [e]) + 1 < UInt32.size :=
      Nat.lt_of_le_of_lt (Nat.add_le_add_right (rises_mono _ past) 1) few
    have grown := version_le fewer (List.prefix_append before [e])
    intro o ho
    rcases (h.mono past).orders_cases id with same | ⟨n, i, -, rfl, ⟨-, -, -, current⟩, ordered⟩
    · exact UInt32.le_trans (ih o (same ▸ ho)) grown
    · rcases ordered.token_of_mem ho with own | ⟨o', ho', own⟩
      · rw [own, ← (isCurrent_iff_latest.1 current).2]
        exact grown
      · rw [own]
        exact UInt32.le_trans (ih o' ho') grown

/-! ### After the last edit -/

/-- What happens in an event that is neither the editor's doing nor the disk's: a job is polled, or neither jobs nor
records change. -/
theorem passing_cases (passing : e.isPassing = true) : (∃ n, e = .polled n) ∨ (∀ n, e ≠ .polled n) ∧
    (s.step e).jobs = s.jobs ∧ (s.step e).registry = s.registry ∧ (s.step e).settingsVersion = s.settingsVersion := by
  cases e with
  | polled n => exact Or.inl ⟨n, rfl⟩
  | elapsed milliseconds => exact Or.inr ⟨nofun, rfl, rfl, rfl⟩
  | released gate => exact Or.inr ⟨nofun, rfl, rfl, rfl⟩
  | host host => exact Or.inr ⟨nofun, rfl, rfl, rfl⟩
  | _ => cases passing

theorem Intact.isCurrent_passing (h : s.Intact) (passing : e.isPassing = true) {token : Token}
    (current : s.isCurrent id token = true) : (s.step e).isCurrent id token = true := by
  obtain ⟨⟨r, hr⟩, same⟩ := isCurrent_iff_latest.1 current
  obtain ⟨r', hr', -⟩ := (h.lasts e).records id r hr
  refine isCurrent_iff_latest.2 ⟨⟨r', hr'⟩, same ▸ ?_⟩
  rcases passing_cases (s := s) passing with ⟨n, rfl⟩ | ⟨-, -, registry, version⟩
  · rcases h.poll_cases n with rests | ⟨b, t, -, course, leaves⟩
    · exact congrArg (fun t => latest t id) rests
    · obtain ⟨jobs, outbox, he⟩ := leaves.beside
      show (s.poll n).latest id = _
      rw [he, latest, latest]
      show Token.mk (t.registry.version id) t.settingsVersion = _
      rw [course.quiet.version, course.quiet.settingsVersion]
  · rw [latest, latest, registry, version]

/-- The analysis of a job is for the latest token of its record, and no other job has yet to ask for that. -/
structure Last (s : Service) (n : Nat) (i : Inquiry) : Prop where
  current : s.isCurrent i.record i.token = true
  sole : ∀ m delay j, (m, Job.analysis delay j) ∈ s.jobs → delay ≠ .over → j.record = i.record →
    j.token = i.token → m = n

/-- An analysis that has yet to ask after a poll has had to before. -/
theorem Turn.unasked (h : Turn d s n s') {m : Nat} {delay : Delay} (hj : (m, Job.analysis delay i) ∈ s'.jobs)
    (unasked : delay ≠ .over) : ∃ delay, (m, Job.analysis delay i) ∈ s.jobs ∧ delay ≠ .over := by
  rcases h.mem_jobs hj with old | ⟨rfl, ⟨j, here, made⟩ | ⟨j, made, -⟩⟩
  · exact ⟨delay, old, unasked⟩
  · cases made
    exact ⟨_, here, Delay.ahead_ne_over d⟩
  · cases made
    exact absurd rfl unasked

/-- What has come of a job after validations had been started for a record: it has yet to ask, at some stage, or
it has started one more. -/
inductive Outcome (l : List (Token × List Nat)) (n : Nat) (i : Inquiry) (stage : Delay → Prop) (s : Service) :
    Prop where
  /-- It waits, and no validation has been started. -/
  | waits {delay : Delay} (wait : stage delay) (here : (n, Job.analysis delay i) ∈ s.jobs)
      (none : s.orders i.record = l)
  /-- It has asked, and a validation has been started for it. -/
  | asked (idle : ∀ b, (n, b) ∈ s.jobs → ∃ j, b = .analysis .over j)
      (one : s.orders i.record = l ++ [(i.token, [n])])

/-- A job that has been polled has asked or waits for the end of the delay, which is still ahead. -/
theorem Turn.polled (h : Turn d s n s') (positive : 0 < d) {delay : Delay}
    (hj : (n, Job.analysis delay i) ∈ s'.jobs) : delay = .over ∨ ∃ deadline, delay = .running deadline ∧
      s.clock < deadline := by
  have asked : HasAsked n s s' → delay = .over := fun a => by
    obtain ⟨j, same, -⟩ := a.self _ hj
    cases same
    rfl
  cases h with
  | rests same early => exact Or.inr (early delay i (same ▸ hj))
  | begins here made =>
    rw [made] at hj
    rcases mem_setJob hj with ⟨-, -, same⟩ | ⟨apart, -⟩
    · cases same
      exact Or.inr ⟨_, rfl, Nat.lt_add_of_pos_right positive⟩
    · exact absurd rfl apart
  | lapses here stale made =>
    rw [made] at hj
    exact absurd rfl (mem_endJob_iff.1 hj).2
  | asks _ _ _ _ _ a => exact Or.inl (asked a)
  | waits _ _ a => exact Or.inl (asked a)

section

variable {stage stage' : Delay → Prop} {m : Nat}

theorem Outcome.mono (o : Outcome l n i stage s)
    (h : ∀ delay, (n, Job.analysis delay i) ∈ s.jobs → stage delay → stage' delay) :
    Outcome l n i stage' s := by
  cases o with
  | waits wait here none => exact .waits (h _ here wait) here none
  | asked idle one => exact .asked idle one

/-- A poll of another job leaves a job as it is. -/
theorem Turn.mem_jobs_apart (h : Turn d s m s') (apart : n ≠ m) : (n, b) ∈ s'.jobs ↔ (n, b) ∈ s.jobs := by
  cases h with
  | rests same => rw [same]
  | begins here made =>
    rw [made]
    exact mem_setJob_iff apart
  | lapses here stale made =>
    rw [made, mem_endJob_iff]
    exact and_iff_left apart
  | asks _ _ _ _ _ asked => exact asked.others _ apart
  | waits _ _ asked => exact asked.others _ apart

/-- A poll of another job than the one that alone has to ask starts no validation of its record. -/
theorem Turn.orders_apart (h : Turn d s m s') (last : Last s n i) (apart : n ≠ m) :
    s'.orders i.record = s.orders i.record := by
  cases h with
  | rests same => rw [same]
  | begins here made => rw [made]; rfl
  | lapses here stale made => rw [made]; rfl
  | @asks deadline j here late current ordered others asked =>
    -- if it asked for the same record, then its token would be the latest one, too
    refine others _ fun same => apart ?_
    have token : j.token = i.token := by
      rw [← (isCurrent_iff_latest.1 current).2, ← (isCurrent_iff_latest.1 last.current).2, same]
    exact (last.sole m _ j here (Delay.running_ne_over _) same token).symm
  | waits here orders asked => exact orders _

theorem Outcome.apart (o : Outcome l n i stage s) (turn : Turn d s m s') (last : Last s n i) (apart : n ≠ m) :
    Outcome l n i stage s' := by
  have orders := turn.orders_apart last apart
  cases o with
  | waits wait here none => exact .waits wait ((turn.mem_jobs_apart apart).2 here) (orders.trans none)
  | asked idle one =>
    exact .asked (fun b hb => idle b ((turn.mem_jobs_apart apart).1 hb)) (orders.trans one)

/-- A poll of any job: the one that alone has to ask goes on to wait, or it asks and has a validation started if
nothing covers its token. -/
theorem Outcome.turn (o : Outcome l n i stage s) (turn : Turn d s m s') (intact : s.Intact) (last : Last s n i)
    (bare : ∀ o ∈ l, o.1.covers i.token = false) (unasked : ∀ delay, stage delay → delay ≠ .over)
    (goesOn : stage (.ahead d) → stage (.running (s.clock + d))) : Outcome l n i stage s' := by
  by_cases own : n = m
  · subst own
    cases o with
    | @waits delay wait here none =>
      have only : ∀ {b}, (n, b) ∈ s.jobs → Job.analysis delay i = b := fun hb =>
        Option.some.inj ((intact.job?_of_mem here).symm.trans (intact.job?_of_mem hb))
      cases turn with
      | rests same => exact same ▸ .waits wait here none
      | begins here' made =>
        cases only here'
        exact made ▸ .waits (goesOn wait) (mem_setJob_self here) none
      | lapses here' stale made =>
        cases only here'
        exact nomatch stale.symm.trans last.current
      | asks here' late current ordered others asked =>
        cases only here'
        rw [none] at ordered
        exact .asked (fun b hb => (asked.self b hb).imp fun _ h => h.1) (ordered.eq_of_bare bare)
      | waits here' orders asked =>
        cases only here'
        exact absurd rfl (unasked _ wait)
    | asked idle one =>
      cases turn with
      | rests same => exact same ▸ .asked idle one
      | begins here made => exact nomatch idle _ here
      | lapses here stale made => exact nomatch idle _ here
      | asks here late current ordered others asked => exact nomatch idle _ here
      | waits here orders asked =>
        exact .asked (fun b hb => (asked.self b hb).imp fun _ h => h.1) ((orders _).trans one)
  · exact o.apart turn last own

/-- As long as the editor does nothing more and nothing happens on disk, a job that alone has to ask has a validation
started once. -/
theorem Delaying.outcome (h : Delaying host delivery settings waits es d) (past : before ++ rest <+: es)
    (passing : ∀ e ∈ rest, e.isPassing = true) (last : Last (session host delivery settings waits before) n i)
    (o : Outcome l n i stage (session host delivery settings waits before))
    (bare : ∀ o ∈ l, o.1.covers i.token = false) (unasked : ∀ delay, stage delay → delay ≠ .over)
    (goesOn : ∀ deadline, stage (.ahead d) → stage (.running deadline)) :
    Last (session host delivery settings waits (before ++ rest)) n i ∧
      Outcome l n i stage (session host delivery settings waits (before ++ rest)) := by
  induction rest using List.reverseRecOn with
  | nil =>
    rw [List.append_nil]
    exact ⟨last, o⟩
  | append_singleton rest e ih =>
    rw [← List.append_assoc] at past ⊢
    have so_far := (List.prefix_append (before ++ rest) [e]).trans past
    obtain ⟨last, o⟩ := ih so_far fun e he => passing e (List.mem_append_left _ he)
    have passing : e.isPassing = true := passing e (by simp)
    have intact := session_intact host delivery settings waits (before ++ rest)
    have current := intact.isCurrent_passing passing last.current
    rw [session_snoc]
    rcases passing_cases (s := session host delivery settings waits (before ++ rest)) passing with
      ⟨m, rfl⟩ | ⟨-, jobs, registry, -⟩
    · have turn := intact.turn h.positive (h.mono so_far).delayed m
      refine ⟨⟨current, fun m delay j hj wait => ?_⟩, o.turn turn intact last bare unasked (goesOn _)⟩
      obtain ⟨delay, hj, wait⟩ := turn.unasked hj wait
      exact last.sole m delay j hj wait
    · refine ⟨⟨current, fun m delay j hj => last.sole m delay j (jobs ▸ hj)⟩, ?_⟩
      cases o with
      | waits wait here none => exact .waits wait (jobs.symm ▸ here) ((orders_of_registry registry _).trans none)
      | asked idle one =>
        exact .asked (fun b hb => idle b (jobs ▸ hb)) ((orders_of_registry registry _).trans one)

end

section

variable (h : Delaying host delivery settings waits es d)
  (few : contentRises host delivery settings waits id es + 1 < UInt32.size) (on : delivery ≠ .off)
  (ready : (session host delivery settings waits front).ready = true)
  (edit : (session host delivery settings waits front).Edits id e) (past : front ++ [e] <+: es)
include h few on ready edit past

/-- After an edit only the analysis that it has scheduled has yet to ask for the latest token. -/
theorem Delaying.last : ∃ n i, i.record = id ∧
    i.token = (session host delivery settings waits (front ++ [e])).latest id ∧
    Last (session host delivery settings waits (front ++ [e])) n i ∧
      (n, Job.analysis (.ahead d) i) ∈ (session host delivery settings waits (front ++ [e])).jobs := by
  have now := session_snoc host delivery settings waits front e
  have so_far := (List.prefix_append front [e]).trans past
  obtain ⟨-, there, jobs⟩ := edit.step (session_matched host delivery settings waits front)
    (session_intact host delivery settings waits front).registry ready
    ((session_delivery host delivery settings waits front).symm ▸ on)
  have risen := (session_edit ready on edit).1
  rw [h.fixed front so_far ready] at jobs
  rw [now] at risen ⊢
  refine ⟨_, _, rfl, rfl, ⟨isCurrent_iff_latest.2 ⟨there, rfl⟩, fun m delay j hj _ own token => ?_⟩,
    jobs ▸ List.mem_append_right _ (List.mem_singleton_self _)⟩
  rw [jobs] at hj
  rcases List.mem_append.1 hj with old | new
  · -- an older analysis has an older token
    have asked : (session host delivery settings waits front).Asked j :=
      ⟨_, old, List.mem_singleton_self j⟩
    obtain ⟨m', ⟨first, hf, rfl⟩, taken, -⟩ := session_taken host delivery settings waits front asked
    rw [← now] at risen
    have older := version_lt few risen hf List.prefix_rfl past
    have same : (session host delivery settings waits first).registry.version id =
        (session host delivery settings waits (front ++ [e])).registry.version id := by
      have content := congrArg Token.content (taken.symm.trans token)
      rw [own] at content
      rw [now]
      exact content
    exact absurd (same ▸ older) (UInt32.lt_irrefl _)
  · exact congrArg Prod.fst (List.mem_singleton.1 new)

/-- Nothing that has been validated before an edit covers the token after it. -/
theorem Delaying.bare (first : before <+: front) : ∀ o ∈ (session host delivery settings waits before).orders id,
    o.1.content < (session host delivery settings waits (front ++ [e])).registry.version id := fun o ho =>
  UInt32.lt_of_le_of_lt (h.content_le few (first.trans ((List.prefix_append front [e]).trans past)) o ho)
    (version_lt few (session_edit ready on edit).1 first List.prefix_rfl past)

end

/-- A job that alone has to ask has asked when it has been polled, or it waits for the end of the delay. -/
theorem Delaying.outcome_polled (h : Delaying host delivery settings waits es d) (past : before <+: es)
    (last : Last (session host delivery settings waits before) n i)
    (o : Outcome l n i stage (session host delivery settings waits before))
    (bare : ∀ o ∈ l, o.1.covers i.token = false) (unasked : ∀ delay, stage delay → delay ≠ .over)
    (goesOn : stage (.ahead d) → stage (.running ((session host delivery settings waits before).clock + d))) :
    Outcome l n i (fun delay => stage delay ∧ ∃ deadline, delay = .running deadline ∧
      (session host delivery settings waits before).clock < deadline)
        (session host delivery settings waits (before ++ [.polled n])) := by
  have intact := session_intact host delivery settings waits before
  have turn := intact.turn h.positive (h.mono past).delayed n
  have now : session host delivery settings waits (before ++ [.polled n]) =
      (session host delivery settings waits before).poll n := session_snoc _ _ _ _ before _
  rw [now]
  refine (o.turn turn intact last bare unasked goesOn).mono fun delay here wait => ⟨wait, ?_⟩
  exact (turn.polled h.positive here).resolve_left (unasked delay wait)

/-- A job that alone has to ask waits with its first poll at the latest, so that the end of its delay is fixed. -/
theorem Delaying.outcome_begun (h : Delaying host delivery settings waits es d) (past : before <+: es)
    (last : Last (session host delivery settings waits before) n i)
    (o : Outcome l n i (· ≠ .over) (session host delivery settings waits before))
    (bare : ∀ o ∈ l, o.1.covers i.token = false) :
    Outcome l n i (Delay.EndsBy ((session host delivery settings waits before).clock + d))
      (session host delivery settings waits (before ++ [.polled n])) := by
  have timed : Outcome l n i (fun delay => delay = .ahead d ∨
      delay.EndsBy ((session host delivery settings waits before).clock + d))
        (session host delivery settings waits before) := by
    refine o.mono fun delay here wait => ?_
    have stage := (h.mono past).delayed _ here
    cases stage with
    | ahead => exact Or.inl rfl
    | running _ _ _ soon => exact Or.inr soon
    | asked => exact absurd rfl wait
  refine (h.outcome_polled past last timed bare ?_ fun _ => Or.inr (Nat.le_refl _)).mono ?_
  · rintro delay (rfl | ends)
    · exact Delay.ahead_ne_over d
    · exact ends.unasked
  · rintro delay - ⟨rfl | ends, deadline, same, -⟩
    · cases same
    · exact ends

/-- A job that alone has to ask has asked with the first poll after the end of its delay. -/
theorem Delaying.outcome_ended (h : Delaying host delivery settings waits es d) (past : before <+: es)
    (last : Last (session host delivery settings waits before) n i) {time : Nat}
    (o : Outcome l n i (Delay.EndsBy time) (session host delivery settings waits before))
    (bare : ∀ o ∈ l, o.1.covers i.token = false)
    (ended : time ≤ (session host delivery settings waits before).clock) :
    Outcome l n i (fun _ => False) (session host delivery settings waits (before ++ [.polled n])) := by
  refine (h.outcome_polled past last o bare (fun _ ends => ends.unasked) fun ends => ends.elim).mono ?_
  rintro _ - ⟨ends, deadline, rfl, ahead⟩
  exact Nat.lt_irrefl _ (Nat.lt_of_lt_of_le ahead (Nat.le_trans ends ended))

/-- A job that alone has to ask has a validation started when it wakes up. -/
theorem Delaying.wakes (h : Delaying host delivery settings waits es d) (past : before ++ rest <+: es)
    (passing : ∀ e ∈ rest, e.isPassing = true) (last : Last (session host delivery settings waits before) n i)
    (o : Outcome l n i (· ≠ .over) (session host delivery settings waits before))
    (bare : ∀ o ∈ l, o.1.covers i.token = false)
    (wakes : Wakes (session host delivery settings waits before) n d rest) :
    (session host delivery settings waits (before ++ rest)).orders i.record = l ++ [(i.token, [n])] := by
  obtain ⟨first, wait, later, rfl, time⟩ := wakes
  rw [← session_append, ← session_append] at time
  have split : before ++ (first ++ .polled n :: (wait ++ .polled n :: later)) =
      before ++ first ++ [.polled n] ++ wait ++ [.polled n] ++ later := by simp
  rw [split] at past ⊢
  have split : before ++ (first ++ .polled n :: wait) = before ++ first ++ [.polled n] ++ wait := by simp
  rw [split] at time
  have past₄ := (List.prefix_append _ later).trans past
  have past₃ := (List.prefix_append _ [Event.polled n]).trans past₄
  have past₂ := (List.prefix_append _ wait).trans past₃
  have past₁ := (List.prefix_append _ [Event.polled n]).trans past₂
  have poll : ∀ e ∈ [Event.polled n], e.isPassing = true := fun e he => by rw [List.mem_singleton.1 he]; rfl
  have unasked : ∀ delay : Delay, delay ≠ .over → delay ≠ .over := fun _ wait => wait
  obtain ⟨last₁, o₁⟩ := h.outcome past₁ (fun e he => passing e (by simp [he])) last o bare unasked
    fun _ _ => Delay.running_ne_over _
  have last₂ := (h.outcome past₂ poll last₁ o₁ bare unasked fun _ _ => Delay.running_ne_over _).1
  have o₂ := h.outcome_begun past₁ last₁ o₁ bare
  obtain ⟨last₃, o₃⟩ := h.outcome past₃ (fun e he => passing e (by simp [he])) last₂ o₂ bare
    (fun _ ends => ends.unasked) fun _ ends => ends.elim
  have last₄ := (h.outcome past₄ poll last₃ o₃ bare (fun _ ends => ends.unasked) fun _ ends => ends.elim).1
  have o₄ := h.outcome_ended past₃ last₃ o₃ bare time
  obtain ⟨-, o₅⟩ := h.outcome past (fun e he => passing e (by simp [he])) last₄ o₄ bare (fun _ no => no.elim)
    fun _ no => no.elim
  cases o₅ with
  | waits no => exact no.elim
  | asked _ one => exact one

/-- As long as the editor asks for nothing itself and the delay is the same, validations are asked for only by
analyses that have waited for the delay and find the token that they have been scheduled for still the latest one.
So of edits of a document that follow each other within the delay only the last one is validated, and once: of all
tokens that the document has had after one of the edits, none has been validated before them, and after them one
validation is started, for the last one, as soon as the job of that edit has been polled, the delay has passed, and
the job is polled again. -/
theorem edits_debounced (h : Delaying host delivery settings waits es d) (on : delivery ≠ .off) :
    (∀ before e id, before ++ [e] <+: es →
      (session host delivery settings waits (before ++ [e])).orders id =
          (session host delivery settings waits before).orders id ∨
        ∃ n i, e = .polled n ∧ i.record = id ∧ Due (start host delivery settings waits) before d n i ∧
          Ordered i.token n ((session host delivery settings waits before).orders id)
            ((session host delivery settings waits (before ++ [e])).orders id)) ∧
    ∀ before burst id, before ++ burst <+: es →
      (session host delivery settings waits before).ready = true →
      Burst (session host delivery settings waits before) id d burst →
      contentRises host delivery settings waits id es + 1 < UInt32.size →
      (∀ front e, front ++ [e] <+: burst → (session host delivery settings waits (before ++ front)).Edits id e →
        ∀ o ∈ (session host delivery settings waits before).orders id,
          o.1 ≠ (session host delivery settings waits (before ++ front ++ [e])).latest id) ∧
      ∃ n i, i.record = id ∧ i.token = (session host delivery settings waits (before ++ burst)).latest id ∧
        (n, Job.analysis (.ahead d) i) ∈ (session host delivery settings waits (before ++ burst)).jobs ∧
        ∀ rest, before ++ burst ++ rest <+: es → (∀ e ∈ rest, e.isPassing = true) →
          Outcome ((session host delivery settings waits before).orders id) n i (· ≠ .over)
            (session host delivery settings waits (before ++ burst ++ rest)) ∧
          (Wakes (session host delivery settings waits (before ++ burst)) n d rest →
            (session host delivery settings waits (before ++ burst ++ rest)).orders id =
              (session host delivery settings waits before).orders id ++ [(i.token, [n])]) := by
  refine ⟨fun before e id past => (h.mono past).orders_cases id, fun before burst id past ready quick few =>
    ⟨fun front e hf edit o ho same => ?_, ?_⟩⟩
  · have here : before ++ front ++ [e] <+: es := by
      rw [List.append_assoc]
      exact ((List.prefix_append_right_inj before).2 hf).trans past
    have stays := (session_intact host delivery settings waits before).ready_after ready front
    rw [← session_append] at stays
    have newer := h.bare few on stays edit here (List.prefix_append before front) o ho
    exact absurd (congrArg Token.content same ▸ newer) (UInt32.lt_irrefl _)
  · obtain ⟨front, e, ends, begun, ready, edit, none⟩ := h.orders_burst few on ready quick past
    rw [ends] at past none ⊢
    obtain ⟨n, i, own, token, last, here⟩ := h.last few on ready edit past
    subst own
    have bare : ∀ o ∈ (session host delivery settings waits before).orders i.record,
        o.1.covers i.token = false := by
      intro o ho
      have newer := h.bare few on ready edit past begun o ho
      rw [token, Token.covers, latest, decide_eq_false (UInt32.not_le.2 newer)]
      rfl
    have unasked : Delay.ahead d ≠ .over := Delay.ahead_ne_over d
    have o : Outcome ((session host delivery settings waits before).orders i.record) n i (· ≠ .over)
        (session host delivery settings waits (front ++ [e])) := .waits unasked here none
    refine ⟨n, i, rfl, token, here, fun rest past passing => ⟨?_, fun wakes => ?_⟩⟩
    · exact (h.outcome past passing last o bare (fun _ wait => wait) fun _ _ => Delay.running_ne_over _).2
    · exact h.wakes past passing last o bare wakes

/-! ### Somebody types -/

/-- The shader is opened. -/
def opening : List Event := [.opened shaderUri "x".toList 1]

/-- The shader is edited twice, 200 milliseconds apart; the jobs of its opening and of the first edit begin to
wait. -/
def typing : List Event :=
  [.edited shaderUri [⟨none, "y".toList⟩] 2] ++ [.polled 0, .elapsed 200, .polled 1] ++
    [.edited shaderUri [⟨none, "z".toList⟩] 3]

/-- The job of the second edit begins to wait, those before it wake up in vain, and then it wakes up itself. -/
def awaking : List Event := [.polled 2, .elapsed 100, .polled 0, .elapsed 200, .polled 1, .polled 2]

theorem edits_of_any {uri : Uri} {edits : List Document.Edit} {version : Int} {p : Path} (hp : uri.path? = some p)
    (known : s.registry.find? p = some id)
    (inside : (s.registry.record? id).any (fun r => r.opened && s.inScope r) = true) :
    s.Edits id (.edited uri edits version) := by
  obtain ⟨r, hr, within⟩ := (Option.any_eq_true _ _).1 inside
  exact ⟨⟨uri, edits, version, p, rfl, hp, known⟩, r, hr, Bool.and_eq_true_iff.1 within⟩

theorem delaying_typing :
    Delaying strictHost (.push true) Settings.standard false (opening ++ typing ++ awaking) 300 :=
  delaying_of_unset (by decide) (by decide) (by decide)

theorem burst_typing :
    Burst (session strictHost (.push true) Settings.standard false opening) 0 300 typing := by
  have path : shaderUri.path? = some shaderPath := by decide +kernel
  refine .next (.first (edits_of_any path ?_ ?_)) ?_ (edits_of_any path ?_ ?_) <;> decide +kernel

/-- Somebody opens the shader and types; only the last edit is validated. -/
theorem typing_debounced :
    let s := session strictHost (.push true) Settings.standard false
    Delaying strictHost (.push true) Settings.standard false (opening ++ typing ++ awaking) 300 ∧
      (s opening).ready = true ∧ Burst (s opening) 0 300 typing ∧
      Wakes (s (opening ++ typing)) 2 300 awaking ∧
      (s opening).orders 0 = [] ∧ (s (opening ++ typing ++ awaking)).orders 0 = [(⟨4, 0⟩, [2])] := by
  intro s
  have few : contentRises strictHost (.push true) Settings.standard false 0 (opening ++ typing ++ awaking) + 1 <
      UInt32.size := Nat.lt_of_le_of_lt (Nat.add_le_add_right (rises_le_length _ _) 1) (by decide)
  have wakes : Wakes (s (opening ++ typing)) 2 300 awaking :=
    ⟨[], [.elapsed 100, .polled 0, .elapsed 200, .polled 1], [], rfl, by decide +kernel⟩
  have none : (s opening).orders 0 = [] := by decide +kernel
  refine ⟨delaying_typing, rfl, burst_typing, wakes, none, ?_⟩
  obtain ⟨-, n, i, -, token, here, after⟩ := (edits_debounced delaying_typing (by decide)).2 opening typing 0
    (List.prefix_append _ _) rfl burst_typing few
  have latest : (s (opening ++ typing)).latest 0 = ⟨4, 0⟩ := by decide +kernel
  have numbers : (s (opening ++ typing)).jobs.filterMap (fun j => match j.2 with
      | .analysis _ i => if i.token = ⟨4, 0⟩ then some j.1 else Option.none
      | _ => Option.none) = [2] := by decide +kernel
  have token : i.token = ⟨4, 0⟩ := token.trans latest
  have mem : n ∈ [2] := by
    rw [← numbers, List.mem_filterMap]
    exact ⟨_, here, if_pos token⟩
  obtain rfl := List.mem_singleton.1 mem
  have one := (after awaking List.prefix_rfl (by decide)).2 wakes
  rw [one, none, token]
  rfl

end Service

end ShaderDiagnostics
