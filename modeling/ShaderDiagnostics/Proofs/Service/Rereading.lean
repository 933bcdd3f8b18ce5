import Mathlib.Data.List.Infix
import ShaderDiagnostics.Proofs.Service.Deeds
import ShaderDiagnostics.Proofs.Service.ResultIds

/-!
# Files that are read again

A watched file that has changed gives its document a new version, unless the editor has it open. So whatever
is delivered for the document from then on goes by a text that has been read since (`Service.disk_refreshes`):
texts are kept by version, versions do not fall, and the document stays closed until something else happens
to it. A file that has been created gives its document no new version. That does no harm if the text has not
been read for the version that the document has, as when it has just become known. But a text that has been
read before is kept, and so are the diagnostics that follow from it (`Service.recreated_unread`).
-/

namespace ShaderDiagnostics

/-- The event concerns other documents, or brings settings under which the path belongs to a stage. -/
def Event.Keeps (p : Path) : Event → Prop
  | .configured settings => (settings.extensions.stageOfPath p).isSome = true
  | e => e.Elsewhere p

namespace Event

variable {p : Path} {e : Event}

theorem Turns.isTurn (h : e.Turns p) : e.isTurn = true := by
  cases e with
  | opened => rfl
  | closed => rfl
  | _ => exact h.elim

theorem Keeps.not_turns (h : e.Keeps p) : ¬ e.Turns p := by
  cases e with
  | opened => exact h
  | closed => exact h
  | _ => exact id

theorem Keeps.not_loses (h : e.Keeps p) : ¬ e.Loses p := by
  cases e with
  | file e => exact fun loses => h loses.2
  | configured settings =>
    intro loses
    have mapped : (settings.extensions.stageOfPath p).isSome = true := h
    rw [show settings.extensions.stageOfPath p = none from loses] at mapped
    cases mapped
  | _ => exact id

end Event

/-- Requests for diagnostics do nothing to documents. -/
theorem ReportOn.keeps {r : Record} {request : Event} {reply : Reply} {report : DocumentReport}
    (h : ReportOn r request reply report) (p : Path) : request.Keeps p := by
  cases h <;> exact trivial

namespace Service

variable {s s₀ : Service} {id : Nat} {r r' : Record} {p q : Path} {e : Event} {es es' mid past rest : List Event}
  {version : UInt32} {answer : Except ServiceError (List Char)} {text : List Char} {found : List Diagnostic}

/-! ### Versions that do not fall -/

/-- The version of a document never falls in a run. -/
def Rising (s₀ : Service) (es : List Event) (id : Nat) : Prop :=
  ∀ es₁ es₂, es₁ <+: es₂ → es₂ <+: es →
    (s₀.after es₁).registry.version id ≤ (s₀.after es₂).registry.version id

theorem Rising.take (h : Rising s₀ es' id) (hp : es <+: es') : Rising s₀ es id :=
  fun es₁ es₂ h₁ h₂ => h es₁ es₂ h₁ (h₂.trans hp)

theorem rising_of_few {host : Host} {delivery : Delivery} {settings : Settings} {waits : Bool}
    (few : contentRises host delivery settings waits id es + 1 < UInt32.size) :
    Rising (start host delivery settings waits) es id := by
  intro es₁ es₂ h h₂
  have le : contentRises host delivery settings waits id es₂ ≤ contentRises host delivery settings waits id es :=
    rises_mono _ h₂
  exact version_le (by omega) h

theorem Publishing.rising (h : Publishing s₀ es) (id : Nat) : Rising s₀ es id := by
  induction es using List.reverseRecOn with
  | nil =>
    intro es₁ es₂ h₁ h₂
    rw [List.prefix_nil.1 h₂] at h₁ ⊢
    rw [List.prefix_nil.1 h₁]
    exact UInt32.le_refl _
  | append_singleton es e ih =>
    intro es₁ es₂ h₁ h₂
    rcases List.prefix_concat_iff.1 h₂ with rfl | h₂
    · rcases List.prefix_concat_iff.1 h₁ with rfl | h₁
      · exact UInt32.le_refl _
      · rw [after_snoc]
        exact UInt32.le_trans (ih h.take es₁ es h₁ List.prefix_rfl) (h.last.2.records id)
    · exact ih h.take es₁ es₂ h₁ h₂

/-! ### Documents that stay as they are -/

/-- A document that an event keeps is known by its record afterwards, and as open as before. -/
theorem keeps_step (sound : s.registry.Sound) (known : s.registry.Known id r) (keeps : e.Keeps r.path) :
    ∃ r', (s.step e).registry.Known id r' ∧ r'.path = r.path ∧ r'.opened = r.opened := by
  refine step_lasting (I := fun t => ∃ r', t.registry.Known id r' ∧ r'.path = r.path ∧ r'.opened = r.opened)
    sound (fun _ _ h => h) ?_ ?_ ⟨r, known, rfl, rfl⟩
  · rintro t n r₁ editor opened other turns - ⟨r', known', path, same⟩
    refine ⟨r', ⟨?_, known'.2⟩, path, same⟩
    rw [record?_touch other.1, if_neg, known'.1]
    rintro rfl
    obtain rfl := Option.some.inj (known'.1.symm.trans other.1)
    exact keeps.not_turns (path ▸ turns)
  · rintro t t' sound' d ⟨r', known', path, same⟩
    obtain ⟨r₂, known₂, path₂, same₂⟩ := d.known sound' known' (path.symm ▸ keeps.not_loses)
    exact ⟨r₂, known₂, path₂.trans path, same₂.trans same⟩

theorem keeps_after (i : s.Intact) (known : s.registry.Known id r) (keeps : ∀ e ∈ es, e.Keeps r.path) :
    ∃ r', (s.after es).registry.Known id r' ∧ r'.path = r.path ∧ r'.opened = r.opened := by
  induction es using List.reverseRecOn with
  | nil => exact ⟨r, known, rfl, rfl⟩
  | append_singleton es e ih =>
    obtain ⟨r₁, known₁, path₁, same₁⟩ := ih fun x hx => keeps x (List.mem_append_left _ hx)
    have keeps' : e.Keeps r₁.path := path₁.symm ▸ keeps e (by simp)
    rw [after_snoc]
    obtain ⟨r₂, known₂, path₂, same₂⟩ := keeps_step (i.after es).registry known₁ keeps'
    exact ⟨r₂, known₂, path₂.trans path₁, same₂.trans same₁⟩

/-- A document that the editor opens or closes has a new version. -/
theorem onset_record (sound : s.registry.Sound) (turn : e.isTurn = true) (hr : s.registry.record? id = some r) :
    ∃ r', (s.onset e).registry.record? id = some r' ∧ (r'.opened = r.opened ∨ r'.version = r.version + 1) := by
  have turned : ∀ (uri : Uri) (table : Path → Editor) (opened : Bool), ∃ r',
      (s.turn uri table opened).registry.record? id = some r' ∧
        (r'.opened = r.opened ∨ r'.version = r.version + 1) := by
    intro uri table opened
    obtain ⟨-, same⟩ | ⟨p, -, same⟩ := turn_cases s uri table opened
    · exact ⟨r, same.symm ▸ hr, Or.inl rfl⟩
    · obtain ⟨r₁, known, -⟩ := known_ensured sound p
      have there : (s.ensure p).1.registry.record? id = some r := Registry.record?_ensure_of_record? hr p
      rw [same, record?_touch known.1]
      split
      next own =>
        subst own
        obtain rfl := Option.some.inj (known.1.symm.trans there)
        exact ⟨_, rfl, Or.inr rfl⟩
      · exact ⟨r, there, Or.inl rfl⟩
  cases e with
  | opened uri text version => exact turned uri (fun p => s.editor.opened p text version) true
  | closed uri => exact turned uri s.editor.closed false
  | _ => cases turn

/-- A document is as open after an event as before, unless it has a new version. -/
theorem opened_or_moved (sound : s.registry.Sound) (hr : s.registry.record? id = some r) (e : Event) :
    ∃ r', (s.step e).registry.record? id = some r' ∧ (r'.opened = r.opened ∨ r'.version = r.version + 1) := by
  cases turn : e.isTurn with
  | true =>
    obtain ⟨r₁, hr₁, begun⟩ := onset_record sound turn hr
    obtain same | ⟨n, r₀, -, same | same⟩ := step_turn sound turn
    · exact ⟨r₁, same.symm ▸ hr₁, begun⟩
    · refine ⟨r₁, ?_, begun⟩
      rw [same, registry_analyze, hr₁]
    · obtain ⟨r₂, hr₂, g⟩ := (retract_quiet (s.onset e) n).records id r₁ hr₁
      exact ⟨r₂, same.symm ▸ hr₂, begun.imp g.opened.trans g.version.trans⟩
  | false =>
    have stays : ∃ r', (s.step e).registry.record? id = some r' ∧ r'.opened = r.opened := by
      refine step_lasting (I := fun t => ∃ r', t.registry.record? id = some r' ∧ r'.opened = r.opened)
        sound (fun _ _ h => h) (fun _ turns => ?_) ?_ ⟨r, hr, rfl⟩
      · rw [turns.isTurn] at turn
        cases turn
      · rintro t t' - d ⟨r', hr', same⟩
        obtain ⟨r₂, hr₂, -, same₂⟩ := d.record hr'
        exact ⟨r₂, hr₂, same₂.trans same⟩
    obtain ⟨r', hr', same⟩ := stays
    exact ⟨r', hr', Or.inl same⟩

/-- A document that keeps its version over a run is as open after it as before. -/
theorem opened_of_level (i : s.Intact) (hr : s.registry.record? id = some r)
    (level : ∀ mid, mid <+: es → (s.after mid).registry.version id = r.version) :
    ∃ r', (s.after es).registry.record? id = some r' ∧ r'.opened = r.opened := by
  induction es using List.reverseRecOn with
  | nil => exact ⟨r, hr, rfl⟩
  | append_singleton es e ih =>
    obtain ⟨r₁, hr₁, same⟩ := ih fun mid hm => level mid (hm.trans (List.prefix_append es [e]))
    have version : r₁.version = r.version :=
      (Registry.version_of_record? hr₁).symm.trans (level es (List.prefix_append es [e]))
    obtain ⟨r₂, hr₂, same₂ | moved⟩ := opened_or_moved (i.after es).registry hr₁ e
    · exact ⟨r₂, (after_snoc s es e).symm ▸ hr₂, same₂.trans same⟩
    · have now := level (es ++ [e]) List.prefix_rfl
      rw [after_snoc, Registry.version_of_record? hr₂, moved, version] at now
      exact absurd now (by grind)

/-- A document whose version has not risen since an earlier moment is as open as it was then. -/
theorem Rising.opened (h : Rising s₀ es' id) (i : s₀.Intact) (hp : es <+: es')
    (hr : (s₀.after es).registry.record? id = some r) (hr' : (s₀.after es').registry.record? id = some r')
    (le : r'.version ≤ r.version) : r'.opened = r.opened := by
  obtain ⟨more, rfl⟩ := hp
  have level : ∀ mid, mid <+: more → ((s₀.after es).after mid).registry.version id = r.version := by
    intro mid hm
    have inside : es ++ mid <+: es ++ more := (List.prefix_append_right_inj es).2 hm
    have low := h es (es ++ mid) (List.prefix_append es mid) inside
    have high := h (es ++ mid) (es ++ more) inside List.prefix_rfl
    rw [Registry.version_of_record? hr] at low
    rw [Registry.version_of_record? hr'] at high
    rw [← after_append]
    exact UInt32.le_antisymm (UInt32.le_trans high le) low
  obtain ⟨r₁, hr₁, same⟩ := opened_of_level (i.after es) hr level
  rw [after_append] at hr'
  obtain rfl := Option.some.inj (hr'.symm.trans hr₁)
  exact same

/-! ### Reads -/

/-- A text has been read from disk in a run, and was there at some moment of the run. -/
def ReadSince (s : Service) (es : List Event) (id : Nat) (p : Path) (text : List Char) : Prop :=
  (∃ version, HasRead (s.after es).log id p version (.ok text) ∧ ¬ HasRead s.log id p version (.ok text)) ∧
    ∃ m, Been s es m ∧ m.host.read p = .ok text

/-- Diagnostics follow from a snapshot and from disk as it has been in a run: there are none if the path
belongs to no stage or there is no validator; otherwise they are what the validator, run for that stage,
reports on a text that has been read in the run. -/
def DerivedSince (s : Service) (es : List Event) (id : Nat) (p : Path) (sn : Snapshot)
    (found : List Diagnostic) : Prop :=
  match sn.means? p with
  | none => found = []
  | some (stage, program) => ∃ text output, ReadSince s es id p text ∧
      HasRun (s.after es).log id ⟨program, sn.settings.arguments stage, text⟩ (.ok output) ∧
      found = Report.read sn.settings.marking text output

/-- What is read in a run is what is on disk at some moment of it. -/
theorem Intact.read_after (i : s.Intact) (old : ¬ HasRead s.log id p version answer)
    (hx : HasRead (s.after es).log id p version answer) : ∃ m, Been s es m ∧ m.host.read p = answer := by
  induction es using List.reverseRecOn with
  | nil => exact absurd hx old
  | append_singleton es e ih =>
    rw [after_snoc] at hx
    rcases (i.after es).read_cases hx with before | ⟨r, -, path, -, read⟩
    · obtain ⟨m, been, read⟩ := ih before
      exact ⟨m, been.mono (List.prefix_append es [e]), read⟩
    · exact ⟨s.after es, (been_now s es).mono (List.prefix_append es [e]), by rw [path, read]⟩

section

variable {host : Host} {delivery : Delivery} {settings : Settings} {waits : Bool}

/-- Texts have been read for versions that are not later than that of now. -/
theorem Rising.dated (h : Rising (start host delivery settings waits) es id)
    (hx : HasRead (session host delivery settings waits es).log id p version answer) :
    version ≤ (session host delivery settings waits es).registry.version id := by
  induction es using List.reverseRecOn with
  | nil =>
    obtain ⟨n, hx⟩ := hx
    cases hx
  | append_singleton es e ih =>
    have past : es <+: es ++ [e] := List.prefix_append es [e]
    have up := h es (es ++ [e]) past List.prefix_rfl
    rw [session_snoc] at hx
    rcases (session_intact host delivery settings waits es).read_cases hx with before | ⟨r, hr, -, rfl, -⟩
    · exact UInt32.le_trans (ih (h.take past) before) up
    · have now : ((start host delivery settings waits).after es).registry.version id = r.version :=
        Registry.version_of_record? hr
      rwa [now] at up

/-! ### Documents whose text has not been read -/

/-- A document is known and not open, and its text has not been read for its version. -/
structure Unread (s : Service) (id : Nat) (r : Record) : Prop where
  known : s.registry.Known id r
  closed : r.opened = false
  unread : ∀ p text, ¬ HasRead s.log id p r.version (.ok text)

variable (rising : Rising (start host delivery settings waits) (past ++ rest) id)
include rising

/-- A text that is read for such a document, for its version or a later one, has been read since. -/
theorem Unread.readSince (u : Unread (session host delivery settings waits past) id r)
    (hx : HasRead (session host delivery settings waits (past ++ rest)).log id p version (.ok text))
    (since : r.version ≤ version) : ReadSince (session host delivery settings waits past) rest id p text := by
  have new : ¬ HasRead (session host delivery settings waits past).log id p version (.ok text) := by
    intro old
    have le := (rising.take (List.prefix_append past rest)).dated old
    rw [Registry.version_of_record? u.known.1] at le
    obtain rfl := UInt32.le_antisymm since le
    exact u.unread p text old
  rw [session_append] at hx
  exact ⟨⟨version, hx, new⟩, (session_intact host delivery settings waits past).read_after new hx⟩

/-- Such a document has not been open at any moment with its version or a later one. -/
theorem Unread.closed_at (u : Unread (session host delivery settings waits past) id r)
    (keeps : ∀ e ∈ rest, e.Keeps r.path) (hm : mid <+: past ++ rest)
    (there : (session host delivery settings waits mid).registry.record? id = some r')
    (since : r.version ≤ r'.version) : r'.opened = false := by
  have i := intact_start host delivery settings waits
  rcases List.prefix_or_prefix_of_prefix hm (List.prefix_append past rest) with earlier | ⟨more, rfl⟩
  · have risen := rising.take (List.prefix_append past rest)
    exact (risen.opened i earlier there u.known.1 since).symm.trans u.closed
  · have inside : more <+: rest := (List.prefix_append_right_inj past).1 hm
    obtain ⟨r₁, known, -, same⟩ := keeps_after (i.after past) u.known
      fun e he => keeps e (inside.subset he)
    rw [session_append] at there
    obtain rfl := Option.some.inj (known.1.symm.trans there)
    exact same.trans u.closed

/-- A text that such a document has had for its version or a later one has been read since. -/
theorem Unread.supplied (u : Unread (session host delivery settings waits past) id r)
    (keeps : ∀ e ∈ rest, e.Keeps r.path) {c : UInt32}
    (h : Supplied (start host delivery settings waits) (past ++ rest)
      (session host delivery settings waits (past ++ rest)).log id p c text)
    (since : r.version ≤ c) : ReadSince (session host delivery settings waits past) rest id p text := by
  cases h with
  | editor been there opened had =>
    obtain ⟨mid, hm, rfl⟩ := been
    have closed := u.closed_at rising keeps hm there (UInt32.le_trans since had)
    rw [opened] at closed
    cases closed
  | disk _ _ _ had _ read => exact u.readSince rising read (UInt32.le_trans since had)

end

/-! ### Files that have changed or been created -/

/-- A file that belongs to a stage, and is not open, has changed; or it has been created, and if its document
is known, then its text has not been read for the document's version. -/
structure Renews (s : Service) (p : Path) (e : Event) : Prop where
  mapped : s.isMapped p = true
  closed : ∀ id r, s.registry.find? p = some id → s.registry.record? id = some r → r.opened = false
  file : ∃ uri, uri.path? = some p ∧ (e = .file ⟨uri, 2⟩ ∨ e = .file ⟨uri, 1⟩ ∧
    ∀ id r, s.registry.find? p = some id → s.registry.record? id = some r →
      ∀ q text, ¬ HasRead s.log id q r.version (.ok text))

/-- The record of a path that has one now was known under the path before, or it is new. -/
theorem ensured_cases (h : s.registry.Sound) (p : Path) :
    ∃ r, (s.ensure p).1.registry.Known (s.ensure p).2 r ∧ r.path.same p = true ∧
      (s.registry.find? p = some (s.ensure p).2 ∧ s.registry.record? (s.ensure p).2 = some r ∨
        s.registry.record? (s.ensure p).2 = none ∧ r = Record.new p) := by
  cases hf : s.registry.find? p with
  | some id =>
    obtain ⟨r, known, same⟩ := h.of_find? hf
    rw [ensure_of_find? hf]
    exact ⟨r, known, same, Or.inl ⟨rfl, known.1⟩⟩
  | none =>
    obtain ⟨r, known, same⟩ := known_ensured h p
    refine ⟨r, known, same, Or.inr ?_⟩
    rcases Registry.record?_ensure known.1 with old | ⟨none, -, -, new⟩
    · have last : (s.ensure p).2 = s.registry.records.length := by simp only [ensure, Registry.ensure, hf]
      rw [last] at old
      exact absurd (List.getElem?_eq_some_iff.1 old).1 (Nat.lt_irrefl _)
    · exact ⟨none, new⟩

/-- After such an event the document is known and not open; either it has a new version, or its text has not
been read for the version that it has. -/
theorem Renews.step (h : s.Renews p e) (i : s.Intact) : ∃ id r, (s.step e).registry.Known id r ∧
    r.path.same p = true ∧ r.opened = false ∧ (s.step e).log = s.log ∧
      (r.version = s.registry.version id + 1 ∨ ∀ q text, ¬ HasRead s.log id q r.version (.ok text)) := by
  obtain ⟨r, known, same, origin⟩ := ensured_cases i.registry p
  have closed : r.opened = false := by
    rcases origin with ⟨hf, hr⟩ | ⟨-, rfl⟩
    · exact h.closed _ r hf hr
    · rfl
  obtain ⟨uri, hp, rfl | ⟨rfl, unread⟩⟩ := h.file
  · have changed : s.step (.file ⟨uri, 2⟩) =
        ((s.ensure p).1.bump (s.ensure p).2).analyze (s.ensure p).2 := by
      simp only [Service.step, fileEvent, hp, h.mapped, if_true, diskChange]
      rw [unlessOpened_eq known.1, closed]
      rfl
    refine ⟨(s.ensure p).2, r.moved r.opened, ?_, same, closed, ?_, Or.inl ?_⟩
    · rw [changed, registry_analyze]
      exact known_bump known
    · rw [changed, (analyze_spawns _ _).log]
      rfl
    · rw [version_known_ensure known]
      rfl
  · have created : s.step (.file ⟨uri, 1⟩) = (s.ensure p).1.analyze (s.ensure p).2 := by
      simp only [Service.step, fileEvent, hp, h.mapped, if_true, diskAdd]
      rw [unlessOpened_eq known.1, closed]
      rfl
    refine ⟨(s.ensure p).2, r, ?_, same, closed, ?_, Or.inr fun q text hx => ?_⟩
    · rwa [created, registry_analyze]
    · rw [created, (analyze_spawns _ _).log]
      rfl
    · rcases origin with ⟨hf, hr⟩ | ⟨none, -⟩
      · exact unread _ r hf hr q text hx
      · obtain ⟨n, hx⟩ := hx
        have foreign := i.unheard _ none _ hx
        simp [Exchange.isFor] at foreign

section

variable {host : Host} {delivery : Delivery} {settings : Settings} {waits : Bool} {before : List Event}

/-- After such an event the text of the document has not been read for its version, unless that has got
around. -/
theorem Renews.unread (h : (session host delivery settings waits before).Renews p e) :
    ∃ id r, (session host delivery settings waits (before ++ [e])).registry.Known id r ∧
      r.path.same p = true ∧ r.opened = false ∧
        (Rising (start host delivery settings waits) (before ++ [e]) id →
          Unread (session host delivery settings waits (before ++ [e])) id r) := by
  have now : session host delivery settings waits (before ++ [e]) =
      (session host delivery settings waits before).step e := after_snoc _ before e
  obtain ⟨id, r, known, same, closed, log, version⟩ := h.step (session_intact _ _ _ _ before)
  rw [← now] at known log
  refine ⟨id, r, known, same, closed, fun rising => ⟨known, closed, fun q text hx => ?_⟩⟩
  rw [log] at hx
  rcases version with moved | unread
  · have past : before <+: before ++ [e] := List.prefix_append before [e]
    have old := (rising.take past).dated hx
    have up : (session host delivery settings waits before).registry.version id ≤
        (session host delivery settings waits (before ++ [e])).registry.version id :=
      rising before (before ++ [e]) past List.prefix_rfl
    rw [Registry.version_of_record? known.1, moved] at up
    rw [moved] at old
    exact UInt32.lt_irrefl _ (UInt32.lt_of_lt_of_le (lt_add_one_of_le up) old)
  · exact unread q text hx

/-! ### What is delivered -/

/-- Once no job is left, what is shown for a document in scope is right for it, if the host has done all that
it was asked for. -/
theorem Orderly.shows {resolve : String → Option Path} (o : Orderly s) (q : Equipped s resolve)
    (succeeds : ∀ x ∈ s.log, x.failed = false) (ready : s.ready = true) (idle : s.jobs = [])
    (known : s.registry.Known id r) (scope : s.inScope r = true) :
    ∃ found, (∀ uri, Uri.ofPath? r.path = some uri → s.last? uri = some found) ∧
      s.Accurate ⟨s.settings, resolve s.settings.validator⟩ id r found := by
  simp only [inScope_eq, Bool.and_eq_true, Bool.not_eq_true'] at scope
  have attended := (o.tended scope.1 ready id r known scope.2).resolve_left False.elim
  cases attended with
  | failing failing =>
    obtain ⟨x, hx, failed⟩ := failing
    rw [succeeds x hx] at failed
    cases failed
  | job mem =>
    rw [idle] at mem
    cases mem
  | @done _ _ found run token ended =>
    have c := (o.kept.records id r known.1).current _ _ run token
    refine ⟨found, fun uri hu => c.published found ended uri hu, ?_⟩
    rw [← q.validator]
    exact (c.accurate found ended).agree c.agrees

section

variable (u : Unread (session host delivery settings waits past) id r)
  (rising : Rising (start host delivery settings waits) (past ++ rest) id)
include u rising

/-- What is right for such a document, as long as it is not open, follows from a text that has been read
since. -/
theorem Unread.accurate {sn : Snapshot}
    (hr : (session host delivery settings waits (past ++ rest)).registry.record? id = some r')
    (path : r'.path = r.path) (closed : r'.opened = false)
    (h : (session host delivery settings waits (past ++ rest)).Accurate sn id r' found) :
    DerivedSince (session host delivery settings waits past) rest id r.path sn found := by
  have since : r.version ≤ r'.version := by
    have up : (session host delivery settings waits past).registry.version id ≤
        (session host delivery settings waits (past ++ rest)).registry.version id :=
      rising past (past ++ rest) (List.prefix_append past rest) List.prefix_rfl
    rwa [Registry.version_of_record? u.known.1, Registry.version_of_record? hr] at up
  unfold Accurate at h
  unfold DerivedSince
  rw [path] at h
  cases means : sn.means? r.path with
  | none =>
    rw [means] at h
    exact h
  | some tool =>
    rw [means] at h
    obtain ⟨text, output, has, run, right⟩ := h
    rw [HasText, if_neg (by simp [closed]), path] at has
    exact ⟨text, output, u.readSince rising has since, session_append _ _ _ _ past rest ▸ run, right⟩

/-- What follows from a text that such a document has had for its version or a later one follows from one
that has been read since. -/
theorem Unread.derived {sn : Snapshot} {c : UInt32} (keeps : ∀ e ∈ rest, e.Keeps r.path)
    (h : Derived (start host delivery settings waits) (past ++ rest)
      (session host delivery settings waits (past ++ rest)).log id p c sn found) (since : r.version ≤ c) :
    DerivedSince (session host delivery settings waits past) rest id p sn found := by
  unfold Derived at h
  unfold DerivedSince
  cases means : sn.means? p with
  | none =>
    rw [means] at h
    exact h
  | some tool =>
    rw [means] at h
    obtain ⟨text, output, supplied, run, right⟩ := h
    exact ⟨text, output, u.supplied rising keeps supplied since, session_append _ _ _ _ past rest ▸ run, right⟩

end

/-- What has been published last for such a document follows from a text that has been read since, once no
job is left. -/
theorem Unread.shown {uri : Uri} (u : Unread (session host delivery settings waits past) id r)
    (run : Publishing (start host delivery settings waits) (past ++ rest)) (keeps : ∀ x ∈ rest, x.Keeps r.path)
    (resolves : ∀ other, .host other ∈ past ++ rest → other.resolve = host.resolve)
    (succeeds : ∀ x ∈ (session host delivery settings waits (past ++ rest)).log, x.failed = false)
    (ready : (session host delivery settings waits (past ++ rest)).ready = true)
    (idle : (session host delivery settings waits (past ++ rest)).jobs = [])
    (scope : (session host delivery settings waits (past ++ rest)).inScope r = true)
    (hu : Uri.ofPath? r.path = some uri) :
    ∃ found, (session host delivery settings waits (past ++ rest)).last? uri = some found ∧
      DerivedSince (session host delivery settings waits past) rest id r.path
        ⟨(session host delivery settings waits (past ++ rest)).settings,
          host.resolve (session host delivery settings waits (past ++ rest)).settings.validator⟩ found := by
  have begun : Orderly (start host delivery settings waits) := orderly_start host settings waits run.push
  have q : Equipped (session host delivery settings waits (past ++ rest)) host.resolve :=
    run.equipped begun ⟨rfl, rfl⟩ resolves
  obtain ⟨r', known, path, opened⟩ := keeps_after (session_intact _ _ _ _ past) u.known keeps
  rw [← session_append] at known
  rw [inScope_eq, ← opened, ← inScope_eq] at scope
  obtain ⟨found, shown, right⟩ := (run.orderly begun).shows q succeeds ready idle known scope
  exact ⟨found, shown uri (path ▸ hu),
    u.accurate (run.rising id) known.1 path (opened.trans u.closed) right⟩

/-- A full report that answers a later request for such a document follows from a text that has been read
since. -/
theorem Unread.served {between later : List Event} {request : Event} {token : Option Token}
    (u : Unread (session host delivery settings waits past) id r)
    (keeps : ∀ x ∈ between ++ later, x.Keeps r.path)
    (h : Served (start host delivery settings waits) (past ++ between) request later id r' (.full token found))
    (few : contentRises host delivery settings waits id
      (untilAnswer (start host delivery settings waits) (past ++ between) request later) + 1 < UInt32.size) :
    ∃ m, Been (start host delivery settings waits)
        (untilAnswer (start host delivery settings waits) (past ++ between) request later) m ∧
      (session host delivery settings waits (past ++ between ++ [request])).settingsVersion ≤
        m.settingsVersion ∧
      DerivedSince (session host delivery settings waits past)
        (between ++ request :: later ++
          [.polled (session host delivery settings waits (past ++ between)).nextJob]) id r.path m.snapshot
        found := by
  let rest := between ++ request :: later ++
    [.polled (session host delivery settings waits (past ++ between)).nextJob]
  have all : untilAnswer (start host delivery settings waits) (past ++ between) request later = past ++ rest := by
    simp [untilAnswer, rest, session]
  rw [all] at few ⊢
  have rising : Rising (start host delivery settings waits) (past ++ rest) id := rising_of_few few
  have keeps' : ∀ x ∈ rest, x.Keeps r.path := by
    obtain ⟨_, _, asks, -⟩ := h.answered
    intro x hx
    simp only [rest, List.mem_append, List.mem_cons, List.not_mem_nil, or_false] at hx
    rcases hx with (early | rfl | late) | rfl
    · exact keeps x (List.mem_append_left _ early)
    · exact asks.keeps r.path
    · exact keeps x (List.mem_append_right _ late)
    · exact trivial
  obtain ⟨-, r₁, n, v, hr₁, hv, covers, ended⟩ := h.fits
  rw [all] at hr₁
  obtain ⟨⟨m, been, version, snapshot⟩, -, -, derived⟩ := (session_traced few hr₁).validations n v hv
  obtain ⟨r₂, hr₂, path, -⟩ := (session_lasts (List.prefix_append past rest)).records id r u.known.1
  obtain rfl := Option.some.inj (hr₂.symm.trans hr₁)
  obtain ⟨content, settingsVersion⟩ := Bool.and_eq_true_iff.1 covers
  have content : r'.version ≤ v.version.content := of_decide_eq_true content
  have settingsVersion : (session host delivery settings waits (past ++ between ++ [request])).settingsVersion ≤
      v.version.settings := of_decide_eq_true settingsVersion
  have since : r.version ≤ r'.version := by
    have up := rising past (past ++ between ++ [request])
      (by rw [List.append_assoc]; exact List.prefix_append _ _)
      ⟨later ++ [.polled (session host delivery settings waits (past ++ between)).nextJob], by simp [rest]⟩
    have now : ((start host delivery settings waits).after past).registry.version id = r.version :=
      Registry.version_of_record? u.known.1
    rwa [now, Registry.version_of_record? h.known.1] at up
  refine ⟨m, been, by rwa [version] at settingsVersion, ?_⟩
  rw [← snapshot, ← path]
  exact u.derived rising keeps' (derived found ended) (UInt32.le_trans since content)

/-- **Files that have changed or been created.** A watched file that belongs to a stage, and is not open, has
changed; or it has been created, and if its document was known, then its text had not been read for its
version. Then the document is known, and it stays so, and closed, as long as nothing else happens to it but
settings under which it still belongs to a stage. And what is delivered for it follows from a text that has
been read from disk since the event: what has been published last, once no job is left, if the document is
in scope and the host has done all that it was asked for; and what is in a full report that answers a later
request, unless the document's version gets around. -/
theorem disk_refreshes (h : (session host delivery settings waits before).Renews p e) :
    let s₀ := start host delivery settings waits
    let s := session host delivery settings waits (before ++ [e])
    ∃ id r, s.registry.Known id r ∧ r.path.same p = true ∧ r.opened = false ∧
      (∀ rest, (∀ x ∈ rest, x.Keeps r.path) →
        ∃ r', (s.after rest).registry.Known id r' ∧ r'.path = r.path ∧ r'.opened = false) ∧
      (∀ rest uri, (∀ x ∈ rest, x.Keeps r.path) → Uri.ofPath? r.path = some uri →
        let all := before ++ [e] ++ rest
        let s' := session host delivery settings waits all
        Publishing s₀ all → (∀ other, .host other ∈ all → other.resolve = host.resolve) →
          (∀ x ∈ s'.log, x.failed = false) → s'.ready = true → s'.jobs = [] → s'.inScope r = true →
            ∃ found, s'.last? uri = some found ∧
              DerivedSince s rest id r.path ⟨s'.settings, host.resolve s'.settings.validator⟩ found) ∧
      ∀ between request later r' token found, (∀ x ∈ between ++ later, x.Keeps r.path) →
        let asked := before ++ [e] ++ between
        Served s₀ asked request later id r' (.full token found) →
          let all := untilAnswer s₀ asked request later
          contentRises host delivery settings waits id all + 1 < UInt32.size →
            ∃ m, Been s₀ all m ∧ (s₀.after (asked ++ [request])).settingsVersion ≤ m.settingsVersion ∧
              DerivedSince s (between ++ request :: later ++ [.polled (s₀.after asked).nextJob]) id r.path
                m.snapshot found := by
  intro s₀ s
  obtain ⟨id, r, known, same, closed, unread⟩ := h.unread
  refine ⟨id, r, known, same, closed, fun rest keeps => ?_, ?_, ?_⟩
  · obtain ⟨r', known', path, opened⟩ := keeps_after (session_intact _ _ _ _ _) known keeps
    exact ⟨r', known', path, opened.trans closed⟩
  · intro rest uri keeps hu all s' run resolves succeeds ready idle scope
    have u := unread ((run.rising id).take (List.prefix_append _ rest))
    exact u.shown run keeps resolves succeeds ready idle scope hu
  · intro between request later r' token found keeps asked served all few
    have past : before ++ [e] <+: all :=
      ⟨between ++ request :: later ++ [.polled (s₀.after asked).nextJob], by simp [all, untilAnswer, asked]⟩
    exact (unread ((rising_of_few few).take past)).served keeps served few

end

/-! ### A file that gets another text -/

/-- The shader appears on disk without a fault and is analyzed, and then it has a fault on disk. -/
def spoiling : List Event := appearing ++ [.host (diskHost "x".toList)]

/-- The file of the shader has changed. -/
def change : Event := .file ⟨shaderUri, 2⟩

/-- A record known under the path of the shader is the first one. -/
theorem shader_record {s : Service} {id : Nat} {r : Record} (known : s.registry.Known id r)
    (same : r.path.same shaderPath = true) (first : s.registry.find? shaderPath = some 0)
    (named : (s.registry.record? 0).map (·.path) = some shaderPath) : id = 0 ∧ r.path = shaderPath := by
  have found := (PathMap.get?_congr s.registry.known same).symm.trans known.2
  obtain rfl := Option.some.inj (found.symm.trans first)
  rw [known.1] at named
  exact ⟨rfl, Option.some.inj named⟩

/-- The file of the shader has changed since it was read. -/
theorem spoiling_renews {delivery : Delivery} (hd : delivery = .push true ∨ delivery = .pull false) :
    (session (diskHost "y".toList) delivery workspaceSettings false spoiling).Renews shaderPath change := by
  have path : shaderUri.path? = some shaderPath := by decide +kernel
  have look : (((session (diskHost "y".toList) delivery workspaceSettings false spoiling).registry.find?
      shaderPath).bind fun id => ((session (diskHost "y".toList) delivery workspaceSettings false
        spoiling).registry.record? id).map (·.opened)) = some false := by
    rcases hd with rfl | rfl <;> decide +kernel
  refine ⟨?_, fun id r hf hr => ?_, shaderUri, path, Or.inl rfl⟩
  · rcases hd with rfl | rfl <;> decide +kernel
  · rw [hf] at look
    change ((session _ _ _ _ _).registry.record? id).map (·.opened) = some false at look
    rw [hr] at look
    exact Option.some.inj look

/-- The fault is published for the shader, or sent to whoever asks for its diagnostics, and both follow from
the text that has been read since the change. -/
theorem spoiled_refreshes :
    let host := diskHost "y".toList
    let s₁ := start host (.push true) workspaceSettings false
    let s₂ := start host (.pull false) workspaceSettings false
    let es := spoiling ++ [change]
    ((s₁.after (es ++ [.polled 1])).last? shaderUri = some (fault 0) ∧
      DerivedSince (s₁.after es) [.polled 1] 0 shaderPath
        ⟨(s₁.after (es ++ [.polled 1])).settings, some (Path.ofString "glslangValidator")⟩ (fault 0)) ∧
      ∃ (r : Record) (m : Service), Served s₂ (es ++ []) asking [] 0 r (.full (some ⟨2, 0⟩) (fault 0)) ∧
        DerivedSince (s₂.after es) [asking, .polled (s₂.after (es ++ [])).nextJob] 0 shaderPath m.snapshot
          (fault 0) := by
  intro host s₁ s₂ es
  constructor
  · obtain ⟨id, r, known, same, closed, -, shown, -⟩ := disk_refreshes (spoiling_renews (Or.inl rfl))
    obtain ⟨rfl, path⟩ := shader_record known same (by decide +kernel) (by decide +kernel)
    have run : Publishing s₁ (es ++ [.polled 1]) :=
      publishing_of_short host workspaceSettings false rfl (by decide) (by decide)
    have succeeds : ∀ x ∈ (s₁.after (es ++ [.polled 1])).log, x.failed = false := by
      have all : ((s₁.after (es ++ [.polled 1])).log.all fun x => !x.failed) = true := by decide +kernel
      simpa using all
    have idle : (s₁.after (es ++ [.polled 1])).jobs = [] := List.isEmpty_iff.1 (by decide +kernel)
    have scope : (s₁.after (es ++ [.polled 1])).inScope r = true := by
      rw [inScope_eq, closed]
      decide +kernel
    have resolves : ∀ other, .host other ∈ es ++ [.polled 1] → other.resolve = host.resolve := by
      intro other hm
      simp only [es, spoiling, appearing, change, List.mem_append, List.mem_cons, List.not_mem_nil,
        reduceCtorEq, or_false, false_or, Event.host.injEq] at hm
      rw [hm]
      rfl
    have keeps : ∀ x ∈ [Event.polled 1], x.Keeps r.path := by
      intro x hx
      obtain rfl := List.mem_singleton.1 hx
      exact trivial
    have named : Uri.ofPath? r.path = some shaderUri := by
      rw [path]
      decide +kernel
    obtain ⟨found, last, derived⟩ := shown [.polled 1] shaderUri keeps named run resolves succeeds
      (by decide +kernel) idle scope
    have told : (s₁.after (es ++ [.polled 1])).last? shaderUri = some (fault 0) := by decide +kernel
    obtain rfl := Option.some.inj (last.symm.trans told)
    have found : host.resolve (s₁.after (es ++ [.polled 1])).settings.validator =
        some (Path.ofString "glslangValidator") := by decide +kernel
    exact ⟨told, found ▸ path ▸ derived⟩
  · obtain ⟨id, r, known, same, -, -, -, sent⟩ := disk_refreshes (spoiling_renews (Or.inr rfl))
    obtain ⟨rfl, path⟩ := shader_record known same (by decide +kernel) (by decide +kernel)
    obtain ⟨r', served⟩ : ∃ r, Served s₂ (es ++ []) asking [] 0 r (.full (some ⟨2, 0⟩) (fault 0)) :=
      served_of_sent (by decide +kernel) (by decide +kernel) (by decide +kernel)
    obtain ⟨m, -, -, derived⟩ := sent [] asking [] r' _ _ (fun x hx => nomatch hx) served (by decide +kernel)
    exact ⟨r', m, served, path ▸ derived⟩

/-- The text of a read that has not failed. -/
def readText? : Exchange → Option (List Char)
  | .read _ _ _ _ (.ok text) => some text
  | _ => none

/-- If the file of the shader is created once more, as when it is replaced, then its document is not read
again, although all documents of the workspace are in scope, nothing has failed and no job is left: what is
shown does not follow from any text that has been read since. -/
theorem recreated_unread :
    let s₀ := start (diskHost "y".toList) (.push true) workspaceSettings false
    let es := spoiling ++ [.file ⟨shaderUri, 1⟩]
    let s := s₀.after (es ++ [.polled 1])
    ((s₀.after spoiling).recordAt? shaderPath).map (·.opened) = some false ∧
      (s₀.after spoiling).isMapped shaderPath = true ∧ (s₀.after spoiling).ready = true ∧
      (s₀.after spoiling).settings.wants false = true ∧ (∀ x ∈ s.log, x.failed = false) ∧ s.jobs = [] ∧
      s.last? shaderUri = some [] ∧
      ¬ DerivedSince (s₀.after es) [.polled 1] 0 shaderPath
        ⟨s.settings, some (Path.ofString "glslangValidator")⟩ [] := by
  intro s₀ es s
  have succeeds : (s.log.all fun x => !x.failed) = true := by decide +kernel
  refine ⟨by decide +kernel, by decide +kernel, by decide +kernel, by decide +kernel, by simpa using succeeds,
    List.isEmpty_iff.1 (by decide +kernel), by decide +kernel, fun derived => ?_⟩
  -- only the first text has ever been read, and it was not on disk any more at the event
  have texts : ∀ x ∈ s.log, ∀ text, readText? x = some text → text = "y".toList := by
    have all : (s.log.all fun x => (readText? x).all (· == "y".toList)) = true := by decide +kernel
    simpa [Option.all_eq_true] using all
  have disk : ∀ mid ∈ [Event.polled 1].inits,
      (((s₀.after es).after mid).host.read shaderPath).toOption = some "x".toList := by decide +kernel
  have means : (⟨s.settings, some (Path.ofString "glslangValidator")⟩ : Snapshot).means? shaderPath =
      some (.vertex, Path.ofString "glslangValidator") := by decide +kernel
  unfold DerivedSince at derived
  rw [means] at derived
  obtain ⟨text, output, ⟨⟨version, ⟨n, read⟩, -⟩, m, ⟨mid, hm, rfl⟩, had⟩, -⟩ := derived
  have there := disk mid ((List.mem_inits _ _).2 hm)
  rw [had] at there
  obtain rfl := Option.some.inj there
  rw [← after_append] at read
  exact absurd (texts _ read _ rfl) (by decide)

end Service

end ShaderDiagnostics
