import ShaderDiagnostics.Proofs.Service.Elsewhere
import ShaderDiagnostics.Proofs.Service.Published

/-!
# Documents that leave

A document leaves for good when the editor closes it and its file is deleted (`Service.Departure`), and it
matters which of the two comes first (`Service.departure_shown`). A document that is closed first is
forgotten when its file is deleted, and nothing is shown for it from then on. But the deletion of a file is
ignored as long as the editor has it open, and when it is closed after that, its text should come from a file
that is gone. From then on the document is `Service.Stranded`: no read for its version succeeds, so no
validation of it does, and nothing takes back what is shown.
-/

namespace ShaderDiagnostics

/-- The file at a path cannot be read. -/
def Host.Lacks (h : Host) (p : Path) : Prop := ∀ q, q.same p = true → ∃ e, h.read q = .error e

namespace Event

/-- The editor closes the document at a path. -/
def Closes (p : Path) : Event → Prop
  | .closed uri => uri.Names p
  | _ => False

/-- The file at a path, which belongs to a stage, is deleted. -/
def Deletes (settings : Settings) (p : Path) : Event → Prop
  | .file e => e.kind = 3 ∧ ∃ q, e.uri.path? = some q ∧ q.same p = true ∧
      (settings.extensions.stageOfPath q).isSome = true
  | _ => False

variable {settings : Settings} {p : Path} {e : Event}

theorem Closes.eq (h : e.Closes p) : ∃ uri, e = .closed uri ∧ uri.Names p := by
  cases e with
  | closed uri => exact ⟨uri, rfl, h⟩
  | _ => exact h.elim

theorem Deletes.eq (h : e.Deletes settings p) : ∃ uri q, e = .file ⟨uri, 3⟩ ∧ uri.path? = some q ∧
    q.same p = true ∧ (settings.extensions.stageOfPath q).isSome = true := by
  cases e with
  | file e =>
    obtain ⟨uri, kind⟩ := e
    obtain ⟨rfl, q, hq, same, mapped⟩ := h
    exact ⟨uri, q, rfl, hq, same, mapped⟩
  | _ => exact h.elim

theorem Closes.not_deletes (h : e.Closes p) : ¬ e.Deletes settings p := by
  obtain ⟨uri, rfl, -⟩ := h.eq
  exact id

end Event

namespace Service

variable {leaving : Nat → Prop} {asks : Inquiry → Prop} {s s' : Service} {p q : Path} {uri : Uri} {id : Nat}
  {r : Record} {version : UInt32} {answer : Except ServiceError (List Char)} {found : List Diagnostic}
  {e : Event} {es : List Event}

/-! ### Reads -/

/-- What is read in a poll is the text of a record for its version, as the host answers. -/
theorem Course.read_cases (c : Course asks s s') (h : HasRead s'.log id p version answer) :
    HasRead s.log id p version answer ∨ ∃ r, s.registry.record? id = some r ∧ p = r.path ∧
      version = r.version ∧ answer = s.host.read r.path := by
  induction c with
  | refl => exact Or.inl h
  | @tail t t' c a ih =>
    cases a with
    | aside _ _ _ log => exact ih (log ▸ h)
    | @record m r r' xs _ _ record act _ log =>
      rw [log] at h
      obtain ⟨n, h⟩ := h
      rcases List.mem_append.1 h with new | old
      · cases act with
        | reads =>
          cases List.mem_singleton.1 new
          have q := Course.quiet c
          obtain ⟨r₀, hr₀, g⟩ := q.of_record? record
          exact Or.inr ⟨r₀, hr₀, g.path, g.version, by rw [q.host, g.path]⟩
        | runs => cases List.mem_singleton.1 new
        | _ => cases new
      · exact ih ⟨n, old⟩

theorem Intact.read_cases (h : s.Intact) (hx : HasRead (s.step e).log id p version answer) :
    HasRead s.log id p version answer ∨ ∃ r, s.registry.record? id = some r ∧ p = r.path ∧
      version = r.version ∧ answer = s.host.read r.path := by
  rcases h.step_cases e with ⟨job, b, t, jobs, outbox, -, -, course, -, he⟩ | ⟨t, shift, spawns⟩
  · rw [he] at hx
    exact course.read_cases hx
  · rw [spawns.log, shift.log] at hx
    exact Or.inl hx

/-- Texts have been read for versions that their documents have had, none of which is later than that of
now. -/
def Dated (s : Service) : Prop :=
  ∀ id p version answer, HasRead s.log id p version answer → version ≤ s.registry.version id

theorem Dated.step (d : s.Dated) (h : s.Intact) (st : Steady s (s.step e)) : (s.step e).Dated := by
  intro id p version answer hx
  rcases h.read_cases hx with old | ⟨r, hr, -, rfl, -⟩
  · exact UInt32.le_trans (d id p version answer old) (st.records id)
  · rw [← Registry.version_of_record? hr]
    exact st.records id

theorem Publishing.dated (h : Publishing s es) (i : s.Intact) (d : s.Dated) : (s.after es).Dated := by
  induction es using List.reverseRecOn with
  | nil => exact d
  | append_singleton es e ih =>
    rw [after_snoc]
    exact (ih h.take).step (i.after es) h.last.2

/-- A file that cannot be read stays so as long as the host says so. -/
theorem Kept.lacks (k : s.Kept leaving) (gone : s.host.Lacks p) (pull : e.isPull = false)
    (settings : ∀ settings, e ≠ .configured settings) (stays : ∀ host, e = .host host → host.Lacks p) :
    (s.step e).host.Lacks p := by
  by_cases other : ∃ host, e = .host host
  · obtain ⟨host, rfl⟩ := other
    exact stays host rfl
  · rw [(k.step_onward pull settings fun host he => other ⟨host, he⟩).host]
    exact gone

theorem Publishing.lacks (h : Publishing s es) (o : Orderly s) (gone : s.host.Lacks p)
    (settings : ∀ settings, .configured settings ∉ es) (stays : ∀ host, .host host ∈ es → host.Lacks p) :
    (s.after es).host.Lacks p := by
  induction es using List.reverseRecOn with
  | nil => exact gone
  | append_singleton es e ih =>
    rw [after_snoc]
    refine (h.take.orderly o).kept.lacks (ih h.take (fun new hm => ?_) fun host hm => ?_) h.last.1
      (fun new he => ?_) fun host he => ?_
    · exact settings new (List.mem_append_left _ hm)
    · exact stays host (List.mem_append_left _ hm)
    · exact settings new (by simp [he])
    · exact stays host (by simp [he])

/-! ### Closing and deleting -/

/-- The editor closes a document: it has another text, and is analyzed or has its diagnostics taken back. -/
theorem step_closed (s : Service) (hq : uri.path? = some q) :
    let t := (s.ensure q).1.touch (s.ensure q).2 (s.editor.closed q) false
    s.step (.closed uri) = if s.settings.diagnostics.workspace then t.analyze (s.ensure q).2
      else t.retract (s.ensure q).2 := by
  intro t
  have name : pathOf uri = .ok q := by simp only [pathOf, hq]
  have moved : ({ s with editor := s.editor.closed q }.ensure q).1.setOpened (s.ensure q).2 false = t :=
    touch_eq_setOpened (s.ensure q).1 _ _ _
  rw [← moved]
  simp only [step, didClose, name]
  rfl

theorem Kept.closed_onward (k : s.Kept leaving) (uri : Uri) : Onward s (s.step (.closed uri)) :=
  k.step_onward rfl (fun _ h => nomatch h) fun _ h => nomatch h

/-- Closing a document changes nothing that validations go by. -/
theorem Kept.closed_snapshot (k : s.Kept leaving) (uri : Uri) :
    (s.step (.closed uri)).snapshot = s.snapshot := by
  have onward := k.closed_onward uri
  simp only [Service.snapshot, onward.settings, onward.validator]

/-- A document that has been closed has a new version. It is known then, and if it was known before, then by
the same path. -/
theorem closed_record (h : s.registry.Sound) (names : uri.Names p) :
    ∃ id r, (s.step (.closed uri)).registry.find? p = some id ∧
      (s.step (.closed uri)).registry.record? id = some r ∧ r.opened = false ∧
      r.version = s.registry.version id + 1 ∧ ∀ r₀, s.recordAt? p = some r₀ → r.path = r₀.path := by
  obtain ⟨q, hq, hs⟩ := names
  obtain ⟨r, known, same⟩ := h.known_ensure q
  have moved := known_touch (s := (s.ensure q).1) known (s.editor.closed q) false
  have stays : ∃ r', (s.step (.closed uri)).registry.Known (s.ensure q).2 r' ∧ (r.moved false).Grows r' := by
    rw [step_closed s hq]
    split
    · exact ⟨_, by rwa [registry_analyze], .refl _⟩
    · exact (retract_quiet _ _).stays moved
  obtain ⟨r', known', g⟩ := stays
  have own : r.path.same p = true := by rw [PathMap.same_congr same, hs]
  have path : r'.path = r.path := g.path
  refine ⟨(s.ensure q).2, r', ?_, known'.1, g.opened, ?_, fun r₀ hr₀ => ?_⟩
  · exact (PathMap.get?_congr _ (path ▸ own)).symm.trans known'.2
  · have before : s.registry.version (s.ensure q).2 = r.version := version_known_ensure known
    rw [g.version, before]
    rfl
  · obtain ⟨id, hid, hr₀⟩ := Option.bind_eq_some_iff.1 hr₀
    obtain ⟨r₁, known₁, same₁⟩ := h.of_find? hid
    obtain rfl := Option.some.inj (hr₀.symm.trans known₁.1)
    have still := known₁.ensure h q
    obtain rfl := Registry.Sound.unique still known (by rw [PathMap.same_congr same₁, Path.same_comm, own])
    rw [path, Option.some.inj (known.1.symm.trans still.1)]

/-- Closing a document changes nothing that is shown, unless the document leaves the scope. -/
theorem closed_shown (h : s.registry.Sound) (push : s.delivery.isPush = true) (names : uri.Names p)
    (uri' : Uri) :
    (s.step (.closed uri)).last? uri' = s.last? uri' ∨
      s.settings.diagnostics.workspace = false ∧ (s.step (.closed uri)).last? uri' = some [] := by
  obtain ⟨q, hq, -⟩ := names
  obtain ⟨r, known, -⟩ := h.known_ensure q
  let t := (s.ensure q).1.touch (s.ensure q).2 (s.editor.closed q) false
  have moved : t.registry.Known (s.ensure q).2 (r.moved false) := known_touch known _ false
  have push' : t.delivery.isPush = true := push
  rw [step_closed s hq]
  cases hw : s.settings.diagnostics.workspace with
  | true => exact Or.inl (last?_of_published (published_analyze _ _) uri')
  | false =>
    rw [if_neg (by decide), last?_retract push' moved.1]
    split
    · exact Or.inr ⟨rfl, rfl⟩
    · exact Or.inl rfl

/-- A document that is not open is forgotten when its file is deleted. -/
theorem deleted_unknown (h : s.registry.Sound) (deletes : e.Deletes s.settings p)
    (closed : ∀ id r, s.registry.find? p = some id → s.registry.record? id = some r → r.opened = false) :
    (s.step e).registry.find? p = none := by
  obtain ⟨uri, q, rfl, hq, hs, mapped⟩ := deletes.eq
  have same : s.registry.find? q = s.registry.find? p := PathMap.get?_congr _ hs
  have deleted : s.step (.file ⟨uri, 3⟩) = s.diskDelete q := by
    simp only [step, fileEvent, hq, isMapped, mapped, if_true]
  rw [deleted, diskDelete]
  split
  next none => exact same.symm.trans none
  next id hid =>
    obtain ⟨r, known, -⟩ := h.of_find? hid
    rw [unlessOpened_eq known.1, closed id r (same ▸ hid) known.1, if_neg (by decide)]
    exact (Registry.find?_forget _ q p).trans (if_pos hs)

/-- Nothing is shown for a document that is not known. -/
theorem Kept.unshown (k : s.Kept nobody) (unknown : s.registry.find? p = none)
    (hu : Uri.ofPath? p = some uri) (shown : s.last? uri = some found) : found = [] := by
  by_contra any
  obtain ⟨id, r, hr, live, hp⟩ := k.owned uri found shown any
  have same : s.registry.find? r.path = s.registry.find? p :=
    PathMap.get?_congr _ (Uri.same_of_ofPath? hp hu)
  rw [live.found, unknown] at same
  cases same

/-! ### Documents without a text -/

/-- A document is closed, its file is gone, and its text has not been read since its record was like
this. -/
structure Stranded (p : Path) (id : Nat) (r : Record) (s : Service) : Prop where
  found : s.registry.find? p = some id
  record : ∃ r', s.registry.record? id = some r' ∧ r'.path = r.path ∧ r'.version = r.version ∧
    r'.opened = false
  unread : ∀ q text, ¬ HasRead s.log id q r.version (.ok text)
  gone : s.host.Lacks p

/-- Once the editor has closed a document whose file is gone, there is no text. -/
theorem stranded_of_closed (k : s.Kept leaving) (d : s.Dated) (st : Steady s (s.step (.closed uri)))
    (names : uri.Names p) (gone : s.host.Lacks p) :
    ∃ id r, Stranded p id r (s.step (.closed uri)) ∧ ∀ r₀, s.recordAt? p = some r₀ → r.path = r₀.path := by
  obtain ⟨id, r, hf, hr, closed, version, path⟩ := closed_record k.registry names
  have room : s.registry.version id < s.registry.version id + 1 := by
    have h := st.records id
    rw [Registry.version_of_record? hr, version] at h
    exact lt_add_one_of_le h
  refine ⟨id, r, ⟨hf, ⟨r, hr, rfl, rfl, closed⟩, fun q text hx => ?_, ?_⟩, path⟩
  · have old : HasRead s.log id q r.version (.ok text) := by
      obtain ⟨t, shift, spawns⟩ := step_brings s (e := .closed uri) fun _ h => nomatch h
      rwa [spawns.log, shift.log] at hx
    have le := d id q r.version _ old
    rw [version] at le
    exact UInt32.lt_irrefl _ (UInt32.lt_of_lt_of_le room le)
  · rw [(k.closed_onward uri).host]
    exact gone

theorem Stranded.step (h : Stranded p id r s) (k : s.Kept leaving) (i : s.Intact)
    (pull : e.isPull = false) (far : e.Elsewhere p) (stays : ∀ host, e = .host host → host.Lacks p) :
    Stranded p id r (s.step e) := by
  have spared := k.spares pull far
  obtain ⟨r₁, hr₁, path, version, closed⟩ := h.record
  obtain ⟨r₂, hr₂, path₂, version₂, opened₂⟩ := spared.record id r₁ h.found hr₁
  refine ⟨spared.found.trans h.found,
    ⟨r₂, hr₂, path₂.trans path, version₂.trans version, opened₂.trans closed⟩, fun q text hx => ?_, ?_⟩
  · rcases i.read_cases hx with old | ⟨r₀, hr₀, -, -, read⟩
    · exact h.unread q text old
    · obtain ⟨r₃, known, same⟩ := k.registry.of_find? h.found
      obtain rfl := Option.some.inj (hr₀.symm.trans known.1)
      obtain ⟨e, failed⟩ := h.gone r₀.path same
      rw [failed] at read
      cases read
  · refine k.lacks h.gone pull (fun settings he => ?_) stays
    rw [he] at far
    exact far

/-- A poll publishes something for the document only if it can be said without a text: there are no
diagnostics. -/
theorem Stranded.publishes {token : Token} (h : Stranded p id r s') (k : s'.Kept nobody) {n : Nat}
    (hu : Uri.ofPath? p = some uri) (published : Publishes s s' n token uri found) :
    found = [] ∧ s'.snapshot.means? r.path = none := by
  obtain ⟨r₁, known, hp, -, -, right⟩ := published.current k
  obtain ⟨r₂, hr₂, path, version, closed⟩ := h.record
  have same : s'.registry.find? r₁.path = s'.registry.find? p :=
    PathMap.get?_congr _ (Uri.same_of_ofPath? hp hu)
  rw [known.2, h.found] at same
  obtain rfl := Option.some.inj same
  obtain rfl := Option.some.inj (known.1.symm.trans hr₂)
  unfold Accurate at right
  split at right
  next means => exact ⟨right, path ▸ means⟩
  · obtain ⟨text, output, text', -, -⟩ := right
    rw [HasText, if_neg (by simp [closed]), version] at text'
    exact absurd text' (h.unread _ text)

/-- After an event what is shown for the document is what was shown before, unless there is nothing to be
read for it. -/
theorem Stranded.shown (h : Stranded p id r (s.step e)) (k : s.Kept nobody) (pull : e.isPull = false)
    (far : e.Elsewhere p) (hu : Uri.ofPath? p = some uri) :
    (s.step e).last? uri = s.last? uri ∨
      (s.step e).last? uri = some [] ∧ (s.step e).snapshot.means? r.path = none := by
  by_cases poll : ∃ job, e = .polled job
  · obtain ⟨job, rfl⟩ := poll
    obtain ⟨n, goes⟩ := k.poll job
    rcases goes.announces with same | ⟨token, uri', found, published⟩
    · exact Or.inl (last?_of_published same uri)
    · have sent : (s.step (.polled job)).published = (uri', found) :: s.published := by
        obtain ⟨-, -, -, -, -, -, -, -, -, -, sent⟩ := published
        exact sent
      rw [last?_cons sent]
      split
      next own =>
        subst own
        obtain ⟨rfl, means⟩ := h.publishes goes.kept hu published
        exact Or.inr ⟨rfl, means⟩
      · exact Or.inl rfl
  · refine Or.inl ((step_silent k.registry (fun job he => poll ⟨job, he⟩) pull far).shown k.push uri hu)

theorem Stranded.after (h : Stranded p id r s) (i : s.Intact) (o : Orderly s) (run : Publishing s es)
    (far : ∀ e ∈ es, e.Elsewhere p) (stays : ∀ host, .host host ∈ es → host.Lacks p)
    (hu : Uri.ofPath? p = some uri) :
    Stranded p id r (s.after es) ∧ ((s.after es).last? uri = s.last? uri ∨
      (s.after es).last? uri = some [] ∧ s.snapshot.means? r.path = none) := by
  induction es using List.reverseRecOn with
  | nil => exact ⟨h, Or.inl rfl⟩
  | append_singleton es e ih =>
    obtain ⟨before, shown⟩ := ih run.take (fun x hx => far x (List.mem_append_left _ hx))
      fun host hm => stays host (List.mem_append_left _ hm)
    have k := (run.take.orderly o).kept
    have pull := run.last.1
    have snapshot := (run.spares o far).snapshot
    have now := before.step k (i.after es) pull (far e (by simp)) fun host he => stays host (by simp [he])
    rw [after_snoc] at snapshot ⊢
    refine ⟨now, ?_⟩
    rcases now.shown k pull (far e (by simp)) hu with same | ⟨empty, means⟩
    · rwa [same]
    · exact Or.inr ⟨empty, snapshot ▸ means⟩

/-! ### Departures -/

/-- A document leaves for good in a session in which diagnostics are published: the editor closes it and its
file is deleted, in whatever order. The file cannot be read from then on, and in between and later only
other documents are concerned. -/
structure Departure (s₀ : Service) (p : Path) (before : List Event) (first : Event) (between : List Event)
    (second : Event) (rest : List Event) : Prop where
  run : Publishing s₀ (before ++ first :: (between ++ second :: rest))
  both : first.Closes p ∧ second.Deletes (s₀.after before).settings p ∨
    first.Deletes (s₀.after before).settings p ∧ second.Closes p
  far : ∀ e ∈ between ++ rest, e.Elsewhere p
  gone : (s₀.after before).host.Lacks p
  stays : ∀ host, .host host ∈ between ++ rest → host.Lacks p

/-- The editor closing the document at a path has it validated with its text from disk: all documents of the
workspace are in scope, this one is known and belongs to a stage, and there is a validator. -/
def Revalidates (s : Service) (p : Path) : Prop :=
  s.settings.diagnostics.workspace = true ∧
    ∃ r, s.recordAt? p = some r ∧ (s.snapshot.means? r.path).isSome = true

/-- A run up to an event, that event and the rest of the run. -/
theorem Publishing.cut {es' : List Event} (h : Publishing s (es ++ e :: es')) (o : Orderly s) :
    Orderly (s.after es) ∧ Steady (s.after es) ((s.after es).step e) ∧
      Orderly ((s.after es).step e) ∧ Publishing ((s.after es).step e) es' := by
  have before := h.take.orderly o
  rw [List.append_cons] at h
  obtain ⟨pull, st⟩ := h.take.last
  have next := before.step pull st
  have rest := h.drop (by rw [after_snoc]; exact next.kept.push)
  rw [after_snoc] at rest
  exact ⟨before, st, next, rest⟩

section

variable {s₀ : Service} {before between rest : List Event} {first second : Event}

theorem after_departure (s₀ : Service) (before : List Event) (first : Event) (between : List Event)
    (second : Event) (rest : List Event) :
    s₀.after (before ++ first :: (between ++ second :: rest)) =
      ((((s₀.after before).step first).after between).step second).after rest := by
  simp [after]

/-- A document that is closed first is not known any more in the end. -/
theorem Departure.unknown (d : Departure s₀ p before first between second rest) (o : Orderly s₀)
    (closes : first.Closes p) (deletes : second.Deletes (s₀.after before).settings p) :
    (s₀.after (before ++ first :: (between ++ second :: rest))).registry.find? p = none := by
  obtain ⟨o₁, -, o₂, run₂⟩ := d.run.cut o
  obtain ⟨o₃, -, o₄, run₄⟩ := run₂.cut o₂
  obtain ⟨uri, rfl, names⟩ := closes.eq
  obtain ⟨id, r, hf, hr, closed, -⟩ := closed_record o₁.kept.registry names
  let t := ((s₀.after before).step (.closed uri)).after between
  have spared : Spares p ((s₀.after before).step (.closed uri)) t :=
    run₂.take.spares o₂ fun e he => d.far e (List.mem_append_left _ he)
  have settings : t.settings = (s₀.after before).settings :=
    spared.settings.trans (o₁.kept.closed_onward uri).settings
  have unopened : ∀ n r₁, t.registry.find? p = some n → t.registry.record? n = some r₁ →
      r₁.opened = false := by
    intro n r₁ hn hr₁
    rw [spared.found, hf] at hn
    cases hn
    obtain ⟨r', hr', -, -, opened⟩ := spared.record id r hf hr
    obtain rfl := Option.some.inj (hr'.symm.trans hr₁)
    exact opened.trans closed
  have unknown : (t.step second).registry.find? p = none :=
    deleted_unknown o₃.kept.registry (settings ▸ deletes) unopened
  rw [after_departure, (run₄.spares o₄ fun e he => d.far e (List.mem_append_right _ he)).found]
  exact unknown

/-- A file that is deleted first still cannot be read when the editor closes the document. -/
theorem Departure.lacks (d : Departure s₀ p before first between second rest) (o : Orderly s₀)
    (deletes : first.Deletes (s₀.after before).settings p) :
    (((s₀.after before).step first).after between).host.Lacks p := by
  obtain ⟨o₁, -, o₂, run₂⟩ := d.run.cut o
  obtain ⟨uri, -, rfl, -⟩ := deletes.eq
  have deleted : ((s₀.after before).step (.file ⟨uri, 3⟩)).host.Lacks p :=
    o₁.kept.lacks d.gone rfl (fun _ h => Event.noConfusion h) fun _ h => Event.noConfusion h
  refine run₂.take.lacks o₂ deleted (fun settings hm => ?_) fun host hm => ?_
  · exact d.far _ (List.mem_append_left _ hm)
  · exact d.stays host (List.mem_append_left _ hm)

/-- If the file is deleted first, then what was shown when the editor closed the document stays. -/
theorem Departure.shown_before (d : Departure s₀ p before first between second rest) (o : Orderly s₀)
    (i : s₀.Intact) (dated : s₀.Dated) (deletes : first.Deletes (s₀.after before).settings p)
    (closes : second.Closes p) (hu : Uri.ofPath? p = some uri) :
    let t := s₀.after (before ++ first :: between)
    let s := s₀.after (before ++ first :: (between ++ second :: rest))
    s.last? uri = t.last? uri ∨ ¬ t.Revalidates p ∧ s.last? uri = some [] := by
  intro t s
  obtain ⟨-, -, o₂, run₂⟩ := d.run.cut o
  obtain ⟨o₃, st₃, o₄, run₄⟩ := run₂.cut o₂
  have gone := d.lacks o deletes
  have dates : t.Dated := by
    have run : Publishing s₀ ((before ++ first :: between) ++ second :: rest) := by
      simpa using d.run
    exact run.take.dated i dated
  obtain ⟨uri₂, rfl, names⟩ := closes.eq
  have ht : t = ((s₀.after before).step first).after between := by simp [t, after]
  have hs : s = (t.step (.closed uri₂)).after rest := by rw [ht]; exact after_departure s₀ _ _ _ _ _
  rw [← ht] at o₃ st₃ o₄ run₄ gone
  obtain ⟨id, r, stranded, path⟩ := stranded_of_closed o₃.kept dates st₃ names gone
  have intact : (t.step (.closed uri₂)).Intact := (i.after _).step _
  obtain ⟨-, later⟩ := stranded.after intact o₄ run₄ (fun e he => d.far e (List.mem_append_right _ he))
    (fun host hm => d.stays host (List.mem_append_right _ hm)) hu
  rw [hs]
  rcases later with same | ⟨empty, means⟩
  · rw [same]
    rcases closed_shown o₃.kept.registry o₃.kept.push names uri with kept | ⟨narrow, empty⟩
    · exact Or.inl kept
    refine Or.inr ⟨?_, empty⟩
    rintro ⟨wide, -⟩
    rw [narrow] at wide
    cases wide
  · refine Or.inr ⟨?_, empty⟩
    rintro ⟨-, r₀, hr₀, meant⟩
    rw [← path r₀ hr₀, ← o₃.kept.closed_snapshot uri₂, means] at meant
    cases meant

end

variable {host : Host} {delivery : Delivery} {settings : Settings} {waits : Bool}
  {before between rest : List Event} {first second : Event}

/-- **Closing and deleting.** A document leaves a session in which diagnostics are published: the editor
closes it, and its file is deleted and cannot be read. If it is closed first, then from the deletion on what
has been published last for it is empty, if anything has been. If its file is deleted first, then from the
closing on what has been published last for it is what it was before; it may only become empty if the
document is not validated any more. -/
theorem departure_shown (d : Departure (start host delivery settings waits) p before first between second rest)
    (hu : Uri.ofPath? p = some uri) :
    let t := session host delivery settings waits (before ++ first :: between)
    let s := session host delivery settings waits (before ++ first :: (between ++ second :: rest))
    (first.Closes p → ∀ found, s.last? uri = some found → found = []) ∧
      (second.Closes p → s.last? uri = t.last? uri ∨ ¬ t.Revalidates p ∧ s.last? uri = some []) := by
  have o : Orderly (start host delivery settings waits) := orderly_start host settings waits d.run.push
  intro t s
  constructor
  · intro closes found shown
    have deletes := (d.both.resolve_right fun h => closes.not_deletes h.1).2
    exact (d.run.orderly o).kept.unshown (d.unknown o closes deletes) hu shown
  · intro closes
    have deletes := (d.both.resolve_left fun h => closes.not_deletes h.2).1
    have dated : (start host delivery settings waits).Dated := by
      rintro id p version answer ⟨_, hx⟩
      cases hx
    exact d.shown_before o (intact_start host delivery settings waits) dated deletes closes hu

/-- A host that has no files, with a validator that finds fault with every text. -/
def bareHost : Host := ({ strictScript with files := PathMap.empty } : ScriptedHost).host

/-- The default settings, but for the delay, with all documents of the workspace in scope. -/
def wideSettings : Settings :=
  { Settings.standard with
    diagnostics := { DiagnosticSettings.standard with workspace := true, delay := 0 } }

/-- The path of the shader. -/
def shaderPath : Path := Path.ofString "/a.vert"

theorem shaderUri_names : shaderUri.Names shaderPath :=
  ⟨shaderPath, by decide +kernel, Path.same_refl shaderPath⟩

/-- The file of the shader is deleted. -/
def deletion : Event := .file ⟨shaderUri, 3⟩

/-- The shader is opened, a fault is shown for it, and then it leaves, which is followed by a poll. -/
theorem departure_visit {first second : Event}
    (both : first = .closed shaderUri ∧ second = deletion ∨ first = deletion ∧ second = .closed shaderUri) :
    Departure (start bareHost (.push true) wideSettings false) shaderPath visit first [] second
      [.polled 1] := by
  have begun : Orderly (start bareHost (.push true) wideSettings false) :=
    orderly_start bareHost wideSettings false rfl
  have run : Publishing (start bareHost (.push true) wideSettings false)
      (visit ++ first :: ([] ++ second :: [.polled 1])) := by
    refine publishing_of_short bareHost wideSettings false rfl (fun e he => ?_) (by simp [visit])
    rcases both with ⟨rfl, rfl⟩ | ⟨rfl, rfl⟩ <;> revert e <;> decide
  have deletes : deletion.Deletes
      ((start bareHost (.push true) wideSettings false).after visit).settings shaderPath :=
    ⟨rfl, shaderPath, by decide +kernel, Path.same_refl shaderPath, by decide +kernel⟩
  refine ⟨run, ?_, fun e he => ?_, ?_, fun host hm => ?_⟩
  · rcases both with ⟨rfl, rfl⟩ | ⟨rfl, rfl⟩
    · exact Or.inl ⟨shaderUri_names, deletes⟩
    · exact Or.inr ⟨deletes, shaderUri_names⟩
  · obtain rfl := List.mem_singleton.1 he
    exact trivial
  · refine run.take.lacks begun (fun q _ => ⟨_, rfl⟩) (fun _ hm => ?_) fun _ hm => ?_ <;>
      simp [visit] at hm
  · cases List.mem_singleton.1 hm

/-- What the validator finds in the shader. -/
def shaderFault : List Diagnostic :=
  [⟨⟨⟨0, 0⟩, ⟨0, 1⟩⟩, some .error, some "glslang", "'x' : undeclared identifier"⟩]

/-- The fault of the shader is taken back if the editor closes the shader before its file is deleted. -/
theorem closed_first_shown :
    let s := session bareHost (.push true) wideSettings false
      (visit ++ .closed shaderUri :: ([] ++ deletion :: [.polled 1]))
    (session bareHost (.push true) wideSettings false visit).last? shaderUri = some shaderFault ∧
      s.last? shaderUri ≠ none ∧ ∀ found, s.last? shaderUri = some found → found = [] := by
  intro s
  have shown : (session bareHost (.push true) wideSettings false visit).last? shaderUri =
      some shaderFault := by decide +kernel
  have told : s.last? shaderUri ≠ none := by decide +kernel
  have uri : Uri.ofPath? shaderPath = some shaderUri := by decide +kernel
  exact ⟨shown, told,
    (departure_shown (departure_visit (Or.inl ⟨rfl, rfl⟩)) uri).1 shaderUri_names⟩

/-- The fault of the shader stays if its file is deleted first, although the shader is not open any more, all
documents of the workspace are in scope and no job is left. -/
theorem deleted_first_shown :
    let before := session bareHost (.push true) wideSettings false visit
    let s := session bareHost (.push true) wideSettings false
      (visit ++ deletion :: ([] ++ .closed shaderUri :: [.polled 1]))
    Departure (start bareHost (.push true) wideSettings false) shaderPath visit deletion []
        (.closed shaderUri) [.polled 1] ∧
      (before.recordAt? shaderPath).map (·.opened) = some true ∧ before.isMapped shaderPath = true ∧
      s.settings.diagnostics.enable = true ∧ s.settings.diagnostics.workspace = true ∧ s.jobs = [] ∧
      s.last? shaderUri = some shaderFault := by
  intro before s
  refine ⟨departure_visit (Or.inr ⟨rfl, rfl⟩), ?_, ?_, ?_, ?_, List.isEmpty_iff.1 ?_, ?_⟩
  all_goals decide +kernel

end Service

end ShaderDiagnostics
