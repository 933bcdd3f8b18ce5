import ShaderDiagnostics.Proofs.Cache.Thrift
import ShaderDiagnostics.Proofs.Service.Moments

/-!
# Who runs the validator

A validation runs the validator once at most, and notes the text and the call when it does. Validations keep
their numbers in the cache of their record, and the host is told for which of them it is called. So what
the host has been asked for can be read off the records: the runs of the validator for a record are those that
its validations have noted, each under the number of its validation (`Service.session_ran`). That holds in every
session, and does not depend on versions.
-/

namespace ShaderDiagnostics

/-! ### Lists of which one element changes -/

/-- The elements that are kept of a list, and one more after an element has been changed for which there
was none. -/
theorem filterMap_modify_perm {α β : Type} (g : α → Option β) {l : List α} {i : Nat} {a : α}
    (ha : l[i]? = some a) {f : α → α} (before : g a = none) {b : β} (now : g (f a) = some b) :
    ((l.modify i f).filterMap g).Perm (b :: l.filterMap g) := by
  obtain ⟨front, back, hl, hm⟩ := modify_split ha f
  rw [hm, hl, List.filterMap_append, List.filterMap_append, List.filterMap_cons_some now,
    List.filterMap_cons_none before]
  exact List.perm_middle

/-- Nothing else is kept of a list after a change that leaves alone what is kept of the element. -/
theorem filterMap_modify_eq {α β : Type} (g : α → Option β) {l : List α} {i : Nat} {f : α → α}
    (same : ∀ a, l[i]? = some a → g (f a) = g a) : (l.modify i f).filterMap g = l.filterMap g := by
  cases ha : l[i]? with
  | none => rw [List.modify_eq_self (List.getElem?_eq_none_iff.1 ha)]
  | some a =>
    obtain ⟨front, back, hl, hm⟩ := modify_split ha f
    rw [hm, hl, List.filterMap_append, List.filterMap_append, List.filterMap_cons, List.filterMap_cons,
      same a ha]

/-- A change leaves the numbers of the elements alone. -/
theorem zipIdx_modify {α : Type} (l : List α) (i : Nat) (f : α → α) :
    (l.modify i f).zipIdx = l.zipIdx.modify i fun x => (f x.1, x.2) := by
  refine List.ext_getElem? fun k => ?_
  simp only [List.getElem?_zipIdx, List.getElem?_modify]
  cases l[k]? with
  | none => rfl
  | some a => by_cases h : i = k <;> simp [h]

/-- What is put before a list and not kept does not matter. -/
theorem filter_append_of_dropped {α : Type} {keeps : α → Bool} {front l : List α}
    (dropped : ∀ x ∈ front, keeps x = false) : (front ++ l).filter keeps = l.filter keeps := by
  rw [List.filter_append, List.filter_eq_nil_iff.2 fun x hx => by simp [dropped x hx], List.nil_append]

/-! ### Runs of the validator -/

/-- Whether the host is called for this validation of a record. -/
def Exchange.isOf (id n : Nat) : Exchange → Bool
  | .read record validation _ _ _ => record == id && validation == n
  | .run record validation _ _ => record == id && validation == n

theorem Exchange.isOf_of_isFor {x : Exchange} {id : Nat} (h : x.isFor id = false) (n : Nat) :
    x.isOf id n = false := by
  cases x <;> simp only [isFor] at h <;> simp only [isOf, h, Bool.false_and]

/-- Whether an exchange is a run of the validator for a record. -/
def Exchange.isRun (id : Nat) : Exchange → Bool
  | .run record _ _ _ => record == id
  | .read .. => false

theorem Exchange.isRun_of_isFor {x : Exchange} {id : Nat} (h : x.isFor id = false) : x.isRun id = false := by
  cases x with
  | read => rfl
  | run => exact h

/-- The run of the validator that a validation has made for the document at a path, if it has come to
that, with the answer. -/
def invocation? (p : Path) (v : ValidationRun) : Option (Invocation × Except ServiceError (List Char)) :=
  match v.work.progress, v.work.snapshot.means? p with
  | .running text _ call, some (stage, program) =>
    some (⟨program, v.work.snapshot.settings.arguments stage, text⟩, call.outcome)
  | _, _ => none

theorem invocation?_eq_none {p : Path} {v : ValidationRun}
    (h : ∀ text since call, v.work.progress ≠ .running text since call) : invocation? p v = none := by
  unfold invocation?
  split
  next progress _ => exact absurd progress (h _ _ _)
  · rfl

theorem invocation?_eq_some {p : Path} {v : ValidationRun} {i : Invocation}
    {answer : Except ServiceError (List Char)} :
    invocation? p v = some (i, answer) ↔
      ∃ stage program text since call, v.work.snapshot.means? p = some (stage, program) ∧
        v.work.progress = .running text since call ∧ call.outcome = answer ∧
        i = ⟨program, v.work.snapshot.settings.arguments stage, text⟩ := by
  unfold invocation?
  constructor
  · split
    next text since call stage program progress means =>
      rintro ⟨⟩
      exact ⟨stage, program, text, since, call, means, progress, rfl, rfl⟩
    · exact nofun
  · rintro ⟨stage, program, text, since, call, means, progress, rfl, rfl⟩
    simp only [progress, means]

/-- The exchange in which the validation with this number has run the validator. -/
def ran? (id : Nat) (p : Path) (x : ValidationRun × Nat) : Option Exchange :=
  (invocation? p x.1).map fun c => .run id x.2 c.1 c.2

namespace Record

variable {r : Record} {v : ValidationRun} {m n : Nat}

/-- The exchanges in which the validations of a record have run the validator, in the order of their
numbers. -/
def ran (r : Record) (id : Nat) : List Exchange := r.results.runs.zipIdx.filterMap (ran? id r.path)

/-- A run of the validator is known by the validation that it is for. -/
theorem mem_ran {id : Nat} {x : Exchange} :
    x ∈ r.ran id ↔ ∃ n v i answer, r.results.run? n = some v ∧ invocation? r.path v = some (i, answer) ∧
      x = .run id n i answer := by
  unfold ran ran?
  rw [List.mem_filterMap]
  constructor
  · rintro ⟨⟨v, n⟩, here, hx⟩
    obtain ⟨⟨i, answer⟩, made, rfl⟩ := Option.map_eq_some_iff.1 hx
    exact ⟨n, v, i, answer, List.mem_zipIdx_iff_getElem?.1 here, made, rfl⟩
  · rintro ⟨n, v, i, answer, here, made, rfl⟩
    exact ⟨(v, n), List.mem_zipIdx_iff_getElem?.2 here, by rw [made]; rfl⟩

/-- How many validations for a token have run the validator on the document of a record. -/
def invocations (r : Record) (t : Token) : Nat :=
  r.results.runs.countP fun v => decide (v.version = t) && (invocation? r.path v).isSome

theorem invocations_le_started (r : Record) (t : Token) : r.invocations t ≤ r.results.started t :=
  List.countP_mono_left fun v _ h => by simp only [Bool.and_eq_true] at h; exact h.1

/-- A validation that waits for a read has not run the validator. -/
theorem Awaits.invocation? (h : r.Awaits v m) : invocation? r.path v = none := by
  refine invocation?_eq_none fun text since call running => ?_
  cases h with
  | begins fresh => exact nomatch fresh.symm.trans running
  | goesOn reading => exact nomatch reading.symm.trans running

/-- A validation that takes its text has not run the validator. -/
theorem Takes.invocation? {editor : Editor} {text : List Char} (h : r.Takes editor v text) :
    ShaderDiagnostics.invocation? r.path v = none := by
  cases h with
  | editor fresh => exact invocation?_eq_none fun _ _ _ running => nomatch fresh.symm.trans running
  | kept fresh => exact invocation?_eq_none fun _ _ _ running => nomatch fresh.symm.trans running
  | read awaits => exact awaits.invocation?

/-- The work of a validation has changed, and the validator has not been run for that. -/
theorem ran_modifyWork (id : Nat) {f : Validation → Validation}
    (same : ∀ v, r.results.run? n = some v →
      ShaderDiagnostics.invocation? r.path { v with work := f v.work } =
        ShaderDiagnostics.invocation? r.path v) :
    Record.ran { r with results := r.results.modifyWork n f } id = r.ran id := by
  unfold ran Cache.modifyWork
  rw [zipIdx_modify]
  refine filterMap_modify_eq _ fun x hx => ?_
  obtain ⟨v, hv, rfl⟩ : ∃ v, r.results.run? n = some v ∧ x = (v, n) := by
    rw [List.getElem?_zipIdx, Nat.zero_add] at hx
    obtain ⟨v, hv, rfl⟩ := Option.map_eq_some_iff.1 hx
    exact ⟨v, hv, rfl⟩
  exact congrArg (Option.map _) (same v hv)

end Record

namespace Service

variable {asks : Inquiry → Prop} {s : Service} {id : Nat} {r r' : Record} {log xs : List Exchange}

/-- The host has been asked to run the validator for a record just as the validations of the record say. -/
def Ran (id : Nat) (log : List Exchange) (r : Record) : Prop :=
  (log.filter (Exchange.isRun id)).Perm (r.ran id)

theorem ran_new (results : r.results = Cache.empty) (h : ∀ x ∈ log, x.isFor id = false) :
    Ran id log r := by
  unfold Ran Record.ran
  rw [← List.append_nil log, filter_append_of_dropped fun x hx => Exchange.isRun_of_isFor (h x hx), results]
  exact List.Perm.refl []

namespace Ran

/-- Only the path and the validations of the record matter. -/
theorem of_eq (h : Ran id log r) (same : r'.ran id = r.ran id) : Ran id log r' := by
  unfold Ran at h ⊢
  rwa [same]

/-- No run of the validator for the record has been added to what the host has been asked for. -/
theorem aside (h : Ran id log r) (none : ∀ x ∈ xs, x.isRun id = false) : Ran id (xs ++ log) r := by
  unfold Ran
  rw [filter_append_of_dropped none]
  exact h

theorem others (h : Ran id log r) (none : ∀ x ∈ xs, x.isFor id = false) : Ran id (xs ++ log) r :=
  h.aside fun x hx => Exchange.isRun_of_isFor (none x hx)

theorem request (h : Ran id log r) (t : Token) (sn : Snapshot) :
    Ran id log { r with results := (r.results.request Token.covers t ⟨sn, .fresh, []⟩).1 } := by
  rcases Cache.request_cases Token.covers r.results t ⟨sn, .fresh, []⟩ with same | ⟨-, new⟩
  · rw [same]
    exact h
  · rw [new]
    refine h.of_eq ?_
    let v : ValidationRun := ⟨t, ⟨sn, .fresh, []⟩, none⟩
    have fresh : invocation? r.path v = none :=
      invocation?_eq_none fun _ _ _ running => nomatch running
    have idle : ∀ n, ran? id r.path (v, n) = none := fun n => by
      rw [ran?, fresh]
      rfl
    show (r.results.runs ++ [v]).zipIdx.filterMap (ran? id r.path) = _
    rw [List.zipIdx_append, List.filterMap_append, List.zipIdx_singleton,
      List.filterMap_cons_none (idle _), List.filterMap_nil, List.append_nil]
    rfl

theorem finish (h : Ran id log r) {n : Nat} {v : ValidationRun} (hv : r.results.run? n = some v)
    (ho : v.outcome = none) (o : Except ServiceError (List Diagnostic)) :
    Ran id log { r with results := r.results.finish Token.covers n o } := by
  refine h.of_eq ?_
  show (r.results.finish Token.covers n o).runs.zipIdx.filterMap (ran? id r.path) = _
  rw [Cache.runs_finish hv ho, zipIdx_modify]
  exact filterMap_modify_eq _ fun _ _ => rfl

/-- A validation runs the validator. -/
theorem run (h : Ran id log r) {n : Nat} {v : ValidationRun} (hv : r.results.run? n = some v)
    {stage : Stage} {program : Path} (means : v.work.snapshot.means? r.path = some (stage, program))
    {editor : Editor} {text : List Char} (takes : r.Takes editor v text) (since : Nat)
    (call : Pending (List Char)) :
    Ran id
      (.run id n ⟨program, v.work.snapshot.settings.arguments stage, text⟩ call.outcome :: log)
      { r with results := r.results.modifyWork n fun w =>
          { w with progress := .running text since call } } := by
  have here : r.results.runs.zipIdx[n]? = some (v, n) := by
    rw [List.getElem?_zipIdx, show r.results.runs[n]? = some v from hv, Nat.zero_add]
    rfl
  unfold Ran
  rw [List.filter_cons_of_pos (by simp [Exchange.isRun])]
  refine (h.cons _).trans (List.Perm.symm ?_)
  unfold Record.ran Cache.modifyWork
  rw [zipIdx_modify]
  refine filterMap_modify_perm _ here ?_ ?_
  · rw [ran?, takes.invocation?]
    rfl
  · simp only [ran?, invocation?, means, Option.map_some]

end Ran

/-- What the host has been asked for agrees with the validations after an act. -/
theorem Act.ran (a : Act asks s id r r' xs) (h : Ran id log r) : Ran id (xs ++ log) r' := by
  cases a with
  | publishes => exact h
  | shows => exact h
  | requests => exact h.request _ _
  | joins _ _ n job => exact h.of_eq (Record.ran_modifyWork id fun _ _ => rfl)
  | @reads call =>
    have kept : Ran id log { r with texts := r.texts.start r.version call } := h
    exact kept.aside fun x hx => by rw [List.mem_singleton.1 hx]; rfl
  | gets => exact h
  | waits run waiting awaits =>
    refine h.of_eq (Record.ran_modifyWork id fun v hv => ?_)
    obtain rfl := Option.some.inj (run.symm.trans hv)
    rw [awaits.invocation?]
    exact invocation?_eq_none fun _ _ _ running => nomatch running
  | runs run waiting means takes => exact h.run run means takes _ _
  | ends run waiting => exact h.finish run waiting _

/-- **Who runs the validator.** In a session the host has been asked to run the validator for a record by its
validations, each of which has done so once at most. -/
theorem session_ran {host : Host} {delivery : Delivery} {settings : Settings} {waits : Bool}
    {es : List Event} (hr : (session host delivery settings waits es).registry.record? id = some r) :
    Ran id (session host delivery settings waits es).log r :=
  session_record (I := fun _ log r => Ran id log r)
    (fun _ results unheard => ran_new results unheard)
    (fun path _ results h => h.of_eq (by rw [Record.ran, results, path, Record.ran])) (fun _ h => h)
    (fun _ _ _ a h => a.ran h) (fun none h => h.others none) hr

end Service

end ShaderDiagnostics
