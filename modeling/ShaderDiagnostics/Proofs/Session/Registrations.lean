import Mathlib.Data.List.Perm.Basic
import ShaderDiagnostics.Message.Outgoing
import ShaderDiagnostics.Proofs.Json.Members

/-!
# What the editor has registered

The server asks the editor to register what it wants to be told about, each under an id, and to unregister it again.
An editor that reads these questions in the order in which they come must not find an id that is still registered
when one is to be registered, nor miss one that is to be unregistered (`Outbox.registered?`). The questions are read
from their JSON, as the editor gets them; all other messages leave the registrations alone.
-/

namespace ShaderDiagnostics

/-- Something that the editor is to tell the server about. -/
structure Registration where
  /-- The id. -/
  id : String
  /-- The method by which the editor tells. -/
  method : String
  /-- Details. -/
  options : Option Json

namespace Registration

/-! ### Reading -/

/-- The text under a key. -/
def textAt? (j : Json) (key : String) : Option String :=
  match j.get? key with
  | some (.str s) => some s
  | _ => none

/-- The list under a key. -/
def listAt? (j : Json) (key : String) : Option (List Json) :=
  match j.get? key with
  | some (.arr items) => some items
  | _ => none

/-- Reads a registration, or what names one. -/
def read? (j : Json) : Option Registration :=
  (textAt? j "id").bind fun id => (textAt? j "method").map fun method => ⟨id, method, j.get? "registerOptions"⟩

/-- The patterns of the files to be watched. -/
def globs? (r : Registration) : Option (List String) :=
  (r.options.bind fun options => listAt? options "watchers").bind fun watchers =>
    watchers.mapM fun watcher => textAt? watcher "globPattern"

/-! ### Registering -/

/-- Registers something under an id that is free. -/
def add? (rs : List Registration) (r : Registration) : Option (List Registration) :=
  if rs.any fun known => known.id == r.id then none else some (rs ++ [r])

/-- Unregisters what is registered under an id and a method. -/
def remove? (rs : List Registration) (id method : String) : Option (List Registration) :=
  if rs.any fun known => known.id == id && known.method == method then
    some (rs.filter fun known => known.id != id)
  else none

/-- The registrations after the items under a key have been read and dealt with one after another. -/
def each? (deal : List Registration → Registration → Option (List Registration)) (j : Json) (key : String)
    (rs : List Registration) : Option (List Registration) :=
  (listAt? j key).bind fun items => items.foldlM (fun rs item => (read? item).bind (deal rs)) rs

/-- The registrations after a question; there are none if the editor cannot do as it is asked to. -/
def after? (rs : List Registration) (q : Question) : Option (List Registration) :=
  match q.parts.1 with
  | "client/registerCapability" => each? add? q.parts.2 "registrations" rs
  | "client/unregisterCapability" => each? (fun rs r => remove? rs r.id r.method) q.parts.2 "unregisterations" rs
  | _ => some rs

/-- The registrations after a message. -/
def heard? (rs : List Registration) : Outgoing → Option (List Registration)
  | .question _ q => after? rs q
  | _ => some rs

/-! ### The server's questions -/

/-- Files with these extensions are watched. -/
def watching (extensions : List String) : Registration :=
  ⟨watchName, watchMethod, some (Json.object [("watchers", .arr (extensions.map watcher))])⟩

/-- Changes of the settings are told. -/
def following : Registration := ⟨followName, followMethod, none⟩

variable (rs : List Registration) (extensions : List String)

theorem textAt_watcher (x : String) : textAt? (watcher x) "globPattern" = some ("**/*" ++ x) := by
  simp [textAt?, watcher, Json.object, Json.get?_insert]

theorem listAt_registrations (name method : String) (options : Option Json) :
    listAt? (registrationParams name method options) "registrations" =
      some [Json.present [("id", some (.str name)), ("method", some (.str method)), ("registerOptions", options)]] := by
  simp [listAt?, registrationParams, Json.object, Json.get?_insert]

theorem read_present (name method : String) (options : Option Json) :
    read? (Json.present [("id", some (.str name)), ("method", some (.str method)), ("registerOptions", options)]) =
      some ⟨name, method, options⟩ := by
  cases options <;> simp [read?, textAt?, Json.present, Json.object, Json.get?_insert, Json.get?_nil]

theorem after_watch : after? rs (.watch extensions) = add? rs (watching extensions) := by
  simp [after?, Question.parts, each?, listAt_registrations, read_present, watching]

theorem after_followSettings : after? rs .followSettings = add? rs following := by
  simp [after?, Question.parts, each?, listAt_registrations, read_present, following]

theorem after_unwatch : after? rs .unwatch = remove? rs watchName watchMethod := by
  simp [after?, Question.parts, each?, listAt?, read?, textAt?, Json.object, Json.get?_insert, Json.get?_nil]

theorem after_settings : after? rs .settings = some rs := by simp [after?, Question.parts, settingsMethod]

theorem globs_watching : (watching extensions).globs? = some (extensions.map ("**/*" ++ ·)) := by
  have patterns : (extensions.map watcher).mapM (fun watcher => textAt? watcher "globPattern") =
      some (extensions.map ("**/*" ++ ·)) := by
    induction extensions with
    | nil => rfl
    | cons x rest ih =>
      rw [List.map_cons, List.mapM_cons, textAt_watcher, ih]
      rfl
  simpa [globs?, watching, listAt?, Json.object, Json.get?_insert, Json.get?_nil] using patterns

/-! ### In any order -/

variable {known : List Registration} {r : Registration}

theorem add_perm {rs : List Registration} (h : rs.Perm known) (free : ∀ k ∈ known, k.id ≠ r.id) :
    ∃ rs', add? rs r = some rs' ∧ rs'.Perm (r :: known) := by
  have unused : (rs.any fun k => k.id == r.id) = false :=
    List.any_eq_false.2 fun k hk taken => free k (h.mem_iff.1 hk) (eq_of_beq taken)
  exact ⟨rs ++ [r], if_neg (Bool.eq_false_iff.1 unused), (List.perm_append_singleton r rs).trans (h.cons r)⟩

theorem remove_perm {rs : List Registration} (h : rs.Perm (r :: known)) (apart : ∀ k ∈ known, k.id ≠ r.id) :
    ∃ rs', remove? rs r.id r.method = some rs' ∧ rs'.Perm known := by
  have there : (rs.any fun k => k.id == r.id && k.method == r.method) = true :=
    List.any_eq_true.2 ⟨r, h.mem_iff.2 List.mem_cons_self, by simp⟩
  refine ⟨rs.filter fun k => k.id != r.id, if_pos there, ?_⟩
  have rest : ((r :: known).filter fun k => k.id != r.id) = known := by
    rw [List.filter_cons_of_neg (by simp), List.filter_eq_self.2 fun k hk => bne_iff_ne.2 (apart k hk)]
  exact rest ▸ h.filter _

end Registration

namespace Outbox

open Registration (watching following)

/-- What is registered after all messages, if the editor can do all that it has been asked to. -/
def registered? (o : Outbox) : Option (List Registration) :=
  o.sent.reverse.foldlM Registration.heard? []

theorem registered_cons (o : Outbox) (m : Outgoing) (next : Nat) :
    registered? ⟨m :: o.sent, next⟩ = o.registered?.bind fun rs => Registration.heard? rs m := by
  simp [registered?, List.foldlM_append]

theorem registered_ask (o : Outbox) (q : Question) :
    (o.ask q).registered? = o.registered?.bind fun rs => Registration.after? rs q :=
  registered_cons o _ _

/-- Messages that leave the registrations alone. -/
theorem registered_of_sends {o o' : Outbox} {news : List Outgoing} (sent : o'.sent = news ++ o.sent)
    (plain : ∀ m ∈ news, ∀ rs, Registration.heard? rs m = some rs) : o'.registered? = o.registered? := by
  induction news generalizing o' with
  | nil => exact congrArg (fun sent => registered? ⟨sent, 0⟩) sent
  | cons m news ih =>
    obtain ⟨sent', next⟩ := o'
    obtain rfl : sent' = m :: (news ++ o.sent) := sent
    rw [registered_cons ⟨news ++ o.sent, next⟩, ih rfl fun m' hm => plain m' (List.mem_cons_of_mem m hm),
      funext (plain m List.mem_cons_self)]
    exact Option.bind_fun_some _

theorem registered_send (o : Outbox) {m : Outgoing} (plain : ∀ rs, Registration.heard? rs m = some rs) :
    (o.send m).registered? = o.registered? :=
  registered_of_sends (show (o.send m).sent = [m] ++ o.sent from rfl) fun _ hm => List.mem_singleton.1 hm ▸ plain

theorem registered_askSettings (o : Outbox) : (o.ask .settings).registered? = o.registered? := by
  rw [registered_ask, funext Registration.after_settings]
  exact Option.bind_fun_some _

/-- The editor could do all that it has been asked to, and this is registered, in some order. -/
def Registers (o : Outbox) (known : List Registration) : Prop :=
  ∃ rs, o.registered? = some rs ∧ rs.Perm known

namespace Registers

variable {o o' : Outbox} {known known' : List Registration} {extensions : List String}

theorem perm (h : o.Registers known) (p : known.Perm known') : o.Registers known' :=
  h.imp fun _ ⟨read, same⟩ => ⟨read, same.trans p⟩

theorem of_eq (h : o.Registers known) (same : o'.registered? = o.registered?) : o'.Registers known :=
  h.imp fun _ ⟨read, perm⟩ => ⟨same.trans read, perm⟩

theorem watch (h : o.Registers known) (free : ∀ k ∈ known, k.id ≠ watchName) :
    (o.ask (.watch extensions)).Registers (watching extensions :: known) := by
  obtain ⟨rs, read, same⟩ := h
  obtain ⟨rs', added, same'⟩ := Registration.add_perm (r := watching extensions) same free
  exact ⟨rs', by rw [registered_ask, read, Option.bind_some, Registration.after_watch, added], same'⟩

theorem unwatch (h : o.Registers (watching extensions :: known)) (apart : ∀ k ∈ known, k.id ≠ watchName) :
    (o.ask .unwatch).Registers known := by
  obtain ⟨rs, read, same⟩ := h
  obtain ⟨rs', removed, same'⟩ := Registration.remove_perm same apart
  exact ⟨rs', by rw [registered_ask, read, Option.bind_some, Registration.after_unwatch]; exact removed, same'⟩

theorem follow (h : o.Registers known) (free : ∀ k ∈ known, k.id ≠ followName) :
    (o.ask .followSettings).Registers (following :: known) := by
  obtain ⟨rs, read, same⟩ := h
  obtain ⟨rs', added, same'⟩ := Registration.add_perm (r := following) same free
  exact ⟨rs', by rw [registered_ask, read, Option.bind_some, Registration.after_followSettings, added], same'⟩

end Registers

end Outbox

end ShaderDiagnostics
