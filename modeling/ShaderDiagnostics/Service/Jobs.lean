import ShaderDiagnostics.Service.Validate

/-!
# Jobs

A job that is polled goes on as far as it can. To get the diagnostics of a record it asks the record's
cache, and starts a validation or joins the one in flight if the completed result does not do; from then
on every poll of the job lets that validation go on too. A job for the workspace polls its documents one
after another and answers when it knows about all of them.
-/

namespace ShaderDiagnostics.Service

/-! ### Asking for diagnostics -/

/-- Lets a validation go on for a job that waits for it, and tells the outcome if there is one. -/
def await (s : Service) (i : Inquiry) (run : Nat) :
    Service × Inquiry × Option (Except ServiceError (List Diagnostic)) :=
  let s := s.pollValidation i.record run
  (s, { i with run := some run }, (s.validation? i.record run).bind (·.outcome))

/-- Notes that a job waits for a validation. -/
def join (s : Service) (record run job : Nat) : Service :=
  s.modifyRecord record fun r =>
    { r with results := r.results.modifyWork run fun v => { v with waiters := v.waiters ++ [job] } }

/-- Polls a job's request for diagnostics. -/
def pollInquiry (s : Service) (job : Nat) (i : Inquiry) :
    Service × Inquiry × Option (Except ServiceError (List Diagnostic)) :=
  match i.run with
  | some run => s.await i run
  | none =>
    match s.registry.record? i.record with
    | none => (s, i, none)
    | some r =>
      match r.results.request Token.covers i.token ⟨i.snapshot, .fresh, []⟩ with
      | (_, .completed found) => (s, i, some (.ok found))
      | (results, .joined run) =>
        ((s.modifyRecord i.record fun r => { r with results }).join i.record run job).await i run
      | (results, .started run) =>
        ((s.modifyRecord i.record fun r => { r with results }).join i.record run job).await i run

/-! ### The kinds of jobs -/

/-- Polls a job that asks for diagnostics so that they are published. -/
def askForAnalysis (s : Service) (job : Nat) (i : Inquiry) : Service :=
  match s.pollInquiry job i with
  | (s, i, none) => s.setJob job (.analysis .over i)
  | (s, _, some (.ok _)) => s.endJob job
  | (s, _, some (.error e)) => (s.report "validation" e).endJob job

/-- Polls an analysis. Without a delay it asks at once; after one it asks only if its token is still
current. -/
def pollAnalysis (s : Service) (job : Nat) (delay : Delay) (i : Inquiry) : Service :=
  match delay with
  | .over => s.askForAnalysis job i
  | .ahead milliseconds =>
    if milliseconds = 0 then s.askForAnalysis job i
    else s.setJob job (.analysis (.running (s.clock + milliseconds)) i)
  | .running deadline =>
    if s.clock < deadline then s
    else if s.isCurrent i.record i.token then s.askForAnalysis job i
    else s.endJob job

/-- The code of a request that failed inside the server. -/
def internalError : Int := -32603

/-- The method by which the editor asks for the diagnostics of a document. -/
def pullMethod : String := "textDocument/diagnostic"

/-- The method by which the editor asks for the diagnostics of the workspace. -/
def workspacePullMethod : String := "workspace/diagnostic"

/-- The editor shows the diagnostics of a token. -/
def show_ (s : Service) (record : Nat) (token : Option Token) : Service :=
  s.modifyRecord record fun r => { r with display := token }

/-- Polls a job that answers a request for the diagnostics of a document. -/
def pollPull (s : Service) (job : Nat) (id : RequestId) (i : Inquiry) : Service :=
  match s.pollInquiry job i with
  | (s, i, none) => s.setJob job (.pull id i)
  | (s, i, some (.ok found)) =>
    ((s.show_ i.record (some i.token)).reply id (.document (.full (some i.token) found))).endJob job
  | (s, _, some (.error e)) =>
    ((s.report pullMethod e).refuse id internalError e.message).endJob job

/-- Whether the editor shows the diagnostics of a token and says so. -/
def isShown (s : Service) (record : Nat) (token : Token) (previous : Option String) : Bool :=
  match s.registry.record? record with
  | some r => r.display == some token && previous == some token.text
  | none => false

/-- Polls a document of the workspace. What the editor shows already is looked at only when the document
is polled for the first time. -/
def pollTarget (s : Service) (job : Nat) (t : Target) : Service × Target :=
  if t.answer.isSome then (s, t)
  else if t.inquiry.run.isNone && s.isShown t.inquiry.record t.inquiry.token t.previous then
    (s, { t with answer := some (some (.unchanged t.inquiry.token)) })
  else
    match s.pollInquiry job t.inquiry with
    | (s, i, none) => (s, { t with inquiry := i })
    | (s, i, some (.ok found)) =>
      (s.show_ i.record (some i.token),
        { t with inquiry := i, answer := some (some (.full (some i.token) found)) })
    | (s, i, some (.error e)) =>
      (s.report workspacePullMethod e, { t with inquiry := i, answer := some none })

/-- Polls documents of the workspace one after another. -/
def pollTargets (s : Service) (job : Nat) : List Target → Service × List Target
  | [] => (s, [])
  | t :: rest =>
    let (s, t) := s.pollTarget job t
    let (s, rest) := s.pollTargets job rest
    (s, t :: rest)

/-- The report on a document of the workspace, if there is one. -/
def Target.report? (t : Target) : Option (Uri × DocumentReport) :=
  (t.answer.bind id).map fun r => (t.uri, r)

/-- Polls a job that answers a request for the diagnostics of the workspace. -/
def pollWorkspace (s : Service) (job : Nat) (id : RequestId) (targets : List Target) : Service :=
  let (s, targets) := s.pollTargets job targets
  if targets.all fun t => t.answer.isSome then
    (s.reply id (.workspace (targets.filterMap Target.report?))).endJob job
  else s.setJob job (.workspace id targets)

/-- Polls a job. -/
def poll (s : Service) (job : Nat) : Service :=
  match s.job? job with
  | none => s
  | some (.analysis delay i) => s.pollAnalysis job delay i
  | some (.pull id i) => s.pollPull job id i
  | some (.workspace id targets) => s.pollWorkspace job id targets

/-! ### Which jobs can go on -/

/-- Whether a request for diagnostics can go on. -/
def inquiryCanGoOn (s : Service) (i : Inquiry) : Bool :=
  match i.run with
  | none => true
  | some run => s.canGoOn i.record run

/-- Whether a job can go on. -/
def jobCanGoOn (s : Service) : Job → Bool
  | .analysis (.ahead _) _ => true
  | .analysis (.running deadline) _ => deadline ≤ s.clock
  | .analysis .over i => s.inquiryCanGoOn i
  | .pull _ i => s.inquiryCanGoOn i
  | .workspace _ targets =>
    targets.all (·.answer.isSome) ||
      targets.any fun t => t.answer.isNone && s.inquiryCanGoOn t.inquiry

end ShaderDiagnostics.Service
