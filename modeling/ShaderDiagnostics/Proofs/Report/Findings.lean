import ShaderDiagnostics.Proofs.Pattern.Readings
import ShaderDiagnostics.Proofs.Report.Comments
import ShaderDiagnostics.Proofs.Text.Trimming
import ShaderDiagnostics.Report.Entry

/-!
# Findings and their entries

A validator writes each thing that it has found on a line of its own (`Report.Finding.text`), and from that line all
parts of it can be read back (`Report.Finding.captures_text`). The pattern of an entry is read from the left: each part
prefers to take what has been written for it, and what comes behind cannot make it give anything back. The words end
at the colon, which is no letter; the numbers do as well, which is no digit; and the snippet ends at the first quote.
Blanks are taken as far as they go, so those at the start of the description belong to the part before it, and those at
its end have been trimmed away together with the blanks behind the line (`Report.Finding.trim_around`).
-/

namespace ShaderDiagnostics.Report

open Pattern Text Unicode

/-- Something that a validator has found, in the parts that it writes. A description that begins with a quote needs a
snippet before it. -/
structure Finding where
  /-- The words that say how bad it is. -/
  words : List (List Char)
  /-- The number of the source string. -/
  string : List Char
  /-- The number of the line. -/
  number : List Char
  /-- The code that it quotes. -/
  snippet : Option (List Char)
  /-- What it says about it. -/
  description : List Char
  words_ne_nil : words ≠ []
  letters : ∀ w ∈ words, w ≠ [] ∧ ∀ c ∈ w, c.isAlpha = true
  isDigits_string : isDigits string = true
  isDigits_number : isDigits number = true
  quotable : ∀ s, snippet = some s → s ≠ [] ∧ '\'' ∉ s ∧ '\n' ∉ s
  oneLine : '\n' ∉ description
  told : trim description ≠ []
  unquoted : snippet = none → (trim description).head? ≠ some '\''

namespace Finding

/-- The words, with single spaces between them. -/
def severity (f : Finding) : List Char := [' '].intercalate f.words

/-- The snippet in quotes, if there is one. -/
def quoted (f : Finding) : List Char :=
  match f.snippet with
  | some s => '\'' :: s ++ ['\'', ' ', ':', ' ']
  | none => []

/-- The line that says all this. -/
def text (f : Finding) : List Char :=
  f.severity ++ [':', ' '] ++ f.string ++ [':'] ++ f.number ++ [':', ' '] ++ f.quoted ++ f.description

end Finding

/-! ### The parts of an entry -/

/-- The words of a severity. -/
abbrev severityPattern : Pattern :=
  .seq (many isSeverityLetter) (.star (.seq (char ' ') (many isSeverityLetter)) false)

/-- The numbers of the string and the line. -/
abbrev positionPattern : Pattern :=
  sequence [many isDecimalDigit, char ':', .group "line" (many isDecimalDigit), char ':', someBlanks]

/-- A snippet in quotes. -/
abbrev quotedPattern : Pattern :=
  sequence [char '\'', .group "snippet" (.star (.one inLine) true), char '\'', someBlanks, char ':', someBlanks]

variable {rest : List Char}

theorem reads_blanks {blanks : List Char} (blank : ∀ c ∈ blanks, isBlank c = true)
    (stops : rest.head?.any isBlank = false) : Reads someBlanks blanks rest [] :=
  reads_run blank stops

theorem isBlank_of_visible {c : Char} (low : 33 ≤ c.toNat) (high : c.toNat < 128) : isBlank c = false := by
  simp only [isBlank, Bool.or_eq_false_iff, Bool.and_eq_false_iff, decide_eq_false_iff_not, beq_eq_false_iff_ne]
  omega

theorem isBlank_of_isDigit {c : Char} (digit : c.isDigit = true) : isBlank c = false := by
  obtain ⟨low, high⟩ := Char.isDigit_iff_toNat.1 digit
  have low : 48 ≤ c.toNat := low
  have high : c.toNat ≤ 57 := high
  exact isBlank_of_visible (by omega) (by omega)

theorem isBlank_of_isAlpha {c : Char} (letter : c.isAlpha = true) : isBlank c = false := by
  rcases Bool.or_eq_true_iff.1 letter with upper | lower
  · obtain ⟨low, high⟩ := of_decide_eq_true upper
    have low : 65 ≤ c.toNat := low
    have high : c.toNat ≤ 90 := high
    exact isBlank_of_visible (by omega) (by omega)
  · obtain ⟨low, high⟩ := Bool.and_eq_true_iff.1 lower
    have low : 97 ≤ c.toNat := of_decide_eq_true low
    have high : c.toNat ≤ 122 := of_decide_eq_true high
    exact isBlank_of_visible (by omega) (by omega)

theorem isSeverityLetter_of_isAlpha {c : Char} (letter : c.isAlpha = true) : isSeverityLetter c = true := by
  simp [isSeverityLetter, letter]

/-- A further word, with the space before it. -/
abbrev furtherPattern : Pattern := .seq (char ' ') (many isSeverityLetter)

theorem measured_further :
    ∃ l, Measured furtherPattern l ∧ ∀ s, l s ≠ some 0 := by
  have letters := (measured_one isSeverityLetter).seq_single (measured_run isSeverityLetter) (single_one _)
  refine ⟨_, (measured_one (· == ' ')).seq_single letters (single_one _), fun s taken => ?_⟩
  obtain ⟨n, space, rest⟩ := Option.bind_eq_some_iff.1 taken
  obtain ⟨m, -, none⟩ := Option.map_eq_some_iff.1 rest
  obtain ⟨-, one⟩ := Option.ite_none_right_eq_some.1 space
  obtain rfl := Option.some.inj one
  omega

theorem stops_further {words : List (List Char)} (stops : rest.head?.any isSeverityLetter = false) :
    (words.flatMap (' ' :: ·) ++ rest).head?.any isSeverityLetter = false := by
  cases words with
  | nil => exact stops
  | cons w words => rfl

/-- The words are read up to a character that is in none of them. -/
theorem reads_further {words : List (List Char)} (letters : ∀ w ∈ words, w ≠ [] ∧ ∀ c ∈ w, c.isAlpha = true)
    (space : rest.head? ≠ some ' ') (stops : rest.head?.any isSeverityLetter = false) :
    Reads (.star furtherPattern false) (words.flatMap (' ' :: ·)) rest [] := by
  obtain ⟨l, measured, moves⟩ := measured_further
  induction words with
  | nil =>
    refine reads_star_nothing measured nofun fun index previous groups => ?_
    have other : ¬ [' '] <+: rest := by
      rintro ⟨s, rfl⟩
      exact space rfl
    rw [endAt?_seq, ends_char, if_neg other]
    rfl
  | cons w words ih =>
    obtain ⟨⟨some, first⟩, others⟩ := List.forall_mem_cons.1 letters
    have first : ∀ c ∈ w, isSeverityLetter c = true := fun c mem => isSeverityLetter_of_isAlpha (first c mem)
    have space := reads_char ' ' (w ++ (words.flatMap (' ' :: ·) ++ rest))
    have word := space.seq (reads_plus some first (stops_further stops))
    exact word.star_cons measured moves nofun (List.cons_ne_nil ' ' w) (ih others)

theorem intercalate_cons (w : List Char) (words : List (List Char)) :
    [' '].intercalate (w :: words) = w ++ words.flatMap (' ' :: ·) := by
  induction words generalizing w with
  | nil => rw [List.intercalate_singleton, List.flatMap_nil, List.append_nil]
  | cons v words ih =>
    rw [List.intercalate_cons_cons, ih v, List.flatMap_cons, List.append_assoc, List.singleton_append, List.cons_append]

theorem isDecimalDigit_of_isDigit {c : Char} (digit : c.isDigit = true) : isDecimalDigit c = true := by
  have ascii : c.toNat < 128 := by
    have high : c.toNat ≤ 57 := (Char.isDigit_iff_toNat.1 digit).2
    omega
  rw [isDecimalDigit, if_pos ascii]
  exact digit

theorem reads_digits {digits : List Char} (h : isDigits digits = true) (stops : rest.head?.any isDecimalDigit = false) :
    Reads (many isDecimalDigit) digits rest [] := by
  obtain ⟨some, digit⟩ := Bool.and_eq_true_iff.1 h
  refine reads_plus (by simpa using some) (fun c mem => ?_) stops
  exact isDecimalDigit_of_isDigit (List.all_eq_true.1 digit c mem)

namespace Finding

variable (f : Finding)

theorem reads_severity (space : rest.head? ≠ some ' ') (stops : rest.head?.any isSeverityLetter = false) :
    Reads (.group "severity" severityPattern) f.severity rest [("severity", f.severity)] := by
  obtain ⟨w, words, split⟩ := List.exists_cons_of_ne_nil f.words_ne_nil
  have letters := f.letters
  rw [split] at letters
  obtain ⟨⟨some, first⟩, others⟩ := List.forall_mem_cons.1 letters
  have first : ∀ c ∈ w, isSeverityLetter c = true := fun c mem => isSeverityLetter_of_isAlpha (first c mem)
  have words := (reads_plus some first (stops_further stops)).seq (reads_further others space stops)
  rw [← intercalate_cons, ← split] at words
  exact words.group "severity"

theorem reads_position {blanks : List Char} (blank : ∀ c ∈ blanks, isBlank c = true)
    (stops : rest.head?.any isBlank = false) :
    Reads (opt positionPattern false) (f.string ++ [':'] ++ f.number ++ [':'] ++ blanks) rest
      [("line", f.number)] := by
  have string : Reads (many isDecimalDigit) f.string ([':'] ++ (f.number ++ ([':'] ++ (blanks ++ rest)))) [] :=
    reads_digits f.isDigits_string rfl
  have number : Reads (many isDecimalDigit) f.number ([':'] ++ (blanks ++ rest)) [] :=
    reads_digits f.isDigits_number rfl
  have whole := (((string.seq (reads_char ':' _)).seq (number.group "line")).seq (reads_char ':' _)).seq
    (reads_blanks blank stops)
  exact whole.opt

theorem reads_quoted {s blanks : List Char} (closes : '\'' ∉ s) (line : '\n' ∉ s)
    (blank : ∀ c ∈ blanks, isBlank c = true) (stops : rest.head?.any isBlank = false) :
    Reads (opt quotedPattern false) ('\'' :: (s ++ ['\'']) ++ [' '] ++ [':'] ++ blanks) rest [("snippet", s)] := by
  have space : ∀ c ∈ [' '], isBlank c = true := List.forall_mem_singleton.2 rfl
  have closed := reads_closed (inLine_of_notMem line) closes '\'' "snippet" ([' '] ++ ([':'] ++ (blanks ++ rest)))
  have whole := ((closed.seq (reads_blanks space rfl)).seq (reads_char ':' _)).seq (reads_blanks blank stops)
  exact whole.opt

theorem reads_unquoted (unquoted : rest.head? ≠ some '\'') : Reads (opt quotedPattern false) [] rest [] := by
  refine reads_opt_nothing fun index previous groups => endAt?_sequence_of_none ?_ _
  have other : ¬ ['\''] <+: rest := by
    rintro ⟨s, rfl⟩
    exact unquoted rfl
  rw [endAt?, ends_char, if_neg other]
  rfl

theorem head?_string (s : List Char) : (f.string ++ s).head?.any isBlank = false := by
  obtain ⟨some, digits⟩ := Bool.and_eq_true_iff.1 f.isDigits_string
  obtain ⟨c, rest, string⟩ := List.exists_cons_of_ne_nil (show f.string ≠ [] by simpa using some)
  rw [string] at digits ⊢
  exact isBlank_of_isDigit (List.all_eq_true.1 digits c List.mem_cons_self)

/-- The parts of a line, and what is kept of them. -/
theorem begins_entry {blanks quoted told : List Char} {kept : List (String × List Char)}
    (blank : ∀ c ∈ blanks, isBlank c = true) (stops : (quoted ++ told).head?.any isBlank = false)
    (reads : Reads (opt quotedPattern false) quoted told kept) (some : told ≠ []) (line : '\n' ∉ told) :
    Begins entryPattern
      (f.severity ++ [':', ' '] ++ (f.string ++ [':'] ++ f.number ++ [':'] ++ blanks) ++ quoted ++ told) []
      (("description", told) :: kept ++ [("line", f.number), ("severity", f.severity)]) := by
  -- what lies ahead is grouped by the parts that read it, down to the end of the text, which reads nothing
  have ended : told = told ++ ([] ++ []) := (List.append_nil told).symm
  rw [ended] at stops reads
  have position := f.reads_position blank stops
  generalize hp : f.string ++ [':'] ++ f.number ++ [':'] ++ blanks = p at position ⊢
  have digit : (p ++ (quoted ++ (told ++ ([] ++ [])))).head?.any isBlank = false := by
    rw [← hp]
    simp only [List.append_assoc]
    exact f.head?_string _
  have severity : Reads (.group "severity" severityPattern) f.severity
      ([] ++ ([':'] ++ ([' '] ++ (p ++ (quoted ++ (told ++ ([] ++ []))))))) [("severity", f.severity)] :=
    f.reads_severity (by simp) rfl
  have nothing : Reads someBlanks [] ([':'] ++ ([' '] ++ (p ++ (quoted ++ (told ++ ([] ++ [])))))) [] :=
    reads_blanks nofun rfl
  have space : Reads someBlanks [' '] (p ++ (quoted ++ (told ++ ([] ++ [])))) [] :=
    reads_blanks (List.forall_mem_singleton.2 rfl) digit
  have description : Reads (.group "description" (many inLine)) told ([] ++ []) [("description", told)] :=
    (reads_plus some (inLine_of_notMem line) rfl).group "description"
  have named := (severity.begins.seq nothing).seq (reads_char ':' _)
  have placed := (named.seq space).seq position
  have whole := ((placed.seq reads).seq description).seq reads_textEnd
  have parts : f.severity ++ [':', ' '] ++ p ++ quoted ++ told =
      f.severity ++ [] ++ [':'] ++ [' '] ++ p ++ quoted ++ told ++ [] := by simp
  rw [parts]
  exact whole

theorem head?_severity (s : List Char) : (f.severity ++ s).head?.any isBlank = false := by
  obtain ⟨w, words, split⟩ := List.exists_cons_of_ne_nil f.words_ne_nil
  obtain ⟨some, letters⟩ := f.letters w (split ▸ List.mem_cons_self)
  obtain ⟨c, rest, rfl⟩ := List.exists_cons_of_ne_nil some
  rw [severity, split, intercalate_cons]
  exact isBlank_of_isAlpha (letters c List.mem_cons_self)

/-- What is kept of the snippet. -/
def keptSnippet : List (String × List Char) :=
  match f.snippet with
  | some s => [("snippet", s)]
  | none => []

/-- Trimming takes away the blanks around the text and those at the end of the description. -/
theorem trim_around {lead trail behind : List Char} (hl : ∀ c ∈ lead, isBlank c = true)
    (hb : ∀ c ∈ behind, isBlank c = true) (ht : ∀ c ∈ trail, isBlank c = true)
    (ends : (trim f.description).getLast?.any isBlank = false) (s : List Char) :
    trim (lead ++ (f.severity ++ s ++ trim f.description ++ behind) ++ trail) =
      f.severity ++ s ++ trim f.description := by
  have blank : ∀ c ∈ behind ++ trail, isBlank c = true := List.forall_mem_append.2 ⟨hb, ht⟩
  have starts : (f.severity ++ s ++ trim f.description).head?.any isBlank = false := by
    rw [List.append_assoc]
    exact f.head?_severity _
  have last : (f.severity ++ s ++ trim f.description).getLast?.any isBlank = false := by
    rwa [List.getLast?_append_of_ne_nil _ f.told]
  have regroup : lead ++ (f.severity ++ s ++ trim f.description ++ behind) ++ trail =
      lead ++ (f.severity ++ s ++ trim f.description) ++ (behind ++ trail) := by
    simp only [List.append_assoc]
  rw [regroup]
  exact Trims.trim_eq ⟨hl, starts, last, blank⟩

theorem text_of_eq {description : List Char} (eq : f.description = description) :
    f.text = f.severity ++ [':', ' '] ++ f.string ++ [':'] ++ f.number ++ [':', ' '] ++ f.quoted ++ description := by
  rw [text, eq]

/-- The blanks before the quotes, and what is read from there on: the quotes with the blanks behind them, or nothing. -/
theorem reads_snippet {before : List Char} (blank : ∀ c ∈ before, isBlank c = true)
    (starts : (trim f.description).head?.any isBlank = false) :
    ∃ blanks quotes, ' ' :: f.quoted ++ before = blanks ++ quotes ∧ (∀ c ∈ blanks, isBlank c = true) ∧
      (quotes ++ trim f.description).head?.any isBlank = false ∧
      Reads (opt quotedPattern false) quotes (trim f.description) f.keptSnippet := by
  have spaces : ∀ c ∈ ' ' :: before, isBlank c = true := List.forall_mem_cons.2 ⟨rfl, blank⟩
  rw [quoted, keptSnippet]
  -- without quotes, the blanks before the description follow those behind the number
  cases snippet : f.snippet with
  | none =>
    exact ⟨' ' :: before, [], (List.append_nil _).symm, spaces, starts, reads_unquoted (f.unquoted snippet)⟩
  | some s =>
    obtain ⟨-, closes, line⟩ := f.quotable s snippet
    exact ⟨[' '], _, by simp, List.forall_mem_singleton.2 rfl, rfl, reads_quoted closes line spaces starts⟩

/-- All parts of a finding are found again in its text, whatever blanks are around it. -/
theorem captures_text {lead trail : List Char} (hl : ∀ c ∈ lead, isBlank c = true)
    (ht : ∀ c ∈ trail, isBlank c = true) :
    ∃ index last, entryPattern.captures? (trim (lead ++ f.text ++ trail)) = some ⟨index, last, [],
      ("description", trim f.description) :: f.keptSnippet ++ [("line", f.number), ("severity", f.severity)]⟩ := by
  obtain ⟨before, behind, split, trims, -⟩ := exists_trims f.description
  have line : '\n' ∉ trim f.description := fun mem => f.oneLine <| by
    rw [split]
    exact List.mem_append_left behind (List.mem_append_right before mem)
  obtain ⟨blanks, quotes, snippet, blank, stops, reads⟩ := f.reads_snippet trims.lead trims.starts
  obtain ⟨last, captured⟩ := f.begins_entry blank stops reads f.told line
  rw [List.append_nil, List.append_assoc f.severity, List.append_assoc f.severity,
    ← f.trim_around hl trims.trail ht trims.ends] at captured
  have parts : f.text = f.severity ++ ([':', ' '] ++ (f.string ++ [':'] ++ f.number ++ [':'] ++ blanks) ++ quotes) ++
      trim f.description ++ behind := by
    have middle := congrArg (· ++ (trim f.description ++ behind)) snippet
    rw [f.text_of_eq split]
    simpa using middle
  rw [parts]
  exact ⟨_, last, captured⟩

/-! ### The entry and the diagnostic of a finding -/

/-- The entry that stands for the finding. -/
def entry : Entry where
  severity := f.severity
  line := readNat UInt64.size f.number
  snippet := f.snippet
  description := trim f.description

theorem ofLine?_text {lead trail : List Char} (hl : ∀ c ∈ lead, isBlank c = true)
    (ht : ∀ c ∈ trail, isBlank c = true) :
    Entry.ofLine? (lead ++ f.text ++ trail) = some f.entry := by
  obtain ⟨index, last, captured⟩ := f.captures_text hl ht
  rw [Entry.ofLine?, captured, keptSnippet]
  cases snippet : f.snippet with
  | none => simp [Place.group?, entry, snippet, trim_trim]
  | some s =>
    obtain ⟨some, -⟩ := f.quotable s snippet
    simp [Place.group?, entry, snippet, trim_trim, some]

theorem readNat_number :
    readNat UInt64.size f.number =
      if digitsValue f.number < UInt64.size then some (digitsValue f.number) else none := by
  have digits := f.isDigits_number
  have unsigned : dropPlus f.number = f.number := by
    unfold dropPlus
    split
    next rest number =>
      rw [number] at digits
      simp [isDigits] at digits
    · rfl
  rw [readNat, unsigned, digits]
  simp

/-- The line of the source that the number means: the line of this number, or else the first one. -/
def index (count : Nat) : Nat :=
  if 1 ≤ digitsValue f.number ∧ digitsValue f.number ≤ count ∧ digitsValue f.number < UInt64.size then
    digitsValue f.number - 1
  else 0

theorem lineIndex_entry (count : Nat) : lineIndex count f.entry.line = f.index count := by
  rw [entry, readNat_number, index]
  by_cases fits : digitsValue f.number < UInt64.size
  · simp [lineIndex, fits]
  · simp [lineIndex, fits]

theorem message_entry : f.entry.message = f.quoted ++ trim f.description := by
  rw [Entry.message, entry, quoted]
  cases f.snippet <;> rfl

end Finding

theorem contains_iff {s part : List Char} : contains s part = true ↔ part <:+: s := by
  induction s with
  | nil => simp [contains]
  | cons c s ih => rw [contains, Bool.or_eq_true, ih, List.isPrefixOf_iff_prefix, List.infix_cons_iff]

theorem isIgnored_eq_false_iff {description : List Char} :
    isIgnored description = false ↔ ∀ m ∈ ignoredMessages, ¬ m.toList <:+: description := by
  simp [isIgnored, ← contains_iff]

/-- The text of a finding is read as its diagnostic, whatever blanks are around it. The message is the description
without the blanks around it, after the snippet if there is one, and nothing that a snippet or a description can hold
shifts a part of the line: neither colons nor digits, and quotes only where a snippet would begin or end. -/
theorem finding_read_back (f : Finding) (lines : List (List Char)) (marking : Marking) {lead trail : List Char}
    (hl : ∀ c ∈ lead, isBlank c = true) (ht : ∀ c ∈ trail, isBlank c = true)
    (heard : ∀ m ∈ ignoredMessages, ¬ m.toList <:+: trim f.description) :
    ∃ d, readLine lines marking (lead ++ f.text ++ trail) = some d ∧
      d.message = String.ofList (f.quoted ++ trim f.description) ∧ d.severity = severityOf f.severity ∧
      d.source = some sourceName ∧
      d.range.start.line = f.index lines.length ∧ d.range.stop.line = f.index lines.length := by
  have reads : readLine lines marking (lead ++ f.text ++ trail) = some (f.entry.diagnostic lines marking) := by
    rw [readLine, f.ofLine?_text hl ht]
    dsimp only
    rw [Finding.entry, isIgnored_eq_false_iff.2 heard, if_neg Bool.false_ne_true]
  refine ⟨_, reads, ?_, rfl, rfl, f.lineIndex_entry _, f.lineIndex_entry _⟩
  rw [Entry.diagnostic, f.message_entry]

/-- A finding about the second line, with a colon and a quote in its description. -/
def undeclared : Finding where
  words := ["INTERNAL".toList, "ERROR".toList]
  string := ['0']
  number := ['0', '2']
  snippet := some "a: b".toList
  description := " 'x' : 3: no  ".toList
  words_ne_nil := by decide
  letters := by
    have all : ["INTERNAL".toList, "ERROR".toList].all (fun w => !w.isEmpty && w.all Char.isAlpha) = true := by decide
    intro w mem
    simpa using List.all_eq_true.1 all w mem
  isDigits_string := by decide
  isDigits_number := by decide
  quotable := by
    rintro s same
    obtain rfl := Option.some.inj same
    decide
  oneLine := by decide
  told := by decide
  unquoted := nofun

theorem undeclared_read_back :
    ∃ d, readLine [[], ['b']] ⟨false⟩ (['\t'] ++ undeclared.text ++ [' ']) = some d ∧
      d.message = "'a: b' : 'x' : 3: no" ∧ d.severity = some .error ∧ d.range.start.line = 1 := by
  have tab : ∀ c ∈ ['\t'], isBlank c = true := List.forall_mem_singleton.2 rfl
  have space : ∀ c ∈ [' '], isBlank c = true := List.forall_mem_singleton.2 rfl
  have heard : ∀ m ∈ ignoredMessages, ¬ m.toList <:+: trim undeclared.description :=
    isIgnored_eq_false_iff.1 (by decide)
  obtain ⟨d, reads, message, severity, -, line, -⟩ :=
    finding_read_back undeclared [[], ['b']] ⟨false⟩ tab space heard
  exact ⟨d, reads, message.trans rfl, severity.trans (by decide), line.trans (by decide)⟩

end ShaderDiagnostics.Report
