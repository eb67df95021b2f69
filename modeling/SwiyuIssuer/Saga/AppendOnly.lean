import SwiyuIssuer.Domain.JsonText
import SwiyuIssuer.Library.Text
import SwiyuIssuer.Library.Base64Url
import SwiyuIssuer.Saga.RotationRequest

/-! The text of a DID log: how `fetch_log` reads it, and what the publish step of either saga puts
in its place. -/

namespace SwiyuIssuer.Saga

open Library Library.Answers Worker

/-- `DIDLog::try_from_jsonl`: what it reads from one line, and the lines that it passes over, which
hold nothing but spaces. -/
structure LogReader where
  readLine : String → Except String LogEntry
  isBlank : String → Bool
  blank_empty : isBlank "" = true
  blank_spaces : ∀ line, isBlank line = true → ∀ c ∈ line.toList, Json.isSpace c = true

/-- The entries as JSON values, whose numbers are spelled as numbers. -/
structure LogWriter where
  toValue : LogEntry → Json
  spelled : ∀ entry, (toValue entry).isSpelled = true

/-- `serde_json::to_string` of an entry. -/
def LogWriter.newLine (writer : LogWriter) (entry : LogEntry) : String :=
  (writer.toValue entry).toText

structure FetchedLog where
  raw : String
  entries : List LogEntry

namespace LogReader

variable (reader : LogReader)

def lines (raw : String) : List String := (Text.split '\n' raw).filter (!reader.isBlank ·)

def tryFromJsonl (raw : String) : Except String (List LogEntry) :=
  (reader.lines raw).mapM reader.readLine

/-- `fetch_log`, from the answer of the registry; `decodeError` is the error for a malformed
body. -/
def fetch (decodeError : String → RegistryError) (answer : Except RegistryError String) :
    Except RegistryError FetchedLog := do
  let raw ← answer
  let entries ← (reader.tryFromJsonl raw).mapError decodeError
  return ⟨raw, entries⟩

end LogReader

def buildUpdatedDidlog (prevRaw newLine : String) : String :=
  let out := Text.trimEndMatches (· == '\n') prevRaw
  if out = "" then newLine else out ++ "\n" ++ newLine

/-- The two publish steps, with the state that their task has saved. -/
inductive Publication
  | rotateKeys (state : RotateKeysStateData)
  | deactivateIssuer (state : DeactivateIssuerStateData)

namespace Publication

section

variable (core : SwiyuCore) (engine : Engine) (faults : EngineFaults) (issuer : Issuer)
  (now : DateTime)

def prepare (fetched : Except RegistryError (List LogEntry)) :
    Publication → Except StepOutcome (List LogEntry × LogEntry)
  | rotateKeys state => prepareRotationPublish core engine issuer state fetched faults now
  | deactivateIssuer state => prepareDeactivationPublish core engine issuer state fetched faults now

/-- What the step sends over a log: the body of the `PUT`, or the outcome without one. -/
def putBody (writer : LogWriter) (log : FetchedLog) (publication : Publication) :
    Except StepOutcome String := do
  let (_, entry) ← publication.prepare core engine faults issuer now (.ok log.entries)
  return buildUpdatedDidlog log.raw (writer.newLine entry)

/-- The entry that the builder of the step makes on a log. -/
def Builds (log : List LogEntry) (entry : LogEntry) : Publication → Prop
  | rotateKeys state => ∃ triple, state.newKeyTriple = some triple ∧
      buildRotationEntry core engine faults issuer triple log now = .ok entry
  | deactivateIssuer _ => buildDeactivationEntry core engine faults issuer log now = .ok entry

end

end Publication

/-- A template carries the version id that it was made with. -/
structure Templates (core : SwiyuCore) : Prop where
  rotation : ∀ prev did key authentication assertion now,
    (core.newRotation prev did key authentication assertion now).versionId = prev
  deactivation : ∀ prev doc now, (core.newDeactivation prev doc now).versionId = prev

def IsNumbered (entry : LogEntry) (number : Nat) : Prop :=
  ∃ hash, entry.versionId = toString number ++ "-" ++ hash

/-- The body is what was fetched, without the newlines at its end, and one new line. -/
structure Appended (core : SwiyuCore) (reader : LogReader) (log : FetchedLog) (body kept line : String)
    (last entry : LogEntry) (number : Nat) : Prop where
  fetched : ∃ newlines, log.raw.toList = kept.toList ++ List.replicate newlines '\n'
  sent : body = kept ++ "\n" ++ line
  unbroken : '\n' ∉ line.toList ∧ '\r' ∉ line.toList
  tail : log.entries.getLast? = some last
  predecessor : IsNumbered last number
  chained : entry.versionId = toString (number + 1) ++ "-" ++
    core.entryHash { entry with versionId := last.versionId, proof := none }
  parsed : reader.tryFromJsonl body = .ok (log.entries ++ [entry])

def AppendsOnly (core : SwiyuCore) (reader : LogReader) (log : FetchedLog) (body : String) : Prop :=
  ∃ kept line last entry number, Appended core reader log body kept line last entry number

/-- The tail is an entry that a publish step with the same keys has made, on whatever log, issuer
row and time. -/
def TailIsOwn (core : SwiyuCore) (engine : Engine) (publication : Publication)
    (log : List LogEntry) : Prop :=
  ∃ faults issuer now prior entry,
    publication.Builds core engine faults issuer now prior entry ∧ log.getLast? = some entry

section Builders

variable {core : SwiyuCore} {engine : Engine} {faults : EngineFaults} {issuer : Issuer}
  {now : DateTime} {log : List LogEntry} {entry : LogEntry}

theorem chainEntry_versionId {role at_ : String} {template : LogEntry} {signingKeyId : KeyPairId}
    (built : chainEntry core engine faults role log template signingKeyId at_ = .ok entry) :
    entry.versionId = toString (nextSeq log.length) ++ "-" ++
      core.entryHash { entry with versionId := template.versionId, proof := none } := by
  rcases bind_ok.mp built with ⟨multikey, _, signed⟩
  unfold signAndAppendProof at signed
  split at signed <;> cases signed
  rfl

theorem build_versionId (templates : Templates core) (publication : Publication)
    (built : publication.Builds core engine faults issuer now log entry) :
    ∃ last, log.getLast? = some last ∧
      entry.versionId = toString (nextSeq log.length) ++ "-" ++
        core.entryHash { entry with versionId := last.versionId, proof := none } := by
  cases publication with
  | rotateKeys state =>
      simp only [Publication.Builds, buildRotationEntry, bind_ok, chainedOr_ok] at built
      rcases built with ⟨_, _, _, _, outgoing, _, last, tail, _, _, multikey, _, authentication, _,
        assertion, _, built⟩
      split at built
      · cases built
      · have chained := chainEntry_versionId built
        rw [templates.rotation] at chained
        exact ⟨last, tail, chained⟩
  | deactivateIssuer state =>
      simp only [Publication.Builds, buildDeactivationEntry, bind_ok, chainedOr_ok] at built
      rcases built with ⟨_, _, authorized, _, last, tail, built⟩
      split at built
      · cases built
      · rcases bind_ok.mp built with ⟨doc, _, built⟩
        have chained := chainEntry_versionId built
        rw [templates.deactivation] at chained
        exact ⟨last, tail, chained⟩

/-- No entry is built on an own one. -/
theorem build_own (publication : Publication) (own : TailIsOwn core engine publication log) :
    ¬ publication.Builds core engine faults issuer now log entry := by
  rcases own with ⟨_, _, _, prior, tail, earlier, at_⟩
  intro built
  cases publication with
  | rotateKeys state =>
      rcases earlier with ⟨triple, frozen, earlier⟩
      rcases built with ⟨_, again, built⟩
      cases frozen.symm.trans again
      rcases (buildRotationEntry_ok earlier).2 with ⟨_, _, _, _, _, keys, _⟩
      rcases (buildRotationEntry_ok built).2 with ⟨_, last, _, found, unrotated, _⟩
      rw [at_] at found
      cases found
      apply unrotated
      rw [keys]
      rfl
  | deactivateIssuer state =>
      rcases (buildDeactivationEntry_ok earlier).2 with ⟨_, _, _, _, _, marked, _⟩
      rcases (buildDeactivationEntry_ok built).2 with ⟨_, last, _, found, live, _⟩
      rw [at_] at found
      cases found
      exact live marked

end Builders

theorem putBody_ok {core : SwiyuCore} {engine : Engine} {faults : EngineFaults} {issuer : Issuer}
    {now : DateTime} {writer : LogWriter} {log : FetchedLog} {publication : Publication}
    {body : String} (put : publication.putBody core engine faults issuer now writer log = .ok body) :
    ∃ entry, publication.Builds core engine faults issuer now log.entries entry ∧
      body = buildUpdatedDidlog log.raw (writer.newLine entry) := by
  rcases bind_ok.mp put with ⟨⟨_, entry⟩, prepared, answered⟩
  cases answered
  refine ⟨entry, ?_, rfl⟩
  cases publication with
  | rotateKeys state =>
      simp only [Publication.prepare, prepareRotationPublish] at prepared
      split at prepared
      · cases prepared
      · split at prepared
        · cases prepared
        · next triple found =>
            rcases preparePublish_ok prepared with ⟨same, _, built⟩
            cases same
            exact ⟨triple, found, built⟩
  | deactivateIssuer state =>
      simp only [Publication.prepare, prepareDeactivationPublish] at prepared
      split at prepared
      · cases prepared
      · rcases preparePublish_ok prepared with ⟨same, _, built⟩
        cases same
        exact built

theorem toString_dash_injective {one two : Nat} {front back : String}
    (same : toString one ++ "-" ++ front = toString two ++ "-" ++ back) : one = two := by
  have digits : ∀ n : Nat, ∀ c ∈ Nat.toDigits 10 n, (c != '-') = true := by
    intro n c member
    have decimal := Nat.isDigit_of_mem_toDigits (by decide) (by decide) member
    rw [bne_iff_ne]
    rintro rfl
    cases decimal
  have number : ∀ (n : Nat) (text : String),
      (toString n ++ "-" ++ text).toList.takeWhile (· != '-') = Nat.toDigits 10 n := by
    intro n text
    have chars : (toString n ++ "-" ++ text).toList =
        Nat.toDigits 10 n ++ '-' :: text.toList := by
      simp [String.toList_append]
    rw [chars, List.takeWhile_append_of_pos (digits n)]
    simp
  have cut := congrArg (fun text => text.toList.takeWhile (· != '-')) same
  simp only [number] at cut
  have read := congrArg (fun chars => Nat.ofDigitChars 10 chars 0) cut
  simpa using read

section Lines

variable {reader : LogReader} {writer : LogWriter} {raw line : String}

theorem newLine_unbroken (entry : LogEntry) :
    '\n' ∉ (writer.newLine entry).toList ∧ '\r' ∉ (writer.newLine entry).toList := by
  have printable := Json.write_printable _ (writer.spelled entry)
  rw [LogWriter.newLine, Json.toText, String.toList_ofList]
  constructor
  · intro member
    exact absurd (printable _ member) (by decide)
  · intro member
    exact absurd (printable _ member) (by decide)

theorem newLine_present (entry : LogEntry) : reader.isBlank (writer.newLine entry) = false := by
  rcases Json.write_opens (writer.spelled entry) with ⟨c, rest, chars, opens⟩
  by_contra blank
  rw [Bool.not_eq_false] at blank
  have space := reader.blank_spaces _ blank c (by simp [LogWriter.newLine, Json.toText, chars])
  rw [opens.space] at space
  cases space

/-- The newlines at the end of a log stand for no lines. -/
theorem lines_trimmed (reader : LogReader) (raw : String) :
    reader.lines raw = reader.lines (Text.trimEndMatches (· == '\n') raw) := by
  rcases Text.trimEndMatches_cut '\n' raw with ⟨count, cut⟩
  cases count with
  | zero =>
      rw [List.replicate_zero, List.append_nil] at cut
      rw [← String.toList_injective cut]
  | succ count =>
      rw [List.replicate_succ] at cut
      have blanks : (List.replicate (count + 1) "").filter (!reader.isBlank ·) = [] := by
        rw [List.filter_eq_nil_iff]
        intro text member
        rw [List.eq_of_mem_replicate member, reader.blank_empty]
        decide
      rw [LogReader.lines, Text.split_append_cons cut, List.filter_append, Text.split_replicate,
        blanks, List.append_nil, String.ofList_toList]
      rfl

theorem lines_updated (unbroken : '\n' ∉ line.toList) (present : reader.isBlank line = false) :
    reader.lines (buildUpdatedDidlog raw line) = reader.lines raw ++ [line] := by
  have own : reader.lines line = [line] := by
    rw [LogReader.lines, Text.split_clean unbroken]
    simp [present]
  rw [lines_trimmed reader raw]
  unfold buildUpdatedDidlog
  dsimp only
  split
  · next empty =>
      rw [own, empty, LogReader.lines, Text.split_clean (by simp)]
      simp [reader.blank_empty]
  · have joined : (Text.trimEndMatches (· == '\n') raw ++ "\n" ++ line).toList =
        (Text.trimEndMatches (· == '\n') raw).toList ++ '\n' :: line.toList := by
      simp [String.toList_append]
    rw [LogReader.lines, Text.split_append_cons joined, List.filter_append, String.ofList_toList,
      String.ofList_toList, LogReader.lines]
    rw [LogReader.lines] at own
    rw [own]

theorem tryFromJsonl_updated {entries : List LogEntry} {entry : LogEntry}
    (parsed : reader.tryFromJsonl raw = .ok entries) (unbroken : '\n' ∉ line.toList)
    (present : reader.isBlank line = false) (read : reader.readLine line = .ok entry) :
    reader.tryFromJsonl (buildUpdatedDidlog raw line) = .ok (entries ++ [entry]) := by
  rw [LogReader.tryFromJsonl] at parsed ⊢
  rw [lines_updated unbroken present, List.mapM_append, parsed]
  simp [read]
  rfl

theorem trimmed_present {entries : List LogEntry} (parsed : reader.tryFromJsonl raw = .ok entries)
    (some_ : entries ≠ []) : Text.trimEndMatches (· == '\n') raw ≠ "" := by
  intro empty
  rw [LogReader.tryFromJsonl, lines_trimmed, empty, LogReader.lines, Text.split_clean (by simp)]
    at parsed
  simp only [reader.blank_empty, Bool.not_true, Bool.false_eq_true, not_false_eq_true,
    List.filter_cons_of_neg, List.filter_nil, List.mapM_nil] at parsed
  cases parsed
  exact some_ rfl

end Lines

/-- The entries of a log are numbered from one. -/
def Numbered (log : List LogEntry) : Prop :=
  ∀ index entry, log[index]? = some entry → IsNumbered entry (index + 1)

theorem nextSeq_eq {length : Nat} : nextSeq length = length + 1 ↔ length + 1 < 2 ^ 32 := by
  unfold nextSeq
  omega

section Publish

variable {core : SwiyuCore} {engine : Engine} {faults : EngineFaults} {issuer : Issuer}
  {now : DateTime} {publication : Publication} {reader : LogReader} {writer : LogWriter}
  {log : FetchedLog} {body : String}

/-- A body that is sent only appends exactly when the number of the new entry fits. -/
theorem appendsOnly_iff (templates : Templates core)
    (parsed : reader.tryFromJsonl log.raw = .ok log.entries) (numbered : Numbered log.entries)
    (reads : ∀ entry, publication.Builds core engine faults issuer now log.entries entry →
      reader.readLine (writer.newLine entry) = .ok entry)
    (put : publication.putBody core engine faults issuer now writer log = .ok body) :
    AppendsOnly core reader log body ↔ log.entries.length + 1 < 2 ^ 32 := by
  rcases putBody_ok put with ⟨entry, built, rfl⟩
  rcases build_versionId templates publication built with ⟨last, tail, versioned⟩
  have some_ : log.entries ≠ [] := by
    rintro empty
    rw [empty] at tail
    cases tail
  have predecessor : IsNumbered last log.entries.length := by
    rw [List.getLast?_eq_getElem?] at tail
    have position : log.entries.length - 1 + 1 = log.entries.length := by
      have := List.length_pos_of_ne_nil some_
      omega
    exact position ▸ numbered _ last tail
  have present : reader.isBlank (writer.newLine entry) = false := newLine_present entry
  have reparsed := tryFromJsonl_updated parsed (newLine_unbroken entry).1 present (reads entry built)
  have kept := trimmed_present parsed some_
  rw [← nextSeq_eq]
  constructor
  · rintro ⟨_, _, other, found, number, appended⟩
    have again := appended.parsed
    rw [reparsed, Except.ok.injEq] at again
    cases List.append_cancel_left again
    have ends := appended.tail
    rw [tail] at ends
    cases ends
    rcases predecessor with ⟨hash, own⟩
    rcases appended.predecessor with ⟨_, theirs⟩
    have length := toString_dash_injective (own.symm.trans theirs)
    rw [toString_dash_injective (versioned.symm.trans appended.chained), length]
  · intro fits
    refine ⟨Text.trimEndMatches (· == '\n') log.raw, writer.newLine entry, last, entry,
      log.entries.length, Text.trimEndMatches_cut '\n' log.raw, ?_, newLine_unbroken entry, tail,
      predecessor, fits ▸ versioned, reparsed⟩
    rw [buildUpdatedDidlog, if_neg kept]

/-- Nothing is sent over a tail that is the task's own entry. -/
theorem putBody_own (own : TailIsOwn core engine publication log.entries) :
    publication.putBody core engine faults issuer now writer log ≠ .ok body := by
  intro put
  rcases putBody_ok put with ⟨entry, built, _⟩
  exact build_own publication own built

/-- Over every log body that parses into entries numbered from one, a body that a publish step sends
only appends exactly when the number of the new entry fits into 32 bits, and a tail of its own is
left alone. -/
theorem publication_appends_only (templates : Templates core)
    (decodeError : String → RegistryError) {raw : String}
    (fetched : reader.fetch decodeError (.ok raw) = .ok log) (numbered : Numbered log.entries)
    (reads : ∀ entry, publication.Builds core engine faults issuer now log.entries entry →
      reader.readLine (writer.newLine entry) = .ok entry) :
    (∀ body, publication.putBody core engine faults issuer now writer log = .ok body →
        (AppendsOnly core reader log body ↔ log.entries.length + 1 < 2 ^ 32)) ∧
      (TailIsOwn core engine publication log.entries →
        ∀ body, publication.putBody core engine faults issuer now writer log ≠ .ok body) := by
  have parsed : reader.tryFromJsonl log.raw = .ok log.entries := by
    simp only [LogReader.fetch, bind_ok, mapError_ok] at fetched
    rcases fetched with ⟨_, same, entries, parsed, answered⟩
    cases same
    cases answered
    exact parsed
  exact ⟨fun body put => appendsOnly_iff templates parsed numbered reads put,
    fun own body => putBody_own own⟩

end Publish

section Sample

open Base64Url

def methodValue (method : String × P256PublicKey) : String × Json :=
  (method.1, .array [.string (encode method.2.x), .string (encode method.2.y)])

def stateValue : DidDocState → Json
  | .value (.ok doc) => .object [("value", .object (doc.verificationMethods.map methodValue))]
  | .value (.error details) => .object [("value", .string details)]
  | .patch => .object [("patch", .array [])]

def keysValue : Option (List String) → Json
  | none => .null
  | some keys => .array (keys.map .string)

def markerValue : Option Bool → Json
  | none => .null
  | some marker => .bool marker

def proofValue : Option DataIntegrityProof → Json
  | none => .null
  | some proof => .array [.string proof.verificationMethod, .string proof.challenge,
      .string proof.created, .string proof.signedBy.text]

def entryValue (entry : LogEntry) : Json :=
  .array [.string entry.versionId, .string entry.versionTime, keysValue entry.updateKeys,
    markerValue entry.deactivated, stateValue entry.didDocState, proofValue entry.proof]

def readMethod : String × Json → Except String (String × P256PublicKey)
  | (fragment, .array [.string x, .string y]) => do
      let x ← okOr (decode x) "no base64url"
      let y ← okOr (decode y) "no base64url"
      return (fragment, ⟨x, y⟩)
  | _ => .error "no verification method"

def readState : Json → Except String DidDocState
  | .object [("value", .object methods)] => do
      let methods ← methods.mapM readMethod
      return .value (.ok ⟨methods⟩)
  | .object [("value", .string details)] => .ok (.value (.error details))
  | .object [("patch", .array [])] => .ok .patch
  | _ => .error "no state"

def readText : Json → Except String String
  | .string text => .ok text
  | _ => .error "no text"

def readKeys : Json → Except String (Option (List String))
  | .null => .ok none
  | .array keys => do
      let keys ← keys.mapM readText
      return some keys
  | _ => .error "no keys"

def readMarker : Json → Except String (Option Bool)
  | .null => .ok none
  | .bool marker => .ok (some marker)
  | _ => .error "no marker"

def readProof : Json → Except String (Option DataIntegrityProof)
  | .null => .ok none
  | .array [.string method, .string challenge, .string created, .string signer] =>
      .ok (some ⟨method, challenge, created, ⟨signer⟩⟩)
  | _ => .error "no proof"

def readEntry : Json → Except String LogEntry
  | .array [.string versionId, .string versionTime, keys, marker, state, proof] => do
      let keys ← readKeys keys
      let marker ← readMarker marker
      let state ← readState state
      let proof ← readProof proof
      return ⟨versionId, versionTime, keys, marker, state, proof⟩
  | _ => .error "no entry"

theorem readMethod_methodValue (method : String × P256PublicKey) :
    readMethod (methodValue method) = .ok method := by
  simp only [methodValue, readMethod, decode_encode]
  rfl

theorem readState_stateValue (state : DidDocState) : readState (stateValue state) = .ok state := by
  cases state with
  | value parsed =>
      cases parsed with
      | ok doc =>
          have methods := mapM_map_ok doc.verificationMethods methodValue readMethod id
            readMethod_methodValue
          rw [List.map_id] at methods
          simp only [stateValue, readState, methods]
          rfl
      | error details => rfl
  | patch => rfl

theorem readKeys_keysValue (keys : Option (List String)) :
    readKeys (keysValue keys) = .ok keys := by
  cases keys with
  | none => rfl
  | some keys =>
      have texts := mapM_map_ok keys Json.string readText id fun _ => rfl
      rw [List.map_id] at texts
      simp only [keysValue, readKeys, texts]
      rfl

theorem readEntry_entryValue (entry : LogEntry) : readEntry (entryValue entry) = .ok entry := by
  have marker : readMarker (markerValue entry.deactivated) = .ok entry.deactivated := by
    cases entry.deactivated <;> rfl
  have proof : readProof (proofValue entry.proof) = .ok entry.proof := by
    cases entry.proof <;> rfl
  simp only [entryValue, readEntry, readKeys_keysValue, readState_stateValue, marker, proof]
  rfl

theorem entryValue_spelled (entry : LogEntry) : (entryValue entry).isSpelled = true := by
  have keys : (keysValue entry.updateKeys).isSpelled = true := by
    cases entry.updateKeys with
    | none => rfl
    | some keys =>
        rw [keysValue, Json.isSpelled]
        induction keys with
        | nil => rfl
        | cons key keys ih => simpa [Json.itemsSpelled, Json.isSpelled] using ih
  have methods : ∀ methods : List (String × P256PublicKey),
      Json.membersSpelled (methods.map methodValue) = true := by
    intro methods
    induction methods with
    | nil => rfl
    | cons method methods ih =>
        simpa [Json.membersSpelled, methodValue, Json.itemsSpelled, Json.isSpelled] using ih
  have state : (stateValue entry.didDocState).isSpelled = true := by
    cases entry.didDocState with
    | value parsed =>
        cases parsed with
        | ok doc => simp [stateValue, Json.isSpelled, Json.membersSpelled, methods]
        | error details => rfl
    | patch => rfl
  have marker : (markerValue entry.deactivated).isSpelled = true := by
    cases entry.deactivated <;> rfl
  have proof : (proofValue entry.proof).isSpelled = true := by
    cases entry.proof <;> rfl
  simp [entryValue, Json.isSpelled, Json.itemsSpelled, keys, marker, state, proof]

def sampleWriter : LogWriter := ⟨entryValue, entryValue_spelled⟩

def sampleReader : LogReader where
  readLine line := do
    let value ← okOr (Json.ofText line) "no JSON"
    readEntry value
  isBlank line := line.toList.all Json.isSpace
  blank_empty := rfl
  blank_spaces _ blank := List.all_eq_true.mp blank

theorem sampleReader_newLine (entry : LogEntry) :
    sampleReader.readLine (sampleWriter.newLine entry) = .ok entry := by
  have read := Json.ofText_toText (entryValue_spelled entry)
  apply bind_ok.mpr
  exact ⟨entryValue entry, okOr_ok.mpr read, readEntry_entryValue entry⟩

/-- A log of `count` entries, each on the keys of the sample issuer. -/
def sampleEntries (count : Nat) : List LogEntry :=
  (List.range count).map fun index =>
    { sampleGenesis with versionId := toString (index + 1) ++ "-" ++ "Qm" }

def sampleLog (count : Nat) : FetchedLog where
  raw := String.ofList (['\n'].intercalate
    ((sampleEntries count).map fun entry => (sampleWriter.newLine entry).toList))
  entries := sampleEntries count

theorem plainCore_templates : Templates plainCore := ⟨fun _ _ _ _ _ _ => rfl, fun _ _ _ => rfl⟩

theorem sampleLog_parses {count : Nat} (some_ : 0 < count) :
    sampleReader.tryFromJsonl (sampleLog count).raw = .ok (sampleEntries count) := by
  have pieces : Text.split '\n' (sampleLog count).raw =
      (sampleEntries count).map sampleWriter.newLine := by
    apply Text.split_of_join
    · rw [sampleLog, String.toList_ofList, List.map_map]
      rfl
    · simp [sampleEntries]
      omega
    · intro piece member
      rcases List.mem_map.mp member with ⟨entry, _, rfl⟩
      exact (newLine_unbroken entry).1
  have lines : sampleReader.lines (sampleLog count).raw =
      (sampleEntries count).map sampleWriter.newLine := by
    rw [LogReader.lines, pieces, List.filter_eq_self]
    intro line member
    rcases List.mem_map.mp member with ⟨entry, _, rfl⟩
    rw [newLine_present]
    rfl
  have read := mapM_map_ok (sampleEntries count) sampleWriter.newLine sampleReader.readLine id
    sampleReader_newLine
  rw [List.map_id] at read
  rw [LogReader.tryFromJsonl, lines, read]

theorem sampleLog_fetched {count : Nat} (some_ : 0 < count) (decodeError : String → RegistryError) :
    sampleReader.fetch decodeError (.ok (sampleLog count).raw) = .ok (sampleLog count) := by
  simp only [LogReader.fetch, bind_ok, mapError_ok]
  exact ⟨_, rfl, _, sampleLog_parses some_, rfl⟩

theorem sampleLog_numbered (count : Nat) : Numbered (sampleLog count).entries := by
  intro index entry found
  simp only [sampleLog, sampleEntries, List.getElem?_map, Option.map_eq_some_iff] at found
  rcases found with ⟨position, at_, rfl⟩
  have here := List.getElem?_eq_some_iff.mp at_
  rcases here with ⟨_, rfl⟩
  rw [List.getElem_range]
  exact ⟨"Qm", rfl⟩

def sampleTriple : KeyTriple := ⟨⟨"e2"⟩, ⟨"p2"⟩, ⟨"p3"⟩⟩

def sampleRotation : Publication := .rotateKeys ⟨some sampleTriple, false⟩

theorem sampleLog_published {count : Nat} (some_ : 0 < count) :
    ∃ body, sampleRotation.putBody plainCore letterEngine {} sampleIssuer 0 sampleWriter
      (sampleLog count) = .ok body := by
  have tail : ∃ text, (sampleEntries count).getLast? =
      some { sampleGenesis with versionId := text } := by
    cases count with
    | zero => omega
    | succ count =>
        rw [sampleEntries, List.range_succ, List.map_append]
        exact ⟨_, List.getLast?_concat⟩
  rcases tail with ⟨_, tail⟩
  have shaped : ∀ role, Shaped letterEngine role (sampleTriple.forRole role) := by
    rintro (_ | _ | _) <;> exact ⟨by decide, by decide⟩
  have fresh : sampleGenesis.updateKeys.bind List.head? ≠
      some (letterEngine.multikey plainCore sampleTriple.authorized) := by decide
  have active : sampleIssuer.state = some .active := rfl
  rcases (buildRotationEntry_works plainCore 0 active rfl
    ⟨by decide, by decide⟩ tail rfl shaped).2 fresh with ⟨entry, built⟩
  have prepared : preparePublish plainCore rotateTexts sampleIssuer (.ok (sampleEntries count))
      (fun log => buildRotationEntry plainCore letterEngine {} sampleIssuer sampleTriple log 0) =
        .ok (sampleEntries count, entry) :=
    preparePublish_works sample_addressed (sampleEntries count) built
  exact ⟨_, bind_ok.mpr ⟨_, prepared, rfl⟩⟩

def malformed (message : String) : RegistryError := ⟨.decode, message, false⟩

theorem publication_appends_only_sample :
    ∃ body, sampleRotation.putBody plainCore letterEngine {} sampleIssuer 0 sampleWriter
        (sampleLog 2) = .ok body ∧
      AppendsOnly plainCore sampleReader (sampleLog 2) body := by
  have some_ : 0 < 2 := by decide
  rcases sampleLog_published some_ with ⟨body, put⟩
  have whole : AppendsOnly plainCore sampleReader (sampleLog 2) body ↔
      (sampleLog 2).entries.length + 1 < 2 ^ 32 :=
    (publication_appends_only plainCore_templates malformed (sampleLog_fetched some_ malformed)
      (sampleLog_numbered 2) fun entry _ => sampleReader_newLine entry).1 body put
  exact ⟨body, put, whole.mpr (by decide)⟩

/-- On a log of `2 ^ 32 - 1` entries the new entry gets the number zero. -/
theorem full_log_is_renumbered :
    sampleReader.fetch malformed (.ok (sampleLog (2 ^ 32 - 1)).raw) = .ok (sampleLog (2 ^ 32 - 1)) ∧
      Numbered (sampleLog (2 ^ 32 - 1)).entries ∧
      ∃ body, sampleRotation.putBody plainCore letterEngine {} sampleIssuer 0 sampleWriter
          (sampleLog (2 ^ 32 - 1)) = .ok body ∧
        ¬ AppendsOnly plainCore sampleReader (sampleLog (2 ^ 32 - 1)) body := by
  have some_ : 0 < 2 ^ 32 - 1 := by decide
  generalize full : 2 ^ 32 - 1 = count at some_ ⊢
  rcases sampleLog_published some_ with ⟨body, put⟩
  refine ⟨sampleLog_fetched some_ malformed, sampleLog_numbered count, body, put, ?_⟩
  have length : (sampleLog count).entries.length = count := by simp [sampleLog, sampleEntries]
  rw [appendsOnly_iff plainCore_templates (sampleLog_parses some_) (sampleLog_numbered count)
    (fun entry _ => sampleReader_newLine entry) put, length]
  omega

end Sample

end SwiyuIssuer.Saga
