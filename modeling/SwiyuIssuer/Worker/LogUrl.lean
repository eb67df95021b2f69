import SwiyuIssuer.Library.Replace
import SwiyuIssuer.Worker.Genesis

/-! The DID that the genesis builder makes from an allocation URL, and the URL of the log that
`did:tdw` reads back from it. -/

namespace SwiyuIssuer.Worker.LogUrl

open Library Library.Replace

/-- The text of a `did:tdw`; `scid` is a placeholder until the SCID is derived. -/
def tdwText (scid domain : String) (path : Option String) : String :=
  "did:tdw:" ++ scid ++ ":" ++ domain ++ path.elim "" (":" ++ ·)

def scidPlaceholder : String := "\x7bSCID\x7d"

/-- `DID::try_new_tdw` rejects, or stores the domain and the path that it is given. -/
def StoresVerbatim (genesis : GenesisCore) : Prop :=
  ∀ domain path did, genesis.tryNewTdw domain path = .ok did →
    did = tdwText scidPlaceholder domain path

/-- The DID of `build_log_entry`, before the SCID is known. -/
def genesisDid (genesis : GenesisCore) (url : String) : Except GenesisBuildError String := do
  let (domain, path) ← parseUrl url
  (genesis.tryNewTdw domain path).mapError fun e =>
    .invalidUrl ("DID construction failed: " ++ e)

/-- The builder signs an entry that is made with that DID. -/
theorem buildLogEntry_did {core : SwiyuCore} {genesis : GenesisCore} {engine : Engine}
    {faults : EngineFaults} {state : CreateIssuerStateData} {now : DateTime} {url : String}
    {entry : Json} (allocated : state.assignedDidUrl = some url)
    (built : buildLogEntry core genesis engine faults state now = .ok entry) :
    ∃ did multikey authentication assertion keyId versionId, genesisDid genesis url = .ok did ∧
      let prelim := genesis.stripProofSlot
        (genesis.newGenesis multikey did authentication assertion (core.rfc3339 now))
      entry = genesis.appendProof
        (genesis.setVersionId (genesis.withScid (genesis.deriveScid prelim) prelim) versionId) keyId
        multikey versionId (core.rfc3339 now) := by
  simp only [buildLogEntry, Answers.bind_ok, requireState_ok, Answers.mapError_ok] at built
  rcases built with ⟨address, found, keyIds, _, ⟨domain, path⟩, parsed, multikey, _, authentication,
    _, assertion, _, did, stored, built⟩
  rw [allocated] at found
  cases found
  split at built
  · cases built
  · cases built
    refine ⟨did, multikey, authentication, assertion, _, _, ?_, rfl⟩
    exact Answers.bind_ok.mpr ⟨⟨domain, path⟩, parsed, Answers.mapError_ok.mpr stored⟩

/-- `replace("{SCID}", &scid)`. -/
def withScid (scid : String) (did : List Char) : List Char :=
  replace scidPlaceholder.toList scid.toList did

def decodePort (host : List Char) : List Char := replace "%3A".toList [':'] host

def scheme : List Char := "https://".toList

def logName : List Char := "did.jsonl".toList

def wellKnown : List Char := ".well-known".toList

def joinPath (parts : List (List Char)) : List Char := ['/'].intercalate parts

/-- The segments in front of the name of the log. -/
def logDirectory (segments : List (List Char)) : List (List Char) :=
  if segments.isEmpty then [wellKnown] else segments

/-- The URL of the log of a `did:tdw`. -/
def logUrlOf (did : List Char) : Option (List Char) :=
  match did.splitOn ':' with
  | did :: method :: _ :: host :: segments =>
      if did = "did".toList ∧ method = "tdw".toList then
        some (scheme ++ joinPath (decodePort host :: (logDirectory segments ++ [logName])))
      else none
  | _ => none

/-- What follows `https://`. -/
def address (url : String) : List Char := url.toList.drop scheme.length

def hostOf (url : String) : List Char := (address url).takeWhile (· != '/')

def segmentsOf (url : String) : List (List Char) := ((address url).splitOn '/').tail

/-- The allocated URL, with the name of the log when it does not name it. -/
def allocatedLog (url : String) : List Char :=
  if (segmentsOf url).getLast? = some logName then url.toList else url.toList ++ '/' :: logName

/-- No query, no fragment and no user info. -/
structure Bare (url : String) : Prop where
  query : '?' ∉ address url
  fragment : '#' ∉ address url
  userinfo : '@' ∉ hostOf url

/-- The URL is rejected, or its parts are those of the log of the DID. -/
def DeterminesLog (genesis : GenesisCore) (scid url : String) : Prop :=
  ∀ did, genesisDid genesis url = .ok did →
    logUrlOf (withScid scid did.toList) = some (allocatedLog url) ∧ Bare url

/-- The URLs that a `did:tdw` has a place for. -/
structure Expressible (url : String) : Prop where
  bare : Bare url
  unplaced : ¬ scidPlaceholder.toList <:+: address url
  port : (hostOf url).count ':' ≤ 1
  unescaped : ¬ "%3A".toList <:+: hostOf url
  below : segmentsOf url ≠ [] ∧ segmentsOf url ≠ [logName]
  named : ∀ segment ∈ segmentsOf url, segment ≠ [] ∧ ':' ∉ segment

section Parsing

/-- `did_host` of `parse_url`. -/
def didHost (host : List Char) : List Char :=
  if host.contains ':' then
    host.takeWhile (· != ':') ++ "%3A".toList ++ (host.dropWhile (· != ':')).drop 1
  else host

def withoutLogName (segments : List (List Char)) : List (List Char) :=
  if segments.getLast? == some logName then segments.dropLast else segments

/-- `did_path` of `parse_url`. -/
def didPath (segments : List (List Char)) : Option (List Char) :=
  let segments := withoutLogName (segments.filter fun segment => !segment.isEmpty)
  if segments.isEmpty || segments == [wellKnown] then none
  else some (List.intercalate [':'] segments)

theorem cut_at {c : Char} {text : List Char} (present : c ∈ text) :
    text = text.takeWhile (· != c) ++ c :: (text.dropWhile (· != c)).drop 1 := by
  have whole := List.takeWhile_append_dropWhile (p := (· != c)) (l := text)
  cases rest : text.dropWhile (· != c) with
  | nil =>
      rw [List.dropWhile_eq_nil_iff] at rest
      have absurd := rest c present
      simp at absurd
  | cons d back =>
      have stop := List.head_dropWhile_not (· != c) (by simp [rest] : text.dropWhile (· != c) ≠ [])
      simp only [rest, List.head_cons, bne_eq_false_iff_eq] at stop
      rw [rest, stop] at whole
      exact whole.symm

theorem takeWhile_clean (c : Char) (text : List Char) : c ∉ text.takeWhile (· != c) := by
  intro member
  have apart := List.mem_takeWhile_imp member
  simp at apart

theorem splitOn_present {text : List Char} (present : '/' ∈ text) :
    text.splitOn '/' = text.takeWhile (· != '/') ::
      ((text.dropWhile (· != '/')).drop 1).splitOn '/' := by
  conv_lhs => rw [cut_at present, List.splitOn_append_cons_self,
    List.splitOn_eq_singleton (takeWhile_clean '/' text)]
  rfl

theorem bne_of_absent {text : List Char} (absent : '/' ∉ text) : ∀ c ∈ text, (c != '/') = true := by
  intro c member
  have other : c ≠ '/' := fun same => absent (same ▸ member)
  simpa using other

theorem parts_eq (url : String) : (address url).splitOn '/' = hostOf url :: segmentsOf url := by
  rw [segmentsOf, hostOf]
  by_cases present : '/' ∈ address url
  · rw [splitOn_present present, List.tail_cons]
  · rw [List.splitOn_eq_singleton present, List.tail_cons,
      List.takeWhile_eq_self_iff.mpr (bne_of_absent present)]

/-- Without a path there is no segment, where the source has an empty one. -/
theorem filter_segments (url : String) :
    ((((address url).dropWhile (· != '/')).drop 1).splitOn '/').filter
      (fun segment => !segment.isEmpty) =
      (segmentsOf url).filter fun segment => !segment.isEmpty := by
  rw [segmentsOf]
  by_cases present : '/' ∈ address url
  · rw [splitOn_present present, List.tail_cons]
  · rw [List.splitOn_eq_singleton present, List.tail_cons,
      List.dropWhile_eq_nil_iff.mpr (bne_of_absent present)]
    rfl

variable {url : String} {domain : String} {path : Option String}

theorem joinPath_parts (url : String) : joinPath (hostOf url :: segmentsOf url) = address url := by
  rw [← parts_eq, joinPath, List.intercalate_splitOn]

theorem part_clean {part : List Char} (listed : part ∈ hostOf url :: segmentsOf url) :
    '/' ∉ part :=
  Text.splitOn_clean (parts_eq url ▸ listed)

theorem parseUrl_ok (parsed : parseUrl url = .ok (domain, path)) :
    url.toList = scheme ++ address url ∧ domain.toList = didHost (hostOf url) ∧
      path.map String.toList = didPath (segmentsOf url) := by
  unfold parseUrl at parsed
  split at parsed
  · cases parsed
  · next rest found =>
      have cut : ∀ front : List Char, front.isPrefixOf? url.toList = some rest →
          front ++ rest = url.toList := fun _ => List.isPrefixOf?_eq_some_iff_append_eq.mp
      have whole : scheme ++ rest = url.toList := cut scheme found
      have addressed : address url = rest := by
        rw [address, ← whole, List.drop_left]
      rw [← addressed] at parsed
      dsimp only at parsed
      rw [filter_segments] at parsed
      split at parsed
      · cases parsed
      · have pair := Prod.mk.inj (Except.ok.inj parsed)
        have characters : ∀ (absent : Bool) (joined : List Char),
            (if absent = true then none else some (String.ofList joined)).map String.toList =
              if absent = true then none else some joined := by
          intro absent joined
          cases absent <;> simp
        rw [addressed, whole, ← pair.1, ← pair.2, String.toList_ofList, characters]
        exact ⟨rfl, rfl, rfl⟩

end Parsing

section Reading

variable {scid domain : String} {path : Option String} {url : String}

/-- The segments that the DID has for a path. -/
def routeOf (path : Option (List Char)) : List (List Char) := path.elim [] (·.splitOn ':')

theorem placeholder_eq : scidPlaceholder.toList = '\x7b' :: "SCID\x7d".toList := rfl

theorem splitOn_tdwText (domain : String) (path : Option String) :
    (tdwText scidPlaceholder domain path).toList.splitOn ':' =
      "did".toList :: "tdw".toList :: scidPlaceholder.toList ::
        (domain.toList.splitOn ':' ++ routeOf (path.map String.toList)) := by
  have front : ∀ rest : List Char, ("did:tdw:".toList ++ scidPlaceholder.toList ++ ':' :: rest) =
      "did".toList ++ ':' :: ("tdw".toList ++ ':' :: (scidPlaceholder.toList ++ ':' :: rest)) :=
    fun _ => rfl
  have whole : (tdwText scidPlaceholder domain path).toList =
      "did".toList ++ ':' :: ("tdw".toList ++ ':' :: (scidPlaceholder.toList ++ ':' ::
        (domain.toList ++ (path.map String.toList).elim [] (':' :: ·)))) := by
    rw [← front, tdwText]
    cases path <;> simp
  rw [whole, List.splitOn_append_cons_self, List.splitOn_append_cons_self,
    List.splitOn_append_cons_self]
  have plain : "did".toList.splitOn ':' = ["did".toList] ∧ "tdw".toList.splitOn ':' = ["tdw".toList] ∧
      scidPlaceholder.toList.splitOn ':' = [scidPlaceholder.toList] := by decide
  rw [plain.1, plain.2.1, plain.2.2]
  cases path with
  | none => simp [routeOf]
  | some path => simp [routeOf, List.splitOn_append_cons_self]

theorem not_mem_scid (base58 : ∀ c ∈ scid.toList, c.isAlphanum = true) {c : Char}
    (mark : c.isAlphanum = false) : c ∉ scid.toList := by
  intro member
  have letter := base58 c member
  rw [mark] at letter
  contradiction

theorem splitOn_withScid (base58 : ∀ c ∈ scid.toList, c.isAlphanum = true) (did : List Char) :
    (withScid scid did).splitOn ':' = (did.splitOn ':').map (withScid scid) := by
  rw [withScid, placeholder_eq, splitOn_replace (by decide) (not_mem_scid base58 (by decide))]
  rfl

theorem logUrlOf_tdwText (base58 : ∀ c ∈ scid.toList, c.isAlphanum = true)
    {head : List Char} {extra : List (List Char)} (cut : domain.toList.splitOn ':' = head :: extra) :
    logUrlOf (withScid scid (tdwText scidPlaceholder domain path).toList) =
      some (scheme ++ joinPath (decodePort (withScid scid head) ::
        (logDirectory ((extra ++ routeOf (path.map String.toList)).map (withScid scid)) ++
          [logName]))) := by
  have did : withScid scid "did".toList = "did".toList := replace_absent (by decide)
  have method : withScid scid "tdw".toList = "tdw".toList := replace_absent (by decide)
  rw [logUrlOf, splitOn_withScid base58, splitOn_tdwText, cut, List.map_cons, List.map_cons,
    List.map_cons, did, method, List.cons_append, List.map_cons]
  exact if_pos ⟨rfl, rfl⟩

theorem joinPath_concat (part : List Char) (parts : List (List Char)) (last : List Char) :
    joinPath (part :: parts ++ [last]) = joinPath (part :: parts) ++ '/' :: last := by
  induction parts generalizing part with
  | nil => simp [joinPath]
  | cons next parts ih =>
      have later := ih next
      simp only [joinPath, List.cons_append, List.intercalate_cons_cons] at later ⊢
      rw [later]
      simp

theorem allocatedLog_eq (secure : url.toList = scheme ++ address url) :
    allocatedLog url =
      scheme ++ joinPath (hostOf url :: (withoutLogName (segmentsOf url) ++ [logName])) := by
  rw [allocatedLog, withoutLogName, secure, ← joinPath_parts]
  by_cases named : (segmentsOf url).getLast? = some logName
  · rw [if_pos named, if_pos (by simpa using named), List.dropLast_append_getLast? logName named]
  · rw [if_neg named, if_neg (by simpa using named), ← List.cons_append, joinPath_concat,
      List.append_assoc]

theorem joinPath_inj {parts others : List (List Char)} (some : parts ≠ []) (others_some : others ≠ [])
    (clean : ∀ part ∈ parts, '/' ∉ part) (others_clean : ∀ part ∈ others, '/' ∉ part) :
    joinPath parts = joinPath others ↔ parts = others := by
  constructor
  · intro same
    rw [← List.splitOn_intercalate '/' clean some, ← List.splitOn_intercalate '/' others_clean others_some]
    exact congrArg (List.splitOn '/') same
  · exact congrArg joinPath

end Reading

end SwiyuIssuer.Worker.LogUrl
