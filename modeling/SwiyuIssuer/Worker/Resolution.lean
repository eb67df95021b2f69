import SwiyuIssuer.Worker.LogUrl

/-! Which allocation URLs the DIDs that are made from them resolve back to. -/

namespace SwiyuIssuer.Worker.LogUrl
open Library Library.Replace

section Host

variable {scid : String} {host head : List Char} {extra : List (List Char)}

theorem port_eq : "%3A".toList = '%' :: "3A".toList := rfl

theorem infix_around (front back : List Char) :
    scidPlaceholder.toList <:+: front ++ "%3A".toList ++ back ↔
      scidPlaceholder.toList <:+: front ∨ scidPlaceholder.toList <:+: back := by
  have apart : ∀ c : Char, c ∉ scidPlaceholder.toList → ∀ front back : List Char,
      scidPlaceholder.toList <:+: front ++ c :: back ↔
        scidPlaceholder.toList <:+: front ∨ scidPlaceholder.toList <:+: back := by
    intro c outside front back
    exact infix_separator_iff (by decide) outside
  have none : ¬ scidPlaceholder.toList <:+: [] := by decide
  have three : front ++ "%3A".toList ++ back = front ++ '%' :: ([] ++ '3' :: ([] ++ 'A' :: back)) := by
    rw [List.append_assoc]
    rfl
  rw [three, apart _ (by decide), apart _ (by decide), apart _ (by decide)]
  simp [none]

theorem count_decodePort_le {c : Char} (other : c ≠ ':') (text : List Char) :
    (decodePort text).count c ≤ text.count c :=
  count_replace_le (by simpa using other)

theorem withScid_clean (base58 : ∀ c ∈ scid.toList, c.isAlphanum = true) {text : List Char}
    (many : text.count '\x7b' ≤ (withScid scid text).count '\x7b') :
    ¬ scidPlaceholder.toList <:+: text :=
  clean_of_count (by decide) (not_mem_scid base58 (by decide)) many

theorem decodePort_clean {text : List Char}
    (many : text.count '%' ≤ (decodePort text).count '%') : ¬ "%3A".toList <:+: text := by
  rw [port_eq]
  exact clean_of_count (by decide) (by decide) many

theorem decodePort_eq_self {text : List Char} :
    decodePort text = text ↔ ¬ "%3A".toList <:+: text := by
  rw [decodePort, port_eq]
  exact replace_eq_self_iff (by decide) (by decide)

theorem withScid_eq_self {text : List Char} (clean : ¬ scidPlaceholder.toList <:+: text) :
    withScid scid text = text :=
  replace_clean clean

/-- A host without a port is the host of the log unless something in it is rewritten. -/
theorem plainHost_iff (base58 : ∀ c ∈ scid.toList, c.isAlphanum = true) :
    decodePort (withScid scid host) = host ↔
      ¬ "%3A".toList <:+: host ∧ ¬ scidPlaceholder.toList <:+: host := by
  constructor
  · intro same
    have clean : ¬ scidPlaceholder.toList <:+: host := by
      apply withScid_clean base58
      calc
        host.count '\x7b' = (decodePort (withScid scid host)).count '\x7b' := by rw [same]
        _ ≤ (withScid scid host).count '\x7b' := count_decodePort_le (by decide) _
    rw [withScid_eq_self clean] at same
    exact ⟨decodePort_eq_self.mp same, clean⟩
  · intro clean
    rw [withScid_eq_self clean.2]
    exact decodePort_eq_self.mpr clean.1

theorem decodePort_port (front back : List Char) :
    decodePort (front ++ "%3A".toList ++ back) = decodePort front ++ ':' :: decodePort back := by
  rw [decodePort, List.append_assoc, port_eq, List.cons_append, replace_append (by decide),
    ← List.cons_append, replace_pattern]
  rfl

theorem decodePort_colon (front back : List Char) :
    decodePort (front ++ ':' :: back) = decodePort front ++ ':' :: decodePort back :=
  replace_separator (by decide)

theorem portHost_iff (base58 : ∀ c ∈ scid.toList, c.isAlphanum = true) {front back : List Char}
    (cut : back.splitOn ':' = head :: extra) :
    decodePort (withScid scid (front ++ "%3A".toList ++ head)) = front ++ ':' :: back ↔
      extra = [] ∧ ¬ "%3A".toList <:+: front ++ ':' :: back ∧
        ¬ scidPlaceholder.toList <:+: front ++ ':' :: back := by
  have joined : back = [':'].intercalate (head :: extra) := by rw [← cut, List.intercalate_splitOn]
  have hosts : scidPlaceholder.toList <:+: front ++ ':' :: back ↔
      scidPlaceholder.toList <:+: front ∨ scidPlaceholder.toList <:+: back :=
    infix_separator_iff (by decide) (by decide)
  constructor
  · intro same
    obtain ⟨rest, longer⟩ : ∃ rest, back = head ++ rest := by
      rw [joined]
      cases extra with
      | nil => exact ⟨[], by simp⟩
      | cons next extra => exact ⟨_, by rw [List.intercalate_cons_cons, List.append_assoc]⟩
    have clean : ¬ scidPlaceholder.toList <:+: front ++ "%3A".toList ++ head := by
      apply withScid_clean base58
      calc
        (front ++ "%3A".toList ++ head).count '\x7b' = front.count '\x7b' + head.count '\x7b' := by
          simp [List.count_append]
        _ ≤ (front ++ ':' :: back).count '\x7b' := by
          rw [longer]
          simp only [List.count_append, List.count_cons]
          omega
        _ = (decodePort (withScid scid (front ++ "%3A".toList ++ head))).count '\x7b' := by rw [same]
        _ ≤ (withScid scid (front ++ "%3A".toList ++ head)).count '\x7b' :=
          count_decodePort_le (by decide) _
    rw [withScid_eq_self clean, decodePort_port] at same
    have percents := congrArg (List.count '%') same
    have left := @count_decodePort_le '%' (by decide) front
    have right := @count_decodePort_le '%' (by decide) head
    rw [longer] at percents
    simp only [List.count_append, List.count_cons] at percents
    have front_same := decodePort_eq_self.mpr (decodePort_clean (by omega :
      front.count '%' ≤ (decodePort front).count '%'))
    have head_same := decodePort_eq_self.mpr (decodePort_clean (by omega :
      head.count '%' ≤ (decodePort head).count '%'))
    rw [front_same, head_same, longer] at same
    have none : rest = [] := by simpa using same
    have whole : back = head := by rw [longer, none, List.append_nil]
    have single : extra = [] := by
      rw [whole] at cut joined
      cases extra with
      | nil => rfl
      | cons next extra => simp [List.intercalate_cons_cons] at joined
    rw [whole] at hosts ⊢
    refine ⟨single, ?_, ?_⟩
    · rw [← decodePort_eq_self, decodePort_colon, front_same, head_same]
    · rw [hosts, ← infix_around]
      exact clean
  · intro clean
    have single : back = head := by rw [joined, clean.1, List.intercalate_singleton]
    rw [single] at clean hosts ⊢
    have unplaced : ¬ scidPlaceholder.toList <:+: front ++ "%3A".toList ++ head := by
      rw [infix_around, ← hosts]
      exact clean.2.2
    rw [withScid_eq_self unplaced, decodePort_port, ← decodePort_colon]
    exact decodePort_eq_self.mpr clean.2.1

theorem splitOn_front {c : Char} {front text : List Char} (clean : c ∉ front)
    (cut : text.splitOn c = head :: extra) : (front ++ text).splitOn c = (front ++ head) :: extra := by
  have rejoined : [c].intercalate (text.splitOn c) = text := List.intercalate_splitOn c
  have joined : front ++ text = [c].intercalate ((front ++ head) :: extra) := by
    rw [← rejoined, cut]
    cases extra <;> simp [List.intercalate_cons_cons]
  have whole : ∀ piece ∈ (front ++ head) :: extra, c ∉ piece := by
    have pieces : ∀ piece ∈ head :: extra, c ∉ piece :=
      fun _ listed => Text.splitOn_clean (cut ▸ listed)
    have first := pieces head List.mem_cons_self
    intro piece listed
    rcases List.mem_cons.mp listed with rfl | later
    · simp [clean, first]
    · exact pieces piece (List.mem_cons_of_mem _ later)
  rw [joined, List.splitOn_intercalate c whole (by simp)]

theorem host_iff (base58 : ∀ c ∈ scid.toList, c.isAlphanum = true)
    (cut : (didHost host).splitOn ':' = head :: extra) :
    (decodePort (withScid scid head) = host ↔ host.count ':' ≤ 1 ∧ ¬ "%3A".toList <:+: host ∧
      ¬ scidPlaceholder.toList <:+: host) ∧ (host.count ':' ≤ 1 → extra = []) := by
  by_cases port : ':' ∈ host
  · have contained : host.contains ':' = true := by simpa using port
    have parts := cut_at port
    have before := takeWhile_clean ':' host
    rw [didHost, if_pos contained] at cut
    generalize host.takeWhile (· != ':') = front at *
    generalize (host.dropWhile (· != ':')).drop 1 = back at *
    obtain ⟨first, others, pieces⟩ := List.exists_cons_of_ne_nil (List.splitOn_ne_nil ':' back)
    have clean : ':' ∉ front ++ "%3A".toList := by
      simp [before]
    rw [splitOn_front clean pieces] at cut
    have heads := List.cons.inj cut
    have single : extra = [] ↔ host.count ':' ≤ 1 := by
      have none : front.count ':' = 0 := List.count_eq_zero.mpr before
      rw [← heads.2, parts, List.count_append, List.count_cons_self, none]
      constructor
      · intro alone
        have absent : ':' ∉ first :=
          Text.splitOn_clean (pieces ▸ (List.mem_cons_self : first ∈ first :: others))
        have joined : [':'].intercalate (back.splitOn ':') = back := List.intercalate_splitOn ':'
        have whole : back = first := by
          rw [← joined, pieces, alone, List.intercalate_singleton]
        rw [whole, List.count_eq_zero.mpr absent]
      · intro few
        have absent : ':' ∉ back := List.count_eq_zero.mp (by omega)
        rw [List.splitOn_eq_singleton absent] at pieces
        exact (List.cons.inj pieces).2.symm
    rw [← single, ← heads.1, parts, ← heads.2]
    exact ⟨portHost_iff base58 pieces, fun alone => alone⟩
  · have uncontained : ¬ host.contains ':' = true := by simpa using port
    rw [didHost, if_neg uncontained, List.splitOn_eq_singleton port] at cut
    have heads := List.cons.inj cut
    have few : host.count ':' ≤ 1 := by
      rw [List.count_eq_zero.mpr port]
      omega
    rw [← heads.1]
    exact ⟨(plainHost_iff base58).trans (by simp [few]), fun _ => heads.2.symm⟩

end Host

section Path

variable {scid : String} {segments : List (List Char)}

theorem segments_cases (segments : List (List Char)) :
    segments = withoutLogName segments ∧ segments.getLast? ≠ some logName ∨
      segments = withoutLogName segments ++ [logName] := by
  rw [withoutLogName]
  by_cases named : segments.getLast? = some logName
  · right
    rw [if_pos (by simpa using named), List.dropLast_append_getLast? logName named]
  · left
    rw [if_neg (by simpa using named)]
    exact ⟨rfl, named⟩

theorem withoutLogName_nil :
    withoutLogName segments = [] ↔ segments = [] ∨ segments = [logName] := by
  constructor
  · intro none
    rcases segments_cases segments with ⟨same, -⟩ | same
    · exact .inl (same.trans none)
    · exact .inr (same.trans (by rw [none]; rfl))
  · intro few
    rcases few with rfl | rfl <;> rfl

theorem withoutLogName_sublist :
    (withoutLogName (segments.filter fun segment => !segment.isEmpty)).Sublist
      ((withoutLogName segments).filter fun segment => !segment.isEmpty) := by
  have shorter : ∀ parts : List (List Char), (withoutLogName parts).Sublist parts := by
    intro parts
    rw [withoutLogName]
    split
    · exact List.dropLast_sublist parts
    · exact List.Sublist.refl parts
  rcases segments_cases segments with ⟨same, -⟩ | same
  · rw [← same]
    exact shorter _
  · generalize withoutLogName segments = front at same
    have last : (front ++ [logName]).filter (fun segment => !segment.isEmpty) =
        front.filter (fun segment => !segment.isEmpty) ++ [logName] := by
      rw [List.filter_append]
      rfl
    rw [same, last, withoutLogName]
    simp

theorem filter_named (named : ∀ segment ∈ segments, segment ≠ []) :
    (segments.filter fun segment => !segment.isEmpty) = segments := by
  rw [List.filter_eq_self]
  intro segment listed
  simpa using named segment listed

theorem forall_segments {p : List Char → Prop} (log : p logName) :
    (∀ segment ∈ segments, p segment) ↔ ∀ segment ∈ withoutLogName segments, p segment := by
  rcases segments_cases segments with ⟨same, -⟩ | same
  · rw [← same]
  · generalize withoutLogName segments = front at same
    rw [same, List.forall_mem_append, List.forall_mem_singleton]
    exact and_iff_left log

theorem map_withScid_iff : segments.map (withScid scid) = segments ↔
    ∀ segment ∈ segments, withScid scid segment = segment := by
  conv_lhs => rhs; rw [← List.map_id segments]
  exact List.map_inj_left

/-- The path of the DID, when it has one, gives back only segments that the path was joined from. -/
theorem route_named (base58 : ∀ c ∈ scid.toList, c.isAlphanum = true)
    {kept named : List (List Char)} (some : kept ≠ [])
    (within : kept.Sublist (named.filter fun segment => !segment.isEmpty))
    (same : (([':'].intercalate kept).splitOn ':').map (withScid scid) = named) :
    kept = named ∧ (∀ segment ∈ named, segment ≠ [] ∧ ':' ∉ segment) ∧
      ∀ segment ∈ named, ¬ scidPlaceholder.toList <:+: segment := by
  have uncoloned : ∀ segment ∈ named, ':' ∉ segment := by
    intro segment listed
    rw [← same] at listed
    rcases List.mem_map.mp listed with ⟨piece, member, rfl⟩
    exact not_mem_replace (not_mem_scid base58 (by decide)) (Text.splitOn_clean member)
  have smaller := within.trans List.filter_sublist
  rw [List.splitOn_intercalate ':' (fun segment listed => uncoloned segment (smaller.subset listed))
    some] at same
  have lengths : kept.length = named.length := by rw [← same, List.length_map]
  have whole : kept = named := smaller.eq_of_length lengths
  rw [whole] at same within
  have filtered := within.length_le
  refine ⟨whole, fun segment listed => ⟨?_, uncoloned segment listed⟩, fun segment listed => ?_⟩
  · have kept_all := List.length_filter_eq_length_iff.mp
      (Nat.le_antisymm (List.length_filter_le _ named) filtered)
    simpa using kept_all segment listed
  · apply withScid_clean base58
    rw [(map_withScid_iff.mp same) segment listed]

/-- The segments of the DID's path are those of the URL when nothing in them was dropped, cut or
rewritten. -/
theorem path_iff (base58 : ∀ c ∈ scid.toList, c.isAlphanum = true) :
    logDirectory ((routeOf (didPath segments)).map (withScid scid)) = withoutLogName segments ↔
      (segments ≠ [] ∧ segments ≠ [logName]) ∧
        (∀ segment ∈ segments, segment ≠ [] ∧ ':' ∉ segment) ∧
        ∀ segment ∈ segments, ¬ scidPlaceholder.toList <:+: segment := by
  have within := @withoutLogName_sublist segments
  have plain_iff : (∀ segment ∈ segments, segment ≠ [] ∧ ':' ∉ segment) ↔
      ∀ segment ∈ withoutLogName segments, segment ≠ [] ∧ ':' ∉ segment := forall_segments (by decide)
  have clean_iff : (∀ segment ∈ segments, ¬ scidPlaceholder.toList <:+: segment) ↔
      ∀ segment ∈ withoutLogName segments, ¬ scidPlaceholder.toList <:+: segment :=
    forall_segments (by decide)
  rw [← not_or, ← withoutLogName_nil, plain_iff, clean_iff]
  have unfiltered : (∀ segment ∈ withoutLogName segments, segment ≠ [] ∧ ':' ∉ segment) →
      withoutLogName (segments.filter fun segment => !segment.isEmpty) = withoutLogName segments := by
    intro named
    rw [filter_named fun segment listed => (plain_iff.mpr named segment listed).1]
  rw [didPath]
  generalize withoutLogName (segments.filter fun segment => !segment.isEmpty) = kept at *
  generalize withoutLogName segments = named at *
  by_cases rooted : kept = [] ∨ kept = [wellKnown]
  · have empty : logDirectory ((routeOf none).map (withScid scid)) = [wellKnown] := rfl
    rw [if_pos (by simpa using rooted), empty]
    constructor
    · intro same
      rw [← same]
      decide
    · intro plain
      rw [unfiltered plain.2.1] at rooted
      exact (rooted.resolve_left plain.1).symm
  · have some := (not_or.mp rooted).1
    have present : ∀ text : List Char, logDirectory ((text.splitOn ':').map (withScid scid)) =
        (text.splitOn ':').map (withScid scid) := by
      intro text
      rw [logDirectory, if_neg (by simp [List.splitOn_ne_nil])]
    rw [if_neg (by simpa using rooted), routeOf, Option.elim_some, present]
    constructor
    · intro same
      obtain ⟨whole, named_plain⟩ := route_named base58 some within same
      exact ⟨whole ▸ some, named_plain⟩
    · intro plain
      have whole := unfiltered plain.2.1
      rw [whole, List.splitOn_intercalate ':' (fun segment listed => (plain.2.1 segment listed).2)
        plain.1, map_withScid_iff]
      exact fun segment listed => withScid_eq_self (plain.2.2 segment listed)

end Path

section Settling

variable {genesis : GenesisCore} {scid url : String}

theorem not_mem_piece {c separator : Char} {text piece : List Char} (other : c ≠ separator)
    (absent : c ∉ text) (listed : piece ∈ text.splitOn separator) : c ∉ piece := by
  intro member
  have joined : [separator].intercalate (text.splitOn separator) = text :=
    List.intercalate_splitOn separator
  rw [← joined, mem_intercalate_iff other] at absent
  exact absent ⟨piece, listed, member⟩

theorem didHost_whole {host : List Char} (whole : '/' ∉ host) : '/' ∉ didHost host := by
  rw [didHost]
  split
  · intro member
    simp only [List.mem_append] at member
    rcases member with (before | port) | after
    · exact whole ((List.takeWhile_sublist _).subset before)
    · revert port
      decide
    · exact whole ((List.dropWhile_sublist _).subset (List.mem_of_mem_drop after))
  · exact whole

theorem didPath_whole {segments : List (List Char)} (whole : ∀ segment ∈ segments, '/' ∉ segment) :
    ∀ piece ∈ routeOf (didPath segments), '/' ∉ piece := by
  have kept : ∀ segment ∈ withoutLogName (segments.filter fun segment => !segment.isEmpty),
      '/' ∉ segment := by
    intro segment listed
    have within := (withoutLogName_sublist.subset listed)
    exact (forall_segments (by decide)).mp whole segment (List.mem_of_mem_filter within)
  intro piece listed
  rw [didPath] at listed
  split at listed
  · cases listed
  · refine not_mem_piece (by decide) ?_ listed
    rw [mem_intercalate_iff (by decide)]
    rintro ⟨segment, member, slash⟩
    exact kept segment member slash

/-- The log of the DID has the allocated URL when the host and the segments agree. -/
theorem log_iff (base58 : ∀ c ∈ scid.toList, c.isAlphanum = true) {domain : String}
    {path : Option String} {head : List Char} {extra : List (List Char)}
    (secure : url.toList = scheme ++ address url) (domain_eq : domain.toList = didHost (hostOf url))
    (path_eq : path.map String.toList = didPath (segmentsOf url))
    (cut : (didHost (hostOf url)).splitOn ':' = head :: extra) :
    logUrlOf (withScid scid (tdwText scidPlaceholder domain path).toList) =
        some (allocatedLog url) ↔
      decodePort (withScid scid head) = hostOf url ∧
        logDirectory ((extra ++ routeOf (didPath (segmentsOf url))).map (withScid scid)) =
          withoutLogName (segmentsOf url) := by
  have parts : ∀ part ∈ hostOf url :: segmentsOf url, '/' ∉ part := fun _ listed => part_clean listed
  have host_whole := parts _ List.mem_cons_self
  have segments_whole := (List.forall_mem_cons.mp parts).2
  have pieces_whole : ∀ piece ∈ head :: extra, '/' ∉ piece := by
    intro piece listed
    exact not_mem_piece (by decide) (didHost_whole host_whole) (cut ▸ listed)
  have scid_whole := not_mem_scid base58 (by decide : '/'.isAlphanum = false)
  have named_whole : ∀ named : List (List Char), (∀ segment ∈ named, '/' ∉ segment) →
      ∀ segment ∈ named ++ [logName], '/' ∉ segment := by
    intro named whole segment listed
    rcases List.mem_append.mp listed with listed | listed
    · exact whole segment listed
    · rw [List.mem_singleton.mp listed]
      decide
  have routes_whole : ∀ segment ∈
      logDirectory ((extra ++ routeOf (didPath (segmentsOf url))).map (withScid scid)),
      '/' ∉ segment := by
    intro segment listed
    rw [logDirectory] at listed
    split at listed
    · rw [List.mem_singleton.mp listed]
      decide
    · rcases List.mem_map.mp listed with ⟨piece, member, rfl⟩
      apply not_mem_replace scid_whole
      rcases List.mem_append.mp member with member | member
      · exact pieces_whole piece (List.mem_cons_of_mem _ member)
      · exact didPath_whole segments_whole piece member
  have head_whole : '/' ∉ decodePort (withScid scid head) :=
    not_mem_replace (by decide) (not_mem_replace scid_whole (pieces_whole head List.mem_cons_self))
  rw [logUrlOf_tdwText base58 (domain_eq ▸ cut), path_eq, allocatedLog_eq secure, Option.some_inj,
    List.append_cancel_left_eq, joinPath_inj (by simp) (by simp), List.cons.injEq,
    List.append_cancel_right_eq]
  · exact List.forall_mem_cons.mpr ⟨head_whole, named_whole _ routes_whole⟩
  · exact List.forall_mem_cons.mpr ⟨host_whole, named_whole _
      ((forall_segments (by decide)).mp segments_whole)⟩

/-- A DID leads back to the allocated URL exactly when the URL has only parts that a DID has a
place for. -/
theorem did_determines_its_log_iff (verbatim : StoresVerbatim genesis)
    (base58 : ∀ c ∈ scid.toList, c.isAlphanum = true) (url : String) :
    DeterminesLog genesis scid url ↔
      (∃ error, genesisDid genesis url = .error error) ∨ Expressible url := by
  cases built : genesisDid genesis url with
  | error error => simp [DeterminesLog, built]
  | ok did =>
      rcases Answers.bind_ok.mp built with ⟨⟨domain, path⟩, parsed, stored⟩
      obtain ⟨secure, domain_eq, path_eq⟩ := parseUrl_ok parsed
      have text := verbatim domain path did (Answers.mapError_ok.mp stored)
      obtain ⟨head, extra, cut⟩ :=
        List.exists_cons_of_ne_nil (List.splitOn_ne_nil ':' (didHost (hostOf url)))
      have log := log_iff base58 secure domain_eq path_eq cut
      obtain ⟨host, alone⟩ := host_iff base58 cut
      have segments := @path_iff scid (segmentsOf url) base58
      have unplaced : scidPlaceholder.toList <:+: address url ↔
          ∃ part ∈ hostOf url :: segmentsOf url, scidPlaceholder.toList <:+: part := by
        rw [← joinPath_parts]
        exact infix_intercalate_iff (by decide) (by decide)
      have determined : DeterminesLog genesis scid url ↔
          logUrlOf (withScid scid did.toList) = some (allocatedLog url) ∧ Bare url := by
        simp [DeterminesLog, built]
      rw [determined, text, log, host]
      constructor
      · intro same
        obtain ⟨⟨⟨port, unescaped, host_clean⟩, routes⟩, bare⟩ := same
        rw [alone port, List.nil_append, segments] at routes
        obtain ⟨below, named, clean⟩ := routes
        refine .inr ⟨bare, ?_, port, unescaped, below, named⟩
        rw [unplaced, List.exists_mem_cons_iff]
        exact not_or.mpr ⟨host_clean, fun ⟨part, listed, found⟩ => clean part listed found⟩
      · intro settled
        rcases settled with ⟨error, failed⟩ | plain
        · cases failed
        · have clean : ∀ part ∈ hostOf url :: segmentsOf url,
              ¬ scidPlaceholder.toList <:+: part :=
            fun part listed found => plain.unplaced (unplaced.mpr ⟨part, listed, found⟩)
          rw [alone plain.port, List.nil_append, segments]
          exact ⟨⟨⟨plain.port, plain.unescaped, clean _ List.mem_cons_self⟩, plain.below, plain.named,
            (List.forall_mem_cons.mp clean).2⟩, plain.bare⟩

end Settling

section Sample

def sampleGenesis : GenesisCore where
  tryNewTdw domain path := .ok (tdwText scidPlaceholder domain path)
  newGenesis multikey did _ _ now := .array [.string multikey, .string did, .string now]
  stripProofSlot entry := entry
  deriveScid _ := "QmXyz"
  withScid _ entry := entry
  deriveEntryHash _ := "QmHash"
  setVersionId entry _ := entry
  appendProof entry _ _ _ _ := entry

theorem sampleGenesis_verbatim : StoresVerbatim sampleGenesis := by
  intro domain path did stored
  exact (Except.ok.inj stored).symm

theorem sample_base58 : ∀ c ∈ "QmXyz".toList, c.isAlphanum = true :=
  List.all_eq_true.mp (by decide)

end Sample

theorem did_determines_its_log_iff_sample :
    DeterminesLog sampleGenesis "QmXyz" "https://reg.example.com:8443/api/did.jsonl" :=
  (did_determines_its_log_iff sampleGenesis_verbatim sample_base58 _).mpr
    (.inr ⟨⟨by decide, by decide, by decide⟩, by decide, by decide, by decide, by decide, by decide⟩)

/-- A log at the root gets the DID of a log under `.well-known`. -/
theorem root_log_is_moved :
    ¬ DeterminesLog sampleGenesis "QmXyz" "https://reg.example.com/did.jsonl" := by
  intro determined
  have moved := (determined (tdwText scidPlaceholder "reg.example.com" none) (by decide)).1
  revert moved
  decide

end SwiyuIssuer.Worker.LogUrl
