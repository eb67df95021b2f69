import SwiyuIssuer.Library.Decimal
import SwiyuIssuer.Library.UrlPath

/-! The origin to which the URL standard resolves a reference without a scheme, against an `https`
URL: the states of its parser, and the authority that they read in one piece. -/

namespace Library.UrlReference

open UrlPath

/-- The host and the port of an `https` origin; the default port is none. -/
structure Origin where
  host : String
  port : Option Nat
deriving DecidableEq, Repr

def defaultPort : Nat := 443

/-- The input without what the parser drops before it starts. -/
def trimmed (text : List Char) : List Char := cleaned (text.dropWhile isC0OrSpace)

def endsAuthority (c : Char) : Bool := isSlash c || endsPath c

section States

variable (parseHost : List Char → Option String) (base : Origin)

/-- A port that was read; `none` is a failure. -/
def finishPort (host : String) (buffer : List Char) : Option Origin :=
  if buffer = [] then some ⟨host, none⟩
  else if Decimal.value buffer < 2 ^ 16 then
    some ⟨host, if Decimal.value buffer = defaultPort then none else some (Decimal.value buffer)⟩
  else none

def portState (host : String) (buffer : List Char) : List Char → Option Origin
  | [] => finishPort host buffer
  | c :: rest =>
      if c.isDigit then portState host (buffer ++ [c]) rest
      else if endsAuthority c then finishPort host buffer
      else none

def finishHost (buffer : List Char) : Option Origin :=
  if buffer = [] then none else (parseHost buffer).map fun host => ⟨host, none⟩

def hostState (inside : Bool) (buffer : List Char) : List Char → Option Origin
  | [] => finishHost parseHost buffer
  | c :: rest =>
      if c == ':' && !inside then
        if buffer = [] then none else (parseHost buffer).bind fun host => portState host [] rest
      else if endsAuthority c then finishHost parseHost buffer
      else hostState (c == '[' || (inside && c != ']')) (buffer ++ [c]) rest

/-- Up to the end of the authority; an at sign makes credentials of what was read before it. -/
def authorityState (atSign : Bool) (buffer : List Char) : List Char → Option Origin
  | [] => if atSign ∧ buffer = [] then none else hostState parseHost false [] buffer
  | c :: rest =>
      if c == '@' then authorityState true [] rest
      else if endsAuthority c then
        if atSign ∧ buffer = [] then none else hostState parseHost false [] (buffer ++ c :: rest)
      else authorityState atSign (buffer ++ [c]) rest

def ignoreSlashesState : List Char → Option Origin
  | [] => authorityState parseHost false [] []
  | c :: rest =>
      if isSlash c then ignoreSlashesState rest else authorityState parseHost false [] (c :: rest)

/-- A second slash starts an authority; everything else is of the origin of the base. -/
def relativeSlashState : List Char → Option Origin
  | [] => some base
  | c :: rest => if isSlash c then ignoreSlashesState parseHost rest else some base

def relativeState : List Char → Option Origin
  | [] => some base
  | c :: rest => if isSlash c then relativeSlashState parseHost base rest else some base

/-- The origin of a reference that starts no scheme. -/
def resolve (text : List Char) : Option Origin := relativeState parseHost base (trimmed text)

end States

section Authority

variable (parseHost : List Char → Option String)

/-- Up to the first colon outside of brackets, and what is behind it. -/
def cutHost (inside : Bool) : List Char → List Char × Option (List Char)
  | [] => ([], none)
  | c :: rest =>
      if c == ':' && !inside then ([], some rest)
      else
        let (host, port) := cutHost (c == '[' || (inside && c != ']')) rest
        (c :: host, port)

def ofParts (host : List Char) (port : Option (List Char)) : Option Origin :=
  if host = [] then none
  else (parseHost host).bind fun host =>
    match port with
    | none => some ⟨host, none⟩
    | some digits => if digits.all Char.isDigit then finishPort host digits else none

/-- The origin that an authority names, without its credentials. -/
def parseAuthority (authority : List Char) : Option Origin :=
  let (host, port) := cutHost false (authority.rtakeWhile (· != '@'))
  ofParts parseHost host port

/-- What the parser takes for an authority, behind any number of slashes. -/
def authorityOf (text : List Char) : List Char :=
  (text.dropWhile isSlash).takeWhile fun c => !endsAuthority c

end Authority

variable {parseHost : List Char → Option String} {base : Origin}

theorem endsAuthority_cases {c : Char} (ends : endsAuthority c = true) :
    c = '/' ∨ c = '\\' ∨ c = '?' ∨ c = '#' := by
  simpa [endsAuthority, isSlash, endsPath, or_assoc] using ends

theorem portState_eq (host : String) {buffer : List Char} (digits : buffer.all Char.isDigit = true)
    (text : List Char) : portState host buffer text =
      if (buffer ++ text.takeWhile fun c => !endsAuthority c).all Char.isDigit then
        finishPort host (buffer ++ text.takeWhile fun c => !endsAuthority c) else none := by
  induction text generalizing buffer with
  | nil => simp [portState, digits]
  | cons c rest ih =>
      by_cases digit : c.isDigit = true
      · have within : ¬ endsAuthority c = true := by
          intro ends
          rcases endsAuthority_cases ends with rfl | rfl | rfl | rfl <;> exact absurd digit (by decide)
        have more : (buffer ++ [c]).all Char.isDigit = true := by simp [digits, digit]
        rw [portState, if_pos digit, ih more, List.takeWhile_cons_of_pos (by simp [within])]
        simp
      · by_cases ends : endsAuthority c = true
        · simp [portState, digit, ends, digits]
        · simp [portState, digit, ends]

theorem ofParts_none (host : List Char) : ofParts parseHost host none = finishHost parseHost host := by
  rw [ofParts, finishHost, Option.map_eq_bind]
  rfl

theorem hostState_eq (inside : Bool) (buffer text : List Char) :
    hostState parseHost inside buffer text =
      ofParts parseHost (buffer ++ (cutHost inside (text.takeWhile fun c => !endsAuthority c)).1)
        (cutHost inside (text.takeWhile fun c => !endsAuthority c)).2 := by
  induction text generalizing inside buffer with
  | nil => rw [List.takeWhile_nil, cutHost, List.append_nil, hostState, ofParts_none]
  | cons c rest ih =>
      by_cases colon : (c == ':' && !inside) = true
      · obtain ⟨same, outside⟩ := Bool.and_eq_true_iff.mp colon
        have within : ¬ endsAuthority c = true := by rw [eq_of_beq same]; decide
        rw [List.takeWhile_cons_of_pos (by simp [within]), hostState, if_pos colon, cutHost,
          if_pos colon, List.append_nil, ofParts]
        simp only [portState_eq _ (show ([] : List Char).all Char.isDigit = true from rfl),
          List.nil_append]
      · by_cases ends : endsAuthority c = true
        · rw [List.takeWhile_cons_of_neg (by simp [ends]), hostState, if_neg colon, if_pos ends, cutHost,
            List.append_nil, ofParts_none]
        · rw [List.takeWhile_cons_of_pos (by simp [ends]), hostState, if_neg colon, if_neg ends, ih,
            cutHost, if_neg colon]
          simp

theorem rtakeWhile_append_stop {stop : Char} (front back : List Char) :
    (front ++ stop :: back).rtakeWhile (· != stop) = back.rtakeWhile (· != stop) := by
  induction back using List.reverseRecOn with
  | nil => simp
  | append_singleton back last ih =>
      have shape : front ++ stop :: (back ++ [last]) = (front ++ stop :: back) ++ [last] := by simp
      rw [shape, List.rtakeWhile_concat, List.rtakeWhile_concat, ih]

theorem rtakeWhile_clean {stop : Char} {text : List Char} (clean : ∀ c ∈ text, c ≠ stop) :
    text.rtakeWhile (· != stop) = text := by
  rw [List.rtakeWhile_eq_self_iff]
  intro c member
  simpa using clean c member

/-- The end of the authority state, which goes back to where the host starts. -/
theorem authority_end (atSign : Bool) {buffer tail : List Char}
    (plain : ∀ c ∈ buffer, c ≠ '@' ∧ endsAuthority c = false)
    (stops : (tail.takeWhile fun c => !endsAuthority c) = []) :
    (if atSign ∧ buffer = [] then none else hostState parseHost false [] (buffer ++ tail)) =
      parseAuthority parseHost buffer := by
  have within : ∀ c ∈ buffer, (!endsAuthority c) = true := by
    intro c member
    simp [(plain c member).2]
  rw [parseAuthority, rtakeWhile_clean fun c member => (plain c member).1]
  by_cases empty : atSign ∧ buffer = []
  · rw [if_pos empty, empty.2]
    rfl
  · rw [if_neg empty, hostState_eq, List.takeWhile_append_of_pos within, stops, List.append_nil,
      List.nil_append]

theorem authorityState_eq (atSign : Bool) {buffer : List Char} (text : List Char)
    (plain : ∀ c ∈ buffer, c ≠ '@' ∧ endsAuthority c = false) :
    authorityState parseHost atSign buffer text =
      parseAuthority parseHost (buffer ++ text.takeWhile fun c => !endsAuthority c) := by
  induction text generalizing buffer atSign with
  | nil =>
      rw [List.takeWhile_nil, List.append_nil, ← @authority_end _ atSign _ [] plain rfl,
        List.append_nil, authorityState]
  | cons c rest ih =>
      by_cases sign : (c == '@') = true
      · have within : ¬ endsAuthority c = true := by rw [eq_of_beq sign]; decide
        rw [authorityState, if_pos sign, ih true (by simp), List.takeWhile_cons_of_pos (by simp [within]),
          List.nil_append, parseAuthority, parseAuthority, eq_of_beq sign, rtakeWhile_append_stop]
      · by_cases ends : endsAuthority c = true
        · have stops : ((c :: rest).takeWhile fun c => !endsAuthority c) = [] :=
            List.takeWhile_cons_of_neg (by simp [ends])
          rw [authorityState, if_neg sign, if_pos ends, stops, List.append_nil]
          exact authority_end atSign plain stops
        · have longer : ∀ d ∈ buffer ++ [c], d ≠ '@' ∧ endsAuthority d = false := by
            intro d member
            rcases List.mem_append.mp member with before | last
            · exact plain d before
            · rw [List.mem_singleton.mp last]
              exact ⟨by simpa using sign, by simpa using ends⟩
          rw [authorityState, if_neg sign, if_neg ends, ih atSign longer,
            List.takeWhile_cons_of_pos (by simp [ends]), List.append_assoc]
          rfl

theorem ignoreSlashesState_eq (text : List Char) :
    ignoreSlashesState parseHost text = parseAuthority parseHost (authorityOf text) := by
  induction text with
  | nil => exact authorityState_eq false [] (by simp)
  | cons c rest ih =>
      by_cases slash : isSlash c = true
      · rw [ignoreSlashesState, if_pos slash, ih, authorityOf, authorityOf,
          List.dropWhile_cons_of_pos slash]
      · rw [ignoreSlashesState, if_neg slash, authorityState_eq false (c :: rest) (by simp),
          authorityOf, List.dropWhile_cons_of_neg slash, List.nil_append]

/-- Behind the first slash the parser reads another one. -/
def SecondIsSlash (text : List Char) : Prop := ∃ c ∈ (trimmed text)[1]?, isSlash c = true

instance (text : List Char) : Decidable (SecondIsSlash text) :=
  decidable_of_iff ((trimmed text)[1]?.any isSlash = true) (Option.any_eq_true ..)

theorem rdropWhile_cons {p : Char → Bool} {c : Char} (kept : ¬ p c = true) (rest : List Char) :
    (c :: rest).rdropWhile p = c :: rest.rdropWhile p := by
  induction rest using List.reverseRecOn with
  | nil => rw [List.rdropWhile_singleton, if_neg kept, List.rdropWhile_nil]
  | append_singleton front last ih =>
      rw [← List.cons_append, List.rdropWhile_concat, List.rdropWhile_concat, ih]
      split
      · rfl
      · rfl

/-- A reference that starts with a slash still does after the parser has dropped what it drops. -/
theorem trimmed_slash (rest : List Char) : ∃ behind, trimmed ('/' :: rest) = '/' :: behind := by
  refine ⟨(rest.rdropWhile isC0OrSpace).filter fun c => !isTabOrNewline c, ?_⟩
  rw [trimmed, List.dropWhile_cons_of_neg (by decide), cleaned, rdropWhile_cons (by decide),
    List.filter_cons_of_pos (by decide)]

/-- A rooted reference leaves the origin only behind a second slash, for what it names there. -/
theorem resolve_eq (rest : List Char) : resolve parseHost base ('/' :: rest) =
    if SecondIsSlash ('/' :: rest) then
      parseAuthority parseHost (authorityOf (trimmed ('/' :: rest)))
    else some base := by
  obtain ⟨behind, read⟩ := trimmed_slash rest
  have slash : isSlash '/' = true := by decide
  rw [resolve, read, relativeState, if_pos slash]
  cases behind with
  | nil => simp [SecondIsSlash, read, relativeSlashState]
  | cons c behind =>
      by_cases second : isSlash c = true
      · simp [SecondIsSlash, read, relativeSlashState, second, ignoreSlashesState_eq, authorityOf,
          slash]
      · simp [SecondIsSlash, read, relativeSlashState, second]

theorem resolve_eq_base_iff (rest : List Char) :
    resolve parseHost base ('/' :: rest) = some base ↔ ¬ SecondIsSlash ('/' :: rest) ∨
      parseAuthority parseHost (authorityOf (trimmed ('/' :: rest))) = some base := by
  rw [resolve_eq]
  by_cases second : SecondIsSlash ('/' :: rest)
  · simp [second]
  · simp [second]

end Library.UrlReference
