import SwiyuIssuer.Oidc.SdJwt

/-! The processing of an SD-JWT by a verifier, and the credentials that it gets the offered claims
back from. -/

namespace SwiyuIssuer.Oidc.SdJwt

open Library Library.Answers Library.Base64Url WalletProof

/-- What the disclosure under a digest is: a member of an object, an element of an array, or neither
of the two. -/
inductive Opened
  | absent
  | property (name : String) (value : Json)
  | element (value : Json)
  | malformed

/-- `["..."]` with a digest, in place of an array element. -/
def placeholder : Json → Option String
  | .object [(name, .string digest)] => if name = "..." then some digest else none
  | _ => none

/-- The digests of an object whose `_sd` is an array of strings. -/
def sdDigests (members : List (String × Json)) : List String :=
  match members.lookup "_sd" with
  | some (.array items) => (items.mapM Json.asStr).getD []
  | _ => []

section Resolve

-- What a digest opens to, its value resolved, with the digests that were met inside; `none` rejects
-- the credential.
variable (reveal : String → Option (Opened × List String))

/-- One member for each digest that is found, behind those that are there. -/
def insertDisclosed : List String → List (String × Json) →
    Option (List (String × Json) × List String)
  | [], members => some (members, [])
  | digest :: digests, members => do
      let (opened, inner) ← reveal digest
      match opened with
      | .absent =>
          let (members, met) ← insertDisclosed digests members
          return (members, digest :: inner ++ met)
      | .property name value =>
          if name = "_sd" ∨ name = "..." ∨ name ∈ members.map Prod.fst then none
          else
            let (members, met) ← insertDisclosed digests (members ++ [(name, value)])
            return (members, digest :: inner ++ met)
      | .element _ => none
      | .malformed => none

def revealElement (digest : String) : Option (List Json × List String) := do
  let (opened, inner) ← reveal digest
  match opened with
  | .absent => some ([], digest :: inner)
  | .element value => some ([value], digest :: inner)
  | .property _ _ => none
  | .malformed => none

mutual

/-- A value with its digests replaced, and the digests that were met. -/
def resolve : Json → Option (Json × List String)
  | .array items => do
      let (items, met) ← resolveItems items
      return (.array items, met)
  | .object members => do
      let (plain, met) ← resolveMembers members
      let (members, disclosed) ← insertDisclosed reveal (sdDigests members) plain
      return (.object members, met ++ disclosed)
  | value => some (value, [])

def resolveItems : List Json → Option (List Json × List String)
  | [] => some ([], [])
  | item :: items => do
      let (front, met) ←
        (match placeholder item with
        | some digest => revealElement reveal digest
        | none => (resolve item).map fun (item, met) => ([item], met))
      let (back, later) ← resolveItems items
      return (front ++ back, met ++ later)

def resolveMembers : List (String × Json) → Option (List (String × Json) × List String)
  | [] => some ([], [])
  | (name, value) :: members => do
      let (front, met) ←
        (if name = "_sd" then some ([], [])
        else (resolve value).map fun (value, met) => ([(name, value)], met))
      let (back, later) ← resolveMembers members
      return (front ++ back, met ++ later)

end

end Resolve

section Verifier

variable (sha256 : Bytes → Digest) (disclosures : List String)

def openDigest (digest : String) : Opened :=
  match disclosures.find? fun text => digestText sha256 text == digest with
  | none => .absent
  | some text =>
      match readSegment text with
      | some (.array [.string _, .string name, value]) => .property name value
      | some (.array [.string _, value]) => .element value
      | _ => .malformed

/-- A chain that is longer than the disclosures meets a digest twice. -/
def revealAt : Nat → String → Option (Opened × List String)
  | 0, _ => none
  | fuel + 1, digest =>
      match openDigest sha256 disclosures digest with
      | .property name value =>
          (resolve (revealAt fuel) value).map fun (value, met) => (.property name value, met)
      | .element value =>
          (resolve (revealAt fuel) value).map fun (value, met) => (.element value, met)
      | opened => some (opened, [])

/-- The processed payload: no digest is met twice, and each disclosure has its digest. -/
def processPayload (payload : Json) : Option Json := do
  let (value, met) ← resolve (revealAt sha256 disclosures (disclosures.length + 1)) payload
  if met.Nodup ∧ ∀ text ∈ disclosures, digestText sha256 text ∈ met then
    return without "_sd_alg" value
  else none

end Verifier

def verifyCredential (sha256 : Bytes → Digest) (credential : String) : Option Json := do
  let (jws, disclosures) ← readCompact credential
  processPayload sha256 disclosures jws.payload

mutual

/-- No object in the value has a member `_sd`, and no array in it a placeholder. -/
def isClean : Json → Bool
  | .array items => itemsClean items
  | .object members => membersClean members
  | _ => true

def itemsClean : List Json → Bool
  | [] => true
  | item :: items => (placeholder item).isNone && isClean item && itemsClean items

def membersClean : List (String × Json) → Bool
  | [] => true
  | (name, value) :: members => name != "_sd" && isClean value && membersClean members

end

def reservedNames : List String :=
  ["_sd", "...", "_sd_alg", "cnf", "exp", "iat", "iss", "status", "vct"]

section Fixed

variable {reveal : String → Option (Opened × List String)}

theorem sdDigests_absent {members : List (String × Json)}
    (absent : ∀ member ∈ members, member.1 ≠ "_sd") : sdDigests members = [] := by
  have missing : members.lookup "_sd" = none := by
    rw [List.lookup_eq_none_iff]
    intro member listed
    simpa using (absent member listed).symm
  rw [sdDigests, missing]

theorem membersClean_names {members : List (String × Json)} (clean : membersClean members = true) :
    ∀ member ∈ members, member.1 ≠ "_sd" := by
  induction members with
  | nil => simp
  | cons member members ih =>
      simp only [membersClean, Bool.and_eq_true, bne_iff_ne] at clean
      intro other listed
      rcases List.mem_cons.mp listed with rfl | later
      · exact clean.1.1
      · exact ih clean.2 other later

theorem resolveItems_clean {items : List Json}
    (each : ∀ item ∈ items, isClean item = true → resolve reveal item = some (item, []))
    (clean : itemsClean items = true) : resolveItems reveal items = some (items, []) := by
  induction items with
  | nil => rfl
  | cons item items ih =>
      simp only [itemsClean, Bool.and_eq_true, Option.isNone_iff_eq_none] at clean
      have back := ih (fun other later => each other (List.mem_cons_of_mem _ later)) clean.2
      simp [resolveItems, clean.1.1, each item List.mem_cons_self clean.1.2, back]

theorem resolveMembers_clean {members : List (String × Json)}
    (each : ∀ member ∈ members, isClean member.2 = true →
      resolve reveal member.2 = some (member.2, []))
    (clean : membersClean members = true) : resolveMembers reveal members = some (members, []) := by
  induction members with
  | nil => rfl
  | cons member members ih =>
      simp only [membersClean, Bool.and_eq_true, bne_iff_ne] at clean
      have back := ih (fun other later => each other (List.mem_cons_of_mem _ later)) clean.2
      simp [resolveMembers, clean.1.1, each member List.mem_cons_self clean.1.2, back]

/-- A clean value stays as it is. -/
theorem resolve_clean (value : Json) (clean : isClean value = true) :
    resolve reveal value = some (value, []) := by
  induction value using Json.induct with
  | null | bool | number | string => rfl
  | array items ih =>
      rw [isClean] at clean
      simp [resolve, resolveItems_clean ih clean]
  | object members ih =>
      rw [isClean] at clean
      simp [resolve, resolveMembers_clean ih clean, insertDisclosed,
        sdDigests_absent (membersClean_names clean)]

theorem insertDisclosed_ok {digests met : List String} {members all : List (String × Json)}
    (inserted : insertDisclosed reveal digests members = some (all, met)) :
    ∃ disclosed, all = members ++ disclosed ∧ ∀ member ∈ disclosed, member.1 ≠ "_sd" := by
  induction digests generalizing members all met with
  | nil =>
      cases inserted
      exact ⟨[], by simp, by simp⟩
  | cons digest digests ih =>
      simp only [insertDisclosed, Option.bind_eq_bind, Option.bind_eq_some_iff] at inserted
      rcases inserted with ⟨⟨opened, inner⟩, _, inserted⟩
      cases opened with
      | absent =>
          simp only [Option.bind_eq_some_iff] at inserted
          rcases inserted with ⟨⟨_, _⟩, inserted, same⟩
          cases same
          exact ih inserted
      | property name value =>
          dsimp only at inserted
          split at inserted
          · cases inserted
          · next free =>
              simp only [Option.bind_eq_some_iff] at inserted
              rcases inserted with ⟨⟨_, _⟩, inserted, same⟩
              cases same
              rcases ih inserted with ⟨disclosed, rfl, named⟩
              refine ⟨(name, value) :: disclosed, by simp, ?_⟩
              intro member listed
              rcases List.mem_cons.mp listed with rfl | later
              · exact fun reserved => free (.inl reserved)
              · exact named member later
      | element value => cases inserted
      | malformed => cases inserted

/-- No digest is one of an array element. -/
def NoElements (reveal : String → Option (Opened × List String)) : Prop :=
  ∀ digest value inner, reveal digest ≠ some (.element value, inner)

theorem revealElement_empty (noElements : NoElements reveal) {digest : String} {front : List Json}
    {met : List String} (revealed : revealElement reveal digest = some (front, met)) :
    front = [] := by
  simp only [revealElement, Option.bind_eq_bind, Option.bind_eq_some_iff] at revealed
  rcases revealed with ⟨⟨opened, inner⟩, found, revealed⟩
  cases opened with
  | absent =>
      cases revealed
      rfl
  | element value => exact absurd found (noElements digest value inner)
  | property => cases revealed
  | malformed => cases revealed

theorem resolveItems_cons {item : Json} {items all : List Json} {met : List String}
    (resolved : resolveItems reveal (item :: items) = some (all, met)) :
    ∃ front back later, all = front ++ back ∧ resolveItems reveal items = some (back, later) ∧
      ((∃ digest inner, placeholder item = some digest ∧
          revealElement reveal digest = some (front, inner)) ∨
        (∃ value inner, placeholder item = none ∧ resolve reveal item = some (value, inner) ∧
          front = [value])) := by
  simp only [resolveItems, Option.bind_eq_bind, Option.bind_eq_some_iff] at resolved
  rcases resolved with ⟨⟨front, inner⟩, first, ⟨back, later⟩, rest, same⟩
  cases same
  refine ⟨front, back, later, rfl, rest, ?_⟩
  cases held : placeholder item with
  | some digest =>
      rw [held] at first
      exact .inl ⟨digest, inner, rfl, first⟩
  | none =>
      simp only [held, Option.map_eq_some_iff] at first
      rcases first with ⟨⟨value, inside⟩, own, same⟩
      cases same
      exact .inr ⟨value, inside, rfl, own, rfl⟩

theorem resolveItems_length (noElements : NoElements reveal) {items all : List Json}
    {met : List String} (resolved : resolveItems reveal items = some (all, met)) :
    all.length ≤ items.length := by
  induction items generalizing all met with
  | nil =>
      cases resolved
      exact Nat.le_refl _
  | cons item items ih =>
      rcases resolveItems_cons resolved with ⟨front, back, later, rfl, rest, own⟩
      have shorter := ih rest
      rcases own with ⟨_, _, _, revealed⟩ | ⟨_, _, _, _, rfl⟩
      · rw [revealElement_empty noElements revealed]
        simp
        omega
      · simpa using shorter

theorem resolveItems_fixed (noElements : NoElements reveal) {items : List Json} {met : List String}
    (each : ∀ item ∈ items, ∀ inner, resolve reveal item = some (item, inner) →
      isClean item = true)
    (resolved : resolveItems reveal items = some (items, met)) : itemsClean items = true := by
  induction items generalizing met with
  | nil => rfl
  | cons item items ih =>
      rcases resolveItems_cons resolved with ⟨front, back, later, same, rest, own⟩
      have shorter := resolveItems_length noElements rest
      rcases own with ⟨_, _, _, revealed⟩ | ⟨value, inner, plain, own, rfl⟩
      · rw [revealElement_empty noElements revealed] at same
        have longer := congrArg List.length same
        simp at longer
        omega
      · rw [List.singleton_append, List.cons.injEq] at same
        rcases same with ⟨rfl, rfl⟩
        have back := ih (fun other later => each other (List.mem_cons_of_mem _ later)) rest
        simp [itemsClean, plain, each item List.mem_cons_self inner own, back]

theorem resolveMembers_cons {name : String} {value : Json} {members all : List (String × Json)}
    {met : List String} (different : name ≠ "_sd")
    (resolved : resolveMembers reveal ((name, value) :: members) = some (all, met)) :
    ∃ value' inner back later, all = (name, value') :: back ∧
      resolve reveal value = some (value', inner) ∧
      resolveMembers reveal members = some (back, later) := by
  simp only [resolveMembers, if_neg different, Option.bind_eq_bind, Option.bind_eq_some_iff,
    Option.map_eq_some_iff] at resolved
  rcases resolved with ⟨_, ⟨⟨value', inside⟩, own, made⟩, ⟨back, later⟩, rest, same⟩
  cases made
  cases same
  exact ⟨value', inside, back, later, rfl, own, rest⟩

theorem resolveMembers_names {members all : List (String × Json)} {met : List String}
    (resolved : resolveMembers reveal members = some (all, met)) :
    ∀ member ∈ all, member.1 ≠ "_sd" := by
  induction members generalizing all met with
  | nil =>
      cases resolved
      simp
  | cons member members ih =>
      rcases member with ⟨name, value⟩
      by_cases digests : name = "_sd"
      · simp only [resolveMembers, if_pos digests, Option.bind_eq_bind, Option.bind_eq_some_iff]
          at resolved
        rcases resolved with ⟨_, made, ⟨back, later⟩, rest, same⟩
        cases made
        cases same
        exact ih rest
      · rcases resolveMembers_cons digests resolved with ⟨_, _, _, _, rfl, _, rest⟩
        intro member listed
        rcases List.mem_cons.mp listed with rfl | later
        · exact digests
        · exact ih rest member later

theorem resolveMembers_fixed {members : List (String × Json)} {met : List String}
    (absent : ∀ member ∈ members, member.1 ≠ "_sd")
    (each : ∀ member ∈ members, ∀ inner, resolve reveal member.2 = some (member.2, inner) →
      isClean member.2 = true)
    (resolved : resolveMembers reveal members = some (members, met)) :
    membersClean members = true := by
  induction members generalizing met with
  | nil => rfl
  | cons member members ih =>
      rcases member with ⟨name, value⟩
      have different := absent _ List.mem_cons_self
      rcases resolveMembers_cons different resolved with ⟨_, inner, back, later, same, own, rest⟩
      cases same
      have back := ih (fun other later => absent other (List.mem_cons_of_mem _ later))
        (fun other later => each other (List.mem_cons_of_mem _ later)) rest
      simp [membersClean, different, each _ List.mem_cons_self inner own, back]

/-- A value that comes out as it went in is clean, when no digest stands for an array element. -/
theorem resolve_fixed (noElements : NoElements reveal) (value : Json) {met : List String}
    (resolved : resolve reveal value = some (value, met)) : isClean value = true := by
  induction value using Json.induct generalizing met with
  | null | bool | number | string => rfl
  | array items ih =>
      simp only [resolve, Option.bind_eq_bind, Option.bind_eq_some_iff] at resolved
      rcases resolved with ⟨⟨_, _⟩, resolved, same⟩
      cases same
      exact resolveItems_fixed noElements (fun item listed _ => ih item listed) resolved
  | object members ih =>
      simp only [resolve, Option.bind_eq_bind, Option.bind_eq_some_iff] at resolved
      rcases resolved with ⟨⟨plain, _⟩, resolved, ⟨all, _⟩, inserted, same⟩
      injection same with same
      injection same with same
      injection same with same
      dsimp only at same
      subst same
      rcases insertDisclosed_ok inserted with ⟨disclosed, whole, named⟩
      have absent : ∀ member ∈ all, member.1 ≠ "_sd" := by
        intro member listed
        rw [whole] at listed
        rcases List.mem_append.mp listed with there | added
        · exact resolveMembers_names resolved member there
        · exact named member added
      rw [sdDigests_absent absent] at inserted
      cases inserted
      exact resolveMembers_fixed absent (fun member listed _ => ih member listed) resolved

end Fixed

def Disclosure.claim (disclosure : Disclosure) : String × Json := (disclosure.name, disclosure.value)

theorem forall₂_mem_right {α β : Type} {related : α → β → Prop} {front : List α} {back : List β}
    (each : List.Forall₂ related front back) : ∀ two ∈ back, ∃ one ∈ front, related one two := by
  induction each with
  | nil => simp
  | cons here _ ih =>
      intro two listed
      rcases List.mem_cons.mp listed with rfl | later
      · exact ⟨_, List.mem_cons_self, here⟩
      · rcases ih two later with ⟨one, own, there⟩
        exact ⟨one, List.mem_cons_of_mem _ own, there⟩

section Own

variable {reveal deeper : String → Option (Opened × List String)} {digest : Disclosure → String}

/-- The digest of a disclosure opens to its claim, resolved one level deeper. -/
def RevealsOwn (reveal deeper : String → Option (Opened × List String))
    (digest : Disclosure → String) (disclosures : List Disclosure) : Prop :=
  ∀ disclosure ∈ disclosures, reveal (digest disclosure) =
    (resolve deeper disclosure.value).map fun (value, met) =>
      (.property disclosure.name value, met)

theorem insertDisclosed_clean {disclosures : List Disclosure} {members : List (String × Json)}
    (own : RevealsOwn reveal deeper digest disclosures)
    (clean : ∀ disclosure ∈ disclosures, isClean disclosure.value = true)
    (unreserved : ∀ disclosure ∈ disclosures, disclosure.name ≠ "_sd" ∧ disclosure.name ≠ "...")
    (distinct : (members ++ disclosures.map Disclosure.claim).map Prod.fst |>.Nodup) :
    insertDisclosed reveal (disclosures.map digest) members =
      some (members ++ disclosures.map Disclosure.claim, disclosures.map digest) := by
  induction disclosures generalizing members with
  | nil => simp [insertDisclosed]
  | cons disclosure disclosures ih =>
      have here := List.mem_cons_self (a := disclosure) (l := disclosures)
      have opened : reveal (digest disclosure) =
          some (.property disclosure.name disclosure.value, []) := by
        rw [own disclosure here, resolve_clean disclosure.value (clean disclosure here)]
        rfl
      have fresh : disclosure.name ∉ members.map Prod.fst := by
        rw [List.map_append, List.nodup_append] at distinct
        intro taken
        exact distinct.2.2 _ taken _ (by simp [Disclosure.claim]) rfl
      have rest := @ih (members ++ [disclosure.claim])
        (fun other later => own other (List.mem_cons_of_mem _ later))
        (fun other later => clean other (List.mem_cons_of_mem _ later))
        (fun other later => unreserved other (List.mem_cons_of_mem _ later))
        (by simpa using distinct)
      have free : ¬ (disclosure.name = "_sd" ∨ disclosure.name = "..." ∨
          disclosure.name ∈ members.map Prod.fst) := by
        rintro (digests | dots | taken)
        · exact (unreserved disclosure here).1 digests
        · exact (unreserved disclosure here).2 dots
        · exact fresh taken
      rw [Disclosure.claim] at rest
      rw [List.map_cons, insertDisclosed, opened]
      simp only [Option.bind_eq_bind, Option.bind_some, if_neg free, rest]
      simp [Disclosure.claim]

theorem insertDisclosed_own {disclosures : List Disclosure} {members all : List (String × Json)}
    {met : List String} (own : RevealsOwn reveal deeper digest disclosures)
    (inserted : insertDisclosed reveal (disclosures.map digest) members = some (all, met)) :
    ∃ disclosed, all = members ++ disclosed ∧
      (∀ disclosure ∈ disclosures, disclosure.name ≠ "_sd" ∧ disclosure.name ≠ "..." ∧
        disclosure.name ∉ members.map Prod.fst) ∧
      List.Forall₂ (fun disclosure member => member.1 = disclosure.name ∧
        ∃ inner, resolve deeper disclosure.value = some (member.2, inner)) disclosures disclosed := by
  induction disclosures generalizing members all met with
  | nil =>
      cases inserted
      exact ⟨[], by simp, by simp, .nil⟩
  | cons disclosure disclosures ih =>
      have here := own disclosure List.mem_cons_self
      simp only [List.map_cons, insertDisclosed, Option.bind_eq_bind, Option.bind_eq_some_iff]
        at inserted
      rcases inserted with ⟨⟨opened, inner⟩, found, inserted⟩
      rw [here, Option.map_eq_some_iff] at found
      rcases found with ⟨⟨value, _⟩, resolved, same⟩
      cases same
      dsimp only at inserted
      split at inserted
      · cases inserted
      · next free =>
          simp only [Option.bind_eq_some_iff] at inserted
          rcases inserted with ⟨⟨_, _⟩, inserted, same⟩
          cases same
          rcases ih (fun other later => own other (List.mem_cons_of_mem _ later)) inserted with
            ⟨disclosed, rfl, named, each⟩
          refine ⟨(disclosure.name, value) :: disclosed, by simp, ?_, .cons ⟨rfl, _, resolved⟩ each⟩
          intro other listed
          simp only [not_or] at free
          rcases List.mem_cons.mp listed with rfl | later
          · exact free
          · have apart := named other later
            refine ⟨apart.1, apart.2.1, fun taken => apart.2.2 ?_⟩
            simp only [List.map_append, List.mem_append]
            exact .inl taken

end Own

section Credential

variable {sha256 : Bytes → Digest} {sign : KeyPairId → Digest → Except SigningEngineError Bytes}
  {debug : String → String} {draws : Nat → Salt} {issuer : Issuer} {offer : CredentialOffer}
  {cnfJwk claims : Json} {status : StatusClaim} {now expiresAt : DateTime} {grant : Grant}
  {slot : Slot} {sealing : Sealing} {credential : String}

def CollisionFree (sha256 : Bytes → Digest) (texts : List String) : Prop :=
  ∀ one ∈ texts, ∀ two ∈ texts, sha256 (Text.asBytes one) = sha256 (Text.asBytes two) → one = two

theorem digestText_eq {texts : List String} (collisionFree : CollisionFree sha256 texts)
    {one two : String} (first : one ∈ texts) (second : two ∈ texts)
    (same : digestText sha256 one = digestText sha256 two) : one = two := by
  apply collisionFree one first two second
  exact Vector.toList_inj.mp (encode_injective same)

theorem openDigest_own {disclosures : List Disclosure}
    (collisionFree : CollisionFree sha256 (disclosures.map Disclosure.toText))
    {disclosure : Disclosure} (listed : disclosure ∈ disclosures)
    (spelled : disclosure.value.isSpelled = true) :
    openDigest sha256 (disclosures.map Disclosure.toText) (digestText sha256 disclosure.toText) =
      .property disclosure.name disclosure.value := by
  have member := List.mem_map_of_mem (f := Disclosure.toText) listed
  have found : (disclosures.map Disclosure.toText).find? (fun text =>
      digestText sha256 text == digestText sha256 disclosure.toText) = some disclosure.toText := by
    cases search : (disclosures.map Disclosure.toText).find? (fun text =>
        digestText sha256 text == digestText sha256 disclosure.toText) with
    | none =>
        have missing := List.find?_eq_none.mp search _ member
        simp at missing
    | some text =>
        have same := List.find?_some search
        rw [beq_iff_eq] at same
        rw [digestText_eq collisionFree (List.mem_of_find?_eq_some search) member same]
  simp only [openDigest, found, readSegment_toText spelled]

theorem openDigest_noElement {disclosures : List Disclosure}
    (spelled : ∀ disclosure ∈ disclosures, disclosure.value.isSpelled = true) (digest : String)
    (value : Json) :
    openDigest sha256 (disclosures.map Disclosure.toText) digest ≠ .element value := by
  unfold openDigest
  split
  · exact fun absurd_ => by cases absurd_
  · next text search =>
      rcases List.mem_map.mp (List.mem_of_find?_eq_some search) with ⟨disclosure, listed, rfl⟩
      rw [readSegment_toText (spelled disclosure listed)]
      exact fun absurd_ => by cases absurd_

theorem revealAt_noElements {disclosures : List Disclosure}
    (spelled : ∀ disclosure ∈ disclosures, disclosure.value.isSpelled = true) (fuel : Nat) :
    NoElements (revealAt sha256 (disclosures.map Disclosure.toText) fuel) := by
  intro digest value inner revealed
  cases fuel with
  | zero => cases revealed
  | succ fuel =>
      rw [revealAt] at revealed
      cases opened : openDigest sha256 (disclosures.map Disclosure.toText) digest with
      | absent | malformed =>
          rw [opened] at revealed
          cases revealed
      | property name value =>
          rw [opened] at revealed
          simp at revealed
      | element value => exact openDigest_noElement spelled digest value opened

theorem revealAt_own {disclosures : List Disclosure}
    (collisionFree : CollisionFree sha256 (disclosures.map Disclosure.toText))
    (spelled : ∀ disclosure ∈ disclosures, disclosure.value.isSpelled = true) (fuel : Nat) :
    RevealsOwn (revealAt sha256 (disclosures.map Disclosure.toText) (fuel + 1))
      (revealAt sha256 (disclosures.map Disclosure.toText) fuel)
      (fun disclosure => digestText sha256 disclosure.toText) disclosures := by
  intro disclosure listed
  rw [revealAt, openDigest_own collisionFree listed (spelled disclosure listed)]

/-- The claims beside the business claims. -/
def envelope (issuer : Issuer) (offer : CredentialOffer) (cnfJwk : Json) (status : StatusClaim)
    (now expiresAt : DateTime) : List (String × Json) :=
  [("cnf", .object [("jwk", cnfJwk)]), ("exp", number (timestamp expiresAt)),
    ("iat", number (timestamp now)), ("iss", .string issuer.did), ("status", statusValue status),
    ("vct", .string offer.vct)]

/-- No claim has a name of the envelope or of the format, and no structural member of the format is
inside a claim or the holder key. -/
def Undisturbed (claims cnfJwk : Json) : Prop :=
  (∀ claim ∈ topLevel claims, claim.1 ∉ reservedNames ∧ isClean claim.2 = true) ∧
    isClean cnfJwk = true

def algorithm : String × Json := ("_sd_alg", .string "sha-256")

theorem mapM_asStr (texts : List String) : (texts.map Json.string).mapM Json.asStr = some texts := by
  induction texts with
  | nil => rfl
  | cons text texts ih => simp [List.mapM_cons, ih, Json.asStr]

theorem resolve_holder {reveal : String → Option (Opened × List String)} (jwk : Json) :
    resolve reveal (.object [("jwk", jwk)]) =
      (resolve reveal jwk).map fun (jwk, met) => (.object [("jwk", jwk)], met) := by
  have absent : sdDigests [("jwk", jwk)] = [] := sdDigests_absent (by simp)
  cases inner : resolve reveal jwk <;> simp [resolve, resolveMembers, inner, absent, insertDisclosed]

theorem resolve_payload {reveal : String → Option (Opened × List String)} :
    resolve reveal (payloadValue sha256 draws issuer offer cnfJwk status now expiresAt) = do
      let (jwk, met) ← resolve reveal cnfJwk
      let (members, disclosed) ← insertDisclosed reveal
        ((disclose draws offer.claims).map fun disclosure => digestText sha256 disclosure.toText)
        (algorithm :: envelope issuer offer jwk status now expiresAt)
      return (.object members, met ++ disclosed) := by
  have digests := mapM_asStr ((disclose draws offer.claims).map fun disclosure =>
    digestText sha256 disclosure.toText)
  rw [List.map_map] at digests
  simp only [Function.comp_def] at digests
  have text : ∀ text, resolve reveal (.string text) = some (.string text, []) := fun _ => rfl
  have time : ∀ value, resolve reveal (number value) = some (number value, []) := fun _ => rfl
  have status_ : resolve reveal (statusValue status) = some (statusValue status, []) :=
    resolve_clean _ rfl
  rw [payloadValue, resolve]
  cases inner : resolve reveal cnfJwk with
  | none => simp [resolveMembers, resolve_holder, text, inner]
  | some resolved =>
      simp [resolveMembers, resolve_holder, text, time, status_, inner, sdDigests, envelope,
        algorithm, digests]

theorem claims_eq (draws : Nat → Salt) (claims : Json) :
    (disclose draws claims).map Disclosure.claim = topLevel claims := disclose_claims draws claims

theorem reservedNames_eq : reservedNames =
    "_sd" :: "..." :: (algorithm :: envelope issuer offer cnfJwk status now expiresAt).map Prod.fst :=
  rfl

theorem without_algorithm {members : List (String × Json)}
    (other : ∀ member ∈ members, member.1 ≠ "_sd_alg") :
    without "_sd_alg"
        (.object (algorithm :: envelope issuer offer cnfJwk status now expiresAt ++ members)) =
      .object (envelope issuer offer cnfJwk status now expiresAt ++ members) := by
  have kept : members.filter (fun member => member.1 != "_sd_alg") = members := by
    rw [List.filter_eq_self]
    intro member listed
    simpa using other member listed
  simp [without, algorithm, envelope, kept]

theorem digests_nodup (spelled : claims.isSpelled = true)
    (distinct : ((topLevel claims).map Prod.fst).Nodup)
    (collisionFree : CollisionFree sha256 ((disclose draws claims).map Disclosure.toText)) :
    ((disclose draws claims).map fun disclosure =>
      digestText sha256 disclosure.toText).Nodup := by
  have apart : (disclose draws claims).Nodup := by
    apply List.Nodup.of_map (fun disclosure => disclosure.claim.1)
    rw [← claims_eq draws, List.map_map] at distinct
    exact distinct
  apply List.Nodup.map_on _ apart
  intro one first two second same
  have texts := digestText_eq collisionFree (List.mem_map_of_mem first) (List.mem_map_of_mem second)
    same
  have read := congrArg readDisclosure texts
  rw [readDisclosure_toText (disclose_spelled spelled one first),
    readDisclosure_toText (disclose_spelled spelled two second)] at read
  exact Option.some.inj read

theorem digests_listed : ∀ text ∈ (disclose draws claims).map Disclosure.toText,
    digestText sha256 text ∈ (disclose draws claims).map fun disclosure =>
      digestText sha256 disclosure.toText := by
  intro text listed
  rcases List.mem_map.mp listed with ⟨disclosure, member, rfl⟩
  exact List.mem_map.mpr ⟨disclosure, member, rfl⟩

/-- Processing gives the claims back when nothing disturbs it. -/
theorem processPayload_undisturbed (spelled : offer.claims.isSpelled = true)
    (distinct : ((topLevel offer.claims).map Prod.fst).Nodup)
    (collisionFree : CollisionFree sha256 ((disclose draws offer.claims).map Disclosure.toText))
    (undisturbed : Undisturbed offer.claims cnfJwk) :
    processPayload sha256 ((disclose draws offer.claims).map Disclosure.toText)
        (payloadValue sha256 draws issuer offer cnfJwk status now expiresAt) =
      some (.object (envelope issuer offer cnfJwk status now expiresAt ++ topLevel offer.claims)) := by
  have claimed : ∀ disclosure ∈ disclose draws offer.claims,
      disclosure.name ∉ reservedNames ∧ isClean disclosure.value = true := by
    intro disclosure listed
    apply undisturbed.1 disclosure.claim
    rw [← claims_eq draws]
    exact List.mem_map_of_mem listed
  have names : ((algorithm :: envelope issuer offer cnfJwk status now expiresAt ++
      (disclose draws offer.claims).map Disclosure.claim).map Prod.fst).Nodup := by
    rw [claims_eq, List.map_append, List.nodup_append]
    refine ⟨by simp only [envelope, algorithm, List.map_cons, List.map_nil]; decide, distinct, ?_⟩
    rintro name reserved _ listed rfl
    rcases List.mem_map.mp listed with ⟨claim, member, rfl⟩
    apply (undisturbed.1 claim member).1
    rw [reservedNames_eq]
    exact List.mem_cons_of_mem _ (List.mem_cons_of_mem _ reserved)
  have inserted := insertDisclosed_clean
    (revealAt_own collisionFree (disclose_spelled spelled)
      ((disclose draws offer.claims).map Disclosure.toText).length)
    (fun disclosure listed => (claimed disclosure listed).2)
    (fun disclosure listed => by
      have free := (claimed disclosure listed).1
      simp only [reservedNames, List.mem_cons, not_or] at free
      exact ⟨free.1, free.2.1⟩)
    names
  have unnamed : ∀ claim ∈ topLevel offer.claims, claim.1 ≠ "_sd_alg" := by
    intro claim listed
    have free := (undisturbed.1 claim listed).1
    simp only [reservedNames, List.mem_cons, not_or] at free
    exact free.2.2.1
  rw [processPayload, resolve_payload, resolve_clean cnfJwk undisturbed.2]
  simp only [Option.bind_eq_bind, Option.bind_some, Option.pure_def, inserted, List.nil_append]
  rw [if_pos ⟨digests_nodup spelled distinct collisionFree, digests_listed⟩, claims_eq, without_algorithm unnamed]

/-- Nothing disturbs a processing that gives the claims back. -/
theorem processPayload_undisturbs (spelled : offer.claims.isSpelled = true)
    (collisionFree : CollisionFree sha256 ((disclose draws offer.claims).map Disclosure.toText))
    (processed : processPayload sha256 ((disclose draws offer.claims).map Disclosure.toText)
        (payloadValue sha256 draws issuer offer cnfJwk status now expiresAt) =
      some (.object (envelope issuer offer cnfJwk status now expiresAt ++ topLevel offer.claims))) :
    Undisturbed offer.claims cnfJwk := by
  simp only [processPayload, resolve_payload, Option.bind_eq_bind, Option.bind_eq_some_iff]
    at processed
  rcases processed with ⟨_, ⟨⟨jwk, met⟩, holder, ⟨all, disclosed_⟩, inserted, same⟩, processed⟩
  cases same
  split at processed
  · rcases insertDisclosed_own (revealAt_own collisionFree (disclose_spelled spelled) _) inserted
      with ⟨disclosed, rfl, named, each⟩
    have free : ∀ disclosure ∈ disclose draws offer.claims, disclosure.name ∉ reservedNames := by
      intro disclosure listed reserved
      have names : reservedNames = "_sd" :: "..." ::
          (algorithm :: envelope issuer offer jwk status now expiresAt).map Prod.fst :=
        reservedNames_eq
      rw [names, List.mem_cons, List.mem_cons] at reserved
      have unlike := named disclosure listed
      rcases reserved with digests | dots | taken
      · exact unlike.1 digests
      · exact unlike.2.1 dots
      · exact unlike.2.2 taken
    have other : ∀ member ∈ disclosed, member.1 ≠ "_sd_alg" := by
      intro member listed same
      rcases forall₂_mem_right each member listed with ⟨disclosure, own, named_, _⟩
      apply free disclosure own
      rw [← named_, same]
      decide
    dsimp only at processed
    rw [without_algorithm other] at processed
    simp only [Option.pure_def, Option.some.injEq, Json.object.injEq] at processed
    rcases List.append_inj processed rfl with ⟨envelopes, claims⟩
    have holder_ : jwk = cnfJwk := by
      simp only [envelope, List.cons.injEq, Prod.mk.injEq, Json.object.injEq] at envelopes
      exact envelopes.1.2.1.2
    rw [claims, ← claims_eq draws, List.forall₂_map_right_iff, List.forall₂_same] at each
    have values : ∀ disclosure ∈ disclose draws offer.claims, disclosure.value.isSpelled = true :=
      disclose_spelled spelled
    have noElements : ∀ fuel, NoElements (revealAt sha256
        ((disclose draws offer.claims).map Disclosure.toText) fuel) :=
      revealAt_noElements values
    constructor
    · intro claim listed
      rw [← claims_eq draws] at listed
      rcases List.mem_map.mp listed with ⟨disclosure, own, rfl⟩
      rcases each disclosure own with ⟨_, inner, resolved⟩
      exact ⟨free disclosure own, resolve_fixed (noElements _) _ resolved⟩
    · rw [holder_] at holder
      exact resolve_fixed (noElements _) _ holder
  · cases processed

theorem processPayload_iff (spelled : offer.claims.isSpelled = true)
    (distinct : ((topLevel offer.claims).map Prod.fst).Nodup)
    (collisionFree : CollisionFree sha256 ((disclose draws offer.claims).map Disclosure.toText)) :
    processPayload sha256 ((disclose draws offer.claims).map Disclosure.toText)
        (payloadValue sha256 draws issuer offer cnfJwk status now expiresAt) =
      some (.object (envelope issuer offer cnfJwk status now expiresAt ++ topLevel offer.claims)) ↔
    Undisturbed offer.claims cnfJwk :=
  ⟨processPayload_undisturbs spelled collisionFree,
    processPayload_undisturbed spelled distinct collisionFree⟩

theorem readCompact_assembled {jws : Jws} {disclosures : List String}
    (assembled : Assembled sha256 claims credential jws disclosures) :
    readCompact credential = some (jws, disclosures) := by
  rcases assembled.segments with ⟨token, pieces, read⟩
  simp [readCompact, pieces, read]

theorem verifyCredential_eq (spelled : grant.issued.claims.isSpelled = true)
    (jwk : cnfJwk.isSpelled = true)
    (sealed : sealCredential sha256 sign debug draws grant cnfJwk slot = .ok (credential, sealing)) :
    verifyCredential sha256 credential = processPayload sha256
      ((disclose draws grant.issued.claims).map Disclosure.toText)
      (payloadValue sha256 draws grant.issuer grant.issued cnfJwk
        (buildStatusClaim slot.registryUrl slot.statusListIndex) grant.now grant.expiresAt) := by
  rcases sealCredential_ok sealed with ⟨built, _⟩
  rcases buildSdJwtVc_assembled spelled jwk built with ⟨jws, assembled, _, payload, _⟩
  simp [verifyCredential, readCompact_assembled assembled, payload]

/-- A verifier gets the envelope and the claims of the offer back exactly from the credentials whose
claims keep clear of the envelope and of the format's own members. -/
theorem verifiers_reconstruct_exactly (spelled : grant.issued.claims.isSpelled = true)
    (jwk : cnfJwk.isSpelled = true) (distinct : ((topLevel grant.issued.claims).map Prod.fst).Nodup)
    (collisionFree :
      CollisionFree sha256 ((disclose draws grant.issued.claims).map Disclosure.toText))
    (sealed : sealCredential sha256 sign debug draws grant cnfJwk slot = .ok (credential, sealing)) :
    verifyCredential sha256 credential = some (.object (envelope grant.issuer grant.issued cnfJwk
        (buildStatusClaim slot.registryUrl slot.statusListIndex) grant.now grant.expiresAt ++
          topLevel grant.issued.claims)) ↔
      Undisturbed grant.issued.claims cnfJwk := by
  rw [verifyCredential_eq spelled jwk sealed]
  exact processPayload_iff spelled distinct collisionFree

end Credential

section Sample

def sampleHash (_ : Bytes) : Digest := .replicate integrityHashLen 0

def sampleDraws (_ : Nat) : Salt := .replicate 16 0

/-- The claims of an offer with one member. -/
def oneClaim (name : String) (value : Json) : Json := .object [(name, value)]

theorem oneClaim_collisionFree (name : String) (value : Json) : CollisionFree sampleHash
    ((disclose sampleDraws (oneClaim name value)).map Disclosure.toText) := by
  intro one first two second _
  simp only [oneClaim, disclose, List.mapIdx_cons, List.mapIdx_nil, List.map_cons, List.map_nil,
    List.mem_singleton] at first second
  rw [first, second]

theorem oneClaim_sealed (name : String) (value : Json) : ∃ credential sealing,
    sealCredential sampleHash (fun _ _ => .ok []) String.quote sampleDraws
      (grantOf (oneClaim name value)) sampleJwk sampleSlot = .ok (credential, sealing) :=
  ⟨_, _, rfl⟩

def sampleEnvelope (claims : Json) : List (String × Json) :=
  envelope sampleIssuer (offerOf claims) sampleJwk
    (buildStatusClaim sampleSlot.registryUrl sampleSlot.statusListIndex) 2 (grantOf claims).expiresAt

theorem verifiers_reconstruct_exactly_sample :
    let claims := oneClaim "name" (.string "Alice")
    ∃ credential sealing, sealCredential sampleHash (fun _ _ => .ok []) String.quote sampleDraws
        (grantOf claims) sampleJwk sampleSlot = .ok (credential, sealing) ∧
      verifyCredential sampleHash credential =
        some (.object (sampleEnvelope claims ++ topLevel claims)) := by
  rcases oneClaim_sealed "name" (.string "Alice") with ⟨credential, sealing, sealed⟩
  refine ⟨credential, sealing, sealed, ?_⟩
  apply (verifiers_reconstruct_exactly (by decide) (by decide) (by decide)
    (oneClaim_collisionFree "name" (.string "Alice")) sealed).mpr
  exact ⟨by simp [grantOf, offerOf, CredentialOffer.new, topLevel, oneClaim, reservedNames, isClean],
    rfl⟩

/-- A credential with the claims is issued, and a verifier makes something else of it. -/
def Lost (claims : Json) : Prop :=
  ∃ credential sealing, sealCredential sampleHash (fun _ _ => .ok []) String.quote sampleDraws
      (grantOf claims) sampleJwk sampleSlot = .ok (credential, sealing) ∧
    verifyCredential sampleHash credential ≠
      some (.object (sampleEnvelope claims ++ topLevel claims))

theorem oneClaim_lost {name : String} {value : Json} (spelled : value.isSpelled = true)
    (disturbed : name ∈ reservedNames ∨ isClean value = false) : Lost (oneClaim name value) := by
  have written : (oneClaim name value).isSpelled = true := by
    simp [oneClaim, Json.isSpelled, Json.membersSpelled, spelled]
  rcases oneClaim_sealed name value with ⟨credential, sealing, sealed⟩
  refine ⟨credential, sealing, sealed, ?_⟩
  rw [verifyCredential_eq written (by decide) sealed]
  intro processed
  have claimed := (processPayload_undisturbs written (oneClaim_collisionFree name value)
    processed).1 (name, value) List.mem_cons_self
  rcases disturbed with reserved | unclean
  · exact claimed.1 reserved
  · rw [claimed.2] at unclean
    cases unclean

/-- Claims with a member `iss`, and claims with a member `_sd` deeper down, do not come back. -/
theorem disturbed_claims_are_lost :
    Lost (oneClaim "iss" (.string "did:example:other")) ∧
      Lost (oneClaim "address" (.object [("_sd", .array []), ("city", .string "Bern")])) :=
  ⟨oneClaim_lost rfl (.inl (by decide)), oneClaim_lost (by decide) (.inr (by decide))⟩

end Sample

end SwiyuIssuer.Oidc.SdJwt
