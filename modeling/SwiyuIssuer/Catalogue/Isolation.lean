import SwiyuIssuer.Catalogue.Tenancy

/-! The requests of one tenant run, answer and write as if no other tenant were there. -/

namespace SwiyuIssuer.Catalogue

open Library Persistence StatusStore

section Parts

variable {owner : TxId → TenantId} {mine : TenantId} {state after : State} {t : TxId}

theorem State.eq_of_fields {left right : State} (types : left.types = right.types)
    (assignments : left.assignments = right.assignments) (typeIds : left.typeIds = right.typeIds)
    (keys : left.assignmentKeys = right.assignmentKeys) (issuers : left.issuers = right.issuers)
    (offers : left.offers = right.offers) (sessions : left.sessions = right.sessions) :
    left = right := by
  cases left
  cases right
  simp_all

theorem filter_foreign {α : Type} (tenant : α → TenantId) {row : α} (foreign : tenant row ≠ mine) :
    (some row).filter (fun row => tenant row == mine) = none := by
  simp [Option.filter, foreign]

theorem filter_update {α κ : Type} [DecidableEq κ] (tenant : α → TenantId) {rows : κ → Option α}
    {key : κ} {row : α} (own : tenant row = mine) :
    (fun id => (Function.update rows key (some row) id).filter fun row => tenant row == mine) =
      Function.update (fun id => (rows id).filter fun row => tenant row == mine) key (some row) := by
  funext id
  by_cases here : id = key
  · subst here
    rw [Function.update_self, Function.update_self]
    exact Option.filter_eq_some_iff.mpr ⟨rfl, beq_iff_eq.mpr own⟩
  · rw [Function.update_of_ne here, Function.update_of_ne here]

theorem any_filter {α : Type} {rows : Option α} (p : α → Bool) :
    (rows.filter p).any p = rows.any p := by
  cases rows with
  | none => rfl
  | some row => cases holds : p row <;> simp [Option.filter, holds]

theorem State.owns_iff {id : CredentialTypeId} :
    state.owns mine id = true ↔ state.typeTenant id = some mine := beq_iff_eq

theorem State.owns_of_ne {id : CredentialTypeId} {tenantId : TenantId} (different : tenantId ≠ mine)
    (known : state.typeTenant id = some tenantId) : state.owns mine id = false := by
  rw [Bool.eq_false_iff, ne_eq, State.owns_iff, known]
  rintro ⟨⟩
  exact different rfl

theorem State.part_same (owns : ∀ id, after.owns mine id = state.owns mine id)
    (types : ∀ id, state.owns mine id = true → after.types id = state.types id)
    (assignments : ∀ key : AssignmentKey, state.owns mine key.2 = true →
      after.assignments key = state.assignments key)
    (typeIds : after.typeIds.filter (state.owns mine) = state.typeIds.filter (state.owns mine))
    (keys : (after.assignmentKeys.filter fun key => state.owns mine key.2) =
      state.assignmentKeys.filter fun key => state.owns mine key.2)
    (issuers : ∀ id, ((after.issuers id).filter fun issuer => issuer.tenantId == mine) =
      (state.issuers id).filter fun issuer => issuer.tenantId == mine)
    (offers : ∀ id, ((after.offers id).filter fun offer => offer.tenantId == mine) =
      (state.offers id).filter fun offer => offer.tenantId == mine)
    (sessions : ∀ u, owner u = mine → after.sessions u = state.sessions u) :
    after.part owner mine = state.part owner mine := by
  have keep : after.owns mine = state.owns mine := funext owns
  apply State.eq_of_fields
  · exact Table.restrict_congr owns types
  · exact Table.restrict_congr (fun key => owns key.2) assignments
  · exact (congrArg (after.typeIds.filter ·) keep).trans typeIds
  · rw [State.part, State.part, keep]
    exact keys
  · exact funext issuers
  · exact funext offers
  · funext u
    simp only [State.part]
    split
    · next own => exact sessions u own
    · rfl

theorem unseen_owns (tenancy : Tenancy owner state) (turn : Turn owner state t after)
    (other : owner t ≠ mine) (id : CredentialTypeId) : after.owns mine id = state.owns mine id := by
  rcases turn_typeTenant tenancy turn id with same | ⟨absent, inserted⟩
  · rw [State.owns, State.owns, same]
  · rw [State.owns_of_ne other inserted, State.owns, absent]
    rfl

theorem unseen_sessions (turn : Turn owner state t after) (other : owner t ≠ mine) (u : TxId)
    (own : owner u = mine) : after.sessions u = state.sessions u := by
  rcases turn_sessions turn with same | ⟨next, _, moved⟩
  · rw [same]
  · rw [moved]
    apply Function.update_of_ne
    intro here
    exact other (here ▸ own)

theorem unseen_apart (other : owner t ≠ mine) {id key : CredentialTypeId}
    (known : state.typeTenant key = some (owner t)) (own : state.owns mine id = true) :
    id ≠ key := by
  intro same
  rw [same, State.owns_of_ne other known] at own
  cases own

/-- Nothing that a request of another tenant has pending is in a row of the tenant. -/
theorem type_unheld (tenancy : Tenancy owner state) (other : owner t ≠ mine) {id : CredentialTypeId}
    (own : state.owns mine id = true) (version : Option CredentialType) :
    (state.types id).writer ≠ some (t, version) :=
  fun held => unseen_apart other (tenancy.type_holder held) own rfl

theorem assignment_unheld (tenancy : Tenancy owner state) (other : owner t ≠ mine)
    {key : AssignmentKey} (own : state.owns mine key.2 = true)
    (version : Option IssuerCredentialTypeAssignment) :
    (state.assignments key).writer ≠ some (t, version) :=
  fun held => unseen_apart other (tenancy.assignment_holder held) own rfl

/-- A row of another tenant is written in the place of none of the tenant's. -/
theorem filter_update_foreign {α κ : Type} [DecidableEq κ] (tenant : α → TenantId)
    {rows : κ → Option α} {key : κ} {row : α} (foreign : tenant row ≠ mine)
    (stays : ∀ before, rows key = some before → tenant before = tenant row) (id : κ) :
    ((Function.update rows key (some row) id).filter fun row => tenant row == mine) =
      (rows id).filter fun row => tenant row == mine := by
  by_cases here : id = key
  · subst here
    rw [Function.update_self, filter_foreign tenant foreign]
    cases stored : rows id with
    | none => rfl
    | some before => rw [filter_foreign tenant (stays before stored ▸ foreign)]
  · rw [Function.update_of_ne here]

/-- A request of another tenant changes nothing of the tenant's. -/
theorem turn_part_unseen (tenancy : Tenancy owner state) (turn : Turn owner state t after)
    (other : owner t ≠ mine) : after.part owner mine = state.part owner mine := by
  have owns := unseen_owns tenancy turn other
  have sessions := unseen_sessions turn other
  cases turn with
  | goto next owned =>
      exact State.part_same owns (fun _ _ => rfl) (fun _ _ => rfl) rfl rfl (fun _ => rfl)
        (fun _ => rfl) sessions
  | rollback next owned =>
      exact State.part_same owns (fun _ mine_ => Cell.rollback_unheld (type_unheld tenancy other mine_))
        (fun _ mine_ => Cell.rollback_unheld (assignment_unheld tenancy other mine_)) rfl rfl
        (fun _ => rfl) (fun _ => rfl) sessions
  | insertType row next owned absent own =>
      have outside : state.owns mine row.id = false := by
        simp [State.owns, State.typeTenant, absent]
      refine State.part_same owns ?_ (fun _ _ => rfl) ?_ rfl (fun _ => rfl) (fun _ => rfl) sessions
      · intro id mine_
        apply Function.update_of_ne
        intro here
        rw [here, outside] at mine_
        cases mine_
      · exact List.filter_cons_of_neg (by simp [outside])
  | changeType id write next owned own keeps =>
      exact State.part_same owns
        (fun key mine_ => Function.update_of_ne (unseen_apart other own mine_) ..)
        (fun _ _ => rfl) rfl rfl (fun _ => rfl) (fun _ => rfl) sessions
  | stamp id write next owned own =>
      exact State.part_same owns
        (fun key mine_ => Function.update_of_ne (unseen_apart other own mine_) ..)
        (fun _ _ => rfl) rfl rfl (fun _ => rfl) (fun _ => rfl) sessions
  | delete id deleted next owned own each =>
      refine State.part_same owns (fun _ _ => rfl) ?_ rfl rfl (fun _ => rfl) (fun _ => rfl) sessions
      intro key mine_
      apply if_neg
      intro member
      exact unseen_apart other own mine_ (each key member)
  | commit request deleted next owned at_ =>
      exact State.part_same owns (fun _ mine_ => Cell.commit_unheld (type_unheld tenancy other mine_))
        (fun _ mine_ => Cell.commit_unheld (assignment_unheld tenancy other mine_)) rfl rfl
        (fun _ => rfl) (fun _ => rfl) sessions
  | assign pair row next owned own typed issued =>
      refine State.part_same owns (fun _ _ => rfl) ?_ rfl ?_ (fun _ => rfl) (fun _ => rfl) sessions
      · intro key mine_
        apply Function.update_of_ne
        intro here
        exact unseen_apart other typed mine_ (congrArg Prod.snd here)
      · exact List.filter_cons_of_neg (by simp [State.owns_of_ne other typed])
  | relist pair next owned typed =>
      exact State.part_same owns (fun _ _ => rfl) (fun _ _ => rfl) rfl
        (List.filter_cons_of_neg (by simp [State.owns_of_ne other typed])) (fun _ => rfl)
        (fun _ => rfl) sessions
  | unassign pair next owned typed =>
      refine State.part_same owns (fun _ _ => rfl) ?_ rfl rfl (fun _ => rfl) (fun _ => rfl) sessions
      intro key mine_
      apply Function.update_of_ne
      intro here
      exact unseen_apart other typed mine_ (congrArg Prod.snd here)
  | insertOffer offer next owned absent own =>
      refine State.part_same owns (fun _ _ => rfl) (fun _ _ => rfl) rfl rfl (fun _ => rfl) ?_ sessions
      apply filter_update_foreign CredentialOffer.tenantId (own ▸ other)
      intro before stored
      rw [absent] at stored
      cases stored
  | putIssuer issuer own stays =>
      refine State.part_same owns (fun _ _ => rfl) (fun _ _ => rfl) rfl rfl ?_ (fun _ => rfl) sessions
      exact filter_update_foreign (fun row : Worker.IssuerRecord => row.tenantId) (own ▸ other) stays
  | endOffer id offer ended stored own stays =>
      refine State.part_same owns (fun _ _ => rfl) (fun _ _ => rfl) rfl rfl (fun _ => rfl) ?_ sessions
      apply filter_update_foreign CredentialOffer.tenantId (stays ▸ own ▸ other)
      intro before found
      rw [stored] at found
      cases found
      exact stays.symm

end Parts

/-! The statements of the tenant, in its part and in the whole. -/

section Seen

variable {owner : TxId → TenantId} {mine : TenantId} {state after : State} {t : TxId}

theorem State.part_session (own : owner t = mine) :
    (state.part owner mine).sessions t = state.sessions t := if_pos own

theorem State.part_goto (own : owner t = mine) (next : Session) :
    (state.goto t next).part owner mine = (state.part owner mine).goto t next := by
  exact State.eq_of_fields rfl rfl rfl rfl rfl rfl (update_masked own next)

theorem State.part_rollback (own : owner t = mine) (next : Session) :
    (state.rollback t next).part owner mine = (state.part owner mine).rollback t next := by
  have keep : (state.rollback t next).owns mine = state.owns mine := by
    funext id
    exact congrArg (fun row => Option.map CredentialType.tenantId row == some mine)
      (congrFun (Table.snapshot_rollback state.types t) id)
  rw [State.part, keep]
  exact State.eq_of_fields (Table.restrict_rollback t).symm (Table.restrict_rollback t).symm rfl rfl
    rfl rfl (update_masked own next)

theorem State.part_commitTo (tenancy : Tenancy owner state) (own : owner t = mine)
    {request : RetireRequest} {deleted : List AssignmentKey}
    (at_ : state.sessions t = .assignmentsDeleted request deleted) {next : Session}
    (owned : next.Owned state (owner t)) :
    (state.commitTo t next).part owner mine = (state.part owner mine).commitTo t next := by
  have keep : (state.commitTo t next).owns mine = state.owns mine := by
    funext id
    rcases turn_typeTenant tenancy (.commit request deleted next owned at_) id with same | ⟨absent, _⟩
    · exact congrArg (· == some mine) same
    · have held : (state.types id).committed = none := Option.map_eq_none_iff.mp absent
      have kept : ((state.types.commit t) id).committed = none := by
        rw [tenancy.sound.types.committed_commit id, held]
        cases claims : (state.sessions t).typeClaim id none with
        | none => rfl
        | some version =>
            rcases Session.typeClaim_some claims with ⟨_, now, rfl⟩
            rfl
      simp only [State.owns, State.typeTenant, State.commitTo, kept, held]
  rw [State.part, keep]
  exact State.eq_of_fields (Table.restrict_commit t).symm (Table.restrict_commit t).symm rfl rfl
    rfl rfl (update_masked own next)

theorem State.part_withAssignments (own : owner t = mine)
    (table : Table TxId AssignmentKey (Option IssuerCredentialTypeAssignment))
    (keys : List AssignmentKey) (next : Session) :
    (state.withAssignments table keys t next).part owner mine =
      (state.part owner mine).withAssignments
        (table.restrict (fun key => state.owns mine key.2) none)
        (keys.filter fun key => state.owns mine key.2) t next := by
  exact State.eq_of_fields rfl rfl rfl rfl rfl rfl (update_masked own next)

/-- A type of the tenant is rewritten. -/
theorem State.part_withTypes (own : owner t = mine) {id : CredentialTypeId}
    {cell : Cell TxId (Option CredentialType)} {next : Session} (typed : state.owns mine id = true)
    (keeps : cell.committed.map CredentialType.tenantId = state.typeTenant id) :
    (state.withTypes (Function.update state.types id cell) state.typeIds t next).part owner mine =
      (state.part owner mine).withTypes (Function.update (state.part owner mine).types id cell)
        (state.part owner mine).typeIds t next := by
  have keep : (state.withTypes (Function.update state.types id cell) state.typeIds t next).owns mine =
      state.owns mine := by
    funext other
    by_cases here : other = id
    · subst here
      simp only [State.owns, State.typeTenant, State.withTypes, Function.update_self]
      exact congrArg (· == some mine) keeps
    · simp only [State.owns, State.typeTenant, State.withTypes, Function.update_of_ne here]
  rw [State.part, keep]
  exact State.eq_of_fields (Table.restrict_set cell typed fun _ _ => rfl) rfl rfl rfl rfl rfl
    (update_masked own next)

/-- Nothing is assigned that is not there. -/
theorem Tenancy.unassigned (tenancy : Tenancy owner state) {key : AssignmentKey}
    (absent : state.typeTenant key.2 = none) : state.assignments key = Cell.clean none := by
  rcases cell : state.assignments key with ⟨committed, writer⟩
  have unheld : writer = none := by
    cases held : writer with
    | none => rfl
    | some pending =>
        have pends : (state.assignments key).writer = some (pending.1, pending.2) := by
          rw [cell]
          exact held
        have holder := tenancy.assignment_holder pends
        rw [absent] at holder
        cases holder
  have unstored : committed = none := by
    cases stored : committed with
    | none => rfl
    | some row =>
        have typed := (tenancy.agree key row (by rw [cell]; exact stored)).1
        rw [absent] at typed
        cases typed
  rw [unheld, unstored]
  rfl

/-- A type of the tenant is inserted. -/
theorem State.part_insertType (tenancy : Tenancy owner state) (own : owner t = mine)
    {row : CredentialType} {next : Session} (absent : state.types row.id = Cell.clean none)
    (tenant : row.tenantId = mine) :
    (state.withTypes (Function.update state.types row.id (Cell.clean (some row)))
        (row.id :: state.typeIds) t next).part owner mine =
      (state.part owner mine).withTypes
        (Function.update (state.part owner mine).types row.id (Cell.clean (some row)))
        (row.id :: (state.part owner mine).typeIds) t next := by
  have before : state.typeTenant row.id = none := by simp [State.typeTenant, absent]
  generalize whole : state.withTypes (Function.update state.types row.id (Cell.clean (some row)))
    (row.id :: state.typeIds) t next = later
  have here : later.owns mine row.id = true := by
    simp [← whole, State.owns, State.typeTenant, State.withTypes, tenant]
  have elsewhere : ∀ id, id ≠ row.id → later.owns mine id = state.owns mine id := by
    intro id different
    simp [← whole, State.owns, State.typeTenant, State.withTypes, different]
  have listed : ∀ id, state.typeTenant id ≠ none → later.owns mine id = state.owns mine id := by
    intro id known
    apply elsewhere
    rintro rfl
    exact known before
  have assignments : later.assignments.restrict (fun key => later.owns mine key.2) none =
      state.assignments.restrict (fun key => state.owns mine key.2) none := by
    funext key
    by_cases same : key.2 = row.id
    · have unknown : state.typeTenant key.2 = none := same ▸ before
      have nothing := tenancy.unassigned unknown
      have inside : later.assignments key = Cell.clean none := by rw [← whole]; exact nothing
      simp only [Table.restrict, inside, nothing, ite_self]
    · have inside : later.assignments key = state.assignments key := by
        rw [← whole]
        rfl
      simp only [Table.restrict, elsewhere key.2 same, inside]
  have ids : later.typeIds.filter (later.owns mine) =
      row.id :: state.typeIds.filter (state.owns mine) := by
    have inserted : later.typeIds = row.id :: state.typeIds := by rw [← whole]; rfl
    rw [inserted, List.filter_cons_of_pos here]
    exact congrArg _ (List.filter_congr fun id member => listed id (tenancy.typeIds id member))
  have keys : (later.assignmentKeys.filter fun key => later.owns mine key.2) =
      state.assignmentKeys.filter fun key => state.owns mine key.2 := by
    have same : later.assignmentKeys = state.assignmentKeys := by rw [← whole]; rfl
    rw [same]
    exact List.filter_congr fun key member => listed key.2 (tenancy.assignmentKeys key member)
  have types : later.types.restrict (later.owns mine) none =
      Function.update (state.types.restrict (state.owns mine) none) row.id
        (Cell.clean (some row)) := by
    have inserted : later.types = Function.update state.types row.id (Cell.clean (some row)) := by
      rw [← whole]
      rfl
    rw [inserted]
    exact Table.restrict_set _ here elsewhere
  subst whole
  exact State.eq_of_fields types assignments ids keys rfl rfl (update_masked own next)

theorem State.part_withOffer (own : owner t = mine) {offer : CredentialOffer} {next : Session}
    (tenant : offer.tenantId = mine) :
    (state.withOffer offer t next).part owner mine =
      (state.part owner mine).withOffer offer t next := by
  refine State.eq_of_fields rfl rfl rfl rfl rfl ?_ (update_masked own next)
  exact filter_update CredentialOffer.tenantId tenant

/-! The answer of a statement in the part is its answer in the whole. -/

section Answers

theorem State.part_type {id : CredentialTypeId} (typed : state.typeTenant id = some mine) :
    (state.part owner mine).types id = state.types id :=
  Table.restrict_kept (State.owns_iff.mpr typed)

theorem State.part_assignment {key : AssignmentKey} (typed : state.typeTenant key.2 = some mine) :
    (state.part owner mine).assignments key = state.assignments key :=
  if_pos (State.owns_iff.mpr typed)

theorem Tenancy.part_found (tenancy : Tenancy owner state) (id : CredentialTypeId) :
    CredentialTypes.findByIdForTenant (state.part owner mine).types t mine id =
      CredentialTypes.findByIdForTenant state.types t mine id := by
  by_cases typed : state.typeTenant id = some mine
  · simp only [CredentialTypes.findByIdForTenant, State.part_type typed]
  · have dropped : (state.part owner mine).types id = Cell.clean none :=
      Table.restrict_dropped (Bool.eq_false_iff.mpr fun owns => typed (State.owns_iff.mp owns))
    have nothing : CredentialTypes.findByIdForTenant state.types t mine id = none := by
      by_contra some_
      rcases Option.ne_none_iff_exists'.mp some_ with ⟨row, found⟩
      exact typed (tenancy.found found).1
    rw [nothing, CredentialTypes.findByIdForTenant, dropped]
    rfl

/-- Rows of other tenants are under other entries of the index. -/
theorem Tenancy.part_probe (tenancy : Tenancy owner state) {row : CredentialType}
    (tenant : row.tenantId = mine) (id : CredentialTypeId) :
    UniqueIndex.probe CredentialTypes.vctKey (state.part owner mine).types
        (state.part owner mine).typeIds t id (CredentialTypes.vctKey (some row)) =
      UniqueIndex.probe CredentialTypes.vctKey state.types state.typeIds t id
        (CredentialTypes.vctKey (some row)) := by
  apply UniqueIndex.probe_restrict
  intro other value dropped entered
  rw [Bool.eq_false_iff]
  intro carries
  cases entered
  rcases UniqueIndex.carries_version carries with ⟨version, from_, key⟩
  have typed : version.map CredentialType.tenantId = state.typeTenant other := by
    rcases from_ with rfl | ⟨holder, held⟩
    · rfl
    · rw [← tenancy.read_tenant other holder, Cell.read_held held]
  cases version with
  | none => cases key
  | some found =>
      have same : found.tenantId = row.tenantId := (Prod.mk.inj (Option.some.inj key)).1
      have owns : state.owns mine other = true := by
        rw [State.owns_iff, ← typed, Option.map_some, same, tenant]
      rw [dropped] at owns
      cases owns

theorem insertTypeStep_part (tenancy : Tenancy owner state) (own : owner t = mine)
    {request : NewType} {id : CredentialTypeId} {now : DateTime} (asked : request.tenantId = owner t)
    (absent : state.types id = Cell.clean none) :
    (state.part owner mine).insertTypeStep t request id now =
      (state.insertTypeStep t request id now).map (State.part owner mine) := by
  have tenant : (request.create id now).tenantId = mine := asked.trans own
  have nothing : (state.part owner mine).types id = Cell.clean none := by
    simp only [State.part, Table.restrict, absent, ite_self]
  have key : (request.create id now).id = id := rfl
  have probes := tenancy.part_probe (t := t) tenant id
  unfold State.insertTypeStep
  rw [State.part_session own]
  cases state.sessions t with
  | idle =>
      simp only [CredentialTypes.insert, key, absent, nothing, Cell.writer_clean,
        Cell.committed_clean, probes]
      cases UniqueIndex.probe CredentialTypes.vctKey state.types state.typeIds t id
          (CredentialTypes.vctKey (some (request.create id now))) with
      | waits => rfl
      | taken => exact congrArg some (State.part_goto own _).symm
      | clear => exact congrArg some (State.part_insertType tenancy own absent tenant).symm
  | _ => rfl

theorem changeTypeStep_part (tenancy : Tenancy owner state) (own : owner t = mine)
    {tenantId : TenantId} {id : CredentialTypeId} {write : CredentialType → CredentialType}
    (keeps : ∀ row, (write row).tenantId = row.tenantId) (asked : tenantId = owner t) :
    (state.part owner mine).changeTypeStep t (CredentialTypes.change (state.part owner mine).types
        (state.part owner mine).typeIds t tenantId id write) =
      (state.changeTypeStep t (CredentialTypes.change state.types state.typeIds t tenantId id
        write)).map (State.part owner mine) := by
  obtain rfl : tenantId = mine := asked.trans own
  unfold State.changeTypeStep
  rw [State.part_session own]
  cases state.sessions t with
  | idle =>
      simp only [CredentialTypes.change, tenancy.part_found]
      cases found : CredentialTypes.findByIdForTenant state.types t tenantId id with
      | none => exact congrArg some (State.part_goto own _).symm
      | some row =>
          have typed := (tenancy.found found).1
          have tenant : (write row).tenantId = tenantId :=
            (keeps row).trans (CredentialTypes.findByIdForTenant_some found).2
          rw [State.part_type typed]
          cases (state.types id).writer with
          | some pending => rfl
          | none =>
              simp only [tenancy.part_probe tenant]
              cases UniqueIndex.probe CredentialTypes.vctKey state.types state.typeIds t id
                  (CredentialTypes.vctKey (some (write row))) with
              | waits => rfl
              | taken => exact congrArg some (State.part_goto own _).symm
              | clear =>
                  refine congrArg some (State.part_withTypes own (State.owns_iff.mpr typed) ?_).symm
                  rw [Cell.autocommit, Cell.committed_clean, Option.map_map]
                  exact congrArg (Option.map · _) (funext keeps)
  | _ => rfl

theorem stampRetiredStep_part (tenancy : Tenancy owner state) (own : owner t = mine)
    {request : RetireRequest} (asked : request.tenantId = owner t) :
    (state.part owner mine).stampRetiredStep t request =
      (state.stampRetiredStep t request).map (State.part owner mine) := by
  have tenant : request.tenantId = mine := asked.trans own
  unfold State.stampRetiredStep
  rw [State.part_session own]
  cases state.sessions t with
  | idle =>
      simp only [CredentialTypes.stampRetired, tenant, tenancy.part_found]
      cases found : CredentialTypes.findByIdForTenant state.types t mine request.id with
      | none => exact congrArg some (State.part_rollback own _).symm
      | some row =>
          have typed := (tenancy.found found).1
          simp only [State.part_type typed]
          cases (state.types request.id).free t with
          | false => rfl
          | true =>
              have cell : (state.part owner mine).types request.id = state.types request.id :=
                State.part_type typed
              have stamped : (((state.types request.id).update t
                  (Option.map (CredentialTypes.asRetired request.now))).committed.map
                    CredentialType.tenantId) = state.typeTenant request.id := rfl
              refine congrArg some (Eq.trans ?_
                (State.part_withTypes own (State.owns_iff.mpr typed) stamped).symm)
              rw [Table.update, cell]
  | _ => rfl

theorem deleteByType_part {id : CredentialTypeId} (typed : state.typeTenant id = some mine) :
    IssuerCredentialTypes.deleteByType (state.part owner mine).assignments
        (state.part owner mine).assignmentKeys t id =
      (IssuerCredentialTypes.deleteByType state.assignments state.assignmentKeys t id).map fun done =>
        (done.1.restrict (fun key => state.owns mine key.2) none, done.2) := by
  have assigned : ((state.assignmentKeys.filter fun key => state.owns mine key.2).filter fun key =>
        key.2 == id && (((state.part owner mine).assignments key).read t).isSome) =
      state.assignmentKeys.filter fun key => key.2 == id && ((state.assignments key).read t).isSome := by
    refine Table.filter_restrict (fun (key : AssignmentKey)
      (row : Option IssuerCredentialTypeAssignment) => key.2 == id && row.isSome) ?_
    intro key dropped
    have different : key.2 ≠ id := by
      rintro rfl
      rw [State.owns_iff.mpr typed] at dropped
      cases dropped
    rw [beq_eq_false_iff_ne.mpr different, Bool.false_and]
  have each : ∀ key ∈ state.assignmentKeys.filter (fun key =>
        key.2 == id && ((state.assignments key).read t).isSome),
      state.typeTenant key.2 = some mine := by
    intro key member
    rw [beq_iff_eq.mp (Bool.and_eq_true_iff.mp (List.mem_filter.mp member).2).1]
    exact typed
  unfold IssuerCredentialTypes.deleteByType
  dsimp only
  rw [show (state.part owner mine).assignmentKeys =
    state.assignmentKeys.filter fun key => state.owns mine key.2 from rfl, assigned]
  generalize state.assignmentKeys.filter (fun key =>
    key.2 == id && ((state.assignments key).read t).isSome) = deleted at each
  have free : (deleted.all fun key => ((state.part owner mine).assignments key).free t) =
      deleted.all fun key => (state.assignments key).free t := by
    rw [Bool.eq_iff_iff, List.all_eq_true, List.all_eq_true]
    exact forall₂_congr fun key member => by rw [State.part_assignment (each key member)]
  rw [free]
  split
  · rw [Option.map_some]
    congr 2
    funext key
    by_cases member : key ∈ deleted
    · have kept : state.owns mine key.2 = true := State.owns_iff.mpr (each key member)
      simp only [Table.restrict, if_pos member, State.part_assignment (each key member), kept, if_true]
    · simp only [Table.restrict, State.part, if_neg member]
  · rfl

theorem deleteByTypeStep_part (tenancy : Tenancy owner state) (own : owner t = mine) :
    (state.part owner mine).deleteByTypeStep t =
      (state.deleteByTypeStep t).map (State.part owner mine) := by
  have owned := tenancy.sessions t
  unfold State.deleteByTypeStep
  rw [State.part_session own]
  cases at_ : state.sessions t with
  | typeRetired request =>
      rw [at_, own] at owned
      dsimp only
      rw [deleteByType_part (owned.types _ rfl)]
      cases IssuerCredentialTypes.deleteByType state.assignments state.assignmentKeys t
          request.id with
      | none => rfl
      | some done => exact congrArg some (State.part_withAssignments own _ _ _).symm
  | _ => rfl

theorem tenantOwnsPair_part (tenancy : Tenancy owner state) {request : PairRequest}
    (tenant : request.tenantId = mine) :
    (state.part owner mine).tenantOwnsPair t request = state.tenantOwnsPair t request := by
  have issuers : ((state.part owner mine).issuers request.issuerId).any
        (fun issuer => issuer.tenantId == mine) =
      (state.issuers request.issuerId).any fun issuer => issuer.tenantId == mine := any_filter _
  rw [State.tenantOwnsPair, State.tenantOwnsPair, tenant, issuers, tenancy.part_found]

theorem ownedPairStep_part (tenancy : Tenancy owner state) (own : owner t = mine)
    {request : PairRequest} {owned refused : Session} (asked : request.tenantId = owner t) :
    (state.part owner mine).ownedPairStep t request owned refused =
      (state.ownedPairStep t request owned refused).map (State.part owner mine) := by
  unfold State.ownedPairStep
  rw [State.part_session own]
  cases state.sessions t with
  | idle =>
      dsimp only
      rw [tenantOwnsPair_part tenancy (asked.trans own)]
      split <;> exact congrArg some (State.part_goto own _).symm
  | _ => rfl

/-- One assignment of the tenant is rewritten. -/
theorem State.part_setAssignment (own : owner t = mine) {key : AssignmentKey}
    {cell : Cell TxId (Option IssuerCredentialTypeAssignment)} {keys : List AssignmentKey}
    {next : Session} (typed : state.typeTenant key.2 = some mine) :
    (state.withAssignments (Function.update state.assignments key cell) keys t next).part owner mine =
      (state.part owner mine).withAssignments
        (Function.update (state.part owner mine).assignments key cell)
        (keys.filter fun key => state.owns mine key.2) t next := by
  rw [State.part_withAssignments own]
  have kept : (fun key : AssignmentKey => state.owns mine key.2) key = true :=
    State.owns_iff.mpr typed
  congr 1
  exact Table.restrict_set cell kept fun _ _ => rfl

theorem assignStep_part (tenancy : Tenancy owner state) (own : owner t = mine) {now : DateTime} :
    (state.part owner mine).assignStep t now =
      (state.assignStep t now).map (State.part owner mine) := by
  have owned := tenancy.sessions t
  unfold State.assignStep
  rw [State.part_session own]
  cases at_ : state.sessions t with
  | pairOwned request =>
      rw [at_, own] at owned
      have typed : state.typeTenant request.key.2 = some mine := owned.types _ rfl
      have listed : (request.key :: state.assignmentKeys).filter
          (fun key => state.owns mine key.2) =
            request.key :: (state.part owner mine).assignmentKeys :=
        List.filter_cons_of_pos (State.owns_iff.mpr typed)
      simp only [IssuerCredentialTypes.assign, State.part_assignment typed]
      cases (state.assignments request.key).writer with
      | some pending => rfl
      | none =>
          cases (state.assignments request.key).committed with
          | some row =>
              refine congrArg some (Eq.trans ?_ (State.part_withAssignments own _ _ _).symm)
              rw [listed]
              rfl
          | none =>
              refine congrArg some (Eq.trans ?_ (State.part_setAssignment own typed).symm)
              rw [listed]
  | _ => rfl

theorem unassignStep_part (tenancy : Tenancy owner state) (own : owner t = mine) :
    (state.part owner mine).unassignStep t = (state.unassignStep t).map (State.part owner mine) := by
  have owned := tenancy.sessions t
  unfold State.unassignStep
  rw [State.part_session own]
  cases at_ : state.sessions t with
  | pairToUnassign request =>
      rw [at_, own] at owned
      have typed : state.typeTenant request.key.2 = some mine := owned.types _ rfl
      simp only [IssuerCredentialTypes.unassign, State.part_assignment typed]
      cases (state.assignments request.key).committed with
      | none => exact congrArg some (State.part_withAssignments own _ _ _).symm
      | some row =>
          cases (state.assignments request.key).writer with
          | some pending => rfl
          | none => exact congrArg some (State.part_setAssignment own typed).symm
  | _ => rfl

theorem probeIssuerStep_part (own : owner t = mine) {request : Oidc.CreateRequest}
    (asked : request.tenantId = owner t) :
    (state.part owner mine).probeIssuerStep t request =
      (state.probeIssuerStep t request).map (State.part owner mine) := by
  have issuers : ((state.part owner mine).issuers request.issuerId).any
        (fun issuer => issuer.tenantId == request.tenantId) =
      (state.issuers request.issuerId).any fun issuer => issuer.tenantId == request.tenantId := by
    rw [asked, own]
    exact any_filter _
  unfold State.probeIssuerStep
  rw [State.part_session own]
  cases state.sessions t with
  | idle =>
      dsimp only
      cases Oidc.resolveExpiresIn request.expiresInSeconds with
      | error error => exact congrArg some (State.part_goto own _).symm
      | ok expiresIn =>
          simp only [issuers]
          split <;> exact congrArg some (State.part_goto own _).symm
  | _ => rfl

theorem probeTypeStep_part (tenancy : Tenancy owner state) (own : owner t = mine) :
    (state.part owner mine).probeTypeStep t =
      (state.probeTypeStep t).map (State.part owner mine) := by
  have owned := tenancy.sessions t
  unfold State.probeTypeStep
  rw [State.part_session own]
  cases at_ : state.sessions t with
  | issuerProbed request expiresIn =>
      rw [at_, own] at owned
      have tenant : request.tenantId = mine := owned.scope _ rfl
      simp only [tenant, tenancy.part_found]
      cases (CredentialTypes.findByIdForTenant state.types t mine request.credentialTypeId).filter
          fun found => found.retiredAt.isNone with
      | none => exact congrArg some (State.part_goto own _).symm
      | some found => exact congrArg some (State.part_goto own _).symm
  | _ => rfl

theorem probeAssignmentStep_part (tenancy : Tenancy owner state) (own : owner t = mine)
    {validated : Except ApiError Unit} :
    (state.part owner mine).probeAssignmentStep t validated =
      (state.probeAssignmentStep t validated).map (State.part owner mine) := by
  have owned := tenancy.sessions t
  unfold State.probeAssignmentStep
  rw [State.part_session own]
  cases at_ : state.sessions t with
  | typeProbed request expiresIn found =>
      rw [at_, own] at owned
      have typed : state.typeTenant (request.issuerId, found.id).2 = some mine := owned.types _ rfl
      have assigned : IssuerCredentialTypes.isAssigned (state.part owner mine).assignments t
            (request.issuerId, found.id) =
          IssuerCredentialTypes.isAssigned state.assignments t (request.issuerId, found.id) := by
        rw [IssuerCredentialTypes.isAssigned, State.part_assignment typed]
        rfl
      simp only [assigned]
      split
      · cases validated <;> exact congrArg some (State.part_goto own _).symm
      · exact congrArg some (State.part_goto own _).symm
  | _ => rfl

theorem insertOfferStep_part (tenancy : Tenancy owner state) (own : owner t = mine)
    {id : CredentialOfferId} {code : PreAuthCode} {now : DateTime}
    (absent : state.offers id = none) :
    (state.part owner mine).insertOfferStep t id code now =
      (state.insertOfferStep t id code now).map (State.part owner mine) := by
  have owned := tenancy.sessions t
  have nothing : (state.part owner mine).offers id = none := by
    simp only [State.part, absent, Option.filter_none]
  unfold State.insertOfferStep
  rw [State.part_session own]
  cases at_ : state.sessions t with
  | claimsValidated request expiresIn found =>
      rw [at_, own] at owned
      simp only [absent, nothing]
      exact congrArg some (State.part_withOffer own (owned.scope _ rfl)).symm
  | _ => rfl

theorem failStep_part (own : owner t = mine) {details : String} :
    (state.part owner mine).failStep t details =
      (state.failStep t details).map (State.part owner mine) := by
  unfold State.failStep
  rw [State.part_session own]
  cases state.sessions t with
  | typeRetired | assignmentsDeleted => exact congrArg some (State.part_rollback own _).symm
  | pairOwned | pairToUnassign | issuerProbed | typeProbed | claimsValidated =>
      exact congrArg some (State.part_goto own _).symm
  | _ => rfl

theorem commitStep_part (tenancy : Tenancy owner state) (own : owner t = mine) :
    (state.part owner mine).commitStep t = (state.commitStep t).map (State.part owner mine) := by
  unfold State.commitStep
  rw [State.part_session own]
  cases at_ : state.sessions t with
  | assignmentsDeleted request deleted =>
      exact congrArg some (State.part_commitTo tenancy own at_
        (Session.owned_closed rfl rfl rfl rfl)).symm
  | _ => rfl

theorem putIssuerStep_part {issuer : Worker.IssuerRecord} (tenant : issuer.tenantId = mine)
    (stays : ∀ row, state.issuers issuer.id = some row → row.tenantId = issuer.tenantId) :
    (state.part owner mine).putIssuerStep issuer =
      (state.putIssuerStep issuer).map (State.part owner mine) := by
  have allowed : (state.issuers issuer.id).all
      (fun row => row.tenantId == issuer.tenantId) = true := by
    rw [Option.all_eq_true]
    exact fun row stored => beq_iff_eq.mpr (stays row stored)
  have passes : ((state.part owner mine).issuers issuer.id).all
      (fun row => row.tenantId == issuer.tenantId) = true := by
    rw [Option.all_eq_true]
    intro row seen
    rw [tenant]
    exact (Option.filter_eq_some_iff.mp seen).2
  rw [State.putIssuerStep, State.putIssuerStep, if_pos allowed, if_pos passes]
  refine congrArg some (Eq.symm ?_)
  exact State.eq_of_fields rfl rfl rfl rfl
    (filter_update (fun row : Worker.IssuerRecord => row.tenantId) tenant) rfl rfl

theorem endOfferStep_part {id : CredentialOfferId} {issued : Bool} {now : DateTime}
    (own : ∀ offer, state.offers id = some offer → offer.tenantId = mine) :
    (state.part owner mine).endOfferStep id issued now =
      (state.endOfferStep id issued now).map (State.part owner mine) := by
  unfold State.endOfferStep
  cases stored : state.offers id with
  | none =>
      have nothing : (state.part owner mine).offers id = none := by
        simp only [State.part, stored, Option.filter_none]
      rw [nothing]
      rfl
  | some offer =>
      have tenant : offer.tenantId = mine := own offer stored
      have seen : (state.part owner mine).offers id = some offer := by
        simp only [State.part, stored]
        exact Option.filter_eq_some_iff.mpr ⟨rfl, beq_iff_eq.mpr tenant⟩
      have stays : (if issued then offer.asIssued now else offer.asCancelled now).tenantId = mine := by
        rw [← tenant]
        cases issued <;> rfl
      rw [seen]
      refine congrArg some (Eq.symm ?_)
      exact State.eq_of_fields rfl rfl rfl rfl rfl (filter_update CredentialOffer.tenantId stays) rfl

end Answers

/-- A statement of the tenant does in the tenant's part what it does in the whole, and waits for a
lock there if it does here. -/
theorem step_part {event : Event} (tenancy : Tenancy owner state) (asks : Scoped owner state event)
    (own : owner event.t = mine) :
    (state.part owner mine).step event = (state.step event).map (State.part owner mine) := by
  rcases event with ⟨t, action⟩
  cases action with
  | insertType request id now =>
      exact insertTypeStep_part tenancy own (asks.asked _ rfl) (asks.freshType request id now rfl)
  | updateStructured tenantId id update now =>
      exact changeTypeStep_part tenancy own (fun _ => rfl) (asks.asked _ rfl)
  | updateBlob tenantId id blob now =>
      refine changeTypeStep_part tenancy own ?_ (asks.asked _ rfl)
      intro row
      cases blob <;> rfl
  | stampRetired request => exact stampRetiredStep_part tenancy own (asks.asked _ rfl)
  | deleteByType => exact deleteByTypeStep_part tenancy own
  | commit => exact commitStep_part tenancy own
  | probePair request => exact ownedPairStep_part tenancy own (asks.asked _ rfl)
  | assign now => exact assignStep_part tenancy own
  | probeUnassign request => exact ownedPairStep_part tenancy own (asks.asked _ rfl)
  | unassign => exact unassignStep_part tenancy own
  | probeIssuer request => exact probeIssuerStep_part own (asks.asked _ rfl)
  | probeType => exact probeTypeStep_part tenancy own
  | probeAssignment validated => exact probeAssignmentStep_part tenancy own
  | insertOffer id code now =>
      exact insertOfferStep_part tenancy own (asks.freshOffer id code now rfl)
  | putIssuer issuer =>
      exact putIssuerStep_part ((asks.asked _ rfl).trans own)
        fun row stored => asks.written issuer row rfl stored
  | endOffer id issued now =>
      apply endOfferStep_part
      intro offer stored
      exact (asks.ended id issued now offer rfl stored).trans own
  | fail details => exact failStep_part own

end Seen

section Runs

variable {owner : TxId → TenantId} {first last : State} {trace : List Event}

theorem tenancy_initial (initial : first.Initial) (types : first.typeIds = [])
    (keys : first.assignmentKeys = []) : Tenancy owner first := by
  refine ⟨sound_initial initial, (keyed_run initial (.nil first)).2, ?_, ?_, ?_, ?_⟩
  · intro t
    rw [initial.sessions t]
    exact Session.owned_closed rfl rfl rfl rfl
  · intro key row stored
    rw [initial.assignments key] at stored
    cases stored
  · simp [types]
  · simp [keys]

theorem State.part_initial (initial : first.Initial) (types : first.typeIds = [])
    (keys : first.assignmentKeys = []) (mine : TenantId) : first.part owner mine = first := by
  apply State.eq_of_fields
  · funext id
    simp only [State.part, Table.restrict, initial.types id, ite_self]
  · funext key
    simp only [State.part, Table.restrict, initial.assignments key, ite_self]
  · simp only [State.part, types, List.filter_nil]
  · simp only [State.part, keys, List.filter_nil]
  · funext id
    simp only [State.part, initial.issuers id, Option.filter_none]
  · funext id
    simp only [State.part, initial.offers id, Option.filter_none]
  · funext t
    simp only [State.part, initial.sessions t, ite_self]

theorem part_projects (mine : TenantId) :
    Projects (Guarded (Scoped owner) (Steps State.step)) (Steps State.step) (Tenancy owner)
      (State.part owner mine) fun event => owner event.t == mine where
  seen state event after tenancy taken looks := by
    have step := step_part tenancy taken.1 (beq_iff_eq.mp looks)
    rw [show state.step event = some after from taken.2] at step
    exact step
  unseen state event after tenancy taken looks :=
    turn_part_unseen tenancy (step_turn tenancy taken.1 taken.2) (beq_eq_false_iff_ne.mp looks)

/-- Over every interleaving an assignment joins a type and an issuer of its own tenant, and a tenant's
requests run, answer, wait and write as they do without the other tenants, whatever these ask. -/
theorem tenants_are_isolated (initial : first.Initial) (types : first.typeIds = [])
    (keys : first.assignmentKeys = [])
    (run : Run (Guarded (Scoped owner) (Steps State.step)) first trace last) (mine : TenantId) :
    TenantsAgree last ∧
    Run (Steps State.step) first (trace.filter fun event => owner event.t == mine)
      (last.part owner mine) ∧
    (∀ event, Scoped owner last event → owner event.t = mine →
      (last.part owner mine).step event = (last.step event).map (State.part owner mine)) ∧
    ∀ others other, Run (Guarded (Scoped owner) (Steps State.step)) first others other →
      (others.filter fun event => owner event.t == mine) =
        (trace.filter fun event => owner event.t == mine) →
      other.part owner mine = last.part owner mine := by
  have start : Tenancy owner first := tenancy_initial initial types keys
  have kept : ∀ state event after, Tenancy owner state →
      Guarded (Scoped owner) (Steps State.step) state event after → Tenancy owner after :=
    fun _ _ _ tenancy taken => tenancy_step tenancy taken.1 taken.2
  have tenancy := run.invariant (Tenancy owner) kept start
  have whole : first.part owner mine = first := State.part_initial initial types keys mine
  refine ⟨tenancy.agree, (part_projects mine).runs_alone kept start whole run,
    fun event asks own => step_part tenancy asks own, ?_⟩
  intro others other ran same
  exact (part_projects mine).determined kept start whole run ran same

end Runs

/-- The conditions of `Scoped`, evaluated. -/
def isScoped (owner : TxId → TenantId) (state : State) (event : Event) : Bool :=
  event.action.scope.all (· == owner event.t) &&
    match event.action with
    | .insertType _ id _ => (state.types id).committed.isNone && (state.types id).writer.isNone
    | .insertOffer id .. => (state.offers id).isNone
    | .endOffer id .. => (state.offers id).all fun offer => offer.tenantId == owner event.t
    | .putIssuer issuer =>
        (state.issuers issuer.id).all fun row => row.tenantId == issuer.tenantId
    | _ => true

theorem scoped_of_isScoped {owner : TxId → TenantId} {state : State} {event : Event}
    (holds : isScoped owner state event = true) : Scoped owner state event := by
  rcases event with ⟨t, action⟩
  rcases Bool.and_eq_true_iff.mp holds with ⟨asked, rest⟩
  refine ⟨?_, ?_, ?_, ?_, ?_⟩
  · intro tenantId scope
    exact beq_iff_eq.mp (Option.all_eq_true .. |>.mp asked tenantId scope)
  · rintro id issued now offer rfl stored
    exact beq_iff_eq.mp (Option.all_eq_true .. |>.mp rest offer stored)
  · rintro issuer row rfl stored
    exact beq_iff_eq.mp (Option.all_eq_true .. |>.mp rest row stored)
  · rintro request id now rfl
    rcases Bool.and_eq_true_iff.mp rest with ⟨committed, writer⟩
    exact Cell.mk.injEq .. ▸ ⟨Option.isNone_iff_eq_none.mp committed,
      Option.isNone_iff_eq_none.mp writer⟩
  · rintro id code now rfl
    exact Option.isNone_iff_eq_none.mp rest

def neighbour : TenantId := ⟨"9qLrXw4HtB"⟩

def neighbourIssuer : Worker.IssuerRecord :=
  { sampleIssuer with id := ⟨"6Jk2mWcYvP"⟩, tenantId := neighbour }

def neighbourTypeId : CredentialTypeId := ⟨"2bFsTn8xKd"⟩

/-- The requests with an even number are the neighbour's. -/
def sampleOwner (t : TxId) : TenantId := if t % 2 = 0 then neighbour else sampleIssuer.tenantId

/-- A type is retired while the neighbour assigns one of the same `vct`. -/
def sampleNeighbours : List Event :=
  [⟨1, .putIssuer sampleIssuer⟩, ⟨2, .putIssuer neighbourIssuer⟩,
    ⟨1, .insertType sampleType sampleTypeId 0⟩,
    ⟨4, .insertType { sampleType with tenantId := neighbour } neighbourTypeId 0⟩,
    ⟨3, .stampRetired ⟨sampleIssuer.tenantId, sampleTypeId, seconds 120⟩⟩,
    ⟨6, .probePair ⟨neighbour, neighbourIssuer.id, neighbourTypeId⟩⟩, ⟨3, .deleteByType⟩,
    ⟨6, .assign (seconds 60)⟩, ⟨3, .commit⟩]

theorem tenants_are_isolated_sample : ∃ last,
    Run (Guarded (fun state event => isScoped sampleOwner state event = true) (Steps State.step))
      sampleStart sampleNeighbours last ∧ TenantsAgree last ∧
    Run (Steps State.step) sampleStart
      (sampleNeighbours.filter fun event => sampleOwner event.t == neighbour)
      (last.part sampleOwner neighbour) := by
  have computed : (exec (checked (isScoped sampleOwner) State.step) sampleStart
      sampleNeighbours).isSome = true := by decide
  rcases Option.isSome_iff_exists.mp computed with ⟨last, reached⟩
  have run := Run.of_checked reached
  have guarded := run.mono fun state event after (taken : Guarded _ _ state event after) =>
    (⟨scoped_of_isScoped taken.1, taken.2⟩ : Guarded (Scoped sampleOwner) _ state event after)
  rcases tenants_are_isolated sampleStart_initial rfl rfl guarded neighbour with ⟨agree, alone, _⟩
  exact ⟨last, run, agree, alone⟩

end SwiyuIssuer.Catalogue
