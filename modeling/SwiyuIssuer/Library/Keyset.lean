import Mathlib.Data.Finset.Card
import Mathlib.Data.List.Sort

/-! Tables that are served in pages, greatest key first, each page below the key that the page
before it ended with. -/

namespace Library

/-- Following the next cursor of each answer until an answer has none; `serve` answers the request
of each turn. -/
inductive Walk {α γ : Type} (serve : Nat → Option γ → Option (List α × Option γ)) :
    Nat → Option γ → List (List α) → Prop
  | last {turn : Nat} {cursor : Option γ} {items : List α}
      (served : serve turn cursor = some (items, none)) : Walk serve turn cursor [items]
  | next {turn : Nat} {cursor : Option γ} {items : List α} {next : γ} {pages : List (List α)}
      (served : serve turn cursor = some (items, some next))
      (rest : Walk serve (turn + 1) (some next) pages) : Walk serve turn cursor (items :: pages)

theorem Walk.translate {α γ δ : Type} {serve : Nat → Option γ → Option (List α × Option γ)}
    {other : Nat → Option δ → Option (List α × Option δ)} (write : γ → δ) (known : γ → Prop)
    (agree : ∀ turn cursor items next, (∀ c ∈ cursor, known c) →
      serve turn cursor = some (items, next) →
        (∀ c ∈ next, known c) ∧ other turn (cursor.map write) = some (items, next.map write))
    {turn : Nat} {cursor : Option γ} {pages : List (List α)} (start : ∀ c ∈ cursor, known c)
    (walk : Walk serve turn cursor pages) : Walk other turn (cursor.map write) pages := by
  induction walk with
  | last served => exact .last (agree _ _ _ _ start served).2
  | next served rest ih =>
      rcases agree _ _ _ _ start served with ⟨knows, answer⟩
      exact .next answer (ih knows)

theorem Walk.served {α γ : Type} {serve : Nat → Option γ → Option (List α × Option γ)} {turn : Nat}
    {cursor : Option γ} {pages : List (List α)} (walk : Walk serve turn cursor pages) {later : Nat}
    {items : List α} (page : pages[later]? = some items) :
    ∃ asked next, serve (turn + later) asked = some (items, next) := by
  induction walk generalizing later with
  | @last turn cursor found served =>
      cases later with
      | zero =>
          cases page
          exact ⟨cursor, none, served⟩
      | succ later => simp at page
  | @next turn cursor found next pages served rest ih =>
      cases later with
      | zero =>
          cases page
          exact ⟨cursor, some next, served⟩
      | succ later =>
          rcases ih page with ⟨asked, following, answer⟩
          exact ⟨asked, following, by rwa [show turn + (later + 1) = turn + 1 + later by omega]⟩

namespace Keyset

structure Page (α : Type) where
  items : List α
  hasMore : Bool

variable {α κ : Type} [LinearOrder κ] (key : α → κ)

def below : Option κ → κ → Bool
  | none, _ => true
  | some cursor, k => decide (k < cursor)

/-- The rows below the cursor, in descending order. -/
def remaining (rows : List α) (cursor : Option κ) : List α :=
  (rows.filter fun row => below cursor (key row)).insertionSort fun one two => key two ≤ key one

/-- One row more than the page holds is fetched, to see whether there is one. -/
def page (rows : List α) (cursor : Option κ) (limit : Nat) : Page α :=
  let fetched := (remaining key rows cursor).take (limit + 1)
  if limit < fetched.length then ⟨fetched.dropLast, true⟩ else ⟨fetched, false⟩

def serve (tables : Nat → List α) (limits : Nat → Nat) (turn : Nat) (cursor : Option κ) :
    Option (List α × Option κ) :=
  let page := page key (tables turn) cursor (limits turn)
  some (page.items, if page.hasMore then page.items.getLast?.map key else none)

variable {key} {rows : List α} {cursor : Option κ} {limit : Nat}

theorem mem_remaining {row : α} :
    row ∈ remaining key rows cursor ↔ row ∈ rows ∧ below cursor (key row) = true := by
  rw [remaining, List.mem_insertionSort, List.mem_filter]

theorem remaining_descending (distinct : (rows.map key).Nodup) :
    (remaining key rows cursor).Pairwise fun one two => key two < key one := by
  have total : Std.Total fun one two : α => key two ≤ key one :=
    ⟨fun one two => le_total (key two) (key one)⟩
  have trans : IsTrans α fun one two => key two ≤ key one :=
    ⟨fun one two three first second => second.trans first⟩
  have sorted := List.pairwise_insertionSort (fun one two : α => key two ≤ key one)
    (rows.filter fun row => below cursor (key row))
  have kept : ((remaining key rows cursor).map key).Nodup := by
    refine ((List.perm_insertionSort _ _).map key).nodup_iff.mpr ?_
    exact distinct.sublist (List.filter_sublist.map key)
  have different : (remaining key rows cursor).Pairwise fun one two => key one ≠ key two :=
    List.pairwise_map.mp kept
  exact (sorted.and different).imp fun both => lt_of_le_of_ne both.1 both.2.symm

theorem page_eq : page key rows cursor limit =
    ⟨(remaining key rows cursor).take limit,
      decide (limit < (remaining key rows cursor).length)⟩ := by
  unfold page
  dsimp only
  by_cases more : limit < (remaining key rows cursor).length
  · have full : ((remaining key rows cursor).take (limit + 1)).length = limit + 1 := by
      rw [List.length_take]
      omega
    rw [if_pos (by omega), decide_eq_true more, List.dropLast_eq_take, full, List.take_take]
    simp
  · have short : ((remaining key rows cursor).take (limit + 1)).length ≤ limit := by
      rw [List.length_take]
      omega
    rw [if_neg (by omega), decide_eq_false more, List.take_of_length_le (by omega),
      List.take_of_length_le (by omega)]

theorem page_descending (distinct : (rows.map key).Nodup) :
    (page key rows cursor limit).items.Pairwise fun one two => key two < key one := by
  rw [page_eq]
  exact (remaining_descending distinct).sublist (List.take_sublist _ _)

theorem page_all {row : α} (complete : (page key rows cursor limit).hasMore = false) :
    row ∈ (page key rows cursor limit).items ↔ row ∈ rows ∧ below cursor (key row) = true := by
  rw [page_eq] at complete ⊢
  rw [List.take_of_length_le (by simpa using complete), mem_remaining]

theorem last_least {items : List α} {last : α}
    (descending : items.Pairwise fun one two => key two < key one)
    (ends : items.getLast? = some last) : ∀ row ∈ items, key last ≤ key row := by
  rcases List.getLast?_eq_some_iff.mp ends with ⟨front, rfl⟩
  intro row member
  rcases List.mem_append.mp member with early | same
  · exact ((List.pairwise_append.mp descending).2.2 row early last (List.mem_singleton_self _)).le
  · rw [List.mem_singleton.mp same]

/-- A page that is not the last holds the rows from its cursor down to its last row. -/
theorem page_more (distinct : (rows.map key).Nodup) (positive : 1 ≤ limit)
    (more : (page key rows cursor limit).hasMore = true) :
    ∃ last, (page key rows cursor limit).items.getLast? = some last ∧
      ∀ row, row ∈ (page key rows cursor limit).items ↔
        row ∈ rows ∧ below cursor (key row) = true ∧ key last ≤ key row := by
  have descending : (page key rows cursor limit).items.Pairwise fun one two => key two < key one :=
    page_descending distinct
  rw [page_eq] at more descending ⊢
  have longer : limit < (remaining key rows cursor).length := of_decide_eq_true more
  have nonempty : (remaining key rows cursor).take limit ≠ [] := by
    rw [Ne, ← List.length_eq_zero_iff, List.length_take]
    omega
  have ends := List.getLast?_eq_some_getLast nonempty
  refine ⟨_, ends, ?_⟩
  intro row
  constructor
  · intro member
    rcases mem_remaining.mp (List.mem_of_mem_take member) with ⟨stored, under⟩
    exact ⟨stored, under, last_least descending ends row member⟩
  · rintro ⟨stored, under, above⟩
    have sorted : (remaining key rows cursor).Pairwise fun one two => key two < key one :=
      remaining_descending distinct
    have whole := List.take_append_drop limit (remaining key rows cursor)
    have member : row ∈ remaining key rows cursor := mem_remaining.mpr ⟨stored, under⟩
    rw [← whole] at sorted member
    rcases List.mem_append.mp member with early | late
    · exact early
    · have beyond := (List.pairwise_append.mp sorted).2.2 _ (List.getLast_mem nonempty) row late
      exact absurd above (not_le.mpr beyond)

section Walk

variable {tables base : Nat → List α} {limits : Nat → Nat}

/-- Rows that come later have greater keys than all that were there at first. -/
def OnlyNewer (key : α → κ) (tables : Nat → List α) : Prop :=
  ∀ turn, ∀ row ∈ tables turn,
    key row ∈ (tables 0).map key ∨ ∀ old ∈ tables 0, key old < key row

/-- The first request has no cursor, and every other has the key of a row that was there at
first. -/
def Reached (key : α → κ) (tables : Nat → List α) (turn : Nat) : Option κ → Prop
  | none => turn = 0
  | some cursor => cursor ∈ (tables 0).map key

theorem reached_old (newer : OnlyNewer key base) {turn : Nat} {k : κ}
    (reached : Reached key base turn cursor) (stored : k ∈ (base turn).map key)
    (under : below cursor k = true) : k ∈ (base 0).map key := by
  rcases List.mem_map.mp stored with ⟨row, present, rfl⟩
  rcases newer turn row present with old | later
  · exact old
  · cases cursor with
    | none =>
        obtain rfl : turn = 0 := reached
        exact stored
    | some cursor =>
        rcases List.mem_map.mp reached with ⟨old, first, rfl⟩
        exact absurd (of_decide_eq_true under) (not_lt.mpr (later old first).le)

def outstanding (key : α → κ) (tables : Nat → List α) (cursor : Option κ) : Finset κ :=
  ((tables 0).map key).toFinset.filter fun k => below cursor k = true

theorem below_trans {next k : κ} (lower : k < next) (under : below cursor next = true) :
    below cursor k = true := by
  cases cursor with
  | none => rfl
  | some cursor => exact decide_eq_true (lower.trans (of_decide_eq_true under))

theorem outstanding_ssubset {next : κ} (old : next ∈ (base 0).map key)
    (under : below cursor next = true) :
    outstanding key base (some next) ⊂ outstanding key base cursor := by
  rw [Finset.ssubset_iff_of_subset]
  · refine ⟨next, Finset.mem_filter.mpr ⟨List.mem_toFinset.mpr old, under⟩, ?_⟩
    simp [outstanding, below]
  · intro k member
    rcases Finset.mem_filter.mp member with ⟨first, lower⟩
    exact Finset.mem_filter.mpr ⟨first, below_trans (of_decide_eq_true lower) under⟩

/-- What is left of a walk after some turns, over the rows that are in view of a turn out of those
that are stored then. -/
theorem walk_from (positive : ∀ turn, 1 ≤ limits turn)
    (distinct : ∀ turn, ((tables turn).map key).Nodup) (newer : OnlyNewer key base)
    (within : ∀ turn, ∀ row ∈ tables turn, row ∈ base turn) (turn : Nat)
    (cursor : Option κ) (reached : Reached key base turn cursor) :
    ∃ pages, Walk (serve key tables limits) turn cursor pages ∧
      pages.flatten.Pairwise (fun one two => key two < key one) ∧
      (∀ row ∈ pages.flatten, below cursor (key row) = true) ∧
      ∀ k, below cursor k = true →
        (∀ later < pages.length, k ∈ (tables (turn + later)).map key) →
          k ∈ pages.flatten.map key := by
  generalize left : outstanding key base cursor = rest
  induction rest using Finset.strongInduction generalizing turn cursor with
  | H rest ih =>
      have descending : (page key (tables turn) cursor (limits turn)).items.Pairwise
          fun one two => key two < key one :=
        page_descending (distinct turn)
      cases more : (page key (tables turn) cursor (limits turn)).hasMore with
      | false =>
          have served : serve key tables limits turn cursor =
              some ((page key (tables turn) cursor (limits turn)).items, none) := by
            simp [serve, more]
          refine ⟨_, .last served, ?_, ?_, ?_⟩
          · simpa using descending
          · intro row member
            rw [List.flatten_singleton] at member
            exact ((page_all more).mp member).2
          · intro k under present
            rcases List.mem_map.mp (present 0 Nat.zero_lt_one) with ⟨row, stored, rfl⟩
            rw [List.flatten_singleton]
            exact List.mem_map_of_mem ((page_all more).mpr ⟨stored, under⟩)
      | true =>
          rcases page_more (distinct turn) (positive turn) more with ⟨last, ends, members⟩
          have served : serve key tables limits turn cursor =
              some ((page key (tables turn) cursor (limits turn)).items, some (key last)) := by
            simp [serve, more, ends]
          rcases (members last).mp (List.mem_of_getLast? ends) with ⟨stored, under, _⟩
          have old := reached_old newer reached (List.mem_map_of_mem (within turn last stored)) under
          rcases ih _ (left ▸ outstanding_ssubset old under) (turn + 1) (some (key last)) old rfl
            with ⟨pages, walk, sorted, lower, complete⟩
          refine ⟨_, .next served walk, ?_, ?_, ?_⟩
          · rw [List.flatten_cons, List.pairwise_append]
            refine ⟨descending, sorted, ?_⟩
            intro one here two there
            exact (of_decide_eq_true (lower two there)).trans_le
              (last_least descending ends one here)
          · intro row member
            rw [List.flatten_cons] at member
            rcases List.mem_append.mp member with here | there
            · exact ((members row).mp here).2.1
            · exact below_trans (of_decide_eq_true (lower row there)) under
          · intro k low present
            rw [List.flatten_cons, List.map_append, List.mem_append]
            rcases lt_or_ge k (key last) with further | here
            · refine .inr (complete k (decide_eq_true further) ?_)
              intro later bound
              have known := present (later + 1) (by simpa using bound)
              rwa [show turn + 1 + later = turn + (later + 1) by omega]
            · rcases List.mem_map.mp (present 0 (by simp)) with ⟨row, stored_, rfl⟩
              exact .inl (List.mem_map_of_mem ((members row).mpr ⟨stored_, low, here⟩))

/-- The walk ends, its rows come in strictly descending order, and each row that is in view of every
page is shown once, whichever of the stored rows are in view of a turn. -/
theorem walk_in_view [BEq κ] [LawfulBEq κ] (positive : ∀ turn, 1 ≤ limits turn)
    (distinct : ∀ turn, ((tables turn).map key).Nodup) (newer : OnlyNewer key base)
    (within : ∀ turn, ∀ row ∈ tables turn, row ∈ base turn) :
    ∃ pages, Walk (serve key tables limits) 0 none pages ∧
      pages.flatten.Pairwise (fun one two => key two < key one) ∧
      ∀ k, (∀ turn < pages.length, k ∈ (tables turn).map key) →
        (pages.flatten.map key).count k = 1 := by
  rcases walk_from positive distinct newer within 0 none rfl with ⟨pages, walk, sorted, _, complete⟩
  refine ⟨pages, walk, sorted, ?_⟩
  intro k present
  have unique : (pages.flatten.map key).Nodup := by
    refine List.pairwise_map.mpr (sorted.imp ?_)
    intro one two lower
    exact lower.ne'
  refine List.count_eq_one_of_mem unique (complete k rfl ?_)
  intro turn bound
  rw [Nat.zero_add]
  exact present turn bound

/-- The walk ends; its rows come in strictly descending order, and each row that every page could
have shown is shown once. -/
theorem walk_complete [BEq κ] [LawfulBEq κ] (positive : ∀ turn, 1 ≤ limits turn)
    (distinct : ∀ turn, ((tables turn).map key).Nodup) (newer : OnlyNewer key tables) :
    ∃ pages, Walk (serve key tables limits) 0 none pages ∧
      pages.flatten.Pairwise (fun one two => key two < key one) ∧
      ∀ k, (∀ turn < pages.length, k ∈ (tables turn).map key) →
        (pages.flatten.map key).count k = 1 :=
  walk_in_view positive distinct newer fun _ _ stored => stored

end Walk

end Keyset

end Library
