import Mathlib.Data.List.Nodup
import Mathlib.Data.List.Sort
import Mathlib.Data.Finset.Card
import Mathlib.Order.Basic

namespace Paging

/-!
# Pages behind a cursor

A listing is cut into pages in descending order of a key.  A page is made of
the items below a cursor, and one item more than the page may hold is looked up
to see whether there is a next page; the cursor of the next page is the key of
the last item shown.

The contents of the listing may change between two requests.  Nothing is
assumed about what is inserted, except where the number of pages has to be
bounded.  An item that is there at every request is shown exactly once, since
the keys that have been shown are exactly those above the cursor.
-/

variable {α κ : Type} [LinearOrder κ] (key : α -> κ)

def descending (items : List α) : List α :=
  items.mergeSort fun first second => decide (key second ≤ key first)

/-- The items a cursor has not passed yet. -/
def isBelow (cursor : Option κ) (item : α) : Bool :=
  match cursor with
  | none => true
  | some bound => decide (key item < bound)

structure Page (α κ : Type) where
  items : List α
  next : Option κ

/-- One item more than the page holds is looked up. -/
def page (limit : Nat) (contents : List α) (cursor : Option κ) : Page α κ :=
  let found := (descending key (contents.filter (isBelow key cursor))).take (limit + 1)
  let hasNext := limit < found.length
  let shown := if hasNext then found.take limit else found
  ⟨shown, if hasNext then shown.getLast?.map key else none⟩

/-- All items of the pages from a cursor on; the contents may differ at every
request, and without fuel the listing has not ended. -/
def follow (limit : Nat) (contents : Nat -> List α) : Nat -> Nat -> Option κ -> Option (List α)
  | 0, _, _ => none
  | fuel + 1, count, cursor =>
      let current := page key limit (contents count) cursor
      match current.next with
      | none => some current.items
      | some next => (follow limit contents fuel (count + 1) (some next)).map (current.items ++ ·)

/-! ## Sorting -/

variable {key}

theorem perm_descending (items : List α) : (descending key items).Perm items :=
  List.mergeSort_perm _ _

theorem pairwise_descending (items : List α) :
    (descending key items).Pairwise fun first second => key second ≤ key first := by
  have total : forall first second : α,
      (decide (key second ≤ key first) || decide (key first ≤ key second)) = true := by
    intro first second
    rcases le_total (key second) (key first) with below | above
    · rw [decide_eq_true below, Bool.true_or]
    · rw [decide_eq_true above, Bool.or_true]
  exact (List.pairwise_mergeSort (fun first second third one other =>
    decide_eq_true ((of_decide_eq_true other).trans (of_decide_eq_true one))) total items).imp
      of_decide_eq_true

/-- With different keys the order is strict. -/
theorem strict_descending {items : List α} (distinct : (items.map key).Nodup) :
    ((descending key items).map key).Pairwise (· > ·) := by
  have differ : ((descending key items).map key).Nodup :=
    ((perm_descending items).map key).nodup_iff.2 distinct
  rw [List.pairwise_map]
  rw [List.Nodup, List.pairwise_map] at differ
  exact (pairwise_descending items).imp₂ (fun _ _ below apart => lt_of_le_of_ne below apart.symm)
    differ

/-- Two lists with the same members in descending order of different keys are
equal. -/
theorem eq_of_strict {first second : List α} (one : (first.map key).Pairwise (· > ·))
    (other : (second.map key).Pairwise (· > ·)) (same : forall item, item ∈ first ↔ item ∈ second) :
    first = second := by
  have nodup : forall {items : List α}, (items.map key).Pairwise (· > ·) -> items.Nodup :=
    fun sorted => List.Nodup.of_map key (sorted.imp fun above => ne_of_gt above)
  have perm : first.Perm second := (List.perm_ext_iff_of_nodup (nodup one) (nodup other)).2 same
  refine List.Perm.eq_of_pairwise (fun first second _ _ above below => ?_)
    (List.pairwise_map.1 one) (List.pairwise_map.1 other) perm
  exact absurd above (lt_asymm below)

/-! ## One page -/

/-- What a cursor has not passed, in order. -/
def remaining (key : α -> κ) (contents : List α) (cursor : Option κ) : List α :=
  descending key (contents.filter (isBelow key cursor))

theorem mem_remaining {contents : List α} {cursor : Option κ} {item : α} :
    item ∈ remaining key contents cursor ↔ item ∈ contents ∧ isBelow key cursor item = true :=
  (perm_descending _).mem_iff.trans List.mem_filter

theorem strict_remaining {contents : List α} (distinct : (contents.map key).Nodup)
    (cursor : Option κ) : ((remaining key contents cursor).map key).Pairwise (· > ·) :=
  strict_descending (distinct.sublist (List.filter_sublist.map key))

/-- Looking up one item more tells whether anything is left. -/
theorem page_eq (limit : Nat) (contents : List α) (cursor : Option κ) :
    page key limit contents cursor =
      if limit < (remaining key contents cursor).length then
        ⟨(remaining key contents cursor).take limit,
          ((remaining key contents cursor).take limit).getLast?.map key⟩
      else ⟨remaining key contents cursor, none⟩ := by
  unfold page
  simp only
  rw [show descending key (contents.filter (isBelow key cursor)) =
    remaining key contents cursor from rfl, List.length_take, List.take_take]
  by_cases more : limit < (remaining key contents cursor).length
  · rw [if_pos more, if_pos (lt_min (Nat.lt_succ_self limit) more), if_pos
      (lt_min (Nat.lt_succ_self limit) more), Nat.min_eq_left (Nat.le_succ limit)]
  · have none : ¬ limit < min (limit + 1) (remaining key contents cursor).length :=
      fun less => more (lt_of_lt_of_le less (min_le_right _ _))
    rw [if_neg more, if_neg none, if_neg none,
      List.take_of_length_le ((not_lt.1 more).trans (Nat.le_succ limit))]

section Page

variable {limit : Nat} {contents : List α} {cursor : Option κ}

/-- The items of a page come first of what is left, and the cursor separates
them from the others. -/
theorem page_split (positive : 0 < limit) (distinct : (contents.map key).Nodup) :
    Exists fun later => remaining key contents cursor =
        (page key limit contents cursor).items ++ later ∧
      ((page key limit contents cursor).next = none -> later = []) ∧
      forall next, (page key limit contents cursor).next = some next ->
        (Exists fun last => last ∈ (page key limit contents cursor).items ∧ key last = next) ∧
        (forall item, item ∈ (page key limit contents cursor).items -> next ≤ key item) ∧
        forall item, item ∈ later -> key item < next := by
  have sorted := strict_remaining distinct cursor
  rw [page_eq]
  by_cases more : limit < (remaining key contents cursor).length
  · rw [if_pos more]
    refine ⟨(remaining key contents cursor).drop limit, (List.take_append_drop _ _).symm, ?_, ?_⟩
    · intro none
      rw [Option.map_eq_none_iff, List.getLast?_eq_none_iff, List.take_eq_nil_iff] at none
      rcases none with zero | empty
      · exact absurd zero positive.ne'
      · rw [empty] at more
        exact absurd more (Nat.not_lt_zero _)
    · intro next found
      rcases Option.map_eq_some_iff.1 found with ⟨last, isLast, rfl⟩
      rcases List.getLast?_eq_some_iff.1 isLast with ⟨front, split⟩
      rw [← List.take_append_drop limit (remaining key contents cursor), split] at sorted
      rw [split]
      simp only [List.map_append, List.pairwise_append, List.mem_append, List.map_cons,
        List.map_nil, List.mem_singleton] at sorted
      refine ⟨⟨last, by simp, rfl⟩, fun item member => ?_, fun item member => ?_⟩
      · rcases List.mem_append.1 member with before | same
        · exact (sorted.1.2.2 _ (List.mem_map_of_mem before) _ rfl).le
        · rw [List.mem_singleton.1 same]
      · exact sorted.2.2 _ (.inr rfl) _ (List.mem_map_of_mem member)
  · rw [if_neg more]
    exact ⟨[], (List.append_nil _).symm, fun _ => rfl, nofun⟩

theorem mem_page (positive : 0 < limit) (distinct : (contents.map key).Nodup) {item : α} :
    item ∈ (page key limit contents cursor).items ↔
      item ∈ contents ∧ isBelow key cursor item = true ∧
        forall next, (page key limit contents cursor).next = some next -> next ≤ key item := by
  rcases @page_split α κ _ key limit contents cursor positive distinct with
    ⟨later, split, ended, separated⟩
  rw [← and_assoc, ← mem_remaining, split, List.mem_append]
  constructor
  · exact fun shown => ⟨.inl shown, fun next found => (separated next found).2.1 item shown⟩
  · rintro ⟨shown | unshown, above⟩
    · exact shown
    · cases found : (page key limit contents cursor).next with
      | none =>
          rw [ended found] at unshown
          cases unshown
      | some next =>
          exact absurd ((separated next found).2.2 item unshown) (above next found).not_gt

theorem strict_page (positive : 0 < limit) (distinct : (contents.map key).Nodup) :
    ((page key limit contents cursor).items.map key).Pairwise (· > ·) := by
  rcases @page_split α κ _ key limit contents cursor positive distinct with ⟨later, split, _, _⟩
  have sorted := strict_remaining distinct cursor
  rw [split, List.map_append, List.pairwise_append] at sorted
  exact sorted.1

end Page

/-! ## All pages -/

/-- What is below an item that a cursor has not passed has not been passed
either. -/
theorem isBelow_of_lt {cursor : Option κ} {first second : κ}
    (below : isBelow id cursor second = true) (less : first < second) :
    isBelow id cursor first = true := by
  cases cursor with
  | none => rfl
  | some bound => exact decide_eq_true (less.trans (of_decide_eq_true below))

section Follow

variable {limit : Nat} {contents : Nat -> List α} (positive : 0 < limit)
  (distinct : forall count, ((contents count).map key).Nodup)

include positive distinct

/-- What has been shown when the listing has ended: in order, each item once,
nothing that was not there, and everything that was there all the time. -/
theorem follow_spec {fuel count : Nat} {cursor : Option κ} {shown : List α}
    (ended : follow key limit contents fuel count cursor = some shown) :
    (shown.map key).Pairwise (· > ·) ∧
      (forall item, item ∈ shown -> isBelow key cursor item = true ∧
        Exists fun later => count ≤ later ∧ item ∈ contents later) ∧
      forall wanted, isBelow id cursor wanted = true ->
        (forall later, count ≤ later ->
          Exists fun item => item ∈ contents later ∧ key item = wanted) ->
        wanted ∈ shown.map key := by
  induction fuel generalizing count cursor shown with
  | zero => cases ended
  | succ fuel inductionHypothesis =>
      have here := @mem_page α κ _ key limit (contents count) cursor positive (distinct count)
      have sorted := @strict_page α κ _ key limit (contents count) cursor positive (distinct count)
      unfold follow at ended
      simp only at ended
      split at ended
      · rename_i last
        cases ended
        refine ⟨sorted, fun item member => ?_, fun wanted below present => ?_⟩
        · have facts := here.1 member
          exact ⟨facts.2.1, count, Nat.le_refl count, facts.1⟩
        · rcases present count (Nat.le_refl count) with ⟨item, member, rfl⟩
          exact List.mem_map_of_mem (here.2 ⟨member, below, fun next found => by
            rw [last] at found
            cases found⟩)
      · rename_i next found
        rcases Option.map_eq_some_iff.1 ended with ⟨others, onward, rfl⟩
        rcases inductionHypothesis onward with ⟨sortedOthers, origin, complete⟩
        have low : forall item, item ∈ others -> key item < next :=
          fun item member => of_decide_eq_true (origin item member).1
        have reached : isBelow id cursor next = true := by
          rcases @page_split α κ _ key limit (contents count) cursor positive (distinct count) with
            ⟨_, _, _, separated⟩
          rcases (separated next found).1 with ⟨last, member, rfl⟩
          exact (here.1 member).2.1
        refine ⟨?_, fun item member => ?_, fun wanted below present => ?_⟩
        · rw [List.map_append, List.pairwise_append]
          refine ⟨sorted, sortedOthers, fun first one second other => ?_⟩
          rcases List.mem_map.1 one with ⟨item, member, rfl⟩
          rcases List.mem_map.1 other with ⟨item', member', rfl⟩
          exact (low item' member').trans_le ((here.1 member).2.2 next found)
        · rcases List.mem_append.1 member with now | later
          · exact ⟨(here.1 now).2.1, count, Nat.le_refl count, (here.1 now).1⟩
          · rcases (origin item later).2 with ⟨moment, after, present⟩
            exact ⟨isBelow_of_lt reached (low item later), moment,
              (Nat.le_succ count).trans after, present⟩
        · rw [List.map_append, List.mem_append]
          by_cases passed : next ≤ wanted
          · rcases present count (Nat.le_refl count) with ⟨item, member, rfl⟩
            refine .inl (List.mem_map_of_mem (here.2 ⟨member, below, fun other same => ?_⟩))
            rw [found] at same
            cases same
            exact passed
          · exact .inr (complete wanted (decide_eq_true (not_le.1 passed)) fun later after =>
              present later ((Nat.le_succ count).trans after))

/-- Where only finitely many keys can turn up below a cursor, the listing
ends. -/
theorem follow_ends (keys : Finset κ)
    (closed : forall count item, item ∈ contents count -> forall bound, bound ∈ keys ->
      key item < bound -> key item ∈ keys)
    {fuel count : Nat} {cursor : Option κ}
    (start : forall item, item ∈ contents count -> isBelow key cursor item = true ->
      key item ∈ keys)
    (enough : (keys.filter fun wanted => isBelow id cursor wanted = true).card < fuel) :
    Exists fun shown => follow key limit contents fuel count cursor = some shown ∧
      forall item, item ∈ shown -> key item ∈ keys := by
  induction fuel generalizing count cursor with
  | zero => exact absurd enough (Nat.not_lt_zero _)
  | succ fuel inductionHypothesis =>
      have here := @mem_page α κ _ key limit (contents count) cursor positive (distinct count)
      have inside : forall item, item ∈ (page key limit (contents count) cursor).items ->
          key item ∈ keys := fun item member =>
        start item (here.1 member).1 (here.1 member).2.1
      unfold follow
      simp only
      cases found : (page key limit (contents count) cursor).next with
      | none => exact ⟨_, rfl, inside⟩
      | some next =>
          rcases @page_split α κ _ key limit (contents count) cursor positive (distinct count) with
            ⟨_, _, _, separated⟩
          rcases (separated next found).1 with ⟨last, member, rfl⟩
          have reached : isBelow id cursor (key last) = true := (here.1 member).2.1
          have fewer : (keys.filter fun wanted =>
                isBelow id (some (key last)) wanted = true).card <
              (keys.filter fun wanted => isBelow id cursor wanted = true).card := by
            refine Finset.card_lt_card ((Finset.ssubset_iff_of_subset fun wanted among => ?_).2
              ⟨key last, ?_, fun among => ?_⟩)
            · rw [Finset.mem_filter] at among ⊢
              exact ⟨among.1, isBelow_of_lt reached (of_decide_eq_true among.2)⟩
            · exact Finset.mem_filter.2 ⟨inside last member, reached⟩
            · exact absurd (of_decide_eq_true (Finset.mem_filter.1 among).2) (lt_irrefl (key last))
          rcases @inductionHypothesis (count + 1) (some (key last))
            (fun item present below => closed _ item present _ (inside last member)
              (of_decide_eq_true below))
            (lt_of_lt_of_le fewer (Nat.lt_succ_iff.1 enough)) with ⟨others, onward, among⟩
          refine ⟨_, congrArg (Option.map _) onward, fun item shown => ?_⟩
          exact (List.mem_append.1 shown).elim (inside item) (among item)

/-- A listing that does not change is shown as it is. -/
theorem follow_constant {items : List α} (same : forall count, contents count = items) {fuel : Nat}
    (enough : items.length < fuel) :
    follow key limit contents fuel 0 none = some (descending key items) := by
  have known : forall count item, item ∈ contents count ->
      key item ∈ (items.map key).toFinset := fun count item member =>
    List.mem_toFinset.2 (List.mem_map_of_mem (same count ▸ member))
  have bounded : ((items.map key).toFinset.filter fun wanted =>
      isBelow id none wanted = true).card < fuel := by
    refine lt_of_le_of_lt ((Finset.card_filter_le _ _).trans (List.toFinset_card_le _)) ?_
    rw [List.length_map]
    exact enough
  rcases follow_ends positive distinct _ (fun count item member _ _ _ => known count item member)
    (fun item member _ => known 0 item member) bounded with ⟨shown, ended, _⟩
  rcases follow_spec positive distinct ended with ⟨sorted, origin, complete⟩
  have unique : (items.map key).Nodup := same 0 ▸ distinct 0
  rw [ended]
  refine congrArg some (eq_of_strict sorted (strict_descending unique) fun item => ?_)
  rw [(perm_descending items).mem_iff]
  constructor
  · intro member
    rcases (origin item member).2 with ⟨moment, _, present⟩
    exact same moment ▸ present
  · intro member
    have among := complete (key item) rfl fun later _ => ⟨item, (same later).symm ▸ member, rfl⟩
    rcases List.mem_map.1 among with ⟨other, shownOther, sameKey⟩
    rcases (origin other shownOther).2 with ⟨moment, _, present⟩
    exact List.inj_on_of_nodup_map unique (same moment ▸ present) member sameKey ▸ shownOther

end Follow

end Paging
