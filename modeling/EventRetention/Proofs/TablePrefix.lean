import EventRetention.Store.Table
import Mathlib.Data.List.Induction
import Mathlib.Data.List.Nodup

/-!
A table as a list in ascending order of identifiers. The rows up to an
identifier are a prefix of it, and so are the expired rows: those before the
first row that is not older than the cutoff. A bounded delete drops a prefix,
and the target that an expiry query reads bounds exactly the expired rows.
-/

namespace EventRetention

theorem filter_append_rest {α : Type} (test : α → Bool) (rows : List α)
    (closed : rows.Pairwise fun a b => test b = true → test a = true) :
    rows.filter test ++ rows.filter (fun a => !test a) = rows := by
  induction rows with
  | nil => rfl
  | cons row rest ih =>
      obtain ⟨head, tail⟩ := List.pairwise_cons.mp closed
      by_cases hit : test row = true
      · simp only [List.filter_cons, hit, ↓reduceIte, Bool.not_true, Bool.false_eq_true,
          List.cons_append, ih tail]
      · have none : rest.filter test = [] := by
          apply List.filter_eq_nil_iff.mpr
          intro later member found
          exact hit (head later member found)
        have all : rest.filter (fun a => !test a) = rest := by
          apply List.filter_eq_self.mpr
          intro later member
          simpa using List.filter_eq_nil_iff.mp none later member
        simp [hit, none, all]

theorem early_below_late (rows : List Event) (order : rows.Pairwise fun a b => a.id < b.id)
    (count : Nat) : ∀ a ∈ rows.take count, ∀ b ∈ rows.drop count, a.id < b.id := by
  rw [← List.take_append_drop count rows] at order
  exact (List.pairwise_append.mp order).2.2

theorem ascending_last (rows : List Event) (order : rows.Pairwise fun a b => a.id < b.id)
    (e : Event) : rows.getLast? = some e ↔ e ∈ rows ∧ ∀ r ∈ rows, r.id ≤ e.id := by
  cases rows using List.reverseRecOn with
  | nil => simp
  | append_singleton front last =>
      have below := (List.pairwise_append.mp order).2.2
      rw [List.getLast?_concat, Option.some.injEq]
      constructor
      · rintro rfl
        refine ⟨by simp, fun r member => ?_⟩
        rcases List.mem_append.mp member with early | same
        · exact Int.le_of_lt (below r early last (List.mem_singleton_self last))
        · exact Int.le_of_eq (congrArg EventOf.id (List.mem_singleton.mp same))
      · rintro ⟨member, largest⟩
        rcases List.mem_append.mp member with early | same
        · have less := below e early last (List.mem_singleton_self last)
          have := largest last (by simp)
          omega
        · exact (List.mem_singleton.mp same).symm

theorem takeWhile_drop {α : Type} (test : α → Bool) (rows : List α) (count : Nat)
    (within : count ≤ (rows.takeWhile test).length) :
    (rows.drop count).takeWhile test = (rows.takeWhile test).drop count := by
  induction rows generalizing count with
  | nil => simp
  | cons row rest ih =>
      cases count with
      | zero => rfl
      | succ count =>
          by_cases hit : test row = true
          · simp only [List.takeWhile_cons, hit, ↓reduceIte, List.length_cons, List.drop_succ_cons]
              at within ⊢
            exact ih count (by omega)
          · simp [hit] at within

namespace Table

def ids (t : Table) : List Int := t.rows.map (·.id)

def upTo (t : Table) (target : Int) : List Event := t.rows.filter fun e => decide (e.id ≤ target)

def above (t : Table) (target : Int) : List Event := t.rows.filter fun e => decide (target < e.id)

def taken (t : Table) (target batch : Int) : Nat := min batch.toNat (t.upTo target).length

def dropFirst (t : Table) (count : Nat) : Table where
  rows := t.rows.drop count
  ascending := t.ascending.sublist (List.drop_sublist count t.rows)
  storable := fun e member => t.storable e (List.mem_of_mem_drop member)

theorem ext_rows (s t : Table) (same : s.rows = t.rows) : s = t := by
  cases s
  cases t
  cases same
  rfl

theorem dropFirst_dropFirst (t : Table) (gone more : Nat) :
    (t.dropFirst gone).dropFirst more = t.dropFirst (gone + more) :=
  ext_rows _ _ List.drop_drop

theorem ids_ascending (t : Table) : t.ids.Pairwise (· < ·) :=
  List.pairwise_map.mpr t.ascending

theorem ids_nodup (t : Table) : t.ids.Nodup :=
  t.ids_ascending.imp fun less => Int.ne_of_lt less

theorem id_unique (t : Table) (a b : Event) (am : a ∈ t.rows) (bm : b ∈ t.rows)
    (same : a.id = b.id) : a = b :=
  List.inj_on_of_nodup_map t.ids_nodup am bm same

/-! Rows up to an identifier, and what a bounded delete takes of them. -/

theorem mem_upTo (t : Table) (target : Int) (e : Event) :
    e ∈ t.upTo target ↔ e ∈ t.rows ∧ e.id ≤ target := by
  simp [upTo]

theorem mem_above (t : Table) (target : Int) (e : Event) :
    e ∈ t.above target ↔ e ∈ t.rows ∧ target < e.id := by
  simp [above]

theorem upTo_append_above (t : Table) (target : Int) : t.upTo target ++ t.above target = t.rows := by
  have rest : t.above target = t.rows.filter fun e => !decide (e.id ≤ target) := by
    apply List.filter_congr
    intro e _
    rw [← decide_not, decide_eq_decide]
    omega
  rw [rest]
  apply filter_append_rest
  refine t.ascending.imp fun {a b} below => ?_
  intro bound
  have := of_decide_eq_true bound
  exact decide_eq_true (by omega)

theorem upTo_eq_take (t : Table) (target : Int) :
    t.upTo target = t.rows.take (t.upTo target).length :=
  List.prefix_iff_eq_take.mp ⟨t.above target, t.upTo_append_above target⟩

theorem dropFirst_upTo (t : Table) (target : Int) :
    (t.dropFirst (t.upTo target).length).rows = t.above target := by
  change t.rows.drop (t.upTo target).length = _
  conv_lhs => rw [← t.upTo_append_above target]
  exact List.drop_left

theorem upTo_dropFirst (t : Table) (target : Int) (count : Nat) :
    (t.dropFirst count).upTo target = (t.upTo target).drop count := by
  change (t.rows.drop count).filter _ = _
  conv_lhs => rw [← t.upTo_append_above target, List.drop_append, List.filter_append]
  have below : ∀ e ∈ (t.upTo target).drop count, decide (e.id ≤ target) = true := by
    intro e member
    simpa using ((t.mem_upTo target e).mp (List.mem_of_mem_drop member)).2
  have beyond : ∀ e ∈ (t.above target).drop (count - (t.upTo target).length),
      ¬ decide (e.id ≤ target) = true := by
    intro e member
    simpa using ((t.mem_above target e).mp (List.mem_of_mem_drop member)).2
  rw [List.filter_eq_self.mpr below, List.filter_eq_nil_iff.mpr beyond, List.append_nil]

theorem upTo_length_dropFirst (t : Table) (target : Int) (count : Nat) :
    ((t.dropFirst count).upTo target).length = (t.upTo target).length - count := by
  rw [upTo_dropFirst, List.length_drop]

theorem upTo_mono (t : Table) (low high : Int) (order : low ≤ high) :
    (t.upTo low).length ≤ (t.upTo high).length := by
  apply List.Sublist.length_le
  apply List.monotone_filter_right
  intro e below
  simp only [decide_eq_true_eq] at below ⊢
  omega

theorem taken_le (t : Table) (target batch : Int) : t.taken target batch ≤ (t.upTo target).length :=
  Nat.min_le_right _ _

theorem length_take_taken (t : Table) (target batch : Int) :
    (t.rows.take (t.taken target batch)).length = t.taken target batch := by
  have bound := t.taken_le target batch
  have within : (t.upTo target).length ≤ t.rows.length := List.length_filter_le _ _
  rw [List.length_take]
  omega

theorem eligible_eq_take (t : Table) (target batch : Int) :
    t.eligible target batch.toNat = t.rows.take (t.taken target batch) := by
  change (t.upTo target).take batch.toNat = _
  conv_lhs => rw [upTo_eq_take, List.take_take]
  rfl

/-- Keeping the rows outside a prefix drops the prefix: no row stands twice. -/
theorem keep_rest (t : Table) (count : Nat) :
    (t.keep fun e => !(t.rows.take count).contains e) = t.dropFirst count := by
  apply ext_rows
  change t.rows.filter _ = t.rows.drop count
  -- The identifiers tell the rows of the prefix from the rest.
  have apart := early_below_late t.rows t.ascending count
  generalize same : t.rows.take count = early at apart ⊢
  have gone : ∀ e ∈ early, ¬ (!early.contains e) = true := by
    intro e member
    simp [member]
  have kept : ∀ e ∈ t.rows.drop count, (!early.contains e) = true := by
    intro e later
    have absent : e ∉ early := fun member => Int.lt_irrefl _ (apart e member e later)
    simp [absent]
  conv_lhs => rw [← List.take_append_drop count t.rows, List.filter_append, same]
  rw [List.filter_eq_nil_iff.mpr gone, List.filter_eq_self.mpr kept, List.nil_append]

theorem deleteBatch_eq (t : Table) (target batch : Int) (reach : Storable target)
    (fits : Storable batch) :
    t.deleteBatch target batch =
      .ok (t.dropFirst (t.taken target batch), t.taken target batch) := by
  have count : (t.eligible target batch.toNat).length = t.taken target batch := by
    rw [eligible_eq_take, length_take_taken]
  simp only [deleteBatch, reach, fits, decide_true, Bool.and_self, Bool.not_true,
    Bool.false_eq_true, ↓reduceIte, count]
  rw [eligible_eq_take, keep_rest]
  rfl

theorem deleteBatch_unstorable (t : Table) (target batch : Int)
    (outside : ¬ (Storable target ∧ Storable batch)) :
    t.deleteBatch target batch = .error .integerNotStorable := by
  have refused : (!(decide (Storable target) && decide (Storable batch))) = true := by
    simpa only [Bool.not_eq_true', Bool.and_eq_false_iff, decide_eq_false_iff_not,
      ← not_and_or] using outside
  simp only [deleteBatch, refused, ↓reduceIte]
  rfl

/-! The expired rows. -/

theorem expired_eq_takeWhile (t : Table) (cutoff : Instant) :
    t.expired cutoff = t.rows.takeWhile fun e => decide (e.createTime < cutoff) := by
  unfold expired boundary?
  have order := t.ascending
  generalize t.rows = rows at order ⊢
  induction rows with
  | nil => rfl
  | cons row rest ih =>
      obtain ⟨later, tail⟩ := List.pairwise_cons.mp order
      by_cases live : cutoff ≤ row.createTime
      · have young : ¬ row.createTime < cutoff := Int.not_lt.mpr live
        -- This row is the boundary, and no row from it on is below it.
        have none : ∀ e ∈ row :: rest, ¬ (decide (e.createTime < cutoff) &&
            (some row.id).all fun b => decide (e.id < b)) = true := by
          intro e member
          rcases List.mem_cons.mp member with same | inside
          · subst e
            simp [young]
          · have := later e inside
            have past : ¬ e.id < row.id := by omega
            simp [past]
        simp only [List.find?_cons, live, decide_true, Option.map_some]
        rw [List.filter_eq_nil_iff.mpr none]
        simp [young]
      · have old : row.createTime < cutoff := Int.not_le.mp live
        -- Any boundary comes later, so this row is below it.
        have below : ((rest.find? fun e => decide (cutoff ≤ e.createTime)).map (·.id)).all
            (fun b => decide (row.id < b)) = true := by
          cases found : rest.find? fun e => decide (cutoff ≤ e.createTime) with
          | none => rfl
          | some e => simpa using later e (List.mem_of_find?_eq_some found)
        simp only [List.find?_cons, live, decide_false, List.filter_cons, old, decide_true, below,
          Bool.and_self, ↓reduceIte, List.takeWhile_cons]
        exact congrArg (List.cons row) (ih tail)

/-- With some expired rows gone the others are still expired. -/
theorem expired_dropFirst (t : Table) (cutoff : Instant) (count : Nat)
    (within : count ≤ (t.expired cutoff).length) :
    (t.dropFirst count).expired cutoff = (t.expired cutoff).drop count := by
  rw [expired_eq_takeWhile] at within
  rw [expired_eq_takeWhile, expired_eq_takeWhile]
  exact takeWhile_drop _ t.rows count within

theorem expired_older (t : Table) (cutoff : Instant) (e : Event) (member : e ∈ t.expired cutoff) :
    e.createTime < cutoff := by
  have test := (List.mem_filter.mp member).2
  simp only [Bool.and_eq_true, decide_eq_true_eq] at test
  exact test.1

/-- The target of an expiry query is the identifier of an expired row, and the
    rows up to it are exactly the expired ones. -/
theorem upTo_target (t : Table) (cutoff : Instant) (target : Int)
    (read : (t.expiry cutoff).2 = some target) : t.upTo target = t.expired cutoff := by
  obtain ⟨member, largest⟩ := List.max?_eq_some_iff.mp read
  obtain ⟨last, old, same⟩ := List.mem_map.mp member
  -- The target stands at the end of the expired prefix.
  have split : t.rows = t.expired cutoff ++
      t.rows.dropWhile fun e => decide (e.createTime < cutoff) := by
    rw [expired_eq_takeWhile]
    exact List.takeWhile_append_dropWhile.symm
  have apart := t.ascending
  rw [split] at apart
  have across := (List.pairwise_append.mp apart).2.2
  unfold upTo
  rw [split, List.filter_append, List.filter_eq_self.mpr, List.filter_eq_nil_iff.mpr,
    List.append_nil]
  · intro e later
    have := across last old e later
    simp only [decide_eq_true_eq]
    omega
  · intro e early
    simpa using largest e.id (List.mem_map_of_mem early)

theorem target_member (t : Table) (cutoff : Instant) (target : Int)
    (read : (t.expiry cutoff).2 = some target) : target ∈ t.ids := by
  obtain ⟨last, old, same⟩ := List.mem_map.mp (List.max?_eq_some_iff.mp read).1
  exact List.mem_map.mpr ⟨last, (List.mem_filter.mp old).1, same⟩

theorem target_storable (t : Table) (cutoff : Instant) (target : Int)
    (read : (t.expiry cutoff).2 = some target) : Storable target := by
  obtain ⟨e, member, same⟩ := List.mem_map.mp (t.target_member cutoff target read)
  exact same ▸ t.storable e member

theorem target_none (t : Table) (cutoff : Instant) :
    (t.expiry cutoff).2 = none ↔ t.expired cutoff = [] := by
  simp [expiry, List.max?_eq_none_iff]

theorem expired_ne_nil (t : Table) (cutoff : Instant) (target : Int)
    (read : (t.expiry cutoff).2 = some target) : t.expired cutoff ≠ [] := by
  intro none
  rw [(t.target_none cutoff).mpr none] at read
  cases read

end Table

end EventRetention
