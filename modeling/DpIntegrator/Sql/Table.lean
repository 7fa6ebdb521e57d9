import DpIntegrator.Effects.Executions
import Mathlib.Logic.Function.Basic
import Mathlib.Data.Int.Order.Basic
import Mathlib.Data.List.Nodup
import Mathlib.Data.List.Perm.Subperm
import Mathlib.Tactic.Set

/-!
# Tables with a primary key

A table holds at most one row for each primary key. Every statement here names the key
of one row: it reads that row, may write it, and returns the rows that it read or wrote.
Statements are atomic. What they write may depend on the time at which the database runs
them, of the type `τ`.
-/

namespace Sql

open Effects

variable {τ κ ρ α : Type}

/-- The rows of a table, by primary key. -/
abbrev Table (κ ρ : Type) := κ → Option ρ

/-- What a statement does to the row of its key; every action returns the rows it found or
left. -/
inductive Action (τ ρ : Type)
  /-- `INSERT ... ON CONFLICT DO NOTHING RETURNING *`. -/
  | insertOrNothing (row : τ → ρ)
  /-- `INSERT ... ON CONFLICT DO UPDATE SET ... RETURNING *`. -/
  | upsert (row : τ → ρ) (set : τ → ρ → ρ)
  /-- `UPDATE ... SET ... RETURNING *`. -/
  | update (set : τ → ρ → ρ)
  /-- `SELECT * ... LIMIT 1`. -/
  | select
  /-- `DELETE ... RETURNING *`. -/
  | delete

/-- A statement on the row of one key. -/
structure Statement (τ κ ρ : Type) where
  key : κ
  action : Action τ ρ

/-- What an action returns, and the row that it leaves. -/
def Action.run (now : τ) : Action τ ρ → Option ρ → List ρ × Option ρ
  | .insertOrNothing row, none => ([row now], some (row now))
  | .insertOrNothing _, some found => ([], some found)
  | .upsert row _, none => ([row now], some (row now))
  | .upsert _ set, some found => ([set now found], some (set now found))
  | .update _, none => ([], none)
  | .update set, some found => ([set now found], some (set now found))
  | .select, found => (found.toList, found)
  | .delete, found => (found.toList, none)

/-- Run a statement at the time `now`. -/
def Statement.run [DecidableEq κ] (now : τ) (s : Statement τ κ ρ) (t : Table κ ρ) :
    List ρ × Table κ ρ :=
  ((s.action.run now (t s.key)).1, Function.update t s.key (s.action.run now (t s.key)).2)

/-- The database runs a statement at some time. -/
def Step [DecidableEq κ] (s : Statement τ κ ρ) (t : Table κ ρ) (rows : List ρ) (t' : Table κ ρ) :
    Prop := ∃ now, s.run now t = (rows, t')

/-- Statements that run one after another. -/
abbrev Steps [DecidableEq κ] : Table κ ρ → List (Event (Statement τ κ ρ) fun _ => List ρ) →
    Table κ ρ → Prop := Effects.Steps Step

/-- Asynchronous functions that query a database and may throw an `E`. -/
abbrev Query (E τ κ ρ : Type) := Throwing E (Statement τ κ ρ) fun _ => List ρ

/-- `await pool.query(...)`: the returned rows. -/
def query {E : Type} (key : κ) (action : Action τ ρ) : Query E τ κ ρ (List ρ) :=
  Throwing.observe ⟨key, action⟩

/-- What `SELECT * ... WHERE keep ORDER BY time DESC LIMIT limit` may return: rows of equal
time come in any order. -/
def Selects (t : Table κ ρ) (keep : ρ → Bool) (time : ρ → ℤ) (limit : ℕ) (rows : List ρ) : Prop :=
  ∃ keys : List κ, keys.Nodup ∧ (∀ key, key ∈ keys ↔ (t key).any keep) ∧
    (keys.filterMap t).Pairwise (fun a b => time b ≤ time a) ∧
    rows = (keys.filterMap t).take limit

/-- `rows` are the rows of a table that satisfy `p`, each of them once. -/
def Enumerates (t : Table κ ρ) (p : ρ → Bool) (rows : List ρ) : Prop :=
  ∃ keys : List κ, keys.Nodup ∧ (∀ key, key ∈ keys ↔ (t key).any p) ∧ rows = keys.filterMap t

section Selects

variable {t : Table κ ρ} {keep p : ρ → Bool} {time : ρ → ℤ} {limit : ℕ} {start stop : ℤ}
  {rows all : List ρ}

theorem Enumerates.perm {rows' : List ρ} (h : Enumerates t p rows) (h' : Enumerates t p rows') :
    rows.Perm rows' := by
  obtain ⟨keys, hnodup, hkeys, rfl⟩ := h
  obtain ⟨keys', hnodup', hkeys', rfl⟩ := h'
  have hperm : keys.Perm keys' := by
    refine (List.perm_ext_iff_of_nodup hnodup hnodup').mpr fun key => ?_
    rw [hkeys, hkeys']
  exact hperm.filterMap t

/-- The rows of an enumeration that satisfy `p` are an enumeration. -/
theorem Enumerates.filter (h : Enumerates t keep rows) (p : ρ → Bool) :
    Enumerates t (fun row => keep row && p row) (rows.filter p) := by
  obtain ⟨keys, hnodup, hkeys, rfl⟩ := h
  refine ⟨keys.filter fun key => (t key).any p, hnodup.filter _, fun key => ?_, ?_⟩
  · rw [List.mem_filter, hkeys]
    cases t key <;> simp
  · rw [List.filter_filterMap, List.filterMap_filter]
    apply List.filterMap_congr
    intro key _
    cases hrow : t key with
    | none => simp
    | some row => cases hrow : p row <;> simp [hrow]

/-- A listing is the front of an enumeration, the newest rows first. -/
theorem Selects.enumerates (h : Selects t keep time limit rows) : ∃ all, Enumerates t keep all ∧
    all.Pairwise (fun a b => time b ≤ time a) ∧ rows = all.take limit := by
  obtain ⟨keys, hnodup, hkeys, hsorted, rfl⟩ := h
  exact ⟨keys.filterMap t, ⟨keys, hnodup, hkeys, rfl⟩, hsorted, rfl⟩

/-- Where the newest rows have room in a listing, it drops none of them. -/
theorem filter_take_of_newest (hsorted : all.Pairwise fun a b => time b ≤ time a)
    (hroom : all.countP (fun row => start ≤ time row) ≤ limit)
    (hp : ∀ row, p row = true → start ≤ time row) : (all.take limit).filter p = all.filter p := by
  have hold : ∀ row ∈ all.drop limit, ¬start ≤ time row := by
    intro row hrow hle
    have hsplit := List.take_append_drop limit all
    rw [← hsplit] at hsorted hroom
    have hnewer : ∀ b ∈ all.take limit, start ≤ time b := by
      intro b hb
      exact le_trans hle ((List.pairwise_append.mp hsorted).2.2 b hb row hrow)
    have htake : (all.take limit).countP (fun row => start ≤ time row) = (all.take limit).length := by
      apply List.countP_eq_length.mpr
      intro b hb
      simpa using hnewer b hb
    have hdrop : 0 < (all.drop limit).countP fun row => start ≤ time row :=
      List.countP_pos_iff.mpr ⟨row, hrow, by simpa using hle⟩
    have hlength : limit < all.length := by
      by_contra hshort
      rw [List.drop_eq_nil_of_le (by omega)] at hrow
      cases hrow
    rw [List.countP_append, htake, List.length_take] at hroom
    omega
  have hnone : (all.drop limit).filter p = [] := by
    apply List.filter_eq_nil_iff.mpr
    intro row hrow htrue
    exact hold row hrow (hp row htrue)
  calc (all.take limit).filter p = (all.take limit ++ all.drop limit).filter p := by
        rw [List.filter_append, hnone, List.append_nil]
    _ = all.filter p := by rw [List.take_append_drop]

/-- A listing with room for the rows from `start` on shows each of those that satisfy `p`. -/
theorem Selects.filter_perm (h : Selects t keep time limit rows) {newest wanted : List κ}
    (hlength : newest.length ≤ limit)
    (hnewest : ∀ key row, t key = some row → keep row = true → start ≤ time row → key ∈ newest)
    (hp : ∀ row, p row = true → start ≤ time row) (hdistinct : wanted.Nodup)
    (hwanted : ∀ key, key ∈ wanted ↔ (t key).any fun row => keep row && p row) :
    (rows.filter p).Perm (wanted.filterMap t) := by
  obtain ⟨all, henumerates, hsorted, rfl⟩ := h.enumerates
  have hroom : all.countP (fun row => start ≤ time row) ≤ limit := by
    obtain ⟨keys, hnodup, hkeys, hrows⟩ := henumerates.filter fun row => decide (start ≤ time row)
    rw [List.countP_eq_length_filter, hrows]
    refine Nat.le_trans (List.length_filterMap_le ..) ?_
    refine Nat.le_trans (hnodup.subperm fun key hkey => ?_).length_le hlength
    obtain ⟨row, hrow, hkept⟩ := (Option.any_eq_true _ _).mp ((hkeys key).mp hkey)
    obtain ⟨hkeep, hstart⟩ := Bool.and_eq_true_iff.mp hkept
    exact hnewest key row hrow hkeep (of_decide_eq_true hstart)
  rw [filter_take_of_newest hsorted hroom hp]
  exact (henumerates.filter p).perm ⟨wanted, hdistinct, hwanted, rfl⟩

/-- In a listing, the newest first, the rows from a time on stand before the others. -/
theorem eq_newer_append_older (hsorted : all.Pairwise fun a b => time b ≤ time a) (v : ℤ) :
    all = (all.filter fun row => v ≤ time row) ++ all.filter fun row => !decide (v ≤ time row) := by
  induction all with
  | nil => rfl
  | cons a all ih =>
    obtain ⟨hfirst, hrest⟩ := List.pairwise_cons.mp hsorted
    by_cases hnewer : v ≤ time a
    · simp only [List.filter_cons, hnewer, decide_true, if_true, Bool.not_true, Bool.false_eq_true,
        if_false, List.cons_append]
      exact congrArg (a :: ·) (ih hrest)
    · have hold : ∀ b ∈ all, ¬v ≤ time b := fun b hb hle => hnewer (le_trans hle (hfirst b hb))
      have hnone : all.filter (fun row => v ≤ time row) = [] := by
        apply List.filter_eq_nil_iff.mpr
        intro b hb htrue
        exact hold b hb (of_decide_eq_true htrue)
      have hall : all.filter (fun row => !decide (v ≤ time row)) = all := by
        apply List.filter_eq_self.mpr
        intro b hb
        simp [hold b hb]
      simp only [List.filter_cons, hnewer, decide_false, Bool.false_eq_true, if_false, Bool.not_false,
        if_true, hnone, hall, List.nil_append]

/-- Of the rows that a listing takes, those of a window are as many as fit after the later ones. -/
theorem filter_take_of_window (hsorted : all.Pairwise fun a b => time b ≤ time a) (limit : ℕ) :
    (all.take limit).filter (fun row => start ≤ time row && time row < stop) =
      (all.filter fun row => start ≤ time row && time row < stop).take
        (limit - (all.filter fun row => stop ≤ time row).length) := by
  have hsplit := eq_newer_append_older hsorted stop
  set newer := all.filter fun row => stop ≤ time row with hnewer
  set older := all.filter fun row => !decide (stop ≤ time row) with holder
  have holdest := eq_newer_append_older (hsorted.filter fun row => !decide (stop ≤ time row)) start
  rw [← holder] at holdest
  set window := older.filter fun row => start ≤ time row with hwindow
  set oldest := older.filter fun row => !decide (start ≤ time row) with hrest
  have hnone : newer.filter (fun row => start ≤ time row && time row < stop) = [] := by
    apply List.filter_eq_nil_iff.mpr
    intro row hrow
    have hlate := of_decide_eq_true (List.mem_filter.mp hrow).2
    simp only [Bool.and_eq_true, decide_eq_true_eq]
    omega
  have hall : window.filter (fun row => start ≤ time row && time row < stop) = window := by
    apply List.filter_eq_self.mpr
    intro row hrow
    obtain ⟨hmem, hstart⟩ := List.mem_filter.mp hrow
    have hstop := (List.mem_filter.mp hmem).2
    simp only [Bool.not_eq_true', decide_eq_false_iff_not] at hstop
    simp only [Bool.and_eq_true, decide_eq_true_eq]
    exact ⟨of_decide_eq_true hstart, by omega⟩
  have hold : oldest.filter (fun row => start ≤ time row && time row < stop) = [] := by
    apply List.filter_eq_nil_iff.mpr
    intro row hrow
    have hstart := (List.mem_filter.mp hrow).2
    simp only [Bool.not_eq_true', decide_eq_false_iff_not] at hstart
    simp only [Bool.and_eq_true, decide_eq_true_eq]
    omega
  have htaken {rows : List ρ} {p : ρ → Bool} {n : ℕ} (h : rows.filter p = []) :
      (rows.take n).filter p = [] := by
    apply List.filter_eq_nil_iff.mpr
    intro row hrow
    exact List.filter_eq_nil_iff.mp h row (List.mem_of_mem_take hrow)
  have hself {n : ℕ} : (window.take n).filter (fun row => start ≤ time row && time row < stop) =
      window.take n := by
    apply List.filter_eq_self.mpr
    intro row hrow
    exact List.filter_eq_self.mp hall row (List.mem_of_mem_take hrow)
  rw [hsplit, holdest, List.take_append, List.take_append, List.filter_append, List.filter_append,
    htaken hnone, htaken hold, hself, List.filter_append, List.filter_append, hnone, hall, hold,
    List.nil_append, List.nil_append, List.append_nil, List.append_nil]

/-- What a listing shows of a window: as many of its rows as fit after the later ones. -/
theorem Selects.window (h : Selects t keep time limit rows) {inside later : List ρ}
    (hinside : Enumerates t (fun row => keep row && (start ≤ time row && time row < stop)) inside)
    (hlater : Enumerates t (fun row => keep row && stop ≤ time row) later) :
    ∃ window : List ρ, window.Perm inside ∧
      rows.filter (fun row => start ≤ time row && time row < stop) =
        window.take (limit - later.length) := by
  obtain ⟨all, henumerates, hsorted, rfl⟩ := h.enumerates
  have hnewest := (henumerates.filter fun row => decide (stop ≤ time row)).perm hlater
  refine ⟨all.filter fun row => start ≤ time row && time row < stop,
    (henumerates.filter _).perm hinside, ?_⟩
  rw [← hnewest.length_eq]
  exact filter_take_of_window hsorted limit
/-- Where rows that are counted in one table have counterparts in another, under the same key, at
least as many are counted there. -/
theorem Enumerates.countP_le {t' : Table κ ρ} {p' r r' : ρ → Bool} {rows' : List ρ}
    (h : Enumerates t p rows) (h' : Enumerates t' p' rows')
    (hkept : ∀ key row, t key = some row → p row = true → r row = true →
      ∃ row', t' key = some row' ∧ p' row' = true ∧ r' row' = true) :
    rows.countP r ≤ rows'.countP r' := by
  obtain ⟨keys, hnodup, hkeys, rfl⟩ := h
  obtain ⟨keys', hnodup', hkeys', rfl⟩ := h'
  rw [List.countP_filterMap, List.countP_filterMap, List.countP_eq_length_filter,
    List.countP_eq_length_filter]
  refine List.Subperm.length_le (List.subperm_of_subset (hnodup.filter _) fun key hkey => ?_)
  obtain ⟨hmem, hcounted⟩ := List.mem_filter.mp hkey
  obtain ⟨row, hrow, hp⟩ := (Option.any_eq_true _ _).mp ((hkeys key).mp hmem)
  rw [hrow] at hcounted
  obtain ⟨row', hrow', hp', hr'⟩ := hkept key row hrow hp hcounted
  refine List.mem_filter.mpr ⟨(hkeys' key).mpr ?_, ?_⟩
  · rw [hrow']
    exact hp'
  · rw [hrow']
    exact hr'

section Keyed

variable {keyOf : ρ → κ}

/-- The enumerations of a table whose rows name their own keys. -/
theorem enumerates_iff (hkeyed : ∀ key row, t key = some row → keyOf row = key) :
    Enumerates t p rows ↔ (rows.map keyOf).Nodup ∧
      ∀ row, row ∈ rows ↔ t (keyOf row) = some row ∧ p row = true := by
  constructor
  · rintro ⟨keys, hnodup, hkeys, rfl⟩
    have hmap : (keys.filterMap t).map keyOf = keys := by
      rw [List.map_filterMap]
      refine (List.filterMap_congr fun key hkey => ?_).trans List.filterMap_some
      obtain ⟨row, hrow, _⟩ := (Option.any_eq_true _ _).mp ((hkeys key).mp hkey)
      rw [hrow, Option.map_some, hkeyed key row hrow]
    refine ⟨hmap.symm ▸ hnodup, fun row => ?_⟩
    rw [List.mem_filterMap]
    constructor
    · rintro ⟨key, hkey, hrow⟩
      obtain ⟨row', hrow', hp⟩ := (Option.any_eq_true _ _).mp ((hkeys key).mp hkey)
      rw [hrow] at hrow'
      obtain rfl := Option.some.inj hrow'
      rw [hkeyed key row hrow]
      exact ⟨hrow, hp⟩
    · rintro ⟨hrow, hp⟩
      exact ⟨keyOf row, (hkeys _).mpr (by rw [hrow]; exact hp), hrow⟩
  · rintro ⟨hnodup, hmem⟩
    refine ⟨rows.map keyOf, hnodup, fun key => ?_, ?_⟩
    · rw [List.mem_map]
      constructor
      · rintro ⟨row, hrow, rfl⟩
        obtain ⟨hfound, hp⟩ := (hmem row).mp hrow
        rw [hfound]
        exact hp
      · intro hany
        obtain ⟨row, hrow, hp⟩ := (Option.any_eq_true _ _).mp hany
        obtain rfl := hkeyed key row hrow
        exact ⟨row, (hmem row).mpr ⟨hrow, hp⟩, rfl⟩
    · rw [List.filterMap_map]
      refine ((List.filterMap_congr fun row hrow => ?_).trans List.filterMap_some).symm
      exact ((hmem row).mp hrow).1

end Keyed

end Selects

section Step

variable [DecidableEq κ] {s : Statement τ κ ρ} {t t' : Table κ ρ} {rows : List ρ}

/-- A statement returns what its action does with the row of its key. -/
theorem step_iff : Step s t rows t' ↔ ∃ now, (s.action.run now (t s.key)).1 = rows ∧
    t' = Function.update t s.key (s.action.run now (t s.key)).2 := by
  unfold Step Statement.run
  simp only [Prod.mk.injEq, eq_comm]

/-- A statement leaves the rows of other keys as they are. -/
theorem Step.eq_of_ne (h : Step s t rows t') {key : κ} (hkey : key ≠ s.key) : t' key = t key := by
  obtain ⟨now, _, rfl⟩ := step_iff.mp h
  exact Function.update_of_ne hkey ..

/-- Statements on the row of one key leave the rows of other keys as they are. -/
theorem Steps.eq_of_ne {tr : List (Event (Statement τ κ ρ) fun _ => List ρ)} (h : Steps t tr t')
    {key : κ} (hkey : ∀ ev ∈ tr, key ≠ ev.1.key) : t' key = t key :=
  Effects.Steps.frame h (f := fun t => t key) fun ev hev _ _ hs => hs.eq_of_ne (hkey ev hev)

end Step

section Exec

variable [DecidableEq κ] {E : Type} {t t' : Table κ ρ} {res : Except E α}
  {tr : List (Event (Statement τ κ ρ) fun _ => List ρ)}

/-- A query can run at any time, if what follows it can. -/
theorem exists_exec_query {key : κ} {action : Action τ ρ} {f : List ρ → Query E τ κ ρ α} (now : τ)
    (h : ∃ tr, Exec Step (f (action.run now (t key)).1).run
      (Function.update t key (action.run now (t key)).2) tr res t') :
    ∃ tr, Exec Step (query key action >>= f).run t tr res t' := by
  obtain ⟨tr, hruns, hsteps⟩ := h
  have hquery : Settles (query key action : Query E τ κ ρ (List ρ))
      [⟨⟨key, action⟩, (action.run now (t key)).1⟩] (.ok (action.run now (t key)).1) :=
    settles_observe.mpr ⟨_, rfl, rfl⟩
  exact ⟨_, settles_bind.mpr (.inr ⟨_, _, tr, rfl, hquery, hruns⟩), .cons ⟨now, rfl⟩ hsteps⟩

theorem exists_exec_pure {a : α} :
    ∃ tr, Exec Step (pure a : Query E τ κ ρ α).run t tr (.ok a) t :=
  ⟨[], settles_pure.mpr ⟨rfl, rfl⟩, .nil _⟩

/-- What follows a query goes on from the rows that the statement returned, with the table
that it left. -/
theorem exec_query {key : κ} {action : Action τ ρ} {f : List ρ → Query E τ κ ρ α}
    (h : Exec Step (query key action >>= f).run t tr res t') :
    ∃ now tr', Exec Step (f (action.run now (t key)).1).run
      (Function.update t key (action.run now (t key)).2) tr' res t' := by
  obtain ⟨e, rfl, hquery, _⟩ | ⟨rows, t₁, tr₁, tr₂, ⟨hquery, hsteps⟩, hrest⟩ := exec_bind h
  · obtain ⟨_, _, he⟩ := settles_observe.mp hquery
    cases he
  obtain ⟨_, rfl, hrows⟩ := settles_observe.mp hquery
  cases hrows
  obtain ⟨table, hstep, hnil⟩ := steps_cons.mp hsteps
  obtain rfl := steps_nil.mp hnil
  obtain ⟨now, hreturned, htable⟩ := step_iff.mp hstep
  have hreturned : (action.run now (t key)).1 = rows := hreturned
  subst hreturned
  subst htable
  exact ⟨now, tr₂, hrest⟩

end Exec

end Sql
