import Mathlib.Data.List.Nodup
import Mathlib.Tactic.Common

/-!
# Units of work over a database

A client of a database tracks the rows it is to insert and saves them all in one transaction. The
`Tracker` of a `DbContext` holds at most one row for each primary key, also after the row has been
saved; a row that could not be saved stays in it and is part of the next transaction.

`Tables` satisfy the constraints of their `Schema`, and `saveChanges` inserts all pending rows or
none. In every context that a client reaches, the pending rows can be inserted exactly when no
tracked row could not have been inserted at the start (`Reached.insertable_iff`): nothing that
happens in between makes up for one that could not.
-/

namespace UnitOfWork

/-- The primary key of a row, the keys of other rows that it refers to, and what the columns
admit. -/
structure Schema (Row Key : Type) where
  key : Row → Key
  references : Row → List Key
  admits : Row → Bool

variable {Row Key : Type} {S : Schema Row Key}

/-! ## Tables -/

structure Tables (S : Schema Row Key) where
  rows : List Row
  unique : (rows.map S.key).Nodup
  referential : ∀ row ∈ rows, ∀ k ∈ S.references row, k ∈ rows.map S.key

namespace Tables

def keys (t : Tables S) : List Key := t.rows.map S.key

def empty : Tables S where
  rows := []
  unique := List.nodup_nil
  referential := by rintro row ⟨⟩

/-- One transaction with these rows violates no constraint. -/
def Insertable (t : Tables S) (rows : List Row) : Prop :=
  ((t.rows ++ rows).map S.key).Nodup ∧ ∀ row ∈ rows, S.admits row = true ∧
    ∀ k ∈ S.references row, k ∈ (t.rows ++ rows).map S.key

instance [DecidableEq Key] (t : Tables S) (rows : List Row) : Decidable (t.Insertable rows) :=
  inferInstanceAs (Decidable (_ ∧ _))

theorem Insertable.new {t : Tables S} {rows : List Row} (h : t.Insertable rows) {row : Row}
    (hrow : row ∈ rows) : S.key row ∉ t.keys := by
  have hnodup := h.1
  rw [List.map_append, List.nodup_append] at hnodup
  exact fun hk => hnodup.2.2 _ hk _ (List.mem_map_of_mem hrow) rfl

def insert (t : Tables S) (rows : List Row) (h : t.Insertable rows) : Tables S where
  rows := t.rows ++ rows
  unique := h.1
  referential := by
    intro row hrow k hk
    rcases List.mem_append.mp hrow with hrow | hrow
    · rw [List.map_append]
      exact List.mem_append_left _ (t.referential row hrow k hk)
    · exact (h.2 row hrow).2 k hk

end Tables

/-! ## The change tracker -/

inductive EntityState where
  | added
  | unchanged
  deriving DecidableEq

structure Tracker (S : Schema Row Key) where
  entries : List (Row × EntityState)
  unique : (entries.map fun e => S.key e.1).Nodup

namespace Tracker

def empty : Tracker S where
  entries := []
  unique := List.nodup_nil

def rows (t : Tracker S) : List Row := t.entries.map Prod.fst

def keys (t : Tracker S) : List Key := t.entries.map fun e => S.key e.1

theorem keys_eq (t : Tracker S) : t.keys = t.rows.map S.key := (List.map_map ..).symm

/-- The rows of the next transaction. -/
def pending (t : Tracker S) : List Row :=
  (t.entries.filter fun e => e.2 = .added).map Prod.fst

/-- A row can be added unless one with its key is tracked already. -/
def add [DecidableEq Key] (t : Tracker S) (row : Row) : Option (Tracker S) :=
  if h : S.key row ∈ t.keys then none
  else some
    { entries := t.entries ++ [(row, .added)]
      unique := by
        rw [List.map_append, List.nodup_append]
        refine ⟨t.unique, List.nodup_singleton _, ?_⟩
        intro a ha b hb hab
        rw [List.map_singleton, List.mem_singleton] at hb
        rw [hab, hb] at ha
        exact h ha }

/-- All rows are saved. -/
def acceptAllChanges (t : Tracker S) : Tracker S where
  entries := t.entries.map fun e => (e.1, .unchanged)
  unique := by
    rw [List.map_map]
    exact t.unique

@[simp] theorem rows_acceptAllChanges (t : Tracker S) : t.acceptAllChanges.rows = t.rows := by
  unfold rows acceptAllChanges
  rw [List.map_map]
  rfl

@[simp] theorem pending_acceptAllChanges (t : Tracker S) : t.acceptAllChanges.pending = [] := by
  unfold pending acceptAllChanges
  rw [List.filter_map]
  simp

theorem mem_pending {t : Tracker S} {row : Row} : row ∈ t.pending ↔ (row, .added) ∈ t.entries := by
  unfold pending
  rw [List.mem_map]
  constructor
  · rintro ⟨⟨row', state⟩, hmem, rfl⟩
    obtain ⟨hmem, hstate⟩ := List.mem_filter.mp hmem
    obtain rfl : state = .added := of_decide_eq_true hstate
    exact hmem
  · intro hmem
    exact ⟨(row, .added), List.mem_filter.mpr ⟨hmem, by simp⟩, rfl⟩

theorem mem_rows {t : Tracker S} {row : Row} :
    row ∈ t.rows ↔ ∃ state, (row, state) ∈ t.entries := by
  simp [rows]

theorem pending_subset (t : Tracker S) : t.pending ⊆ t.rows :=
  fun _ hrow => mem_rows.mpr ⟨_, mem_pending.mp hrow⟩

theorem mem_acceptAllChanges {t : Tracker S} {row : Row} :
    (row, .unchanged) ∈ t.acceptAllChanges.entries ↔
      row ∈ t.pending ∨ (row, .unchanged) ∈ t.entries := by
  unfold acceptAllChanges
  rw [List.mem_map, mem_pending]
  constructor
  · rintro ⟨⟨row', state⟩, hmem, heq⟩
    obtain rfl : row' = row := congrArg Prod.fst heq
    cases state with
    | added => exact .inl hmem
    | unchanged => exact .inr hmem
  · rintro (hmem | hmem)
    · exact ⟨_, hmem, rfl⟩
    · exact ⟨_, hmem, rfl⟩

/-- Two entries with one key are the same. -/
theorem entry_inj {t : Tracker S} {e e' : Row × EntityState} (he : e ∈ t.entries)
    (he' : e' ∈ t.entries) (hkey : S.key e.1 = S.key e'.1) : e = e' :=
  List.inj_on_of_nodup_map t.unique he he' hkey

theorem nodup_pending (t : Tracker S) : (t.pending.map S.key).Nodup := by
  unfold pending
  rw [List.map_map]
  exact t.unique.sublist (List.filter_sublist.map _)

/-- Some rows are tracked on top of others. -/
def Extends (t : Tracker S) (rows : List Row) (t' : Tracker S) : Prop :=
  t'.entries = t.entries ++ rows.map fun row => (row, .added)

theorem extends_nil (t : Tracker S) : t.Extends [] t := (List.append_nil _).symm

theorem Extends.eq_of_nil {t t' : Tracker S} (h : t.Extends [] t') : t' = t := by
  obtain ⟨entries, unique⟩ := t'
  have hentries : entries = t.entries ++ [] := h
  rw [List.append_nil] at hentries
  subst hentries
  rfl

theorem Extends.trans {t t' t'' : Tracker S} {rows rows' : List Row} (h : t.Extends rows t')
    (h' : t'.Extends rows' t'') : t.Extends (rows ++ rows') t'' := by
  unfold Extends at h h' ⊢
  rw [h', h, List.map_append, List.append_assoc]

theorem Extends.rows_eq {t t' : Tracker S} {rows : List Row} (h : t.Extends rows t') :
    t'.rows = t.rows ++ rows := by
  unfold Tracker.rows
  rw [h, List.map_append, List.map_map]
  exact congrArg _ (List.map_id rows)

theorem Extends.keys {t t' : Tracker S} {rows : List Row} (h : t.Extends rows t') :
    t'.keys = t.keys ++ rows.map S.key := by
  rw [keys_eq, keys_eq, h.rows_eq, List.map_append]

theorem Extends.pending {t t' : Tracker S} {rows : List Row} (h : t.Extends rows t') :
    t'.pending = t.pending ++ rows := by
  unfold Tracker.pending
  rw [h, List.filter_append, List.map_append, List.filter_map]
  simp [Function.comp_def]

/-- Rows that are tracked on top of others have new keys. -/
theorem Extends.disjoint {t t' : Tracker S} {rows : List Row} (h : t.Extends rows t')
    {row row' : Row} (hrow : row ∈ t.rows) (hrow' : row' ∈ rows) : S.key row ≠ S.key row' := by
  have hunique : (t'.rows.map S.key).Nodup := t'.keys_eq ▸ t'.unique
  rw [h.rows_eq, List.map_append, List.nodup_append] at hunique
  exact hunique.2.2 _ (List.mem_map_of_mem hrow) _ (List.mem_map_of_mem hrow')

theorem Extends.mem_entries {t t' : Tracker S} {rows : List Row} (h : t.Extends rows t')
    {e : Row × EntityState} :
    e ∈ t'.entries ↔ e ∈ t.entries ∨ e.1 ∈ rows ∧ e.2 = .added := by
  rw [h, List.mem_append, List.mem_map]
  refine or_congr_right ?_
  constructor
  · rintro ⟨row, hrow, rfl⟩
    exact ⟨hrow, rfl⟩
  · rintro ⟨hrow, hstate⟩
    exact ⟨e.1, hrow, by rw [← hstate]⟩

variable [DecidableEq Key]

theorem add_eq_none_iff {t : Tracker S} {row : Row} : t.add row = none ↔ S.key row ∈ t.keys := by
  unfold add
  split
  · rename_i h
    exact iff_of_true rfl h
  · rename_i h
    exact iff_of_false (by rintro ⟨⟩) h

theorem extends_of_add {t t' : Tracker S} {row : Row} (h : t.add row = some t') :
    t.Extends [row] t' := by
  unfold add at h
  split at h
  · cases h
  · cases h
    rfl

end Tracker

/-! ## A context -/

structure DbContext (S : Schema Row Key) where
  tracker : Tracker S
  tables : Tables S

namespace DbContext

def start (tables : Tables S) : DbContext S := { tracker := .empty, tables := tables }

variable {tables : Tables S} {c : DbContext S}

/-- The rows of the tables are those of the start and the saved ones, which were new. -/
structure Consistent (tables : Tables S) (c : DbContext S) : Prop where
  rows : ∀ row, row ∈ c.tables.rows ↔ row ∈ tables.rows ∨ (row, .unchanged) ∈ c.tracker.entries
  fresh : ∀ row, (row, .unchanged) ∈ c.tracker.entries →
    S.admits row = true ∧ S.key row ∉ tables.keys

theorem Consistent.mem_keys (hc : Consistent tables c) {k : Key} (hk : k ∈ tables.keys) :
    k ∈ c.tables.keys := by
  obtain ⟨row, hrow, rfl⟩ := List.mem_map.mp hk
  exact List.mem_map_of_mem ((hc.rows row).mpr (.inl hrow))

variable [DecidableEq Key]

/-- `none` when the save fails: a constraint is violated, or the database cannot be reached
(`accepted`). -/
def saveChanges (c : DbContext S) (accepted : Bool) : Option (DbContext S) :=
  if h : accepted = true ∧ c.tables.Insertable c.tracker.pending then
    some
      { tracker := c.tracker.acceptAllChanges
        tables := c.tables.insert c.tracker.pending h.2 }
  else none

theorem saveChanges_eq_none_iff {c : DbContext S} {accepted : Bool} :
    c.saveChanges accepted = none ↔
      ¬ (accepted = true ∧ c.tables.Insertable c.tracker.pending) := by
  unfold saveChanges
  split
  · rename_i h
    exact iff_of_false (by rintro ⟨⟩) (not_not_intro h)
  · rename_i h
    exact iff_of_true rfl h

theorem saveChanges_eq_some {c c' : DbContext S} {accepted : Bool}
    (h : c.saveChanges accepted = some c') :
    c.tables.Insertable c.tracker.pending ∧ c'.tracker = c.tracker.acceptAllChanges ∧
      c'.tables.rows = c.tables.rows ++ c.tracker.pending := by
  unfold saveChanges at h
  split at h
  · rename_i hinsert
    cases h
    exact ⟨hinsert.2, rfl, rfl⟩
  · cases h

/-- The contexts that a client reaches from some tables. -/
inductive Reached (tables : Tables S) : DbContext S → Prop
  | start : Reached tables (start tables)
  | track {c : DbContext S} {rows : List Row} {tracker : Tracker S} (before : Reached tables c)
      (h : c.tracker.Extends rows tracker) : Reached tables { c with tracker := tracker }
  | save {c c' : DbContext S} {accepted : Bool} (before : Reached tables c)
      (h : c.saveChanges accepted = some c') : Reached tables c'

theorem Consistent.save {c' : DbContext S} {accepted : Bool} (hc : Consistent tables c)
    (h : c.saveChanges accepted = some c') : Consistent tables c' := by
  obtain ⟨hinsert, htracker, hrows⟩ := saveChanges_eq_some h
  refine ⟨fun row => ?_, fun row hrow => ?_⟩
  · rw [hrows, htracker, List.mem_append, Tracker.mem_acceptAllChanges, hc.rows, or_assoc]
    exact or_congr_right Or.comm
  · rw [htracker, Tracker.mem_acceptAllChanges] at hrow
    rcases hrow with hrow | hrow
    · exact ⟨(hinsert.2 row hrow).1, fun hk => hinsert.new hrow (hc.mem_keys hk)⟩
    · exact hc.fresh row hrow

theorem Reached.consistent (h : Reached tables c) : Consistent tables c := by
  induction h with
  | start =>
    refine ⟨fun row => ?_, fun row hrow => ?_⟩
    · exact (or_iff_left (by rintro ⟨⟩)).symm
    · cases hrow
  | @track c rows tracker before h ih =>
    have hunchanged : ∀ row, (row, .unchanged) ∈ tracker.entries ↔
        (row, .unchanged) ∈ c.tracker.entries := by
      intro row
      rw [h.mem_entries]
      simp
    refine ⟨fun row => ?_, fun row hrow => ?_⟩
    · rw [hunchanged]
      exact ih.rows row
    · exact ih.fresh row ((hunchanged row).mp hrow)
  | save before h ih => exact ih.save h

/-- **What is pending can be inserted exactly when** every tracked row could have been inserted at
the start. -/
theorem Reached.insertable_iff (h : Reached tables c)
    (hreferences : ∀ row ∈ c.tracker.rows, ∀ k ∈ S.references row, k ∈ c.tracker.keys) :
    c.tables.Insertable c.tracker.pending ↔
      ∀ row ∈ c.tracker.rows, S.admits row = true ∧ S.key row ∉ tables.keys := by
  have hc := h.consistent
  constructor
  · intro hinsert row hrow
    obtain ⟨state, he⟩ := Tracker.mem_rows.mp hrow
    cases state with
    | unchanged => exact hc.fresh row he
    | added =>
      have hpending := Tracker.mem_pending.mpr he
      exact ⟨(hinsert.2 row hpending).1, fun hk => hinsert.new hpending (hc.mem_keys hk)⟩
  · intro hnew
    refine ⟨?_, fun row hrow => ?_⟩
    · rw [List.map_append, List.nodup_append]
      refine ⟨c.tables.unique, c.tracker.nodup_pending, ?_⟩
      intro a ha b hb hab
      obtain ⟨row, hrow, rfl⟩ := List.mem_map.mp ha
      obtain ⟨row', hrow', rfl⟩ := List.mem_map.mp hb
      rcases (hc.rows row).mp hrow with hold | hsaved
      · exact (hnew _ (c.tracker.pending_subset hrow')).2 (hab ▸ List.mem_map_of_mem hold)
      · cases Tracker.entry_inj hsaved (Tracker.mem_pending.mp hrow') hab
    · have htracked := c.tracker.pending_subset hrow
      refine ⟨(hnew _ htracked).1, fun k hk => ?_⟩
      -- The row that is referred to is pending as well, or has been saved.
      have hreferred := hreferences _ htracked k hk
      rw [Tracker.keys_eq] at hreferred
      obtain ⟨row', hrow', rfl⟩ := List.mem_map.mp hreferred
      obtain ⟨state, he⟩ := Tracker.mem_rows.mp hrow'
      refine List.mem_map_of_mem (List.mem_append.mpr ?_)
      cases state with
      | added => exact .inr (Tracker.mem_pending.mpr he)
      | unchanged => exact .inl ((hc.rows row').mpr (.inr he))

end DbContext

end UnitOfWork
