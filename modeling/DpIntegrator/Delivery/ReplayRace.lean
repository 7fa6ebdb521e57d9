import DpIntegrator.Delivery.AtMostOnce
import DpIntegrator.Delivery.Replays

/-!
# Replays that race deliveries

A replay looks up the row and deletes it in two calls. What it deletes is the row as it is
at the deletion, which is a synced row exactly when the last write between the two calls
was the record of an import.
-/

namespace DpIntegrator

open Effects

variable {w w' : World} {key : String} {tr : List Ev}

/-! ## Which write made a row synced -/

/-- A call that wrote the row of `key`. -/
def WritesRow (key : String) (ev : Ev) : Prop :=
  ∃ parts row, World.rowWritten ev = some (parts, row) ∧ dedupKey parts = .ok key

/-- A record of an import that wrote the row of `key`. -/
def RecordsImport (key : String) (ev : Ev) : Prop :=
  ∃ parts targetId externalId row,
    ev = answered (.recordSuccess parts targetId externalId) (.ok row) ∧ dedupKey parts = .ok key

/-- The last call of `tr` that wrote the row of `key` recorded an import. -/
def RecordedLast (key : String) (tr : List Ev) : Prop :=
  ∃ before ev after, tr = before ++ ev :: after ∧ RecordsImport key ev ∧
    Only (fun ev => ¬WritesRow key ev) after

theorem recordedLast_cons {ev : Ev} : RecordedLast key (ev :: tr) ↔
    RecordedLast key tr ∨ RecordsImport key ev ∧ Only (fun ev => ¬WritesRow key ev) tr := by
  constructor
  · rintro ⟨before, ev', after, heq, hrecords, hafter⟩
    obtain ⟨rfl, heq⟩ | ⟨before', rfl, rfl⟩ := List.cons_eq_append_iff.mp heq
    · obtain ⟨rfl, rfl⟩ := List.cons.inj heq
      exact .inr ⟨hrecords, hafter⟩
    · exact .inl ⟨before', ev', after, rfl, hrecords, hafter⟩
  · rintro (⟨before, ev', after, rfl, hrecords, hafter⟩ | ⟨hrecords, hafter⟩)
    · exact ⟨ev :: before, ev', after, rfl, hrecords, hafter⟩
    · exact ⟨[], ev, tr, rfl, hrecords, hafter⟩

theorem RecordsImport.writesRow {ev : Ev} (h : RecordsImport key ev) : WritesRow key ev := by
  obtain ⟨parts, targetId, externalId, row, rfl, hkey⟩ := h
  exact ⟨parts, some row, rfl, hkey⟩

/-- What a call wrote as the row of `key` is there afterwards. -/
theorem World.XrefChange.row_eq_written {rows rows' : XrefRows} {ev : Ev} {parts : DedupKeyParts}
    {row : Option XrefRow} (h : XrefChange rows ev rows')
    (hwritten : rowWritten ev = some (parts, row)) (hkey : dedupKey parts = .ok key) :
    rows' key = row := by
  have hput {k : String} {parts' : DedupKeyParts} {value : Option XrefRow}
      (hev : rowWritten ev = some (parts', value)) (hkey' : dedupKey parts' = .ok k) :
      Function.update rows k value key = row := by
    rw [hev] at hwritten
    cases hwritten
    obtain rfl := Except.ok.inj (hkey.symm.trans hkey')
    exact Function.update_self ..
  cases h with
  | same hquiet => simp [hquiet] at hwritten
  | claimed hkey' => exact hput rfl hkey'
  | synced hkey' => exact hput rfl hkey'
  | failed hkey' => exact hput rfl hkey'
  | ignored hkey' => exact hput rfl hkey'
  | deleted hkey' => exact hput rfl hkey'

/-- A call that does not write the row of `key` leaves it as it is. -/
theorem World.XrefChange.row_eq_of_quiet {rows rows' : XrefRows} {ev : Ev}
    (h : XrefChange rows ev rows') (hquiet : ¬WritesRow key ev) : rows' key = rows key := by
  have hput {k : String} {parts : DedupKeyParts} {value : Option XrefRow}
      (hev : rowWritten ev = some (parts, value)) (hkey : dedupKey parts = .ok k) :
      Function.update rows k value key = rows key := by
    refine Function.update_of_ne ?_ ..
    rintro rfl
    exact hquiet ⟨parts, value, hev, hkey⟩
  cases h with
  | same => rfl
  | claimed hkey => exact hput rfl hkey
  | synced hkey => exact hput rfl hkey
  | failed hkey => exact hput rfl hkey
  | ignored hkey => exact hput rfl hkey
  | deleted hkey => exact hput rfl hkey

theorem World.Steps.row_eq_of_quiet (h : World.Steps w tr w')
    (hquiet : Only (fun ev => ¬WritesRow key ev) tr) : w'.xref key = w.xref key :=
  h.frame (f := fun w => w.xref key) fun ev hev _ _ hs =>
    hs.xrefChange.row_eq_of_quiet (hquiet ev hev)

/-- One call leaves the row synced exactly when it records an import, or does not write the
row of `key`, which was synced before. -/
theorem World.XrefChange.synced_iff {rows rows' : XrefRows} {ev : Ev}
    (h : XrefChange rows ev rows') :
    (rows' key).map XrefRow.status = some .synced ↔
      RecordsImport key ev ∨ (rows key).map XrefRow.status = some .synced ∧ ¬WritesRow key ev := by
  -- A write of the row of `k`, which is the row of `key` or another one.
  have hput {k : String} {parts : DedupKeyParts} {value : Option XrefRow}
      (hev : rowWritten ev = some (parts, value)) (hkey : dedupKey parts = .ok k)
      (hrecords : RecordsImport key ev ↔ k = key ∧ value.map XrefRow.status = some .synced) :
      (Function.update rows k value key).map XrefRow.status = some .synced ↔
        RecordsImport key ev ∨
          (rows key).map XrefRow.status = some .synced ∧ ¬WritesRow key ev := by
    by_cases hk : k = key
    · subst hk
      have hwrites : WritesRow k ev := ⟨parts, value, hev, hkey⟩
      simp [hrecords, hwrites]
    · have hquiet : ¬WritesRow key ev := by
        rintro ⟨parts', row, hev', hkey'⟩
        rw [hev] at hev'
        cases hev'
        exact hk (Except.ok.inj (hkey.symm.trans hkey'))
      rw [Function.update_of_ne (Ne.symm hk)]
      simp [hrecords, hquiet, hk]
  have hother {k : String} {value : Option XrefRow}
      (hne : ∀ parts targetId externalId row,
        ev ≠ answered (.recordSuccess parts targetId externalId) (.ok row))
      (hstatus : value.map XrefRow.status ≠ some .synced) :
      RecordsImport key ev ↔ k = key ∧ value.map XrefRow.status = some .synced := by
    constructor
    · rintro ⟨parts, targetId, externalId, row, heq, _⟩
      exact absurd heq (hne _ _ _ _)
    · rintro ⟨_, h⟩
      exact absurd h hstatus
  cases h with
  | same hquiet =>
    have hwrites : ¬WritesRow key ev := by
      rintro ⟨parts, row, hev, _⟩
      rw [hquiet] at hev
      cases hev
    have hrecords : ¬RecordsImport key ev := fun hrecords => hwrites hrecords.writesRow
    simp [hwrites, hrecords]
  | claimed hkey => exact hput rfl hkey (hother (by simp) (by simp [ClaimInput.newRow]))
  | failed hkey _ hstatus => exact hput rfl hkey (hother (by simp) (by simp [hstatus]))
  | ignored hkey hstatus => exact hput rfl hkey (hother (by simp) (by simp [hstatus]))
  | deleted hkey => exact hput rfl hkey (hother (by simp) (by simp))
  | @synced parts targetId externalId k row hkey _ hstatus _ =>
    refine hput rfl hkey ⟨?_, ?_⟩
    · rintro ⟨parts', targetId', externalId', row', heq, hkey'⟩
      cases heq
      exact ⟨Except.ok.inj (hkey.symm.trans hkey'), by simp [hstatus]⟩
    · rintro ⟨rfl, _⟩
      exact ⟨parts, targetId, externalId, row, rfl, hkey⟩

/-- Induction on the calls: the row is synced at the end exactly when the last write of it
recorded an import, or it was synced and never written. -/
theorem World.Steps.synced_iff (h : World.Steps w tr w') : w'.status key = some .synced ↔
    RecordedLast key tr ∨
      w.status key = some .synced ∧ Only (fun ev => ¬WritesRow key ev) tr := by
  induction h with
  | nil w => simp [RecordedLast, Only]
  | @cons c r w w₁ w' tr hstep _ ih =>
    have hev : w₁.status key = some .synced ↔ RecordsImport key ⟨c, r⟩ ∨
        w.status key = some .synced ∧ ¬WritesRow key ⟨c, r⟩ :=
      (World.Step.xrefChange hstep).synced_iff
    have hcons : Only (fun ev => ¬WritesRow key ev) (⟨c, r⟩ :: tr) ↔
        ¬WritesRow key ⟨c, r⟩ ∧ Only (fun ev => ¬WritesRow key ev) tr := List.forall_mem_cons
    rw [ih, recordedLast_cons, hev, hcons]
    tauto

/-! ## The window of a replay -/

section Window

variable {ι : Type} {threads : ι → Thread} {log : List (ι × Ev)} {i : ι} {parts : DedupKeyParts}

/-- Thread `i` looked up the row of `parts` and was answered `found`, then the calls of
`during` were made, and then thread `i` deleted the row, which removed `removed`. -/
def Window (log : List (ι × Ev)) (i : ι) (parts : DedupKeyParts) (found : Option XrefRow)
    (during : List Ev) (removed : Option XrefRow) : Prop :=
  ∃ before mid after,
    log = before ++ (i, answered (.lookupXref parts) (.ok found)) ::
      (mid ++ (i, answered (.deleteXref parts) (.ok removed)) :: after) ∧
    during = mid.map Prod.snd

/-- What a window removes is synced exactly when the last write in it recorded an import, or
what was found is synced and was not written since. -/
theorem Window.synced_iff {found removed : Option XrefRow} {during : List Ev}
    (h : Window log i parts found during removed) (hsteps : w.Steps (log.map Prod.snd) w')
    (hkey : dedupKey parts = .ok key) : removed.map XrefRow.status = some .synced ↔
      RecordedLast key during ∨
        found.map XrefRow.status = some .synced ∧ Only (fun ev => ¬WritesRow key ev) during := by
  obtain ⟨before, mid, after, rfl, rfl⟩ := h
  rw [List.map_append, List.map_cons, List.map_append, List.map_cons] at hsteps
  obtain ⟨w₁, _, hrest⟩ := steps_append.mp hsteps
  obtain ⟨w₂, hlookup, hrest₁⟩ := steps_cons.mp hrest
  obtain ⟨w₃, hduring, hrest₂⟩ := steps_append.mp hrest₁
  obtain ⟨w₄, hdelete, _⟩ := steps_cons.mp hrest₂
  obtain ⟨key₁, hkey₁, rfl, rfl⟩ := World.Step.lookupXref_ok hlookup
  obtain ⟨key₂, hkey₂, rfl, _⟩ := World.Step.deleteXref_ok hdelete
  obtain rfl : key₁ = key := Except.ok.inj (hkey₁.symm.trans hkey)
  obtain rfl : key₂ = key₁ := Except.ok.inj (hkey₂.symm.trans hkey)
  exact World.Steps.synced_iff hduring

variable [DecidableEq ι]

/-- A replay that does not force deletes in a window that found a row that is not synced. -/
theorem window_of_delete {req : ReplayRequest} {removed : Option XrefRow}
    (h : World.Interleaves threads w log w') (hthread : threads i = .runs (.replay req))
    (hforce : req.force = false)
    (hdelete : (i, answered (.deleteXref req.parts) (.ok removed)) ∈ log) :
    ∃ existing during, Window log i req.parts (some existing) during removed ∧
      existing.status ≠ .synced := by
  obtain ⟨pre, after, rfl⟩ := List.append_of_mem hdelete
  have hlocal : Partial (Thread.runs (.replay req)).program.run
      (callsOf i (pre ++ (i, answered (.deleteXref req.parts) (.ok removed)) :: after)) :=
    hthread ▸ h.local_ i
  obtain ⟨rest, out, hsettles⟩ := Thread.runs_settles hlocal
  have hrun := requestReplay_runs hsettles
  rw [callsOf_append, callsOf_cons_self, List.append_assoc] at hrun
  generalize hcalls : callsOf i pre ++ (_ ++ rest) = calls at hrun
  cases hrun with
  | kept hkept =>
    have hmem : answered (.deleteXref req.parts) (.ok removed) ∈ calls := by simp [← hcalls]
    cases hkept _ hmem
  | @dropped t connection existing r hforced ht =>
    have hlookup : answered (.lookupXref req.parts) (.ok (some existing)) ∈ callsOf i pre := by
      rcases hpre : callsOf i pre with _ | ⟨ev, _ | ⟨ev', more⟩⟩
      · rw [hpre] at hcalls
        cases (List.cons.inj hcalls).1
      · rw [hpre] at hcalls
        cases (List.cons.inj (List.cons.inj hcalls).2).1
      · rw [hpre] at hcalls
        obtain ⟨_, htail⟩ := List.cons.inj hcalls
        obtain ⟨rfl, _⟩ := List.cons.inj htail
        simp
    obtain ⟨before, mid, rfl⟩ := List.append_of_mem (mem_of_mem_callsOf hlookup)
    refine ⟨existing, mid.map Prod.snd, ⟨before, mid, after, by simp, rfl⟩, fun hsynced => ?_⟩
    rw [hforced hsynced] at hforce
    cases hforce

/-- However replays interleave with deliveries and whatever fails, no replay that does not
force removes a synced row, if and only if in no window of such a replay the last write of
its row recorded an import. -/
theorem replays_keep_synced_iff (h : World.Interleaves threads w log w') :
    (∀ i req row, threads i = .runs (.replay req) → req.force = false →
        (i, answered (.deleteXref req.parts) (.ok (some row))) ∈ log → row.status ≠ .synced) ↔
      ∀ i req found during removed, threads i = .runs (.replay req) → req.force = false →
        Window log i req.parts found during removed →
        ∀ key, dedupKey req.parts = .ok key → ¬RecordedLast key during := by
  constructor
  · intro hkeeps i req found during removed hthread hforce hwindow key hkey hlast
    have hsynced := (hwindow.synced_iff h.steps hkey).mpr (.inl hlast)
    obtain ⟨row, rfl, hstatus⟩ := Option.map_eq_some_iff.mp hsynced
    obtain ⟨before, mid, after, rfl, _⟩ := hwindow
    exact hkeeps i req row hthread hforce (by simp) hstatus
  · intro hwindows i req row hthread hforce hdelete hstatus
    obtain ⟨existing, during, hwindow, hne⟩ := window_of_delete h hthread hforce hdelete
    obtain ⟨v, v', hstep⟩ := h.steps.exists_step (List.mem_map.mpr ⟨_, hdelete, rfl⟩)
    obtain ⟨key, hkey, _, _⟩ := World.Step.deleteXref_ok hstep
    obtain hlast | ⟨hfound, _⟩ := (hwindow.synced_iff h.steps hkey).mp (by simp [hstatus])
    · exact hwindows i req _ during _ hthread hforce hwindow key hkey hlast
    · exact hne (Option.some.inj hfound)

end Window

/-! ## A race -/

namespace Shop

/-- A delivery of the creation of the order, and a replay of it. -/
def raced : Fin 2 → Thread
  | 0 => .runs creation
  | 1 => .runs (.replay replay)

/-- The replay runs between the claim and the fetch of the delivery. -/
def early : List (Fin 2) := [0, 0] ++ List.replicate 5 1 ++ List.replicate 20 0

/-- The replay looks up the row just before the import is recorded, and deletes it just
after. -/
def late : List (Fin 2) := List.replicate 8 0 ++ [1, 1, 0, 1]

/-- Whether the replay removed a synced row in an entry of a log. -/
def discards : Fin 2 × Ev → Bool
  | (1, ⟨.io (.deleteXref parts), .ok (some row)⟩) =>
    parts = replay.parts ∧ row.status = .synced
  | _ => false

theorem exists_of_discards {log : List (Fin 2 × Ev)} (h : log.any discards = true) :
    ∃ row : XrefRow, ((1 : Fin 2), answered (.deleteXref replay.parts) (.ok (some row))) ∈ log ∧
      row.status = .synced := by
  obtain ⟨entry, hmem, hentry⟩ := List.any_eq_true.mp h
  unfold discards at hentry
  split at hentry
  · next parts row =>
    simp only [decide_eq_true_eq] at hentry
    obtain ⟨rfl, hstatus⟩ := hentry
    exact ⟨row, hmem, hstatus⟩
  · cases hentry

end Shop

/-- A replay that ran early: the row that it removed was pending. -/
theorem replays_keep_synced_iff_shop :
    let log := (Shop.up.interleave Shop.raced Shop.early Shop.world).1
    (∀ i req row, Shop.raced i = .runs (.replay req) → req.force = false →
        (i, answered (.deleteXref req.parts) (.ok (some row))) ∈ log → row.status ≠ .synced) ↔
      ∀ i req found during removed, Shop.raced i = .runs (.replay req) → req.force = false →
        Window log i req.parts found during removed →
        ∀ key, dedupKey req.parts = .ok key → ¬RecordedLast key during :=
  replays_keep_synced_iff (Shop.up.interleaves Shop.raced Shop.early Shop.world)

/-- A replay that looked up the pending row, and removed it once the import was recorded. -/
theorem replay_discards_synced_row : ¬∀ (key : String) (n : ℕ) (threads : Fin n → Thread)
    (log : List (Fin n × Ev)) (w w' : World), World.Interleaves threads w log w' →
    (∀ i, (∃ deps message attemptCtx, threads i = .runs (.handle deps message attemptCtx) ∧
        (threads i).On key) ∨
      ∃ req, threads i = .runs (.replay req) ∧ req.force = false ∧
        dedupKey req.parts = .ok key) →
    ∀ i req row, threads i = .runs (.replay req) →
      (i, answered (.deleteXref req.parts) (.ok (some row))) ∈ log → row.status ≠ .synced := by
  intro h
  have hdiscards : (Shop.up.interleave Shop.raced Shop.late Shop.world).1.any Shop.discards =
      true := by decide +kernel
  obtain ⟨row, hmem, hstatus⟩ := Shop.exists_of_discards hdiscards
  refine h Shop.key 2 Shop.raced _ _ _ (Shop.up.interleaves Shop.raced Shop.late Shop.world)
    (fun i => ?_) 1 Shop.replay row rfl hmem hstatus
  have hgid : (Shop.message none "").orderGid = Shop.order.id := rfl
  match i with
  | 0 => exact .inl ⟨_, _, _, rfl, Shop.creation_on⟩
  | 1 => exact .inr ⟨Shop.replay, rfl, rfl, Shop.dedupKey_parts hgid⟩

end DpIntegrator
