import DpIntegrator.Delivery.Producers
import DpIntegrator.Delivery.Redelivery
import DpIntegrator.Delivery.ReplayRace

/-!
# Updates that race imports

A live update looks up the row, and where there is none it marks the order as ignored in a
second call. The mark is unconditional, so a row that was claimed between the two calls is
lost: no other order of the calls of smooth deliveries takes a synced row away.
-/

namespace DpIntegrator

open Effects

variable {A : Answers} {w w' : World} {key : String} {d : Delivery} {t t' tr : List Ev}
  {res : Except Thrown OrderHandlerOutcome}

/-! ## The calls of one delivery about its row -/

/-- The row of `key` was marked as ignored. -/
def ignores (key : String) : Ev → Bool
  | ⟨.io (.markIgnored parts), .ok _⟩ => (dedupKey parts).toOption = some key
  | _ => false

theorem ignores_eq_true {ev : Ev} (h : ignores key ev = true) :
    ∃ parts row, ev = answered (.markIgnored parts) (.ok row) ∧ dedupKey parts = .ok key := by
  unfold ignores at h
  split at h
  · next parts row => exact ⟨parts, row, rfl, toOption_eq_some (by simpa using h)⟩
  · cases h

/-- The calls write no row. -/
abbrev WritesNone (t : List Ev) : Prop := Only (fun ev => World.rowWritten ev = none) t

theorem not_recordsImport_of_quiet {ev : Ev} (h : World.rowWritten ev = none) :
    ¬RecordsImport key ev := by
  rintro ⟨parts, targetId, externalId, row, rfl, _⟩
  cases h

/-- What a smooth delivery of the order of `key` does to the row so far: nothing, or it claimed
the row and then recorded the import, or it found no row and then marked it as ignored. -/
inductive RowCalls (key : String) : List Ev → Prop
  | quiet {t : List Ev} (h : WritesNone t) : RowCalls key t
  | claimed {pre mid : List Ev} {claim : Ev} (hpre : WritesNone pre) (hclaim : claims key claim = true)
      (hmid : WritesNone mid) : RowCalls key (pre ++ claim :: mid)
  | recorded {pre mid post : List Ev} {claim record : Ev} (hpre : WritesNone pre)
      (hclaim : claims key claim = true) (hmid : WritesNone mid) (hrecord : RecordsImport key record)
      (hpost : WritesNone post) : RowCalls key (pre ++ claim :: (mid ++ record :: post))
  | ignored {pre mid post : List Ev} {parts : DedupKeyParts} {row : XrefRow} (hpre : WritesNone pre)
      (hkey : dedupKey parts = .ok key) (hmid : WritesNone mid) (hpost : WritesNone post) :
      RowCalls key (pre ++ answered (.lookupXref parts) (.ok none) ::
        (mid ++ answered (.markIgnored parts) (.ok row) :: post))

namespace RowCalls

theorem cons {ev : Ev} (h : RowCalls key t) (hev : World.rowWritten ev = none) :
    RowCalls key (ev :: t) := by
  cases h with
  | quiet h => exact .quiet (.cons hev h)
  | claimed hpre hclaim hmid => exact .claimed (.cons hev hpre) hclaim hmid
  | recorded hpre hclaim hmid hrecord hpost =>
    exact .recorded (.cons hev hpre) hclaim hmid hrecord hpost
  | ignored hpre hkey hmid hpost => exact .ignored (.cons hev hpre) hkey hmid hpost

/-- What was done up to an earlier call. -/
theorem left (h : RowCalls key (t ++ t')) : RowCalls key t := by
  have hleft {l m : List Ev} (hquiet : WritesNone (l ++ m)) : WritesNone l :=
    (List.forall_mem_append.mp hquiet).1
  generalize hall : t ++ t' = all at h
  cases h with
  | quiet h => exact .quiet (hleft (hall ▸ h))
  | claimed hpre hclaim hmid =>
    obtain ⟨more, rfl⟩ | ⟨l, rfl, rfl⟩ := prefix_or_mem hall
    · exact .quiet (hleft hpre)
    · exact .claimed hpre hclaim (hleft hmid)
  | recorded hpre hclaim hmid hrecord hpost =>
    obtain ⟨more, rfl⟩ | ⟨l, rfl, hl⟩ := prefix_or_mem hall
    · exact .quiet (hleft hpre)
    obtain ⟨more, rfl⟩ | ⟨l', rfl, rfl⟩ := prefix_or_mem hl.symm
    · exact .claimed hpre hclaim (hleft hmid)
    · exact .recorded hpre hclaim hmid hrecord (hleft hpost)
  | ignored hpre hkey hmid hpost =>
    obtain ⟨more, rfl⟩ | ⟨l, rfl, hl⟩ := prefix_or_mem hall
    · exact .quiet (hleft hpre)
    obtain ⟨more, rfl⟩ | ⟨l', rfl, rfl⟩ := prefix_or_mem hl.symm
    · exact .quiet (hpre.append (.cons rfl (hleft hmid)))
    · exact .ignored hpre hkey hmid (hleft hpost)

theorem rowWritten_of_not_main {ev : Ev} (h : isMain ev = false) : World.rowWritten ev = none := by
  obtain ⟨_ | _ | _, r⟩ := ev
  case io c =>
    cases r with
    | error e => exact World.rowWritten_error
    | ok r => cases c <;> first | rfl | cases h
  all_goals rfl

theorem quiet_of_main (h : WritesNone (main tr)) : WritesNone tr := by
  intro ev hev
  by_cases hmain : isMain ev = true
  · exact h ev (List.mem_filter.mpr ⟨hev, hmain⟩)
  · exact rowWritten_of_not_main (eq_false_of_ne_true hmain)

/-- Only the main calls matter. -/
theorem of_main (h : RowCalls key (main tr)) : RowCalls key tr := by
  generalize hmain : main tr = all at h
  cases h with
  | quiet h => exact .quiet (quiet_of_main (hmain ▸ h))
  | claimed hpre hclaim hmid =>
    obtain ⟨s₁, s₂, rfl, rfl, rfl⟩ := exists_of_main_eq hmain
    exact .claimed (quiet_of_main hpre) hclaim (quiet_of_main hmid)
  | recorded hpre hclaim hmid hrecord hpost =>
    obtain ⟨s₁, s, rfl, rfl, hs⟩ := exists_of_main_eq hmain
    obtain ⟨s₂, s₃, rfl, rfl, rfl⟩ := exists_of_main_eq hs
    exact .recorded (quiet_of_main hpre) hclaim (quiet_of_main hmid) hrecord (quiet_of_main hpost)
  | ignored hpre hkey hmid hpost =>
    obtain ⟨s₁, s, rfl, rfl, hs⟩ := exists_of_main_eq hmain
    obtain ⟨s₂, s₃, rfl, rfl, rfl⟩ := exists_of_main_eq hs
    exact .ignored (quiet_of_main hpre) hkey (quiet_of_main hmid) (quiet_of_main hpost)

/-- A mark follows a lookup that found no row. -/
theorem lookup_of_ignores {ev : Ev} (h : RowCalls key (t ++ [ev])) (hev : ignores key ev = true) :
    ∃ parts row, ev = answered (.markIgnored parts) (.ok row) ∧ dedupKey parts = .ok key ∧
      answered (.lookupXref parts) (.ok none) ∈ t := by
  obtain ⟨parts, row, rfl, hkey⟩ := ignores_eq_true hev
  have hmem : answered (.markIgnored parts) (.ok row) ∈
      t ++ [answered (.markIgnored parts) (.ok row)] := by simp
  generalize hall : t ++ [_] = all at h hmem
  have hquiet {l : List Ev} (hl : WritesNone l) : answered (.markIgnored parts) (.ok row) ∉ l := by
    intro hmem
    cases hl _ hmem
  have hclaim {claim : Ev} (hclaim : claims key claim = true) :
      answered (.markIgnored parts) (.ok row) ≠ claim := by
    rintro rfl
    cases hclaim
  cases h with
  | quiet h => exact absurd hmem (hquiet h)
  | claimed hpre hc hmid =>
    simp [hquiet hpre, hclaim hc, hquiet hmid] at hmem
  | recorded hpre hc hmid hrecord hpost =>
    obtain ⟨_, _, _, _, rfl, _⟩ := hrecord
    simp [hquiet hpre, hclaim hc, hquiet hmid, hquiet hpost] at hmem
  | @ignored pre mid post parts' row' hpre hkey' hmid hpost =>
    have hlookup : answered (.lookupXref parts') (.ok none) ∈
        t ++ [answered (.markIgnored parts) (.ok row)] := by simp [hall]
    have hmark : parts = parts' ∧ row = row' := by
      simpa [hquiet hpre, hquiet hmid, hquiet hpost] using hmem
    obtain ⟨rfl, rfl⟩ := hmark
    exact ⟨parts, row, rfl, hkey, by simpa using hlookup⟩

/-- The calls that write the row claim it, record an import or mark it as ignored. -/
theorem writes (h : RowCalls key t) {ev : Ev} (hev : ev ∈ t) :
    World.rowWritten ev = none ∨ claims key ev = true ∨ RecordsImport key ev ∨
      ignores key ev = true := by
  cases h with
  | quiet h => exact .inl (h ev hev)
  | claimed hpre hclaim hmid =>
    obtain hev | hev := List.mem_append.mp hev
    · exact .inl (hpre ev hev)
    obtain rfl | hev := List.mem_cons.mp hev
    · exact .inr (.inl hclaim)
    · exact .inl (hmid ev hev)
  | recorded hpre hclaim hmid hrecord hpost =>
    obtain hev | hev := List.mem_append.mp hev
    · exact .inl (hpre ev hev)
    obtain rfl | hev := List.mem_cons.mp hev
    · exact .inr (.inl hclaim)
    obtain hev | hev := List.mem_append.mp hev
    · exact .inl (hmid ev hev)
    obtain rfl | hev := List.mem_cons.mp hev
    · exact .inr (.inr (.inl hrecord))
    · exact .inl (hpost ev hev)
  | ignored hpre hkey hmid hpost =>
    obtain hev | hev := List.mem_append.mp hev
    · exact .inl (hpre ev hev)
    obtain rfl | hev := List.mem_cons.mp hev
    · exact .inl rfl
    obtain hev | hev := List.mem_append.mp hev
    · exact .inl (hmid ev hev)
    obtain rfl | hev := List.mem_cons.mp hev
    · exact .inr (.inr (.inr (by simp [ignores, hkey, Except.toOption])))
    · exact .inl (hpost ev hev)

open Classical in
/-- A record of an import is paid for by a new claim. -/
theorem records_le_claims (h : RowCalls key t) :
    t.countP (RecordsImport key) ≤ t.countP (claims key) := by
  have hzero {l : List Ev} (hl : WritesNone l) : l.countP (RecordsImport key) = 0 :=
    List.countP_eq_zero.mpr fun ev hev => by simp [not_recordsImport_of_quiet (hl ev hev)]
  have hclaim {claim : Ev} (hclaim : claims key claim = true) : ¬RecordsImport key claim := by
    rintro ⟨_, _, _, _, rfl, _⟩
    cases hclaim
  cases h with
  | quiet h => simp [hzero h]
  | claimed hpre hc hmid => simp [List.countP_cons, hzero hpre, hzero hmid, hclaim hc]
  | recorded hpre hc hmid hrecord hpost =>
    simp only [List.countP_append, List.countP_cons, hzero hpre, hzero hmid, hzero hpost,
      hclaim hc, hc, hrecord]
    simp
    omega
  | ignored hpre _ hmid hpost =>
    have hlookup : ∀ parts, ¬RecordsImport key (answered (.lookupXref parts) (.ok none)) := by
      rintro _ ⟨_, _, _, _, heq, _⟩
      cases heq
    have hmark : ∀ parts row, ¬RecordsImport key (answered (.markIgnored parts) (.ok row)) := by
      rintro _ _ ⟨_, _, _, _, heq, _⟩
      cases heq
    simp [List.countP_cons, hzero hpre, hzero hmid, hzero hpost, hlookup, hmark]

/-- A record of an import follows a new claim. -/
theorem exists_claim {ev : Ev} (h : RowCalls key (t ++ [ev])) (hev : RecordsImport key ev) :
    ∃ claim ∈ t, claims key claim = true := by
  classical
  have hrecords : 0 < (t ++ [ev]).countP (RecordsImport key) :=
    List.countP_pos_iff.mpr ⟨ev, by simp, by simpa using hev⟩
  have hle := h.records_le_claims
  have hclaims : 0 < (t ++ [ev]).countP (claims key) := by omega
  obtain ⟨claim, hmem, hclaim⟩ := List.countP_pos_iff.mp hclaims
  obtain hmem | hmem := List.mem_append.mp hmem
  · exact ⟨claim, hmem, hclaim⟩
  · obtain rfl := List.mem_singleton.mp hmem
    obtain ⟨_, _, _, _, rfl, _⟩ := hev
    cases hclaim

end RowCalls

/-- What one call of a smooth run does to the row of `key`. -/
inductive RowStep (key : String) (ev : Ev) (w w' : World) : Prop
  | same (h : w'.xref key = w.xref key)
  | claimed (h : claims key ev = true) (habsent : w.xref key = none)
      (hstatus : w'.status key = some .pending)
  | recorded (h : RecordsImport key ev) (hstatus : w'.status key = some .synced)
  | ignored (h : ignores key ev = true) (hstatus : w'.status key = some .ignored)

theorem World.Step.claimed_row {ev : Ev} (h : World.Step ev.1 w ev.2 w')
    (hclaims : claims key ev = true) : w.xref key = none ∧ w'.status key = some .pending := by
  obtain ⟨input, r, rfl, houtcome, hkey⟩ := claims_eq_true hclaims
  obtain ⟨key', hkey', ⟨row, _, rfl, _⟩ | ⟨habsent, _, rfl⟩⟩ := h.claim_ok
  · exact absurd houtcome row.claimOutcome_ne_claimed
  · obtain rfl : key' = key := Except.ok.inj (hkey'.symm.trans hkey)
    exact ⟨habsent, by simp [World.status, ClaimInput.newRow]⟩

theorem World.Step.rowStep {ev : Ev} (h : World.Step ev.1 w ev.2 w')
    (hwrites : World.rowWritten ev = none ∨ claims key ev = true ∨ RecordsImport key ev ∨
      ignores key ev = true) : RowStep key ev w w' := by
  obtain hnone | hclaims | hrecords | hignores := hwrites
  · refine .same (h.xrefChange.row_eq_of_quiet ?_)
    rintro ⟨parts, row, hev, _⟩
    rw [hnone] at hev
    cases hev
  · obtain ⟨habsent, hstatus⟩ := h.claimed_row hclaims
    exact .claimed hclaims habsent hstatus
  · exact .recorded hrecords (h.xrefChange.synced_iff.mpr (.inl hrecords))
  · obtain ⟨parts, row, rfl, hkey⟩ := ignores_eq_true hignores
    obtain ⟨key', hkey', hstatus, rfl⟩ := h.markIgnored_ok
    obtain rfl : key' = key := Except.ok.inj (hkey'.symm.trans hkey)
    exact .ignored hignores (by simp [World.status, hstatus])

/-! ## Smooth deliveries -/

section Smooth

theorem SideCall.writes_none {ev : Ev} (h : SideCall d ev) : World.rowWritten ev = none := by
  cases h <;> rfl

theorem Only.writes_none (h : Only (SideCall d) t) : WritesNone t :=
  h.mono fun _ hev => hev.writes_none

theorem IgnoreExit.rowCalls {shape : SyncLogShape} {o : OrderHandlerOutcome}
    (h : IgnoreExit d shape o t res) (hkey : dedupKey d.parts = .ok key) (hsmooth : Smooth A t) :
    RowCalls key (lookedUp d (.ok none) :: t) := by
  obtain ⟨r, t', rfl, hside⟩ := h.calls
  cases r with
  | error e => exact hsmooth.head_ne_error.elim
  | ok row => exact .ignored .nil hkey .nil hside.writes_none

/-- A write that fails nowhere is the upsert, the record of the import, and side calls. -/
theorem WriteExit.recorded_of_smooth {customer : CustomerResolution} {payload : NsOrderPayload}
    (h : WriteExit d customer payload t res) (hsmooth : Smooth A t) :
    ∃ u row post, t = upserted d payload (.ok u) :: succeeded d u (.ok row) :: post ∧
      WritesNone post := by
  cases h with
  | upsert => exact hsmooth.head_ne_error.elim
  | recordSuccess => exact hsmooth.tail.head_ne_error.elim
  | after hafter => exact ⟨_, _, _, rfl, hafter.side.writes_none⟩
  | imported hafter => exact ⟨_, _, _, rfl, hafter.side.writes_none⟩

theorem ClaimExit.rowCalls {T : List Ev} (h : ClaimExit d (PreparedIn d T) t res)
    (himp : Importable A d) (hkey : dedupKey d.parts = .ok key) (hT : Smooth A T) (hsub : t ⊆ T) :
    RowCalls key t := by
  have hsmooth : Smooth A t := hT.of_subset hsub
  cases h with
  | failed => exact hsmooth.head_ne_error.elim
  | held hne => exact .quiet (.cons (by simp [World.rowWritten, hne]) .nil)
  | @claimed r t res houtcome hclaimed =>
    have hclaims : claims key (claimedBy d (.ok r)) = true := by
      simp [claims, houtcome, Delivery.claimInput, hkey, Except.toOption]
    have himport {t' : List Ev} {res' : Except Thrown OrderHandlerOutcome} (hsmooth' : Smooth A t')
        (himport : ImportExit d (PreparedIn d T) t' res') :
        RowCalls key (claimedBy d (.ok r) :: t') ∧ ∃ o, res' = .ok o := by
      obtain ⟨order, customer, payload, t'', rfl, hwrite⟩ :=
        himport.written_of_smooth himp hT hsmooth'
      obtain ⟨u, row, post, rfl, hpost⟩ := hwrite.recorded_of_smooth hsmooth'.tail
      have hmid : WritesNone [fetched d (.ok order), upserted d payload (.ok u)] :=
        .cons rfl (.cons rfl .nil)
      exact ⟨.recorded .nil hclaims hmid ⟨_, _, _, _, rfl, hkey⟩ hpost,
        hwrite.ok_of_smooth hkey hsmooth'.tail⟩
    cases hclaimed with
    | returned hret => exact (himport hsmooth.tail hret).1
    | thrown hthrown _ =>
      obtain ⟨_, o, ho⟩ := himport hsmooth.tail.left hthrown
      cases ho

/-- A smooth delivery of an importable order does nothing else to the row. -/
theorem deliver_rowCalls (h : Settles (deliver d) tr res) (himp : Importable A d)
    (hkey : dedupKey d.parts = .ok key) (hsmooth : Smooth A tr) : RowCalls key tr := by
  have hsub : main tr ⊆ tr := fun _ => mem_of_mem_main
  refine RowCalls.of_main ?_
  have hexit := deliver_exit h
  have hmain := hsmooth.main_calls
  generalize main tr = t at hexit hmain hsub
  cases hexit with
  | direct _ hclaim => exact hclaim.rowCalls himp hkey hsmooth hsub
  | lookup => exact hmain.head_ne_error.elim
  | unknown _ hignore => exact hignore.rowCalls hkey hmain.tail
  | known _ hclaim =>
    exact (hclaim.rowCalls himp hkey hsmooth (List.subset_of_cons_subset hsub)).cons rfl

end Smooth

/-! ## Smooth threads -/

/-- The calls `tr` of a thread begin a handling of a message about the order of `key`, all of
whose calls succeed, and the order is eligible and mappable. -/
inductive Thread.Imports (A : Answers) (key : String) (w : World) (thread : Thread)
    (tr : List Ev) : Prop
  | intro {deps : OrderHandlerDeps} {message : Js.Value} {attemptCtx : Option AttemptContext}
      {rest : List Ev} {res : Except Thrown OrderHandlerOutcome}
      (hthread : thread = .runs (.handle deps message attemptCtx)) (hon : thread.On key)
      (himp : ∀ msg connection, parseOrderWebhookMessage message = .ok msg →
        w.findById deps.environment msg.connectionId = some connection → connection.enabled = true →
        Importable A ⟨deps, connection, msg, attemptCtx⟩)
      (hruns : Settles (handleOrderMessage deps message attemptCtx) (tr ++ rest) res)
      (hsmooth : Smooth A (tr ++ rest))

section Threads

variable {thread : Thread}

theorem Thread.Imports.left (h : thread.Imports A key w (t ++ t')) : thread.Imports A key w t := by
  obtain ⟨hthread, hon, himp, hruns, hsmooth⟩ := h
  rw [List.append_assoc] at hruns hsmooth
  exact ⟨hthread, hon, himp, hruns, hsmooth⟩

/-- What such a thread does to the row so far. -/
theorem Thread.Imports.rowCalls (h : thread.Imports A key w tr)
    (hfound : ∀ environment id found,
      answered (.findConnection environment id) (.ok found) ∈ tr →
        found = w.findById environment id) : RowCalls key tr := by
  obtain ⟨rfl, hon, himp, hruns, hsmooth⟩ := h
  have hrun := handlerRun_of_settles hruns
  generalize hall : tr ++ _ = all at hrun hsmooth
  cases hrun with
  | rejected ht =>
    suffices hnone : WritesNone all from RowCalls.left (hall ▸ RowCalls.quiet hnone)
    obtain rfl | ⟨id, r, rfl, _⟩ := ht
    · exact .nil
    · exact .cons rfl .nil
  | failed id e => exact hsmooth.head_ne_error.elim
  | @delivered msg connection t _ hmsg _ henabled hdeliver =>
    obtain ⟨rfl, _⟩ | ⟨tr', rfl, rfl⟩ := List.append_eq_cons_iff.mp hall
    · exact .quiet .nil
    have hconnection := (hfound _ _ _ (List.mem_cons_self ..)).symm
    have hkey := hon msg hmsg
    rw [← (findById_connectionId hconnection).2] at hkey
    have hcalls := deliver_rowCalls hdeliver (himp msg connection hmsg hconnection henabled) hkey
      hsmooth.tail
    exact hcalls.left.cons rfl

end Threads

/-! ## Runs of smooth threads -/

section Runs

variable {ι : Type} [DecidableEq ι] {threads : ι → Thread} {log log' : List (ι × Ev)}

/-- Smooth deliveries of the order of `key`, which has no row at first, take the stores from
`w` to `w'` by the calls of `log`. -/
structure ImportRun (A : Answers) (key : String) (threads : ι → Thread) (w : World)
    (log : List (ι × Ev)) (w' : World) : Prop where
  steps : w.Steps (log.map Prod.snd) w'
  imports : ∀ i, (threads i).Imports A key w (callsOf i log)
  absent : w.xref key = none

namespace ImportRun

/-- A run up to an earlier call. -/
theorem left {v : World} (h : ImportRun A key threads w (log ++ log') w')
    (hv : w.Steps (log.map Prod.snd) v) : ImportRun A key threads w log v := by
  refine ⟨hv, fun i => ?_, h.absent⟩
  have hi := h.imports i
  rw [callsOf_append] at hi
  exact hi.left

theorem split (h : ImportRun A key threads w (log ++ log') w') :
    ∃ v, ImportRun A key threads w log v ∧ v.Steps (log'.map Prod.snd) w' := by
  have hsteps := h.steps
  rw [List.map_append] at hsteps
  obtain ⟨v, hv, hrest⟩ := steps_append.mp hsteps
  exact ⟨v, h.left hv, hrest⟩

theorem rowCalls (h : ImportRun A key threads w log w') (i : ι) :
    RowCalls key (callsOf i log) := by
  refine (h.imports i).rowCalls fun environment id found hmem => h.steps.found ?_
  exact List.mem_map.mpr ⟨_, mem_of_mem_callsOf hmem, rfl⟩

theorem writes (h : ImportRun A key threads w log w') {ev : Ev} (hev : ev ∈ log.map Prod.snd) :
    World.rowWritten ev = none ∨ claims key ev = true ∨ RecordsImport key ev ∨
      ignores key ev = true := by
  obtain ⟨⟨i, ev⟩, hmem, rfl⟩ := List.mem_map.mp hev
  exact (h.rowCalls i).writes (mem_callsOf hmem)

/-- There is a row exactly when it was claimed or marked, and it is claimed once. -/
theorem claims_le (h : ImportRun A key threads w log w') :
    (log.map Prod.snd).countP (claims key) ≤ w'.rowCount key := by
  have hremoves : (log.map Prod.snd).countP (removes key) = 0 := by
    refine List.countP_eq_zero.mpr fun ev hev hremoves => ?_
    unfold removes at hremoves
    split at hremoves
    · obtain hnone | hclaims | ⟨_, _, _, _, heq, _⟩ | hignores := h.writes hev
      · cases hnone
      · cases hclaims
      · cases heq
      · cases hignores
    · cases hremoves
  have hpotential : (log.map Prod.snd).countP (claims key) + w.rowCount key ≤
      (log.map Prod.snd).countP (removes key) + w'.rowCount key := by
    simpa using h.steps.potential World.Step.rowCount_le
  have hzero : w.rowCount key = 0 := by simp [World.rowCount, h.absent]
  omega

open Classical in
/-- At most one import is recorded, and there was a new claim before. -/
theorem records_le_claims (h : ImportRun A key threads w log w') :
    (log.map Prod.snd).countP (RecordsImport key) ≤ (log.map Prod.snd).countP (claims key) := by
  have hle := countP_le_of_callsOf (p := RecordsImport key) (q := fun ev => claims key ev = true)
    fun i => by simpa using (h.rowCalls i).records_le_claims
  simpa only [Bool.decide_eq_true] using hle

theorem rowStep (h : ImportRun A key threads w log w') {ev : Ev} (hev : ev ∈ log.map Prod.snd)
    {v v' : World} (hstep : World.Step ev.1 v ev.2 v') : RowStep key ev v v' :=
  hstep.rowStep (h.writes hev)

end ImportRun

/-! ## The gate -/

/-- Thread `i` found no row of `key`, and after the calls of `during` marks it as ignored;
`upTo` are all the calls before the mark. -/
def Gate (key : String) (log : List (ι × Ev)) (i : ι) (upTo during : List (ι × Ev)) : Prop :=
  ∃ parts row before after, dedupKey parts = .ok key ∧
    upTo = before ++ (i, answered (.lookupXref parts) (.ok none)) :: during ∧
    log = upTo ++ (i, answered (.markIgnored parts) (.ok row)) :: after

/-- A synced row of `key` stays synced with its target for the rest of `log`. -/
def StaysSynced (key : String) (w : World) (log : List (ι × Ev)) : Prop :=
  ∀ before during after v v', log = before ++ (during ++ after) →
    w.Steps (before.map Prod.snd) v → v.Steps (during.map Prod.snd) v' →
    ∀ row, v.xref key = some row → row.status = .synced →
      ∃ row', v'.xref key = some row' ∧ row'.status = .synced ∧ row'.targetId = row.targetId

/-- No gate marks a row that has been claimed or synced. -/
def GatesSpare (key : String) (w : World) (log : List (ι × Ev)) : Prop :=
  ∀ i upTo during v, Gate key log i upTo during → w.Steps (upTo.map Prod.snd) v →
    v.status key ≠ some .pending ∧ v.status key ≠ some .synced

/-- No new claim of the row of `key` stands inside a gate. -/
def GatesUnclaimed (key : String) (log : List (ι × Ev)) : Prop :=
  ∀ i upTo during, Gate key log i upTo during →
    ∀ entry ∈ during, claims key entry.2 = false

variable {i : ι} {upTo during : List (ι × Ev)}

/-- Every mark is the end of a gate. -/
theorem ImportRun.exists_gate {ev : Ev} {after : List (ι × Ev)}
    (h : ImportRun A key threads w (upTo ++ (i, ev) :: after) w') (hev : ignores key ev = true) :
    ∃ during, Gate key (upTo ++ (i, ev) :: after) i upTo during := by
  rw [List.append_cons] at h
  obtain ⟨v, hrun, _⟩ := h.split
  have hcalls := hrun.rowCalls i
  rw [callsOf_append, callsOf_cons_self, callsOf_nil] at hcalls
  obtain ⟨parts, row, rfl, hkey, hlookup⟩ := hcalls.lookup_of_ignores hev
  obtain ⟨before, during, hupTo⟩ := List.append_of_mem (mem_of_mem_callsOf hlookup)
  exact ⟨during, parts, row, before, after, hkey, hupTo, rfl⟩

/-- A lookup that finds no row comes before every new claim. -/
theorem ImportRun.not_claimed_of_absent (h : ImportRun A key threads w log w')
    (habsent : w'.xref key = none) {entry : ι × Ev} (hentry : entry ∈ log) :
    claims key entry.2 = false := by
  refine eq_false_of_ne_true fun hclaims => ?_
  have hpos : 0 < (log.map Prod.snd).countP (claims key) :=
    List.countP_pos_iff.mpr ⟨entry.2, List.mem_map_of_mem hentry, hclaims⟩
  have hle := h.claims_le
  simp only [World.rowCount, habsent, if_true] at hle
  omega

/-- A record of an import in a gate follows a claim in it: there was no row before. -/
theorem ImportRun.exists_claim_of_records {v : World} {entry : ι × Ev}
    (h : ImportRun A key threads w log w') (hgate : Gate key log i upTo during)
    (hv : w.Steps (upTo.map Prod.snd) v) (hentry : entry ∈ during)
    (hrecords : RecordsImport key entry.2) : ∃ entry ∈ during, claims key entry.2 = true := by
  obtain ⟨j, ev⟩ := entry
  obtain ⟨parts, row, before, after, hkey, rfl, rfl⟩ := hgate
  obtain ⟨d₁, d₂, rfl⟩ := List.append_of_mem hentry
  have hrun := h.left hv
  -- The thread that recorded the import made a new claim before.
  have hmade : ∃ claim, claims key claim = true ∧
      (j, claim) ∈ before ++ (i, answered (.lookupXref parts) (.ok none)) :: d₁ := by
    rw [← List.cons_append, ← List.append_assoc, List.append_cons] at hrun
    obtain ⟨_, hrun', _⟩ := hrun.split
    have hcalls := hrun'.rowCalls j
    rw [callsOf_append, callsOf_cons_self, callsOf_nil] at hcalls
    obtain ⟨claim, hmem, hclaim⟩ := hcalls.exists_claim hrecords
    exact ⟨claim, hclaim, mem_of_mem_callsOf hmem⟩
  obtain ⟨claim, hclaim, hmem⟩ := hmade
  -- It is not among the calls before the gate, whose lookup found no row.
  rw [List.map_append, List.map_cons] at hv
  obtain ⟨w₁, hbefore, hrest⟩ := steps_append.mp hv
  obtain ⟨w₂, hlookup, _⟩ := steps_cons.mp hrest
  obtain ⟨key', hkey', hnone, _⟩ := World.Step.lookupXref_ok hlookup
  obtain rfl : key' = key := Except.ok.inj (hkey'.symm.trans hkey)
  obtain hmem | hmem := List.mem_append.mp hmem
  · have hnot : claims key' claim = false :=
      (hrun.left hbefore).not_claimed_of_absent hnone.symm hmem
    rw [hnot] at hclaim
    cases hclaim
  obtain heq | hmem := List.mem_cons.mp hmem
  · cases heq
    cases hclaim
  · exact ⟨_, List.mem_append_left _ hmem, hclaim⟩

/-- A gate that no claim stands inside of finds no row, or an ignored one. -/
theorem GatesUnclaimed.spare (hunclaimed : GatesUnclaimed key log)
    (h : ImportRun A key threads w log w') : GatesSpare key w log := by
  intro i upTo during v hgate hv
  have hduring := hunclaimed i upTo during hgate
  have hrecords : ∀ entry ∈ during, ¬RecordsImport key entry.2 := by
    intro entry hentry hrecords
    obtain ⟨claim, hmem, hclaim⟩ := h.exists_claim_of_records hgate hv hentry hrecords
    rw [hduring claim hmem] at hclaim
    cases hclaim
  obtain ⟨parts, row, before, after, hkey, rfl, rfl⟩ := hgate
  have hrun := h.left hv
  rw [List.map_append, List.map_cons] at hv
  obtain ⟨w₁, _, hrest⟩ := steps_append.mp hv
  obtain ⟨w₂, hlookup, hsteps⟩ := steps_cons.mp hrest
  obtain ⟨key', hkey', hnone, rfl⟩ := World.Step.lookupXref_ok hlookup
  obtain rfl : key' = key := Except.ok.inj (hkey'.symm.trans hkey)
  have hend : v.status key' = none ∨ v.status key' = some .ignored := by
    refine hsteps.preserves (P := fun v => v.status key' = none ∨ v.status key' = some .ignored)
      ?_ (.inl (by simp [World.status, ← hnone]))
    intro ev hev v₁ v₂ hstep hv₁
    obtain ⟨entry, hentry, rfl⟩ := List.mem_map.mp hev
    cases hrun.rowStep (List.mem_map.mpr ⟨entry, by simp [hentry], rfl⟩) hstep with
    | same h => simpa only [World.status, h] using hv₁
    | claimed hclaim =>
      rw [hduring entry hentry] at hclaim
      cases hclaim
    | recorded h => exact absurd h (hrecords entry hentry)
    | ignored _ hstatus => exact .inr hstatus
  obtain hend | hend := hend <;> simp [hend]

/-- Induction on the calls after the row became synced, from the last one: none of them is a
second record of an import, a new claim, or a mark. -/
theorem GatesSpare.staysSynced (hspare : GatesSpare key w log)
    (h : ImportRun A key threads w log w') : StaysSynced key w log := by
  classical
  intro before during
  induction during using List.reverseRecOn with
  | nil =>
    intro after v v' _ _ hsteps row hrow hstatus
    obtain rfl := steps_nil.mp hsteps
    exact ⟨row, hrow, hstatus, rfl⟩
  | append_singleton during entry ih =>
    intro after v v' hlog hv hsteps row hrow hstatus
    obtain ⟨j, ev⟩ := entry
    rw [List.map_append] at hsteps
    obtain ⟨v₁, hduring, hlast⟩ := steps_append.mp hsteps
    obtain ⟨_, hstep, hnil⟩ := steps_cons.mp hlast
    obtain rfl := steps_nil.mp hnil
    obtain ⟨row₁, hrow₁, hstatus₁, htarget₁⟩ :=
      ih ((j, ev) :: after) v v₁ (by simp [hlog]) hv hduring row hrow hstatus
    have hsynced : v₁.status key = some .synced := by simp [World.status, hrow₁, hstatus₁]
    have hlog' : log = (before ++ during) ++ (j, ev) :: after := by simp [hlog]
    subst hlog'
    have hupTo : w.Steps ((before ++ during).map Prod.snd) v₁ := by
      rw [List.map_append]
      exact steps_append.mpr ⟨v, hv, hduring⟩
    have hrun := h
    rw [List.append_cons] at hrun
    obtain ⟨_, hrun, _⟩ := hrun.split
    cases hrun.rowStep (by simp) hstep with
    | same hsame => exact ⟨row₁, by rw [hsame, hrow₁], hstatus₁, htarget₁⟩
    | claimed _ habsent => simp [hrow₁] at habsent
    | recorded hrecords =>
      obtain hlast | ⟨habsent, _⟩ := (World.Steps.synced_iff hupTo).mp hsynced
      · obtain ⟨t₁, record, t₂, heq, hrecord, _⟩ := hlast
        have hcount := hrun.records_le_claims
        have hle := hrun.claims_le.trans (World.rowCount_le_one _ _)
        rw [List.map_append, heq] at hcount hle
        simp [List.countP_cons, hrecord, hrecords] at hcount
        simp [List.countP_cons] at hle
        omega
      · simp [World.status, h.absent] at habsent
    | ignored hignores =>
      obtain ⟨during', hgate⟩ := h.exists_gate hignores
      exact absurd hsynced (hspare j _ during' v₁ hgate hupTo).2

/-- After a claim inside a gate the next mark hits the claimed row. -/
theorem GatesSpare.unclaimed (hspare : GatesSpare key w log)
    (h : ImportRun A key threads w log w') : GatesUnclaimed key log := by
  intro i upTo during hgate entry hentry
  refine eq_false_of_ne_true fun hclaims => ?_
  obtain ⟨parts, row, before, after, hkey, rfl, rfl⟩ := hgate
  obtain ⟨d₁, d₂, rfl⟩ := List.append_of_mem hentry
  generalize hl : before ++ (i, answered (.lookupXref parts) (.ok none)) :: d₁ = l
  generalize hr : d₂ ++ (i, answered (.markIgnored parts) (.ok row)) :: after = r
  have hlog : (before ++ (i, answered (.lookupXref parts) (.ok none)) :: (d₁ ++ entry :: d₂)) ++
      (i, answered (.markIgnored parts) (.ok row)) :: after = l ++ entry :: r := by
    simp [← hl, ← hr]
  rw [hlog] at h hspare
  -- The first mark after the claim.
  have hmark : ∃ mark mid rest, r = mid ++ mark :: rest ∧ ignores key mark.2 = true ∧
      ∀ e ∈ mid, ignores key e.2 = false := by
    have hsome : (r.find? fun e => ignores key e.2).isSome := by
      rw [List.find?_isSome]
      exact ⟨(i, answered (.markIgnored parts) (.ok row)), by simp [← hr],
        by simp [ignores, hkey, Except.toOption]⟩
    obtain ⟨mark, hfind⟩ := Option.isSome_iff_exists.mp hsome
    obtain ⟨hmark, mid, rest, heq, hmid⟩ := List.find?_eq_some_iff_append.mp hfind
    exact ⟨mark, mid, rest, heq, hmark, by simpa using hmid⟩
  obtain ⟨⟨j, mark⟩, mid, rest, rfl, hmark, hmid⟩ := hmark
  have hlog' : l ++ entry :: (mid ++ (j, mark) :: rest) =
      (l ++ entry :: mid) ++ (j, mark) :: rest := by simp
  rw [hlog'] at h hspare
  obtain ⟨during, hgate⟩ := h.exists_gate hmark
  obtain ⟨v, hrun, _⟩ := h.split
  have hsteps := hrun.steps
  rw [List.map_append, List.map_cons] at hsteps
  obtain ⟨v₁, _, hrest⟩ := steps_append.mp hsteps
  obtain ⟨v₂, hclaim, hmid'⟩ := steps_cons.mp hrest
  have hend : v.status key = some .pending ∨ v.status key = some .synced := by
    refine hmid'.preserves
      (P := fun v => v.status key = some .pending ∨ v.status key = some .synced) ?_
      (.inl (World.Step.claimed_row hclaim hclaims).2)
    intro ev hev v₃ v₄ hstep hv₃
    obtain ⟨e, he, rfl⟩ := List.mem_map.mp hev
    cases hrun.rowStep (List.mem_map.mpr ⟨e, by simp [he], rfl⟩) hstep with
    | same h => simpa only [World.status, h] using hv₃
    | claimed _ habsent => simp [World.status, habsent] at hv₃
    | recorded _ hstatus => exact .inr hstatus
    | ignored hignores =>
      rw [hmid e he] at hignores
      cases hignores
  obtain ⟨hpending, hsynced⟩ := hspare j _ during v hgate hrun.steps
  obtain hend | hend := hend
  · exact hpending hend
  · exact hsynced hend

/-- However smooth deliveries of an order without a row interleave, a synced row stays synced
with its target and no gate marks a row that was claimed or synced, if and only if no new claim
of the row stands between the two calls of a gate. -/
theorem synced_stays_iff (h : World.Interleaves threads w log w')
    (himports : ∀ i, (threads i).Imports A key w (callsOf i log)) (habsent : w.xref key = none) :
    StaysSynced key w log ∧ GatesSpare key w log ↔ GatesUnclaimed key log := by
  have hrun : ImportRun A key threads w log w' := ⟨h.steps, himports, habsent⟩
  constructor
  · rintro ⟨_, hspare⟩
    exact hspare.unclaimed hrun
  · intro hunclaimed
    have hspare := hunclaimed.spare hrun
    exact ⟨hspare.staysSynced hrun, hspare⟩

end Runs

/-- Where synced rows stay, a recorded import leaves the row synced at the end. -/
theorem StaysSynced.synced {ι : Type} {log : List (ι × Ev)} (h : StaysSynced key w log)
    (hsteps : w.Steps (log.map Prod.snd) w') {entry : ι × Ev} (hentry : entry ∈ log)
    (hrecords : RecordsImport key entry.2) : w'.status key = some .synced := by
  obtain ⟨before, after, rfl⟩ := List.append_of_mem hentry
  rw [List.append_cons, List.map_append] at hsteps
  obtain ⟨v, hv, hafter⟩ := steps_append.mp hsteps
  have hsynced : v.status key = some .synced :=
    (World.Steps.synced_iff hv).mpr (.inl ⟨before.map Prod.snd, entry.2, [], by simp, hrecords, .nil⟩)
  obtain ⟨row, hrow, hstatus⟩ := Option.map_eq_some_iff.mp hsynced
  obtain ⟨row', hrow', hstatus', _⟩ :=
    h (before ++ [entry]) after [] v w' (by simp) hv hafter row hrow hstatus
  simp [World.status, hrow', hstatus']

/-! ## Two deliveries -/

namespace Shop

/-- A live update of the order, and a delivery of its creation. -/
def updateAndCreation : Fin 2 → Thread
  | 0 => .runs ((delivery (message none "orders/updated")).handling
      (message none "orders/updated").toJs)
  | 1 => .runs creation

/-- The creation is imported between the two calls of the gate of the update. -/
def gateOpen : List (Fin 2) :=
  List.replicate 2 ⟨0, Nat.two_pos⟩ ++ List.replicate 20 ⟨1, Nat.one_lt_two⟩ ++
    List.replicate 10 ⟨0, Nat.two_pos⟩

/-- The update looks up the row when the creation has been imported. -/
def gateAfter : List (Fin 2) :=
  List.replicate 20 ⟨1, Nat.one_lt_two⟩ ++ List.replicate 10 ⟨0, Nat.two_pos⟩

theorem updateAndCreation_runs (i : Fin 2) : ∃ topic, topic ≠ "" ∧ updateAndCreation i =
    .runs ((delivery (message none topic)).handling (message none topic).toJs) := by
  match i with
  | 0 => exact ⟨"orders/updated", by decide, rfl⟩
  | 1 => exact ⟨"orders/create", by decide, rfl⟩

/-- A record of the import of the order. -/
def recordsImport : Ev → Bool
  | ⟨.io (.recordSuccess parts _ _), .ok _⟩ => (dedupKey parts).toOption = some Shop.key
  | _ => false

theorem recordsImport_of {ev : Ev} (h : recordsImport ev = true) : RecordsImport Shop.key ev := by
  unfold recordsImport at h
  split at h
  · exact ⟨_, _, _, _, rfl, toOption_eq_some (by simpa using h)⟩
  · cases h

/-- Where both deliveries have returned and nothing failed, both were smooth. -/
theorem imports {turns : List (Fin 2)} (i : Fin 2)
    (hdone : up.isDone updateAndCreation turns world i = true)
    (hok : ∀ entry ∈ (up.interleave updateAndCreation turns world).1,
      isFailedCall entry.2 = false) :
    (updateAndCreation i).Imports admits Shop.key world
      (callsOf i (up.interleave updateAndCreation turns world).1) := by
  obtain ⟨topic, htopic, hthread⟩ := updateAndCreation_runs i
  obtain ⟨res, hruns⟩ := Responder.settles_of_isDone hdone hthread
  have hparse := parseOrderWebhookMessage_toJs (message_wellFormed none htopic)
  have hsmooth : Smooth admits (callsOf i (up.interleave updateAndCreation turns world).1) :=
    Responder.smooth_of_respond (fun ev hev => mem_interleave (mem_of_mem_callsOf hev))
      (fun ev hev => hok _ (mem_of_mem_callsOf hev))
  refine @Thread.Imports.intro _ _ _ _ _ _ _ _ [] res hthread ?_ ?_ ?_ ?_
  · rw [hthread]
    intro msg hmsg
    rw [hparse] at hmsg
    obtain rfl := Except.ok.inj hmsg
    have hgid : (message none topic).orderGid = order.id := rfl
    exact dedupKey_parts hgid
  · intro msg found hmsg hfound _
    rw [hparse] at hmsg
    obtain rfl := Except.ok.inj hmsg
    obtain rfl : connection = found := Option.some.inj hfound
    exact importable (message none topic)
  · rw [List.append_nil]
    exact hruns
  · rw [List.append_nil]
    exact hsmooth

end Shop

/-- The update came after the import. -/
theorem synced_stays_iff_shop :
    let log := (Shop.up.interleave Shop.updateAndCreation Shop.gateAfter Shop.world).1
    StaysSynced Shop.key Shop.world log ∧ GatesSpare Shop.key Shop.world log ↔
      GatesUnclaimed Shop.key log :=
  synced_stays_iff (Shop.up.interleaves Shop.updateAndCreation Shop.gateAfter Shop.world)
    (fun i => Shop.imports i (by revert i; decide +kernel) (by decide +kernel)) rfl

/-- The update found no row, and then marked the row that the creation had imported meanwhile. -/
theorem gate_ignores_synced_row : ¬∀ (A : Answers) (key : String) (n : ℕ)
    (threads : Fin n → Thread) (log : List (Fin n × Ev)) (w w' : World),
    World.Interleaves threads w log w' →
    (∀ i, (threads i).Imports A key w (callsOf i log)) → w.xref key = none →
    StaysSynced key w log ∧ GatesSpare key w log := by
  intro h
  have hruns := Shop.up.interleaves Shop.updateAndCreation Shop.gateOpen Shop.world
  obtain ⟨hstays, _⟩ := h Shop.admits Shop.key 2 _ _ _ _ hruns
    (fun i => Shop.imports i (by revert i; decide +kernel) (by decide +kernel)) rfl
  obtain ⟨entry, hentry, hrecords⟩ := List.any_eq_true.mp
    (show (Shop.up.interleave Shop.updateAndCreation Shop.gateOpen Shop.world).1.any
      (fun entry => Shop.recordsImport entry.2) = true by decide +kernel)
  have hsynced := hstays.synced hruns.steps hentry (Shop.recordsImport_of hrecords)
  have hignored : (Shop.up.interleave Shop.updateAndCreation Shop.gateOpen Shop.world).2.status
      Shop.key = some .ignored := by decide +kernel
  rw [hignored] at hsynced
  cases hsynced

end DpIntegrator
