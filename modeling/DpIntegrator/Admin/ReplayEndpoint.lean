import DpIntegrator.Delivery.Producers

/-!
# The replay endpoint

`POST /api/ops/replay` reads the request of an operator, asks for the replay of the order that it
names, and answers with a status for each outcome. It says 202 if and only if a message was
published; with every other status nothing happened.
-/

namespace DpIntegrator

open Effects

/-! ## Order ids -/

/-- `/^\d+$/`. -/
def isDigits (s : String) : Bool := s ≠ "" && s.toList.all Char.isDigit

/-- The GID of the order with a number. -/
def orderGidOfNumber (number : String) : String := "gid://shopify/Order/" ++ number

/-- `/^gid:\/\/shopify\/Order\/\d+$/`. -/
def isOrderGid (s : String) : Bool :=
  "gid://shopify/Order/".toList.isPrefixOf s.toList && isDigits (String.ofList (s.toList.drop 20))

/-- The GID of an order that is named by it or by its number. -/
def orderGid? (s : String) : Option String :=
  if isOrderGid s then some s
  else if isDigits s then some (orderGidOfNumber s) else none

theorem isOrderGid_iff {s : String} :
    isOrderGid s = true ↔ ∃ number, isDigits number = true ∧ s = orderGidOfNumber number := by
  unfold isOrderGid orderGidOfNumber
  rw [Bool.and_eq_true, List.isPrefixOf_iff_prefix]
  constructor
  · rintro ⟨⟨rest, hrest⟩, hdigits⟩
    rw [← hrest, List.drop_left' (by decide)] at hdigits
    refine ⟨String.ofList rest, hdigits, String.toList_inj.mp ?_⟩
    rw [String.toList_append, @String.toList_ofList rest, hrest]
  · rintro ⟨number, hdigits, rfl⟩
    rw [String.toList_append, List.drop_left' (by decide), String.ofList_toList]
    exact ⟨List.prefix_append .., hdigits⟩

theorem toList_orderGidOfNumber (number : String) : (orderGidOfNumber number).toList =
    'g' :: ("id://shopify/Order/".toList ++ number.toList) := String.toList_append

theorem orderGidOfNumber_ne_empty (number : String) : orderGidOfNumber number ≠ "" := by
  intro hempty
  have hchars := congrArg String.toList hempty
  rw [toList_orderGidOfNumber] at hchars
  cases hchars

/-- A GID does not start with a digit. -/
theorem isDigits_orderGidOfNumber (number : String) :
    isDigits (orderGidOfNumber number) = false := by
  unfold isDigits
  rw [toList_orderGidOfNumber, List.all_cons, Bool.and_eq_false_iff]
  exact .inr rfl

/-- An order is named by its number or by its GID. -/
theorem orderGid?_eq_some {s gid : String} : orderGid? s = some gid ↔
    ∃ number, isDigits number = true ∧ gid = orderGidOfNumber number ∧ (s = gid ∨ s = number) := by
  unfold orderGid?
  constructor
  · intro h
    split at h
    · next hgid =>
      obtain ⟨number, hdigits, hs⟩ := isOrderGid_iff.mp hgid
      cases h
      exact ⟨number, hdigits, hs, .inl rfl⟩
    · obtain ⟨hdigits, h⟩ := Option.ite_none_right_eq_some.mp h
      cases h
      exact ⟨s, hdigits, rfl, .inr rfl⟩
  · rintro ⟨number, hdigits, rfl, rfl | rfl⟩
    · rw [if_pos (isOrderGid_iff.mpr ⟨number, hdigits, rfl⟩)]
    · rw [if_neg, if_pos hdigits]
      intro hgid
      obtain ⟨number, _, rfl⟩ := isOrderGid_iff.mp hgid
      rw [isDigits_orderGidOfNumber] at hdigits
      cases hdigits

/-! ## The endpoint -/

/-- The body of a request, as it is parsed. The source takes its `topic` for a text. -/
structure RequestBody where
  value : Js.Value
  topic_text : (value.prop "topic").truthy = true → ∃ s, value.prop "topic" = .str s

structure ReplayDeps where
  environment : Environment
  /-- Whether the xref store is wired. -/
  xrefStore : Bool
  /-- `JSON.parse`; `none` where it throws. -/
  parseJson : String → Option RequestBody

structure HttpResponse where
  status : ℕ
  jsonBody : Js.Fields

/-- A response that refuses the request. -/
def HttpResponse.refused (status : ℕ) (reason detail : String) : HttpResponse where
  status := status
  jsonBody := [("ok", .bool false), ("reason", .str reason), ("detail", .str detail)]

def normalizeOrderGid : Js.Value → Option String
  | .str s => if s = "" then none else orderGid? s
  | _ => none

/-- The topic that the body asks for. -/
def RequestBody.topic (body : RequestBody) : Option String :=
  match body.value.prop "topic" with
  | .str s => if s = "" then none else some s
  | _ => none

/-- The replay that a body asks for, or why it asks for none. -/
def RequestBody.request (body : RequestBody) (environment : Environment) :
    Except String ReplayRequest :=
  match body.value.prop "connectionId" with
  | .str connectionId =>
    if connectionId = "" then .error "connectionId required"
    else match normalizeOrderGid (body.value.prop "orderGid") with
      | none => .error "orderGid required (gid:// or numeric)"
      | some orderGid =>
        .ok ⟨environment, connectionId, orderGid, body.topic, (body.value.prop "force").truthy⟩
  | _ => .error "connectionId required"

/-- The status of a row before the replay. -/
def previousStatusText : Option XrefStatus → String
  | none => "absent"
  | some .pending => "pending"
  | some .synced => "synced"
  | some .error => "error"
  | some .ignored => "ignored"

/-- What the endpoint answers for an outcome. -/
def ReplayOutcome.response (connectionId : String) : ReplayOutcome → HttpResponse
  | .replayed previousStatus sessionId =>
    ⟨202, [("ok", .bool true), ("outcome", .str "replayed"),
      ("previousStatus", .str (previousStatusText previousStatus)), ("sessionId", .str sessionId)]⟩
  | .refusedAlreadySynced targetId =>
    ⟨409, [("ok", .bool false), ("outcome", .str "refused_already_synced"),
      ("detail", .str "order already imported; pass force=true to re-replay"),
      ("targetId", (targetId.map Js.Value.str).getD .null)]⟩
  | .unknownConnection _ =>
    ⟨404, [("ok", .bool false), ("outcome", .str "unknown_connection"),
      ("connectionId", .str connectionId)]⟩

def handleAdminReplay (deps : ReplayDeps) (rawBody : String) : Async HttpResponse :=
  if deps.xrefStore = false then
    return .refused 503 "not_ready" "xref store not wired"
  else
    match deps.parseJson rawBody with
    | none => return .refused 400 "bad_request" "body is not valid JSON"
    | some body =>
      match body.value with
      | .null =>
        throw (typeError "Cannot destructure property 'connectionId' of 'parsed' as it is null.")
      | _ =>
        match body.request deps.environment with
        | .error detail => return .refused 400 "bad_request" detail
        | .ok req => do
          let outcome ← requestReplay req
          return outcome.response req.connectionId

/-! ## What a request asks for -/

variable {deps : ReplayDeps} {rawBody : String} {body : RequestBody} {req : ReplayRequest}
  {tr : List Ev} {w w' : World}

/-- The endpoint reads the request in a body. -/
structure Asks (deps : ReplayDeps) (rawBody : String) (req : ReplayRequest) : Prop where
  wired : deps.xrefStore = true
  read : ∃ body, deps.parseJson rawBody = some body ∧ body.value ≠ .null ∧
    body.request deps.environment = .ok req

theorem Asks.ready (h : Asks deps rawBody req) : deps.xrefStore ≠ false := by
  rw [h.wired]
  exact Bool.noConfusion

theorem Asks.unique {req' : ReplayRequest} (h : Asks deps rawBody req)
    (h' : Asks deps rawBody req') : req = req' := by
  obtain ⟨body, hbody, _, hreq⟩ := h.read
  obtain ⟨body', hbody', _, hreq'⟩ := h'.read
  obtain rfl := Option.some.inj (hbody.symm.trans hbody')
  exact Except.ok.inj (hreq.symm.trans hreq')

/-- A request names a connection, and an order by a GID that ends in a number. -/
theorem RequestBody.request_eq_ok (h : body.request deps.environment = .ok req) :
    req.environment = deps.environment ∧ req.connectionId ≠ "" ∧ req.topic = body.topic ∧
      ∃ number, isDigits number = true ∧ req.orderGid = orderGidOfNumber number := by
  unfold RequestBody.request at h
  split at h
  · split at h
    · cases h
    next hne =>
      split at h
      · cases h
      next gid hgid =>
        cases h
        refine ⟨rfl, hne, rfl, ?_⟩
        unfold normalizeOrderGid at hgid
        split at hgid
        · obtain ⟨_, hgid⟩ := Option.ite_none_left_eq_some.mp hgid
          obtain ⟨number, hdigits, rfl, _⟩ := orderGid?_eq_some.mp hgid
          exact ⟨number, hdigits, rfl⟩
        · cases hgid
  · cases h

theorem RequestBody.topic_ne_empty (body : RequestBody) : body.topic ≠ some "" := by
  unfold RequestBody.topic
  split
  · split
    · simp
    next hne => simpa using hne
  · simp

/-- How a run of the endpoint ends: it answers alone, or passes on what the replay says. -/
theorem handleAdminReplay_ends {out : Except Thrown HttpResponse}
    (h : Settles (handleAdminReplay deps rawBody) tr out) :
    (tr = [] ∧ ∃ res, out = .ok res ∧ (res.status = 503 ∧ deps.xrefStore = false ∨
      res.status = 400 ∧ deps.xrefStore = true ∧ ∀ req, ¬Asks deps rawBody req)) ∨
    (tr = [] ∧ ∃ e, out = .error e) ∨
    ∃ req o, Asks deps rawBody req ∧ Settles (requestReplay req) tr o ∧
      out = o.map (ReplayOutcome.response req.connectionId) := by
  unfold handleAdminReplay at h
  split at h
  next hwired =>
    obtain ⟨rfl, rfl⟩ := settles_pure.mp h
    exact .inl ⟨rfl, _, rfl, .inl ⟨rfl, hwired⟩⟩
  next hwired =>
    have hwired := Bool.eq_true_of_not_eq_false hwired
    split at h
    next hparse =>
      obtain ⟨rfl, rfl⟩ := settles_pure.mp h
      refine .inl ⟨rfl, _, rfl, .inr ⟨rfl, hwired, fun req hasks => ?_⟩⟩
      obtain ⟨body, hbody, _⟩ := hasks.read
      rw [hparse] at hbody
      cases hbody
    next body hparse =>
      split at h
      · obtain ⟨rfl, rfl⟩ := settles_throw.mp h
        exact .inr (.inl ⟨rfl, _, rfl⟩)
      next hnull =>
        split at h
        next detail hreq =>
          obtain ⟨rfl, rfl⟩ := settles_pure.mp h
          refine .inl ⟨rfl, _, rfl, .inr ⟨rfl, hwired, fun req hasks => ?_⟩⟩
          obtain ⟨body', hbody', _, hreq'⟩ := hasks.read
          obtain rfl := Option.some.inj (hparse.symm.trans hbody')
          rw [hreq] at hreq'
          cases hreq'
        next req hreq =>
          have hasks : Asks deps rawBody req := ⟨hwired, body, hparse, hnull, hreq⟩
          obtain ⟨e, rfl, hreplay⟩ | ⟨o, t₁, t₂, rfl, hreplay, hret⟩ := settles_bind.mp h
          · exact .inr (.inr ⟨req, _, hasks, hreplay, rfl⟩)
          · obtain ⟨rfl, rfl⟩ := settles_pure.mp hret
            exact .inr (.inr ⟨req, _, hasks, by simpa using hreplay, rfl⟩)

/-! ## What a replay answers -/

/-- The state that a replay finds, and what it answers there. -/
inductive ReplayFinds (req : ReplayRequest) (w : World) :
    List Ev → ReplayOutcome → World → Prop
  | unknown (h : w.findById req.environment req.connectionId = none) :
      ReplayFinds req w [answered (.findConnection req.environment req.connectionId) (.ok none)]
        (.unknownConnection req.connectionId) w
  | refused {connection : Connection} {key : String} {row : XrefRow}
      (hfound : w.findById req.environment req.connectionId = some connection)
      (hkey : dedupKey req.parts = .ok key) (hrow : w.xref key = some row)
      (hsynced : row.status = .synced) (hforce : req.force = false) :
      ReplayFinds req w
        [answered (.findConnection req.environment req.connectionId) (.ok (some connection)),
          answered (.lookupXref req.parts) (.ok (some row))]
        (.refusedAlreadySynced row.targetId) w
  | sent {connection : Connection} {key : String} {t : List Ev} {now at_ : ℤ}
      (hfound : w.findById req.environment req.connectionId = some connection)
      (hkey : dedupKey req.parts = .ok key) (hadmits : Admits req key w) (hquiet : Quiet t) :
      ReplayFinds req w
        (t ++ [answered (.enqueue req.sessionId (req.body connection now)) (.ok ())])
        (.replayed ((w.xref key).map XrefRow.status) req.sessionId)
        { w with
          xref := w.xref.drop key
          queue := w.queue.enqueue (some req.sessionId) (req.body connection now) at_ }

theorem requestReplay_finds {o : ReplayOutcome} (h : Settles (requestReplay req) tr (.ok o))
    (hsteps : w.Steps tr w') : ReplayFinds req w tr o w' := by
  have hrun := h
  unfold requestReplay at h
  obtain ⟨e, _, hout⟩ | ⟨found, t, rfl, hrest⟩ := settles_io_bind.mp h
  · cases hout
  obtain ⟨w₁, hstep, hsteps₁⟩ := steps_cons.mp hsteps
  obtain ⟨hfound, rfl⟩ := World.Step.findConnection_ok hstep
  cases found with
  | none =>
    obtain ⟨rfl, hout⟩ := settles_pure.mp hrest
    obtain rfl := steps_nil.mp hsteps₁
    cases hout
    exact .unknown hfound.symm
  | some connection =>
  obtain ⟨e, _, hout⟩ | ⟨existing, t, rfl, hlast⟩ := settles_io_bind.mp hrest
  · cases hout
  obtain ⟨w₂, hstep, hsteps₂⟩ := steps_cons.mp hsteps₁
  obtain ⟨key, hkey, hexisting, rfl⟩ := World.Step.lookupXref_ok hstep
  by_cases hrefused : ∃ row, existing = some row ∧ row.status = .synced ∧ req.force = false
  · obtain ⟨row, rfl, hwhy⟩ := hrefused
    dsimp only at hlast
    rw [if_pos hwhy] at hlast
    obtain ⟨rfl, hout⟩ := settles_pure.mp hlast
    obtain rfl := steps_nil.mp hsteps₂
    cases hout
    exact .refused hfound.symm hkey hexisting.symm hwhy.1 hwhy.2
  · -- the row is admitted, so that `requestReplay_ends` leaves one way to return
    have hadmits : Admits req key w₂ := by
      intro row hrow hsynced
      have hnot : ¬(row.status = .synced ∧ req.force = false) :=
        fun hwhy => hrefused ⟨row, hexisting.trans hrow, hwhy⟩
      exact Bool.eq_true_of_not_eq_false fun hforce => hnot ⟨hsynced, hforce⟩
    have hends := requestReplay_ends hkey hrun hsteps
    generalize htr : answered (.findConnection ..) _ :: _ = tr at hends ⊢
    generalize hout : Except.ok o = out at hends
    cases hends with
    | failed => cases hout
    | refused _ hwhy =>
      obtain hnone | hnot := hwhy
      · rw [hnone] at hfound
        cases hfound
      · exact absurd hadmits hnot
    | @sent t connection now r w' hfound' _ hquiet hsend =>
      cases r with
      | error e => cases hout
      | ok u =>
        obtain ⟨at_, rfl⟩ := World.Step.enqueue_ok hsend
        cases hout
        exact .sent hfound' hkey hadmits hquiet

/-! ## What the endpoint answers -/

/-- What warrants a status: the wiring, the body and the tables. -/
inductive Warrants (deps : ReplayDeps) (rawBody : String) (w : World) : ℕ → Prop
  | notReady (hwired : deps.xrefStore = false) : Warrants deps rawBody w 503
  | malformed (hwired : deps.xrefStore = true) (hno : ∀ req, ¬Asks deps rawBody req) :
      Warrants deps rawBody w 400
  | unknown {req : ReplayRequest} (hasks : Asks deps rawBody req)
      (hfound : w.findById req.environment req.connectionId = none) : Warrants deps rawBody w 404
  | refused {req : ReplayRequest} {connection : Connection} {key : String} {row : XrefRow}
      (hasks : Asks deps rawBody req)
      (hfound : w.findById req.environment req.connectionId = some connection)
      (hkey : dedupKey req.parts = .ok key) (hrow : w.xref key = some row)
      (hsynced : row.status = .synced) (hforce : req.force = false) : Warrants deps rawBody w 409
  | replayed {req : ReplayRequest} {connection : Connection} {key : String}
      (hasks : Asks deps rawBody req)
      (hfound : w.findById req.environment req.connectionId = some connection)
      (hkey : dedupKey req.parts = .ok key) (hadmits : Admits req key w) :
      Warrants deps rawBody w 202

/-- At most one status is warranted. -/
theorem Warrants.unique {s s' : ℕ} (h : Warrants deps rawBody w s)
    (h' : Warrants deps rawBody w s') : s = s' := by
  cases h with
  | notReady hwired =>
    cases h' with
    | notReady => rfl
    | malformed hwired' => simp [hwired] at hwired'
    | unknown hasks | refused hasks | replayed hasks => exact absurd hwired hasks.ready
  | malformed hwired hno =>
    cases h' with
    | notReady hwired' => simp [hwired] at hwired'
    | malformed => rfl
    | unknown hasks | refused hasks | replayed hasks => exact absurd hasks (hno _)
  | unknown hasks hfound =>
    cases h' with
    | notReady hwired' => exact absurd hwired' hasks.ready
    | malformed _ hno => exact absurd hasks (hno _)
    | unknown => rfl
    | refused hasks' hfound' | replayed hasks' hfound' =>
      obtain rfl := hasks.unique hasks'
      cases hfound.symm.trans hfound'
  | refused hasks hfound hkey hrow hsynced hforce =>
    cases h' with
    | notReady hwired' => exact absurd hwired' hasks.ready
    | malformed _ hno => exact absurd hasks (hno _)
    | unknown hasks' hfound' =>
      obtain rfl := hasks.unique hasks'
      cases hfound.symm.trans hfound'
    | refused => rfl
    | replayed hasks' _ hkey' hadmits =>
      obtain rfl := hasks.unique hasks'
      obtain rfl := Except.ok.inj (hkey.symm.trans hkey')
      simp [hadmits _ hrow hsynced] at hforce
  | replayed hasks hfound hkey hadmits =>
    cases h' with
    | notReady hwired' => exact absurd hwired' hasks.ready
    | malformed _ hno => exact absurd hasks (hno _)
    | unknown hasks' hfound' =>
      obtain rfl := hasks.unique hasks'
      cases hfound.symm.trans hfound'
    | refused hasks' _ hkey' hrow hsynced hforce =>
      obtain rfl := hasks.unique hasks'
      obtain rfl := Except.ok.inj (hkey.symm.trans hkey')
      simp [hadmits _ hrow hsynced] at hforce
    | replayed => rfl

theorem Quiet.enqueuedBy (h : Quiet tr) : tr.filterMap enqueuedBy = [] := by
  refine List.filterMap_eq_nil_iff.mpr fun ev hev => Option.eq_none_iff_forall_ne_some.mpr ?_
  rintro ⟨sessionId, msg⟩ hmsg
  have hmem : answered (.enqueue sessionId msg) (.ok ()) ∈ tr :=
    mem_of_enqueuedBy (List.mem_filterMap.mpr ⟨ev, hev, hmsg⟩)
  exact h _ _ _ hmem

/-- The one message of a replay, and what is left behind it. -/
structure Republished (req : ReplayRequest) (w : World) (tr : List Ev) (w' : World) : Prop where
  sent : ∃ connection key now at_,
    w.findById req.environment req.connectionId = some connection ∧
    dedupKey req.parts = .ok key ∧
    tr.filterMap enqueuedBy = [(req.sessionId, req.body connection now)] ∧
    w' = { w with
      xref := w.xref.drop key
      queue := w.queue.enqueue (some req.sessionId) (req.body connection now) at_ } ∧
    (Acceptable w' (req.body connection now) ↔ connection.enabled = true)

/-- What an answer of the endpoint says about the tables and about what was published. -/
structure EndpointAnswers (deps : ReplayDeps) (rawBody : String) (w : World) (tr : List Ev)
    (res : HttpResponse) (w' : World) : Prop where
  status : ∀ s, res.status = s ↔ Warrants deps rawBody w s
  nothing : res.status ≠ 202 → tr.filterMap enqueuedBy = [] ∧ w' = w
  published : res.status = 202 → ∃ req, Asks deps rawBody req ∧ Republished req w tr w'

theorem EndpointAnswers.of_warrant {res : HttpResponse}
    (hwarrants : Warrants deps rawBody w res.status)
    (hnothing : res.status ≠ 202 → tr.filterMap enqueuedBy = [] ∧ w' = w)
    (hpublished : res.status = 202 → ∃ req, Asks deps rawBody req ∧ Republished req w tr w') :
    EndpointAnswers deps rawBody w tr res w' := by
  refine ⟨fun s => ⟨?_, fun h => hwarrants.unique h⟩, hnothing, hpublished⟩
  rintro rfl
  exact hwarrants

section Answer

variable {o : ReplayOutcome} {out : Except Thrown HttpResponse}

/-- The message of a replay is one that the handler accepts, if its connection is enabled. -/
theorem republished_acceptable {connection : Connection} {now : ℤ}
    (hconf : Configured w.connections) (hasks : Asks deps rawBody req)
    (hfound : w.findById req.environment req.connectionId = some connection)
    (hw' : w'.connections = w.connections) :
    Acceptable w' (req.body connection now) ↔ connection.enabled = true := by
  obtain ⟨body, _, _, hreq⟩ := hasks.read
  obtain ⟨_, hid, htopic, number, _, hgid⟩ := RequestBody.request_eq_ok hreq
  have hfound' : w'.findById req.environment req.connectionId = some connection := by
    rw [World.findById, hw']
    exact hfound
  constructor
  · rintro ⟨_, connection', hfound'', henabled⟩
    obtain rfl := Option.some.inj (hfound'.symm.trans hfound'')
    exact henabled
  · intro henabled
    have hin : connection ∈ w.connections := List.mem_of_find?_eq_some hfound
    have hwf : (req.body connection now).WellFormed := by
      refine ⟨hid, hconf.shopifyStore _ hin, ?_, ?_, ?_, Js.toISOString_ne_empty _⟩
      · have hne : req.topic ≠ some "" := htopic ▸ body.topic_ne_empty
        cases htopic : req.topic with
        | none => simp [ReplayRequest.body, htopic]
        | some topic =>
          rw [htopic] at hne
          simpa [ReplayRequest.body, htopic] using hne
      · change req.orderGid ≠ ""
        rw [hgid]
        exact orderGidOfNumber_ne_empty number
      · simp [ReplayRequest.body]
    exact ⟨hwf, connection, hfound', henabled⟩

theorem ReplayFinds.answers (hconf : Configured w.connections) (hasks : Asks deps rawBody req)
    (h : ReplayFinds req w tr o w') :
    EndpointAnswers deps rawBody w tr (o.response req.connectionId) w' := by
  cases h with
  | unknown hfound =>
    exact .of_warrant (.unknown hasks hfound) (fun _ => ⟨rfl, rfl⟩)
      (by simp [ReplayOutcome.response])
  | refused hfound hkey hrow hsynced hforce =>
    exact .of_warrant (.refused hasks hfound hkey hrow hsynced hforce) (fun _ => ⟨rfl, rfl⟩)
      (by simp [ReplayOutcome.response])
  | @sent connection key t now at_ hfound hkey hadmits hquiet =>
    refine .of_warrant (.replayed hasks hfound hkey hadmits) (fun hne => absurd rfl hne) fun _ => ?_
    refine ⟨req, hasks, connection, key, now, at_, hfound, hkey, ?_, rfl, ?_⟩
    · rw [List.filterMap_append, hquiet.enqueuedBy]
      rfl
    · exact republished_acceptable hconf hasks hfound rfl

/-- A replay that throws has published nothing. -/
theorem requestReplay_error_quiet {e : Thrown} (h : Settles (requestReplay req) tr (.error e))
    (hsteps : w.Steps tr w') : tr.filterMap enqueuedBy = [] := by
  refine List.eq_nil_iff_forall_not_mem.mpr ?_
  rintro ⟨sessionId, msg⟩ hmem
  have hsent := mem_of_enqueuedBy hmem
  obtain ⟨_, existing, _, _, hlookup, _⟩ := requestReplay_of_mem_enqueue h hsent
  obtain ⟨key, hkey⟩ := hsteps.exists_key hlookup
  have hends := requestReplay_ends hkey h hsteps
  generalize hout : Except.error e = out at hends
  cases hends with
  | failed _ hquiet => exact hquiet _ _ _ hsent
  | refused => cases hout
  | @sent t _ _ r _ _ _ hquiet _ =>
    obtain hsent | hsent := List.mem_append.mp hsent
    · exact hquiet _ _ _ hsent
    · cases List.mem_singleton.mp hsent
      cases hout

end Answer

namespace Shop

/-- The body of a request for the order, by its number. -/
def replayBody : RequestBody where
  value := .obj [("connectionId", .str "conn-a"), ("orderGid", .str "1")]
  topic_text := by
    intro htruthy
    cases htruthy

def replayDeps : ReplayDeps := ⟨.dev, true, fun _ => some replayBody⟩

/-- A request for the parked order. -/
def posted : List Ev × Except Thrown HttpResponse × World :=
  (handleAdminReplay replayDeps "").run.execute up.respond parked

theorem posted_exec : Exec World.Step (handleAdminReplay replayDeps "").run parked posted.1
    posted.2.1 posted.2.2 := Prog.exec_execute up.step_respond _ parked

end Shop

end DpIntegrator
