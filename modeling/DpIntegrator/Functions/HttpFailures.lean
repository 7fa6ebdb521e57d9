import DpIntegrator.Functions.Decoration
import DpIntegrator.Js.Patterns
import DpIntegrator.Shopify.HttpGateway

/-!
# The class of an HTTP failure of Shopify

The status of a failed response stands in the message of its error, after the store and in front
of the body. The classification finds it there: the words in front of it start no other match,
and what comes after a match is not looked at.
-/

namespace DpIntegrator

open Effects

/-! ## Where the status is found -/

/-- The text has `returned `, in any case, followed by three digits. -/
def SaysReturned (cs : List Char) : Prop :=
  ∃ spelled digits : List Char, spelled.map Char.toLower = "returned ".toList ∧
    digits.length = 3 ∧ (∀ d ∈ digits, d.isDigit = true) ∧ spelled ++ digits <:+: cs

theorem SaysReturned.mono {u cs : List Char} (h : SaysReturned u) (hsub : u <:+: cs) :
    SaysReturned cs := by
  obtain ⟨spelled, digits, hspelled, hlength, hdigits, hwithin⟩ := h
  exact ⟨spelled, digits, hspelled, hlength, hdigits, hwithin.trans hsub⟩

/-- No domain says so: it has no spaces. -/
theorem not_saysReturned {cs : List Char} (h : ∀ c ∈ cs, c.toLower ≠ ' ') : ¬SaysReturned cs := by
  rintro ⟨spelled, digits, hspelled, _, _, hwithin⟩
  have hspace : ' ' ∈ spelled.map Char.toLower := by
    rw [hspelled]
    decide
  obtain ⟨c, hc, hlower⟩ := List.mem_map.mp hspace
  exact h c (hwithin.subset (List.mem_append_left _ hc)) hlower

theorem exists_of_threeDigits {cs : List Char} {n : ℕ} (h : Js.threeDigits cs = some n) :
    ∃ a b c rest, cs = a :: b :: c :: rest ∧ a.isDigit = true ∧ b.isDigit = true ∧
      c.isDigit = true := by
  match cs with
  | a :: b :: c :: rest =>
    rw [Js.threeDigits, Option.ite_none_right_eq_some] at h
    simp only [Bool.and_eq_true] at h
    exact ⟨a, b, c, rest, rfl, h.1.1.1.1, h.1.1.1.2, h.1.1.2⟩

/-- A text that does not say so matches at no place in front of another `returned`. -/
theorem matchReturned_of_not_says {prev : Option Char} {u v : List Char} (hu : ¬SaysReturned u) :
    matchReturned prev (u ++ ' ' :: ("returned ".toList ++ v)) = none := by
  by_contra hsome
  obtain ⟨n, hmatch⟩ := Option.ne_none_iff_exists'.mp hsome
  obtain ⟨rest, hword, hdigits⟩ := Option.bind_eq_some_iff.mp hmatch
  have hsplit : "returned ".toList = "returned".toList ++ [' '] := rfl
  rw [hsplit, afterWord_append] at hword
  obtain ⟨rest₁, hreturned, hspace⟩ := Option.bind_eq_some_iff.mp hword
  obtain ⟨u', _, rfl⟩ := afterWord_before_space (by decide) hreturned
  obtain ⟨spelled, heq, hspelled⟩ := Js.afterWord_eq_some hreturned
  rw [← List.append_assoc] at heq
  have hfront : u = spelled ++ u' := List.append_cancel_right heq
  obtain ⟨space, hcons, hlower⟩ := Js.afterWord_eq_some hspace
  obtain ⟨c, rfl, hc⟩ : ∃ c, space = [c] ∧ c.toLower = ' ' := by
    obtain ⟨c, tail, rfl, hc, htail⟩ := List.map_eq_cons_iff.mp hlower
    exact ⟨c, by rw [List.map_eq_nil_iff.mp htail], hc⟩
  obtain ⟨a, b, d, rest', rfl, ha, hb, hd⟩ := exists_of_threeDigits hdigits
  -- the digits do not reach the space in front of the other `returned`
  match u', hcons with
  | [], hcons =>
    injection hcons with _ htail
    injection htail with hr
    rw [← hr] at ha
    cases ha
  | [_], hcons =>
    injection hcons with _ htail
    injection htail with hspace
    rw [← hspace] at ha
    cases ha
  | [_, _], hcons =>
    injection hcons with _ htail
    injection htail with _ htail
    injection htail with hspace
    rw [← hspace] at hb
    cases hb
  | [_, _, _], hcons =>
    injection hcons with _ htail
    injection htail with _ htail
    injection htail with _ htail
    injection htail with hspace
    rw [← hspace] at hd
    cases hd
  | c' :: a' :: b' :: d' :: u'', hcons =>
    simp only [List.cons_append, List.nil_append, List.cons.injEq] at hcons
    obtain ⟨rfl, rfl, rfl, rfl, _⟩ := hcons
    refine hu ⟨spelled ++ [c'], [a', b', d'], ?_, rfl, by simp [ha, hb, hd], [], u'', ?_⟩
    · rw [List.map_append, hspelled, List.map_singleton, hc]
      rfl
    · simp [hfront]

theorem matchReturned_eq_none {prev : Option Char} {cs : List Char}
    (h : Js.afterWord "returned ".toList cs = none) : matchReturned prev cs = none :=
  congrArg (Option.bind · Js.threeDigits) h

theorem matchReturned_status {prev : Option Char} {status : ℕ} {q : Char} {text : List Char}
    (hstatus : 100 ≤ status ∧ status < 1000) (hq : Js.isWord q = false) :
    matchReturned prev ("returned ".toList ++ (Nat.toDigits 10 status ++ q :: text)) =
      some status := by
  have hword : Js.afterWord "returned ".toList
      ("returned ".toList ++ (Nat.toDigits 10 status ++ q :: text)) =
        some (Nat.toDigits 10 status ++ q :: text) := rfl
  unfold matchReturned
  rw [hword, Option.bind_some, threeDigits_eq hq
    (fun c hc => Nat.isDigit_of_mem_toDigits (by decide) (by decide) hc)
    ((length_toDigits_eq_three status).mpr hstatus), Nat.ofDigitChars_ten_toDigits]

/-- The first status that the message of a failure names is that of the response. -/
theorem search_matchReturned_failure {source store text : List Char} {status : ℕ} {q : Char}
    (hsource : Js.startsNowhere "returned ".toList source = true) (hstore : ¬SaysReturned store)
    (hstatus : 100 ≤ status ∧ status < 1000) (hq : Js.isWord q = false) :
    Js.search matchReturned none (source ++ (store ++ [' ']) ++ ("returned ".toList ++
      (Nat.toDigits 10 status ++ q :: text))) = some status := by
  rw [List.append_assoc,
    Js.search_append_of_startsNowhere (fun _ _ => matchReturned_eq_none) hsource]
  rw [Js.search_append_of_none (by simp)]
  · exact Js.search_of_some (matchReturned_status hstatus hq)
  · intro before c after heq
    obtain hnil | ⟨u, x, hu⟩ := List.eq_nil_or_concat (c :: after)
    · cases hnil
    rw [List.concat_eq_append] at hu
    rw [hu, ← List.append_assoc] at heq
    obtain ⟨hbefore, hspace⟩ := List.append_inj' heq rfl
    cases hspace
    rw [hu, List.append_assoc]
    exact matchReturned_of_not_says fun hfound => hstore (hfound.mono ⟨before, [], by simp [hbefore]⟩)

/-! ## Failures -/

/-- The class of an HTTP status of Shopify. -/
def classOfFailure (status : ℕ) : ErrorClass :=
  if status = 401 ∨ status = 403 then .auth
  else if status = 429 ∨ 500 ≤ status then .transient
  else .data

theorem classOfStatus_eq {status : ℕ} (h : 400 ≤ status ∧ status < 600) :
    classOfStatus status = some (classOfFailure status) := by
  unfold classOfStatus classOfFailure
  grind

/-- A message that names the status behind the store has the class of the status. -/
theorem classOfMessage_failure {message : String} {source store text : List Char} {status : ℕ}
    {q : Char} (hmessage : message.toList = source ++ (store ++ [' ']) ++ ("returned ".toList ++
      (Nat.toDigits 10 status ++ q :: text)))
    (hsource : Js.startsNowhere "returned ".toList source = true) (hstore : ¬SaysReturned store)
    (hstatus : 400 ≤ status ∧ status < 600) (hq : Js.isWord q = false) :
    classOfMessage message = classOfFailure status := by
  have hfound : extractHttpStatus message = some status := by
    unfold extractHttpStatus
    rw [hmessage]
    dsimp only
    rw [search_matchReturned_failure hsource hstore (by omega) hq, Option.some_or]
  unfold classOfMessage
  rw [hfound, Option.bind_some, classOfStatus_eq hstatus]

theorem classify_httpFailure (sdk : NetSuiteSdk) {source store text : String} {status : ℕ}
    (hsource : Js.startsNowhere "returned ".toList (source ++ ": ").toList = true)
    (hstore : ¬SaysReturned store.toList) (hstatus : 400 ≤ status ∧ status < 600) :
    classifyHandlerError sdk (httpFailure source store status text) = classOfFailure status := by
  have hmessage : (source ++ ": " ++ store ++ " returned " ++ toString status ++ ": " ++
      text).toList = (source ++ ": ").toList ++ (store.toList ++ [' ']) ++ ("returned ".toList ++
        (Nat.toDigits 10 status ++ ':' :: (' ' :: text.toList))) := by
    have hdigits : (toString status).toList = Nat.toDigits 10 status := Nat.toList_repr
    simp only [String.toList_append, hdigits, List.append_assoc]
    rfl
  exact classOfMessage_failure hmessage hsource hstore hstatus (by decide)

/-- The error of the token service. -/
def tokenFailure (store : String) (status : ℕ) (text : String) : Thrown :=
  newError ("ShopifyTokenService: " ++ store ++ " returned " ++ toString status ++
    " on token exchange: " ++ text)

theorem classify_tokenFailure (sdk : NetSuiteSdk) {store text : String} {status : ℕ}
    (hstore : ¬SaysReturned store.toList) (hstatus : 400 ≤ status ∧ status < 600) :
    classifyHandlerError sdk (tokenFailure store status text) = classOfFailure status := by
  have hmessage : ("ShopifyTokenService: " ++ store ++ " returned " ++ toString status ++
      " on token exchange: " ++ text).toList = "ShopifyTokenService: ".toList ++
        (store.toList ++ [' ']) ++ ("returned ".toList ++ (Nat.toDigits 10 status ++
          ' ' :: ("on token exchange: ".toList ++ text.toList))) := by
    have hdigits : (toString status).toList = Nat.toDigits 10 status := Nat.toList_repr
    simp only [String.toList_append, hdigits, List.append_assoc]
    rfl
  exact classOfMessage_failure hmessage (by decide) hstore hstatus (by decide)

/-! ## Runs that fail -/

section Runs

variable {gateway : ShopifyHttpGateway} {connection : Connection} {status : ℕ} {text : String}
  {tr : List ShopifyEv}

/-- A response of a request of the gateway that is no success. -/
def FailedPost (status : ℕ) (text : String) (tr : List ShopifyEv) : Prop :=
  ∃ url accessToken request,
    (⟨.post url accessToken request, .ok (.failed status text)⟩ : ShopifyEv) ∈ tr

/-- A request that is refused throws the status and the text of the response. -/
theorem request_failed {source : String} {request : ShopifyRequest}
    {res : Except Thrown request.Body} (h : Settles (gateway.request connection source request) tr res)
    (hfailed : FailedPost status text tr) :
    res = .error (httpFailure source connection.shopifyStore status text) := by
  obtain ⟨url, accessToken, request', hmem⟩ := hfailed
  unfold ShopifyHttpGateway.request at h
  obtain ⟨e, rfl, htoken⟩ | ⟨token, t₁, t₂, rfl, htoken, hrest⟩ := settles_bind.mp h
  · obtain rfl := Shopify.settles_resolveAccessToken.mp htoken
    simp at hmem
  obtain rfl := Shopify.settles_resolveAccessToken.mp htoken
  obtain ⟨e, rfl, hpost⟩ | ⟨response, t₃, t₄, rfl, hpost, hread⟩ := settles_bind.mp hrest
  · obtain rfl := Shopify.settles_post.mp hpost
    simp only [List.cons_append, List.nil_append, List.mem_cons, List.not_mem_nil, or_false] at hmem
    obtain heq | heq := hmem <;> cases heq
  obtain rfl := Shopify.settles_post.mp hpost
  cases response with
  | failed status' text' =>
    obtain ⟨rfl, rfl⟩ := settles_throw.mp hread
    simp only [List.cons_append, List.nil_append, List.mem_cons, List.not_mem_nil, or_false] at hmem
    obtain heq | heq := hmem
    · cases heq
    · cases heq
      rfl
  | ok body =>
    obtain ⟨rfl, rfl⟩ := Shopify.settles_ofExcept.mp hread
    simp only [List.cons_append, List.nil_append, List.mem_cons, List.not_mem_nil, or_false] at hmem
    obtain heq | heq := hmem <;> cases heq

/-- So does everything that reads the body of the response. -/
theorem request_bind_failed {α : Type} {source : String} {request : ShopifyRequest}
    {f : request.Body → Except Thrown α} {res : Except Thrown α}
    (h : Settles (gateway.request connection source request >>= fun body =>
      Shopify.ofExcept (f body)) tr res) (hfailed : FailedPost status text tr) :
    res = .error (httpFailure source connection.shopifyStore status text) := by
  obtain ⟨e, rfl, hrequest⟩ | ⟨body, t₁, t₂, rfl, hrequest, hread⟩ := settles_bind.mp h
  · rw [Except.error.injEq, ← Except.error.inj (request_failed hrequest hfailed)]
  · obtain ⟨rfl, rfl⟩ := Shopify.settles_ofExcept.mp hread
    rw [List.append_nil] at hfailed
    cases request_failed hrequest hfailed

theorem fetchToken_failed {creds : ShopifyTokenServiceCredentials} {res : Except Thrown CachedToken}
    (h : Settles (fetchToken creds) tr res)
    (hfailed : ∃ url clientId clientSecret,
      (⟨.exchange url clientId clientSecret, .ok (.failed status text)⟩ : ShopifyEv) ∈ tr) :
    res = .error (tokenFailure creds.shopDomain status text) := by
  obtain ⟨url, clientId, clientSecret, hmem⟩ := hfailed
  unfold fetchToken at h
  obtain ⟨e, rfl, hexchange⟩ | ⟨response, t₁, t₂, rfl, hexchange, hread⟩ := settles_bind.mp h
  · obtain rfl := Shopify.settles_exchange.mp hexchange
    cases List.mem_singleton.mp hmem
  obtain rfl := Shopify.settles_exchange.mp hexchange
  cases response with
  | failed status' text' =>
    obtain ⟨rfl, rfl⟩ := settles_throw.mp hread
    cases List.mem_singleton.mp hmem
    rfl
  | ok body =>
    obtain heq | hlater := List.mem_append.mp hmem
    · cases List.mem_singleton.mp heq
    cases body with
    | error e =>
      rw [(settles_throw.mp hread).1] at hlater
      cases hlater
    | ok body =>
      obtain ⟨e, _, hnow⟩ | ⟨now, t₃, t₄, ht₂, hnow, hbody⟩ := settles_bind.mp hread
      · obtain ⟨_, ht₂, _⟩ := settles_observe.mp hnow
        rw [ht₂] at hlater
        cases List.mem_singleton.mp hlater
      · obtain ⟨_, ht₃, _⟩ := settles_observe.mp hnow
        rw [ht₂, ht₃, (Shopify.settles_ofExcept.mp hbody).1, List.append_nil] at hlater
        cases List.mem_singleton.mp hlater

/-- The error of `getDailyOrderAggregate` is in the words of the others. -/
theorem aggregateFailure_eq (store : String) (status : ℕ) (text : String) :
    newError ("ShopifyHttpGateway.getDailyOrderAggregate: " ++ store ++ " returned " ++
      toString status ++ ": " ++ text) =
      httpFailure "ShopifyHttpGateway.getDailyOrderAggregate" store status text := rfl

/-- A page that was refused. -/
def FailedPage (status : ℕ) (text : String) (t : List GatewayEv) : Prop :=
  ∃ url accessToken args,
    (⟨.post url accessToken args, .ok (.failed status text)⟩ : GatewayEv) ∈ t

theorem aggregatePage_failed {accessToken query : String} {cursor : Option String}
    {t : List GatewayEv} {res : Except Thrown (Option AggregateOrders)}
    (h : Settles (gateway.aggregatePage connection accessToken query cursor) t res)
    (hfailed : FailedPage status text t) :
    res = .error (httpFailure "ShopifyHttpGateway.getDailyOrderAggregate"
      connection.shopifyStore status text) := by
  obtain ⟨url, accessToken', args, hmem⟩ := hfailed
  unfold ShopifyHttpGateway.aggregatePage at h
  obtain ⟨e, rfl, hpost⟩ | ⟨response, t₁, t₂, rfl, hpost, hread⟩ := settles_bind.mp h
  · obtain rfl := settles_post.mp hpost
    cases List.mem_singleton.mp hmem
  obtain rfl := settles_post.mp hpost
  cases response with
  | failed status' text' =>
    obtain ⟨rfl, rfl⟩ := settles_throw.mp hread
    cases List.mem_singleton.mp hmem
    rfl
  | ok body =>
    have hnil : t₂ = [] := by
      cases body with
      | error e => exact (settles_throw.mp hread).1
      | ok body =>
        dsimp only at hread
        split at hread
        · exact (settles_pure.mp hread).1
        · exact (settles_throw.mp hread).1
    rw [hnil] at hmem
    cases List.mem_singleton.mp hmem

/-- The paging ends at a page that is refused. Induction on the pages that are left. -/
theorem aggregatePages_failed {accessToken query : String} {pages : ℕ} {cursor : Option String}
    {totals : DayTotals} {t : List GatewayEv} {res : Except Thrown DayTotals}
    (h : Settles (gateway.aggregatePages connection accessToken query pages cursor totals) t res)
    (hfailed : FailedPage status text t) :
    res = .error (httpFailure "ShopifyHttpGateway.getDailyOrderAggregate"
      connection.shopifyStore status text) := by
  induction pages generalizing cursor totals t with
  | zero =>
    obtain ⟨rfl, rfl⟩ := settles_pure.mp h
    obtain ⟨_, _, _, hmem⟩ := hfailed
    cases hmem
  | succ pages ih =>
    rw [ShopifyHttpGateway.aggregatePages] at h
    obtain ⟨e, rfl, hpage⟩ | ⟨orders, t₁, t₂, rfl, hpage, hrest⟩ := settles_bind.mp h
    · rw [Except.error.injEq, ← Except.error.inj (aggregatePage_failed hpage hfailed)]
    · obtain ⟨url, accessToken', args, hmem⟩ := hfailed
      obtain hmem | hmem := List.mem_append.mp hmem
      · cases aggregatePage_failed hpage ⟨url, accessToken', args, hmem⟩
      · dsimp only at hrest
        split at hrest
        · exact ih hrest ⟨url, accessToken', args, hmem⟩
        · obtain ⟨rfl, rfl⟩ := settles_pure.mp hrest
          cases hmem

theorem getDailyOrderAggregate_failed {fromInclusive toExclusive : String} {t : List GatewayEv}
    {res : Except Thrown OrderDailyAggregate}
    (h : Settles (gateway.getDailyOrderAggregate connection fromInclusive toExclusive) t res)
    (hfailed : FailedPage status text t) :
    res = .error (httpFailure "ShopifyHttpGateway.getDailyOrderAggregate"
      connection.shopifyStore status text) := by
  obtain ⟨url, accessToken', args, hmem⟩ := hfailed
  unfold ShopifyHttpGateway.getDailyOrderAggregate at h
  obtain ⟨e, rfl, htoken⟩ | ⟨token, t₁, t₂, rfl, htoken, hrest⟩ := settles_bind.mp h
  · obtain rfl := settles_resolveAccessToken.mp htoken
    cases List.mem_singleton.mp hmem
  obtain rfl := settles_resolveAccessToken.mp htoken
  obtain heq | hmem := List.mem_append.mp hmem
  · cases List.mem_singleton.mp heq
  obtain ⟨e, rfl, hpages⟩ | ⟨totals, t₃, t₄, rfl, hpages, hret⟩ := settles_bind.mp hrest
  · have herror := aggregatePages_failed hpages ⟨url, accessToken', args, hmem⟩
    rw [Except.error.injEq, ← Except.error.inj herror]
  · obtain ⟨rfl, rfl⟩ := settles_pure.mp hret
    rw [List.append_nil] at hmem
    cases aggregatePages_failed hpages ⟨url, accessToken', args, hmem⟩

end Runs

/-! ## Classes of failures -/

/-- A failure of Shopify: the store, the status and the text of the response, and the error
that was raised. -/
inductive ShopifyFailure : String → ℕ → String → Thrown → Prop
  | getOrder {gateway : ShopifyHttpGateway} {connection : Connection} {orderGid : String}
      {tr : List ShopifyEv} {status : ℕ} {text : String} {e : Thrown}
      (h : Settles (gateway.getOrder connection orderGid) tr (.error e))
      (hfailed : FailedPost status text tr) :
      ShopifyFailure connection.shopifyStore status text e
  | listOrdersUpdatedSince {gateway : ShopifyHttpGateway} {connection : Connection}
      {since : String} {limit : Option ℕ} {tr : List ShopifyEv} {status : ℕ} {text : String}
      {e : Thrown}
      (h : Settles (gateway.listOrdersUpdatedSince connection since limit) tr (.error e))
      (hfailed : FailedPost status text tr) :
      ShopifyFailure connection.shopifyStore status text e
  | getDailyOrderAggregate {gateway : ShopifyHttpGateway} {connection : Connection}
      {fromInclusive toExclusive : String} {t : List GatewayEv} {status : ℕ} {text : String}
      {e : Thrown}
      (h : Settles (gateway.getDailyOrderAggregate connection fromInclusive toExclusive) t
        (.error e)) (hfailed : FailedPage status text t) :
      ShopifyFailure connection.shopifyStore status text e
  | tagOrder {gateway : ShopifyHttpGateway} {connection : Connection} {orderGid : String}
      {tags : List String} {tr : List ShopifyEv} {status : ℕ} {text : String} {e : Thrown}
      (h : Settles (gateway.tagOrder connection orderGid tags) tr (.error e))
      (hfailed : FailedPost status text tr) :
      ShopifyFailure connection.shopifyStore status text e
  | fetchToken {creds : ShopifyTokenServiceCredentials} {tr : List ShopifyEv} {status : ℕ}
      {text : String} {e : Thrown} (h : Settles (fetchToken creds) tr (.error e))
      (hfailed : ∃ url clientId clientSecret,
        (⟨.exchange url clientId clientSecret, .ok (.failed status text)⟩ : ShopifyEv) ∈ tr) :
      ShopifyFailure creds.shopDomain status text e

/-- The sources of the errors of the gateway. -/
def gatewaySources : List String :=
  ["ShopifyHttpGateway.getOrder", "ShopifyHttpGateway.listOrdersUpdatedSince",
    "ShopifyHttpGateway.getDailyOrderAggregate", "ShopifyHttpGateway.tagOrder"]

theorem startsNowhere_source : ∀ source ∈ gatewaySources,
    Js.startsNowhere "returned ".toList (source ++ ": ").toList = true := by
  decide +kernel

/-- What a failure raises. -/
theorem ShopifyFailure.thrown {store text : String} {status : ℕ} {e : Thrown}
    (h : ShopifyFailure store status text e) :
    (∃ source ∈ gatewaySources, e = httpFailure source store status text) ∨
      e = tokenFailure store status text := by
  cases h with
  | getOrder h hfailed =>
    exact .inl ⟨_, by simp [gatewaySources], Except.error.inj (request_bind_failed h hfailed)⟩
  | listOrdersUpdatedSince h hfailed =>
    exact .inl ⟨_, by simp [gatewaySources], Except.error.inj (request_bind_failed h hfailed)⟩
  | getDailyOrderAggregate h hfailed =>
    exact .inl ⟨_, by simp [gatewaySources],
      Except.error.inj (getDailyOrderAggregate_failed h hfailed)⟩
  | @tagOrder gateway connection orderGid tags _ _ _ _ h hfailed =>
    unfold ShopifyHttpGateway.tagOrder at h
    split at h
    · cases (settles_pure.mp h).2
    · exact .inl ⟨_, by simp [gatewaySources], Except.error.inj (request_bind_failed h hfailed)⟩
  | fetchToken h hfailed => exact .inr (Except.error.inj (fetchToken_failed h hfailed))

/-- The class of a failure is decided by its status. No body can steer it. -/
theorem classify_shopifyFailure (sdk : NetSuiteSdk) {store text : String} {status : ℕ}
    {e : Thrown} (h : ShopifyFailure store status text e) (hstatus : 400 ≤ status ∧ status < 600)
    (hstore : ¬SaysReturned store.toList) :
    classifyHandlerError sdk e = classOfFailure status ∧
      ∀ store' text' e', ShopifyFailure store' status text' e' → ¬SaysReturned store'.toList →
        classifyHandlerError sdk e' = classifyHandlerError sdk e := by
  have hclass {store text : String} {e : Thrown} (h : ShopifyFailure store status text e)
      (hstore : ¬SaysReturned store.toList) :
      classifyHandlerError sdk e = classOfFailure status := by
    obtain ⟨source, hsource, rfl⟩ | rfl := h.thrown
    · exact classify_httpFailure sdk (startsNowhere_source source hsource) hstore hstatus
    · exact classify_tokenFailure sdk hstore hstatus
  exact ⟨hclass h hstore, fun _ _ _ h' hstore' => (hclass h' hstore').trans (hclass h hstore).symm⟩

/-! ## A body that names a status -/

namespace Refusal

def creds : ShopifyTokenServiceCredentials where
  shopDomain := "a.myshopify.com"
  clientId := "id"
  clientSecret := "secret"

/-- Every request is refused, with a body that speaks of other statuses. -/
def answers : (o : ShopifyOp) → o.Resp
  | .resolveAccessToken _ => .ok "token"
  | .post .. => .ok (.failed 404 "")
  | .exchange .. => .ok (.failed 404 "returned 503: socket hang up, status=401")
  | .now => 0

theorem failure : ShopifyFailure "a.myshopify.com" 404 "returned 503: socket hang up, status=401"
    (tokenFailure "a.myshopify.com" 404 "returned 503: socket hang up, status=401") := by
  have hsettles : Settles (fetchToken creds) ((fetchToken creds).run.eval answers).1
      (.error (tokenFailure "a.myshopify.com" 404 "returned 503: socket hang up, status=401")) :=
    Prog.runs_eval answers (fetchToken creds).run
  exact .fetchToken hsettles ⟨_, _, _, .head _⟩

end Refusal

/-- The refusal is an error of the data, whatever its body speaks of. -/
theorem classify_shopifyFailure_refused :
    classifyHandlerError ⟨fun _ => false, fun _ => false⟩
      (tokenFailure "a.myshopify.com" 404 "returned 503: socket hang up, status=401") = .data :=
  (classify_shopifyFailure _ Refusal.failure (by decide)
    (not_saysReturned (List.all_iff_forall_prop.mp (by decide)))).1

end DpIntegrator
