import DpIntegrator.Functions.ErrorClassification
import DpIntegrator.NetSuite.ExternalIds

/-!
# Decorated errors and their class

The gateway wraps an error of the SDK into a plain error, whose class is read off its
message: off a status in the SDK's own text or in the request body before the status of the
error, and off that status where it has three digits. This file says which status is read
and when the class is that of the wrapped error.
-/

namespace DpIntegrator

section

variable {c : Char} {cs rest u v : List Char} {prev : Option Char}

/-! ## Words across the end of an external id -/

/-- A word without spaces that is found before a space ends before it. Induction on the word. -/
theorem afterWord_before_space {word : List Char} (hword : ' ' ∉ word)
    (h : Js.afterWord word (u ++ ' ' :: v) = some rest) :
    ∃ u', u' <:+ u ∧ rest = u' ++ ' ' :: v := by
  induction word generalizing u with
  | nil =>
    rw [Js.afterWord] at h
    cases h
    exact ⟨u, List.suffix_refl u, rfl⟩
  | cons w word ih =>
    rw [List.mem_cons, not_or] at hword
    cases u with
    | nil =>
      have hspace : Char.toLower ' ' = ' ' := rfl
      rw [List.nil_append, Js.afterWord, hspace, if_neg hword.1] at h
      cases h
    | cons c u =>
      rw [List.cons_append, Js.afterWord] at h
      split at h
      · obtain ⟨u', hsuffix, hrest⟩ := ih hword.2 h
        exact ⟨u', hsuffix.trans (List.suffix_cons c u), hrest⟩
      · cases h

theorem afterWord_append (word more cs : List Char) :
    Js.afterWord (word ++ more) cs = (Js.afterWord word cs).bind (Js.afterWord more) := by
  induction word generalizing cs with
  | nil => rfl
  | cons w word ih =>
    cases cs with
    | nil => rfl
    | cons c cs =>
      rw [List.cons_append, Js.afterWord, Js.afterWord, ih]
      split <;> rfl

/-- What follows an external id in the message of a wrapper. -/
abbrev Continues (v : List Char) : Prop := ∃ t, v = "status=".toList ++ t

variable (hsafe : ∀ c ∈ u, isSafe c = true) (hv : Continues v)

include hsafe hv

theorem matchReturned_externalId : matchReturned prev (u ++ ' ' :: v) = none := by
  unfold matchReturned
  have hsplit : "returned ".toList = "returned".toList ++ [' '] := rfl
  rw [hsplit, afterWord_append]
  cases hword : Js.afterWord "returned".toList (u ++ ' ' :: v) with
  | none => rfl
  | some rest =>
    obtain ⟨u', hsuffix, rfl⟩ := afterWord_before_space (by decide) hword
    cases u' with
    | nil =>
      obtain ⟨t, rfl⟩ := hv
      rfl
    | cons c u' =>
      have hc := hsafe c (hsuffix.subset (List.mem_cons_self ..))
      have hnone : Js.afterWord [' '] (c :: u' ++ ' ' :: v) = none := by
        rw [List.cons_append, Js.afterWord, if_neg (toLower_ne_space hc)]
      rw [Option.bind_some, hnone, Option.bind_none]

theorem matchHttp_externalId : matchHttp prev (u ++ ' ' :: v) = none := by
  unfold matchHttp
  split
  · rfl
  cases hword : Js.afterWord "http".toList (u ++ ' ' :: v) with
  | none => rfl
  | some rest =>
    obtain ⟨u', hsuffix, rfl⟩ := afterWord_before_space (by decide) hword
    cases u' with
    | nil =>
      obtain ⟨t, rfl⟩ := hv
      rfl
    | cons c u' =>
      have hc := isSpace_of_isSafe (hsafe c (hsuffix.subset (List.mem_cons_self ..)))
      rw [Option.bind_some, List.cons_append, List.takeWhile_cons_of_neg (by simp [hc])]
      rfl

theorem matchStatus_externalId : matchStatus prev (u ++ ' ' :: v) = none := by
  unfold matchStatus
  split
  · rfl
  cases hword : Js.afterWord "status".toList (u ++ ' ' :: v) with
  | none => rfl
  | some rest =>
    obtain ⟨u', hsuffix, rfl⟩ := afterWord_before_space (by decide) hword
    cases u' with
    | nil =>
      obtain ⟨t, rfl⟩ := hv
      rfl
    | cons c u' =>
      have hc := hsafe c (hsuffix.subset (List.mem_cons_self ..))
      have hne : c ≠ '=' ∧ c ≠ ':' := by
        constructor <;> (rintro rfl; exact absurd hc (by decide))
      rw [Option.bind_some, List.cons_append]
      dsimp only
      rw [List.takeWhile_cons_of_neg (by simp [isSpace_of_isSafe hc, hne])]
      rfl

theorem matchPhrase_externalId (hne : u ≠ []) : matchPhrase prev (u ++ ' ' :: v) = none := by
  obtain ⟨t, rfl⟩ := hv
  unfold matchPhrase
  split
  · rfl
  match u, hne with
  | [a], _ => simp
  | [a, b], _ => simp
  | [a, b, c], _ =>
    have hphrase : isPhrase ((' ' :: ("status=".toList ++ t)).dropWhile Js.isSpace) = false := rfl
    simp only [List.cons_append, List.nil_append]
    rw [hphrase, Bool.and_false]
    rfl
  | a :: b :: c :: d :: u, _ =>
    have hd := isSpace_of_isSafe (hsafe d (by simp))
    simp only [List.cons_append]
    rw [List.takeWhile_cons_of_neg (by simp [hd])]
    simp

end

/-! ## The status that is read -/

section

variable {α : Type} {m : Js.Matcher α} {prev : Option Char} {recordType : RecordType}
  {externalId digits text cs : List Char}

/-- The message of a wrapper: its context, the status of the error, and the text that the
error and the request brought along. -/
def wrapperChars (recordType : RecordType) (externalId digits text : List Char) : List Char :=
  ("NS upsert " ++ recordType.text ++ " eid:").toList ++
    (externalId ++ ' ' :: ("status=".toList ++ (digits ++ ' ' :: text)))

theorem search_externalId (m : Js.Matcher α) (prev : Option Char)
    (hsafe : ∀ c ∈ externalId, isSafe c = true)
    (hm : ∀ prev u, (∀ c ∈ u, isSafe c = true) → u ≠ [] → m prev (u ++ ' ' :: cs) = none) :
    ∃ prev', Js.search m prev (externalId ++ ' ' :: cs) = Js.search m prev' (' ' :: cs) := by
  by_cases hne : externalId = []
  · exact ⟨prev, by rw [hne]; rfl⟩
  · refine ⟨externalId.getLast?, Js.search_append_of_none hne fun before c after heq => ?_⟩
    refine hm _ (c :: after) (fun d hd => hsafe d ?_) (by simp)
    rw [heq]
    exact List.mem_append_right _ hd

/-- Induction on the digits. -/
theorem search_digits (hm : ∀ prev c cs, c.isDigit = true → m prev (c :: cs) = none)
    (hspace : ∀ prev cs, m prev (' ' :: cs) = none) (hdigits : ∀ c ∈ digits, c.isDigit = true) :
    Js.search m prev (digits ++ ' ' :: text) = Js.search m (some ' ') text := by
  induction digits generalizing prev with
  | nil => exact Js.search_cons_of_none (hspace prev text)
  | cons d digits ih =>
    obtain ⟨hd, hrest⟩ := List.forall_mem_cons.mp hdigits
    rw [List.cons_append, Js.search_cons_of_none (hm prev d _ hd)]
    exact ih hrest

theorem afterWord_digit {w d : Char} {word : List Char} (hw : w.isDigit = false)
    (hd : d.isDigit = true) : Js.afterWord (w :: word) (d :: cs) = none := by
  have hne : d.toLower ≠ w := by
    rw [toLower_of_isDigit hd]
    rintro rfl
    rw [hd] at hw
    cases hw
  rw [Js.afterWord, if_neg hne]

theorem threeDigits_eq {q : Char} (hq : Js.isWord q = false)
    (hdigits : ∀ c ∈ digits, c.isDigit = true) (hlength : digits.length = 3) :
    Js.threeDigits (digits ++ q :: text) = some (Nat.ofDigitChars 10 digits 0) := by
  match digits, hlength with
  | [a, b, c], _ =>
    simp only [List.forall_mem_cons] at hdigits
    simp [Js.threeDigits, hdigits, Js.atWordEnd, hq]

theorem threeDigits_eq_none (hdigits : ∀ c ∈ digits, c.isDigit = true)
    (hlength : digits.length ≠ 3) : Js.threeDigits (digits ++ ' ' :: text) = none := by
  match digits, hlength with
  | [], _ => rcases text with _ | ⟨b, _ | ⟨c, t⟩⟩ <;> simp [Js.threeDigits]
  | [a], _ => rcases text with _ | ⟨c, t⟩ <;> simp [Js.threeDigits]
  | [a, b], _ => simp [Js.threeDigits]
  | a :: b :: c :: d :: rest, _ =>
    have hd : Js.isWord d = true := by
      simp [Js.isWord, Char.isAlphanum, hdigits d (by simp)]
    simp [Js.threeDigits, Js.atWordEnd, hd]

theorem matchPhrase_space (prev : Option Char) (cs : List Char) :
    matchPhrase prev (' ' :: cs) = none := by
  unfold matchPhrase
  split
  · rfl
  · rcases cs with _ | ⟨b, _ | ⟨c, t⟩⟩ <;> simp

/-- A status that has not three digits is no front of a phrase. -/
theorem matchPhrase_status (hdigits : ∀ c ∈ digits, c.isDigit = true) (hlength : digits.length ≠ 3) :
    matchPhrase prev (digits ++ ' ' :: text) = none := by
  unfold matchPhrase
  split
  · rfl
  match digits, hlength with
  | [], _ => rcases text with _ | ⟨b, _ | ⟨c, t⟩⟩ <;> simp
  | [a], _ => rcases text with _ | ⟨c, t⟩ <;> simp
  | [a, b], _ => simp
  | a :: b :: c :: d :: rest, _ =>
    have hsafe : isSafe d = true := by simp [isSafe, Char.isAlphanum, hdigits d (by simp)]
    simp only [List.cons_append]
    rw [List.takeWhile_cons_of_neg (by simp [isSpace_of_isSafe hsafe])]
    simp

/-- Within a number no phrase starts. Induction on the digits. -/
theorem search_matchPhrase_digits {d : Char} (hd : d.isDigit = true)
    (hdigits : ∀ c ∈ digits, c.isDigit = true) :
    Js.search matchPhrase (some d) (digits ++ ' ' :: text) =
      Js.search matchPhrase (some ' ') text := by
  induction digits generalizing d with
  | nil => exact Js.search_cons_of_none (matchPhrase_space _ _)
  | cons e digits ih =>
    obtain ⟨he, hrest⟩ := List.forall_mem_cons.mp hdigits
    have hnone : matchPhrase (some d) (e :: (digits ++ ' ' :: text)) = none := by
      have hstart : Js.atWordStart (some d) = false := by
        simp [Js.atWordStart, Js.isWord, Char.isAlphanum, hd]
      unfold matchPhrase
      rw [hstart]
      rfl
    rw [List.cons_append, Js.search_cons_of_none hnone]
    exact ih he hrest

theorem matchStatus_status (cs : List Char) {d : Char} (hd : d.isDigit = true) :
    matchStatus (some ' ') ("status=".toList ++ d :: cs) = Js.threeDigits (d :: cs) := by
  have hne : (d == '=' || d == ':' || Js.isSpace d) = false := by
    have hcode := (isDigit_iff d).mp hd
    have hsafe : isSafe d = true := (isSafe_iff d).mpr (.inr (.inl hcode))
    have heq : d ≠ '=' ∧ d ≠ ':' := by
      constructor <;> (rintro rfl; exact absurd hd (by decide))
    simp [heq, isSpace_of_isSafe hsafe]
  have hword : Js.afterWord "status".toList ("status=".toList ++ d :: cs) = some ('=' :: d :: cs) :=
    rfl
  unfold matchStatus
  rw [hword]
  have hstart : (!Js.atWordStart (some ' ')) = false := rfl
  rw [hstart]
  simp [hne]

variable (hsafe : ∀ c ∈ externalId, isSafe c = true) (hdigits : ∀ c ∈ digits, c.isDigit = true)

include hsafe hdigits

/-- The first pattern is looked for in the text only. -/
theorem search_matchReturned :
    Js.search matchReturned none (wrapperChars recordType externalId digits text) =
      Js.search matchReturned (some ' ') text := by
  have hhead : Js.search matchReturned none (wrapperChars recordType externalId digits text) =
      Js.search matchReturned (some ':')
        (externalId ++ ' ' :: ("status=".toList ++ (digits ++ ' ' :: text))) := by
    cases recordType <;> rfl
  obtain ⟨prev', hid⟩ := search_externalId matchReturned (some ':') hsafe
    fun _ u hu _ => matchReturned_externalId hu ⟨digits ++ ' ' :: text, rfl⟩
  have hstatus : Js.search matchReturned prev' (' ' :: ("status=".toList ++
      (digits ++ ' ' :: text))) = Js.search matchReturned (some '=') (digits ++ ' ' :: text) := rfl
  have hspace (prev : Option Char) (cs : List Char) : matchReturned prev (' ' :: cs) = none := rfl
  have hdigit (prev : Option Char) (c : Char) (cs : List Char) (hc : c.isDigit = true) :
      matchReturned prev (c :: cs) = none := by
    have hword : Js.afterWord ('r' :: "eturned ".toList) (c :: cs) = none :=
      afterWord_digit (by decide) hc
    exact congrArg (Option.bind · Js.threeDigits) hword
  rw [hhead, hid, hstatus, search_digits hdigit hspace hdigits]

/-- The third pattern is looked for in the text only. -/
theorem search_matchHttp :
    Js.search matchHttp none (wrapperChars recordType externalId digits text) =
      Js.search matchHttp (some ' ') text := by
  have hhead : Js.search matchHttp none (wrapperChars recordType externalId digits text) =
      Js.search matchHttp (some ':')
        (externalId ++ ' ' :: ("status=".toList ++ (digits ++ ' ' :: text))) := by
    cases recordType <;> rfl
  obtain ⟨prev', hid⟩ := search_externalId matchHttp (some ':') hsafe
    fun _ u hu _ => matchHttp_externalId hu ⟨digits ++ ' ' :: text, rfl⟩
  have hspace (prev : Option Char) (cs : List Char) : matchHttp prev (' ' :: cs) = none := by
    unfold matchHttp
    split <;> rfl
  have hstatus : Js.search matchHttp (some ' ') ("status=".toList ++ (digits ++ ' ' :: text)) =
      Js.search matchHttp (some '=') (digits ++ ' ' :: text) := rfl
  have hdigit (prev : Option Char) (c : Char) (cs : List Char) (hc : c.isDigit = true) :
      matchHttp prev (c :: cs) = none := by
    unfold matchHttp
    split
    · rfl
    · have hword : Js.afterWord ('h' :: "ttp".toList) (c :: cs) = none :=
        afterWord_digit (by decide) hc
      exact congrArg (Option.bind · _) hword
  rw [hhead, hid, Js.search_cons_of_none (hspace _ _), hstatus,
    search_digits hdigit hspace hdigits]

/-- The second pattern finds the status of the error, if it has three digits; else it is looked
for in the text only. -/
theorem search_matchStatus (hne : digits ≠ []) :
    Js.search matchStatus none (wrapperChars recordType externalId digits text) =
      if digits.length = 3 then some (Nat.ofDigitChars 10 digits 0)
      else Js.search matchStatus (some ' ') text := by
  have hhead : Js.search matchStatus none (wrapperChars recordType externalId digits text) =
      Js.search matchStatus (some ':')
        (externalId ++ ' ' :: ("status=".toList ++ (digits ++ ' ' :: text))) := by
    cases recordType <;> rfl
  obtain ⟨prev', hid⟩ := search_externalId matchStatus (some ':') hsafe
    fun _ u hu _ => matchStatus_externalId hu ⟨digits ++ ' ' :: text, rfl⟩
  have hspace (prev : Option Char) (cs : List Char) : matchStatus prev (' ' :: cs) = none := by
    unfold matchStatus
    split <;> rfl
  rw [hhead, hid, Js.search_cons_of_none (hspace _ _)]
  obtain ⟨d, rest, rfl⟩ := List.exists_cons_of_ne_nil hne
  have hmatch := matchStatus_status (rest ++ ' ' :: text) (hdigits d (List.mem_cons_self ..))
  split
  · next hlength =>
    rw [← List.cons_append, threeDigits_eq (by decide) hdigits hlength] at hmatch
    exact Js.search_of_some hmatch
  · next hlength =>
    rw [← List.cons_append, threeDigits_eq_none hdigits hlength] at hmatch
    have hword : Js.search matchStatus (some 's')
        ("tatus=".toList ++ ((d :: rest) ++ ' ' :: text)) =
        Js.search matchStatus (some '=') ((d :: rest) ++ ' ' :: text) := rfl
    have hdigit (prev : Option Char) (c : Char) (cs : List Char) (hc : c.isDigit = true) :
        matchStatus prev (c :: cs) = none := by
      unfold matchStatus
      split
      · rfl
      · have hnone : Js.afterWord ('s' :: "tatus".toList) (c :: cs) = none :=
          afterWord_digit (by decide) hc
        exact congrArg (Option.bind · _) hnone
    have hpass := Js.search_cons_of_none hmatch
    exact hpass.trans (hword.trans (search_digits hdigit hspace hdigits))

/-- The last pattern is looked for in the text only, if the status has not three digits. -/
theorem search_matchPhrase (hlength : digits.length ≠ 3) (hne : digits ≠ []) :
    Js.search matchPhrase none (wrapperChars recordType externalId digits text) =
      Js.search matchPhrase (some ' ') text := by
  have hhead : Js.search matchPhrase none (wrapperChars recordType externalId digits text) =
      Js.search matchPhrase (some ':')
        (externalId ++ ' ' :: ("status=".toList ++ (digits ++ ' ' :: text))) := by
    cases recordType <;> rfl
  obtain ⟨prev', hid⟩ := search_externalId matchPhrase (some ':') hsafe
    fun _ u hu hne => matchPhrase_externalId hu ⟨digits ++ ' ' :: text, rfl⟩ hne
  have hstatus : Js.search matchPhrase (some ' ') ("status=".toList ++ (digits ++ ' ' :: text)) =
      Js.search matchPhrase (some '=') (digits ++ ' ' :: text) := rfl
  rw [hhead, hid, Js.search_cons_of_none (matchPhrase_space _ _), hstatus]
  obtain ⟨d, rest, rfl⟩ := List.exists_cons_of_ne_nil hne
  obtain ⟨hd, hrest⟩ := List.forall_mem_cons.mp hdigits
  have hnone : matchPhrase (some '=') (d :: (rest ++ ' ' :: text)) = none :=
    matchPhrase_status hdigits hlength
  rw [List.cons_append, Js.search_cons_of_none hnone]
  exact search_matchPhrase_digits hd hrest

end

/-- The status that is read off a wrapper: one that the text names after `returned`, or the
status of the error, where it has three digits, or else one that the text names otherwise. -/
def decidingStatus (status : ℕ) (text : String) : Option ℕ :=
  let find (m : Js.Matcher ℕ) := Js.search m (some ' ') text.toList
  (find matchReturned).or
    (if 100 ≤ status ∧ status < 1000 then some status
    else (find matchStatus).or ((find matchHttp).or (find matchPhrase)))

theorem length_toDigits_eq_three (n : ℕ) :
    (Nat.toDigits 10 n).length = 3 ↔ 100 ≤ n ∧ n < 1000 := by
  have hthree := Nat.length_toDigits_le_iff (b := 10) (n := n) (k := 3) (by decide) (by decide)
  have htwo := Nat.length_toDigits_le_iff (b := 10) (n := n) (k := 2) (by decide) (by decide)
  omega

/-- The status that is read off the message of a wrapper. -/
theorem extractHttpStatus_wrapper (recordType : RecordType) (externalId text : String)
    (status : ℕ) (hsafe : ∀ c ∈ externalId.toList, isSafe c = true) :
    extractHttpStatus ("NS " ++ ("upsert " ++ recordType.text ++ " eid:" ++ externalId) ++
      " status=" ++ toString status ++ " " ++ text) = decidingStatus status text := by
  have hchars : ("NS " ++ ("upsert " ++ recordType.text ++ " eid:" ++ externalId) ++ " status=" ++
      toString status ++ " " ++ text).toList =
      wrapperChars recordType externalId.toList (Nat.toDigits 10 status) text.toList := by
    have hdigits : (toString status).toList = Nat.toDigits 10 status := Nat.toList_repr
    simp only [wrapperChars, String.toList_append, hdigits, List.append_assoc]
    rfl
  have hdigits : ∀ c ∈ Nat.toDigits 10 status, c.isDigit = true :=
    fun c hc => Nat.isDigit_of_mem_toDigits (by decide) (by decide) hc
  have hne : Nat.toDigits 10 status ≠ [] := Nat.toDigits_ne_nil
  unfold extractHttpStatus decidingStatus
  simp only [hchars, search_matchReturned hsafe hdigits, search_matchHttp hsafe hdigits,
    search_matchStatus hsafe hdigits hne, length_toDigits_eq_three, Nat.ofDigitChars_ten_toDigits]
  by_cases hthree : 100 ≤ status ∧ status < 1000
  · simp [hthree]
  · have hlength : (Nat.toDigits 10 status).length ≠ 3 :=
      (length_toDigits_eq_three status).not.mpr hthree
    rw [if_neg hthree, if_neg hthree, search_matchPhrase hsafe hdigits hlength hne]

/-! ## The class -/

section

variable {Account : Type} {gateway : SdkNetSuiteGateway Account} {args : UpsertArgs}
  {account : Account} {request : SdkTransport} {e : JsError} {info : NetSuiteError}
  {sdk : NetSuiteSdk}

/-- The URL that an upsert writes to. -/
def upsertUrl (args : UpsertArgs) : String :=
  "https://" ++ normalizedAccount args.nsAccountId ++ ".suitetalk.api.netsuite.com" ++
    "/services/rest/record/v1/" ++ args.recordType.text ++ "/eid:" ++
    shopifyGidToNsExternalId args.externalId

/-- What an error of the SDK and the request bring into the message of a wrapper. -/
def freeText (args : UpsertArgs) (e : JsError) (info : NetSuiteError) : String :=
  e.message ++ detailsText info ++ bodyText (stripExternalId args.payload)

/-- The message of the wrapper of an error with the status `status`. -/
def wrapperText (args : UpsertArgs) (status : ℕ) (text : String) : String :=
  "NS " ++ ("upsert " ++ args.recordType.text ++ " eid:" ++
    shopifyGidToNsExternalId args.externalId) ++ " status=" ++ toString status ++ " " ++ text

/-- A concurrency limit or a status to retry, and no rejection of the credentials. -/
def NetSuiteSdk.IsTransient (sdk : NetSuiteSdk) (info : NetSuiteError) : Prop :=
  sdk.isAuthError info.status = false ∧
    (info.isThrottled = true ∨ sdk.isRetryable info.status = true)

/-- When the class that a wrapper's text decides is that of the error: by the status that is
read off the text or, where it decides nothing, by the words of a network failure. -/
def KeepsClass (sdk : NetSuiteSdk) (args : UpsertArgs) (info : NetSuiteError) (text : String) :
    Prop :=
  match (decidingStatus info.status text).bind classOfStatus with
  | some .auth => sdk.isAuthError info.status = true
  | some .transient => sdk.IsTransient info
  | some _ => ¬sdk.IsTransient info ∧ sdk.isAuthError info.status = false ∧
      info.isDataRejection = true
  | none =>
    if isNetworkText (Js.toLowerCase (wrapperText args info.status text)) then
      sdk.IsTransient info
    else ¬sdk.IsTransient info ∧ sdk.isAuthError info.status = false ∧
      info.isDataRejection = false

theorem classOf_eq_auth : sdk.classOf info = .auth ↔ sdk.isAuthError info.status = true := by
  unfold NetSuiteSdk.classOf
  cases sdk.isAuthError info.status <;> cases info.isThrottled <;>
    cases sdk.isRetryable info.status <;> cases info.isDataRejection <;> simp

theorem classOf_eq_transient : sdk.classOf info = .transient ↔ sdk.IsTransient info := by
  unfold NetSuiteSdk.classOf NetSuiteSdk.IsTransient
  cases sdk.isAuthError info.status <;> cases info.isThrottled <;>
    cases sdk.isRetryable info.status <;> cases info.isDataRejection <;> simp

theorem classOf_eq_data : sdk.classOf info = .data ↔
    ¬sdk.IsTransient info ∧ sdk.isAuthError info.status = false ∧ info.isDataRejection = true := by
  unfold NetSuiteSdk.classOf NetSuiteSdk.IsTransient
  cases sdk.isAuthError info.status <;> cases info.isThrottled <;>
    cases sdk.isRetryable info.status <;> cases info.isDataRejection <;> simp

theorem classOf_eq_unknown : sdk.classOf info = .unknown ↔
    ¬sdk.IsTransient info ∧ sdk.isAuthError info.status = false ∧ info.isDataRejection = false := by
  unfold NetSuiteSdk.classOf NetSuiteSdk.IsTransient
  cases sdk.isAuthError info.status <;> cases info.isThrottled <;>
    cases sdk.isRetryable info.status <;> cases info.isDataRejection <;> simp

/-- A status decides for the credentials, a retry or the data. -/
theorem classOfStatus_cases {status : ℕ} {cls : ErrorClass} (h : classOfStatus status = some cls) :
    cls = .auth ∨ cls = .transient ∨ cls = .data := by
  unfold classOfStatus at h
  split at h
  · exact .inl (Option.some.inj h).symm
  · split at h
    · exact .inr (.inl (Option.some.inj h).symm)
    · split at h
      · exact .inr (.inl (Option.some.inj h).symm)
      · split at h
        · exact .inr (.inr (Option.some.inj h).symm)
        · cases h

/-- The message of a wrapper is no message of the Shopify gateway. -/
theorem wrapperText_not_graphql (args : UpsertArgs) (status : ℕ) (text : String) :
    "shopifyhttpgateway.getorder: graphql errors".toList.isPrefixOf
      (Js.toLowerCase (wrapperText args status text)).toList = false := by
  have hchars : ∃ cs, (wrapperText args status text).toList = 'N' :: cs := by
    simp only [wrapperText, String.toList_append, List.append_assoc]
    exact ⟨_, rfl⟩
  obtain ⟨cs, hcs⟩ := hchars
  have hlower : (Js.toLowerCase (wrapperText args status text)).toList =
      'n' :: cs.flatMap Js.lowerChar := by
    rw [Js.toLowerCase, hcs, String.toList_ofList]
    rfl
  rw [hlower]
  rfl

/-- The class of a message of a wrapper. -/
theorem classOfMessage_wrapperText (args : UpsertArgs) (status : ℕ) (text : String) :
    classOfMessage (wrapperText args status text) =
      match (decidingStatus status text).bind classOfStatus with
      | some cls => cls
      | none =>
        if isNetworkText (Js.toLowerCase (wrapperText args status text)) then .transient
        else .unknown := by
  have hstatus : extractHttpStatus (wrapperText args status text) = decidingStatus status text :=
    extractHttpStatus_wrapper args.recordType (shopifyGidToNsExternalId args.externalId) text status
      (isSafe_shopifyGidToNsExternalId args.externalId)
  unfold classOfMessage
  dsimp only
  rw [hstatus, wrapperText_not_graphql]
  cases (decidingStatus status text).bind classOfStatus <;> rfl

/-- The class of a wrapper's message is that of the error under the condition, and only then. -/
theorem classOfMessage_wrapper_iff (text : String) :
    classOfMessage (wrapperText args info.status text) = sdk.classOf info ↔
      KeepsClass sdk args info text := by
  rw [classOfMessage_wrapperText, eq_comm]
  unfold KeepsClass
  cases hcls : (decidingStatus info.status text).bind classOfStatus with
  | none =>
    dsimp only
    split
    · exact classOf_eq_transient
    · exact classOf_eq_unknown
  | some cls =>
    obtain ⟨status, _, hstatus⟩ := Option.bind_eq_some_iff.mp hcls
    rcases classOfStatus_cases hstatus with rfl | rfl | rfl
    · exact classOf_eq_auth
    · exact classOf_eq_transient
    · exact classOf_eq_data

/-- What the gateway throws for an error of the SDK. -/
theorem upsertByExternalId_throws (haccount : gateway.accounts args.nsAccountId = some account)
    (hclient : gateway.client account = .ok (some request))
    (hthrow : request (upsertUrl args) (stripExternalId args.payload) = .error (.error e))
    (hname : e.name = "NetSuiteError") (hkind : e.kind = .netSuite info) :
    ∃ raw, gateway.upsertByExternalId args = .error (.error
      { message := wrapperText args info.status (freeText args e info), rawNsResponse := raw }) := by
  have hmessage : wrapperText args info.status (freeText args e info) =
      "NS " ++ ("upsert " ++ args.recordType.text ++ " eid:" ++
        shopifyGidToNsExternalId args.externalId) ++ " status=" ++ toString info.status ++ " " ++
        e.message ++ detailsText info ++ bodyText (stripExternalId args.payload) := by
    simp only [wrapperText, freeText, String.append_assoc]
  refine ⟨some info.rawNsResponse, ?_⟩
  unfold upsertUrl at hthrow
  unfold SdkNetSuiteGateway.upsertByExternalId
  simp only [haccount, hclient, hthrow, pure, Except.pure, bind, Except.bind]
  rw [hmessage]
  simp [decorateNsError, hname, hkind, ErrorKind.statusText, ErrorKind.info?, throw, throwThe,
    MonadExceptOf.throw]

theorem classifyHandlerError_plain (message : String) (raw : Option RawNsResponse) :
    classifyHandlerError sdk (.error { message, rawNsResponse := raw }) = classOfMessage message :=
  rfl

/-- The error that an upsert throws for an error of the SDK has its class if and only if the
status that is read off the wrapper, or else its words, decide for that class. -/
theorem decorated_class_iff (haccount : gateway.accounts args.nsAccountId = some account)
    (hclient : gateway.client account = .ok (some request))
    (hthrow : request (upsertUrl args) (stripExternalId args.payload) = .error (.error e))
    (hname : e.name = "NetSuiteError") (hkind : e.kind = .netSuite info) :
    ∃ wrapped, gateway.upsertByExternalId args = .error wrapped ∧
      (classifyHandlerError sdk wrapped = mapNetSuiteError sdk (.error e) ↔
        KeepsClass sdk args info (freeText args e info)) := by
  obtain ⟨raw, hthrown⟩ := upsertByExternalId_throws haccount hclient hthrow hname hkind
  refine ⟨_, hthrown, ?_⟩
  have hmapped : mapNetSuiteError sdk (.error e) = sdk.classOf info := by
    obtain ⟨name, message, stack, kind, rawNsResponse⟩ := e
    obtain rfl : kind = .netSuite info := hkind
    rfl
  rw [hmapped, ← classOfMessage_wrapper_iff, classifyHandlerError_plain]

end

/-! ## Errors of a sandbox -/

namespace Sandbox

/-- The getters on the statuses that mean bad credentials, or a retry. -/
def sdk : NetSuiteSdk :=
  ⟨fun status => status == 401 || status == 403, fun status => status == 429 || decide (500 ≤ status)⟩

def args : UpsertArgs where
  nsAccountId := "TSTDRV1"
  recordType := .salesorder
  externalId := "gid://shopify/Order/1"
  payload := [("tranId", .str "#1001")]

/-- An error of the SDK with a status and a code. -/
def info (status : ℕ) (code : Option String) : NetSuiteError :=
  { status, code, details := none, body := none }

def rejection (status : ℕ) (code : Option String) : JsError where
  name := "NetSuiteError"
  message := "request rejected"
  kind := .netSuite (info status code)

/-- A gateway all of whose requests are rejected. -/
def gateway (status : ℕ) (code : Option String) : SdkNetSuiteGateway Unit where
  accounts := fun _ => some ()
  client := fun _ => .ok (some fun _ _ => .error (.error (rejection status code)))

end Sandbox

/-- A server error stays transient. -/
theorem decorated_class_iff_server : ∃ wrapped,
    (Sandbox.gateway 503 none).upsertByExternalId Sandbox.args = .error wrapped ∧
      classifyHandlerError Sandbox.sdk wrapped =
        mapNetSuiteError Sandbox.sdk (.error (Sandbox.rejection 503 none)) := by
  obtain ⟨wrapped, hthrown, hiff⟩ := @decorated_class_iff Unit (Sandbox.gateway 503 none)
    Sandbox.args () _ (Sandbox.rejection 503 none) (Sandbox.info 503 none) Sandbox.sdk
    rfl rfl rfl rfl rfl
  refine ⟨wrapped, hthrown, hiff.mpr ?_⟩
  have hread : (decidingStatus (Sandbox.info 503 none).status (freeText Sandbox.args
      (Sandbox.rejection 503 none) (Sandbox.info 503 none))).bind classOfStatus =
      some .transient := by decide +kernel
  unfold KeepsClass
  rw [hread]
  exact ⟨rfl, .inr rfl⟩

/-- A concurrency limit with status 400 is taken for a rejection of the data. -/
theorem concurrency_limit_parks :
    ¬∀ (Account : Type) (sdk : NetSuiteSdk) (gateway : SdkNetSuiteGateway Account)
      (args : UpsertArgs) (account : Account) (request : SdkTransport) (e : JsError)
      (info : NetSuiteError) (wrapped : Thrown),
      gateway.accounts args.nsAccountId = some account →
      gateway.client account = .ok (some request) →
      request (upsertUrl args) (stripExternalId args.payload) = .error (.error e) →
      e.name = "NetSuiteError" → e.kind = .netSuite info →
      gateway.upsertByExternalId args = .error wrapped →
      classifyHandlerError sdk wrapped = mapNetSuiteError sdk (.error e) := by
  intro h
  obtain ⟨raw, hthrown⟩ := @upsertByExternalId_throws Unit
    (Sandbox.gateway 400 (some "WS_CONCURRENT_REQUEST_LIMIT_EXCEEDED")) Sandbox.args () _ _ _
    rfl rfl rfl rfl rfl
  have hclass := h Unit Sandbox.sdk _ Sandbox.args () _ _ _ _ rfl rfl rfl rfl rfl hthrown
  have htransient : mapNetSuiteError Sandbox.sdk (.error (Sandbox.rejection 400
      (some "WS_CONCURRENT_REQUEST_LIMIT_EXCEEDED"))) = .transient := by decide +kernel
  have hdata : classOfMessage (wrapperText Sandbox.args
      (Sandbox.info 400 (some "WS_CONCURRENT_REQUEST_LIMIT_EXCEEDED")).status
      (freeText Sandbox.args
        (Sandbox.rejection 400 (some "WS_CONCURRENT_REQUEST_LIMIT_EXCEEDED"))
        (Sandbox.info 400 (some "WS_CONCURRENT_REQUEST_LIMIT_EXCEEDED")))) = .data := by
    decide +kernel
  rw [htransient, classifyHandlerError_plain, hdata] at hclass
  cases hclass

end DpIntegrator
