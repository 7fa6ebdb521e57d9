import DpIntegrator.Core.Keys
import DpIntegrator.Delivery.Attempts
import DpIntegrator.Delivery.CallsMade
import DpIntegrator.Delivery.Responses
import DpIntegrator.Functions.BlobUris
import DpIntegrator.Js.Calendar
import DpIntegrator.Js.Map

/-!
# The archives

The name of an archived payload has the environment, the connection, the date, the order, the
number of the delivery and the time of the attempt in it. From the right, each of these is cut
off at a character that what follows it does not have, so that the name determines them all, and
a redelivery does not write over what an earlier attempt archived.
-/

namespace Js

/-! ## Stamps -/

/-- A time in a file name: `date.toISOString().replace(/[:.]/g, '-')`. -/
def stamp (t : ℤ) : List Char :=
  (toISOString t).toList.map fun c => if c = ':' ∨ c = '.' then '-' else c

/-- The digits of a number, padded to a width. -/
def padded (width n : ℕ) : List Char := List.leftpad width '0' (Nat.toDigits 10 n)

theorem length_padded {width n : ℕ} (hwidth : 0 < width) (h : n < 10 ^ width) :
    (padded width n).length = width := by
  have hlength : (Nat.toDigits 10 n).length ≤ width :=
    (Nat.length_toDigits_le_iff (by decide) hwidth).mpr h
  unfold padded
  rw [List.length_leftpad]
  omega

/-- Padded numbers of one width in front of texts are equal, and so are the texts. -/
theorem padded_append_inj {width n n' : ℕ} {rest rest' : List Char} (hwidth : 0 < width)
    (h : n < 10 ^ width) (h' : n' < 10 ^ width)
    (heq : padded width n ++ rest = padded width n' ++ rest') : n = n' ∧ rest = rest' := by
  have hlength : (padded width n).length = (padded width n').length := by
    rw [length_padded hwidth h, length_padded hwidth h']
  obtain ⟨hnumber, hrest⟩ := List.append_inj heq hlength
  exact ⟨padNumber_inj (congrArg String.ofList hnumber), hrest⟩

theorem isDigit_of_mem_padded {width n : ℕ} {c : Char} (h : c ∈ padded width n) :
    c.isDigit = true := by
  unfold padded List.leftpad at h
  rcases List.mem_append.mp h with h | h
  · rw [List.eq_of_mem_replicate h]
    decide
  · exact Nat.isDigit_of_mem_toDigits (by decide) (by decide) h

/-- The year of a time, as it is written. -/
def yearChars (year : ℤ) : List Char :=
  if 0 ≤ year ∧ year ≤ 9999 then padded 4 year.toNat
  else (if year < 0 then '-' else '+') :: padded 6 year.natAbs

/-- What follows the year, without the letter at the end. -/
def monthToMillis (month day ms : ℕ) : List Char :=
  '-' :: (padded 2 month ++ '-' :: (padded 2 day ++ 'T' :: (padded 2 (ms / 3600000) ++
    '-' :: (padded 2 (ms / 60000 % 60) ++ '-' :: (padded 2 (ms / 1000 % 60) ++
      '-' :: padded 3 (ms % 1000))))))

theorem stamp_eq {t year : ℤ} {month day : ℕ}
    (hcivil : civilOfDays (t / 86400000) = (year, month, day)) :
    stamp t = yearChars year ++ (monthToMillis month day (t % 86400000).toNat ++ ['Z']) := by
  have hpad (width n : ℕ) :
      (padNumber width n).toList.map (fun c => if c = ':' ∨ c = '.' then '-' else c) =
        padded width n := by
    unfold padNumber
    rw [String.toList_ofList]
    refine (List.map_congr_left fun c hc => ?_).trans (List.map_id _)
    have hdigit := isDigit_of_mem_padded hc
    rw [if_neg, id]
    rintro (rfl | rfl)
    · exact absurd hdigit (by decide)
    · exact absurd hdigit (by decide)
  unfold stamp toISOString monthToMillis yearChars
  rw [hcivil]
  simp only [String.toList_append, List.map_append, hpad]
  split
  · simp [hpad]
  · split
    · simp [hpad]
    · simp [hpad]

theorem monthToMillis_inj {month month' day day' ms ms' : ℕ} (hmonth : month < 10 ^ 2)
    (hmonth' : month' < 10 ^ 2) (hday : day < 10 ^ 2) (hday' : day' < 10 ^ 2)
    (hms : ms < 86400000) (hms' : ms' < 86400000)
    (h : monthToMillis month day ms = monthToMillis month' day' ms') :
    month = month' ∧ day = day' ∧ ms = ms' := by
  unfold monthToMillis at h
  obtain ⟨hmonths, h₁⟩ := padded_append_inj (by decide) hmonth hmonth' (List.cons.inj h).2
  obtain ⟨hdays, h₂⟩ := padded_append_inj (by decide) hday hday' (List.cons.inj h₁).2
  obtain ⟨hhours, h₃⟩ := padded_append_inj (by decide) (by omega) (by omega) (List.cons.inj h₂).2
  obtain ⟨hminutes, h₄⟩ := padded_append_inj (by decide) (by omega) (by omega) (List.cons.inj h₃).2
  obtain ⟨hseconds, h₅⟩ := padded_append_inj (by decide) (by omega) (by omega) (List.cons.inj h₄).2
  have hmillis := (List.cons.inj h₅).2
  rw [← List.append_nil (padded 3 (ms % 1000)),
    ← List.append_nil (padded 3 (ms' % 1000))] at hmillis
  have hlast := (padded_append_inj (by decide) (by omega) (by omega) hmillis).1
  exact ⟨hmonths, hdays, by omega⟩

theorem length_monthToMillis {month day ms : ℕ} (hmonth : month < 10 ^ 2) (hday : day < 10 ^ 2)
    (hms : ms < 86400000) : (monthToMillis month day ms).length = 19 := by
  unfold monthToMillis
  simp only [List.length_cons, List.length_append, length_padded (by decide : 0 < 2) hmonth,
    length_padded (by decide : 0 < 2) hday,
    length_padded (by decide : 0 < 3) (by omega : ms % 1000 < 10 ^ 3),
    length_padded (by decide : 0 < 2) (by omega : ms / 3600000 < 10 ^ 2),
    length_padded (by decide : 0 < 2) (by omega : ms / 60000 % 60 < 10 ^ 2),
    length_padded (by decide : 0 < 2) (by omega : ms / 1000 % 60 < 10 ^ 2)]

/-- A stamp between two texts determines its time and the texts, when the year is known and the
text behind it does not have its last letter. -/
theorem stamp_append_inj {front front' suffix suffix' : List Char} {t t' : ℤ}
    (hyear : (civilOfDays (t / 86400000)).1 = (civilOfDays (t' / 86400000)).1)
    (hsuffix : 'Z' ∉ suffix) (hsuffix' : 'Z' ∉ suffix')
    (h : front ++ stamp t ++ suffix = front' ++ stamp t' ++ suffix') :
    front = front' ∧ t = t' ∧ suffix = suffix' := by
  obtain ⟨year, month, day, hcivil, hmonth, hmonth12, hday, hday31, hdays⟩ :=
    civilOfDays_spec (t / 86400000)
  obtain ⟨year', month', day', hcivil', hmonth', hmonth12', hday', hday31', hdays'⟩ :=
    civilOfDays_spec (t' / 86400000)
  rw [hcivil, hcivil'] at hyear
  obtain rfl : year = year' := hyear
  have hdayLt := daysInMonth_lt year month
  have hdayLt' := daysInMonth_lt year month'
  rw [stamp_eq hcivil, stamp_eq hcivil'] at h
  simp only [← List.append_assoc] at h
  obtain rfl := append_singleton_append_inj hsuffix hsuffix' h
  have hfront := List.append_cancel_right (List.append_cancel_right h)
  have hlength : (monthToMillis month day (t % 86400000).toNat).length =
      (monthToMillis month' day' (t' % 86400000).toNat).length := by
    rw [length_monthToMillis (by omega) (by omega) (by omega),
      length_monthToMillis (by omega) (by omega) (by omega)]
  obtain ⟨hleft, hright⟩ := List.append_inj' hfront hlength
  obtain ⟨rfl, rfl, hms⟩ := monthToMillis_inj (by omega) (by omega) (by omega) (by omega)
    (by omega) (by omega) hright
  have hday : t / 86400000 = t' / 86400000 := hdays.symm.trans hdays'
  exact ⟨List.append_cancel_right hleft, by omega, rfl⟩

end Js

namespace DpIntegrator

open Effects
open Js (Url UrlRules)

/-! ## Names -/

theorem toList_intercalate_concat {parts : List String} (hne : parts ≠ []) (last : String) :
    (String.intercalate "/" (parts ++ [last])).toList =
      (String.intercalate "/" parts).toList ++ '/' :: last.toList := by
  induction parts with
  | nil => exact absurd rfl hne
  | cons part rest ih =>
    cases rest with
    | nil => simp
    | cons next rest =>
      have hrest := ih (List.cons_ne_nil next rest)
      simp only [List.cons_append] at hrest ⊢
      rw [String.intercalate_cons_cons, String.intercalate_cons_cons]
      simp only [String.toList_append, hrest, List.append_assoc]

/-- A last segment without a slash is determined, and so is what precedes it. -/
theorem intercalate_concat_inj {parts parts' : List String} {last last' : String}
    (hne : parts ≠ []) (hne' : parts' ≠ []) (hlast : '/' ∉ last.toList)
    (hlast' : '/' ∉ last'.toList)
    (h : String.intercalate "/" (parts ++ [last]) = String.intercalate "/" (parts' ++ [last'])) :
    String.intercalate "/" parts = String.intercalate "/" parts' ∧ last = last' := by
  have hchars := congrArg String.toList h
  rw [toList_intercalate_concat hne, toList_intercalate_concat hne', List.append_cons,
    List.append_cons (String.intercalate "/" parts').toList] at hchars
  have hrest := Js.append_singleton_append_inj hlast hlast' hchars
  rw [hrest] at hchars
  have hfront := List.append_cancel_right (List.append_cancel_right hchars)
  exact ⟨String.toList_inj.mp hfront, String.toList_inj.mp hrest⟩

theorem slash_notMem_toString_int (n : ℤ) : '/' ∉ (toString n).toList := by
  obtain ⟨sign, hsign, htext⟩ := toList_toString_int n
  rw [htext, List.mem_append]
  exact fun h => h.elim hsign (slash_notMem_digits n.natAbs)

theorem dash_notMem_digits (n : ℕ) : '-' ∉ Nat.toDigits 10 n := by
  intro h
  have hdigit := Nat.isDigit_of_mem_toDigits (by decide) (by decide) h
  revert hdigit
  decide

theorem toDigits_inj {m n : ℕ} (h : Nat.toDigits 10 m = Nat.toDigits 10 n) : m = n := by
  rw [← Nat.ofDigitChars_ten_toDigits (n := m), h, Nat.ofDigitChars_ten_toDigits]

theorem digits_toString (n : ℕ) : (toString n).toList = Nat.toDigits 10 n := Nat.toList_repr

/-- The text of a number: its sign is the only character that is no digit. -/
theorem toString_int_inj {m n : ℤ} (h : (toString m).toList = (toString n).toList) : m = n := by
  have hnat (n : ℕ) : (toString (n : ℤ)).toList = Nat.toDigits 10 n := Nat.toList_repr
  have hneg (n : ℕ) : (toString (Int.negSucc n)).toList = '-' :: Nat.toDigits 10 (n + 1) := by
    simp [toString, Int.repr, Nat.repr]
  have hmixed (m n : ℕ) : Nat.toDigits 10 m ≠ '-' :: Nat.toDigits 10 (n + 1) := by
    intro heq
    exact dash_notMem_digits m (heq ▸ List.mem_cons_self)
  cases m with
  | ofNat m =>
    cases n with
    | ofNat n => exact congrArg Int.ofNat (toDigits_inj ((hnat m).symm.trans (h.trans (hnat n))))
    | negSucc n => exact absurd ((hnat m).symm.trans (h.trans (hneg n))) (hmixed m n)
  | negSucc m =>
    cases n with
    | ofNat n => exact absurd ((hnat n).symm.trans (h.symm.trans (hneg m))) (hmixed n m)
    | negSucc n =>
      have hdigits := (List.cons.inj ((hneg m).symm.trans (h.trans (hneg n)))).2
      exact congrArg Int.negSucc (Nat.succ_injective (toDigits_inj hdigits))

/-- Names with the segments of a date in front of the file determine what precedes the date, the
date and the file. -/
theorem dated_inj {head head' : List String} {year year' : ℤ} {month month' day day' : ℕ}
    {file file' : String} (hhead : head ≠ []) (hhead' : head' ≠ [])
    (hfile : '/' ∉ file.toList) (hfile' : '/' ∉ file'.toList)
    (h : String.intercalate "/"
        (head ++ [toString year] ++ [Js.padNumber 2 month] ++ [Js.padNumber 2 day] ++ [file]) =
      String.intercalate "/"
        (head' ++ [toString year'] ++ [Js.padNumber 2 month'] ++ [Js.padNumber 2 day'] ++
        [file'])) :
    String.intercalate "/" head = String.intercalate "/" head' ∧
      year = year' ∧ file = file' := by
  obtain ⟨h₁, hfiles⟩ := intercalate_concat_inj (by simp) (by simp) hfile hfile' h
  obtain ⟨h₂, _⟩ := intercalate_concat_inj (by simp) (by simp)
    (slash_notMem_padNumber 2 day) (slash_notMem_padNumber 2 day') h₁
  obtain ⟨h₃, _⟩ := intercalate_concat_inj (by simp) (by simp)
    (slash_notMem_padNumber 2 month) (slash_notMem_padNumber 2 month') h₂
  obtain ⟨h₄, hyears⟩ := intercalate_concat_inj hhead hhead'
    (slash_notMem_toString_int year) (slash_notMem_toString_int year') h₃
  exact ⟨h₄, toString_int_inj (congrArg String.toList hyears), hfiles⟩

/-- The last part of an order's GID, as it stands in the names of the archives. -/
def archivedId (orderGid : String) : String :=
  replaceUnsafe ((Js.split orderGid '/').getLast?.getD "unknown")

/-- What the name of an archived payload is made from. -/
structure ArchiveIdentity where
  environment : Environment
  connectionId : String
  orderId : String
  deliveryCount : ℕ
  attemptStartedAt : ℤ
  kind : PayloadKind
  deriving DecidableEq

def PayloadStoreContext.identity (ctx : PayloadStoreContext) : ArchiveIdentity where
  environment := ctx.environment
  connectionId := ctx.connectionId
  orderId := archivedId ctx.shopifyOrderGid
  deliveryCount := ctx.deliveryCount
  attemptStartedAt := ctx.attemptStartedAt
  kind := ctx.kind

/-- The end of the name of an archived payload. -/
def suffixOf : PayloadKind → String
  | .nsResponse => "-response.json"
  | .shopifyOrder => "-shopify.json"
  | .outbound => ".json"

theorem suffixOf_inj {kind kind' : PayloadKind}
    (h : (suffixOf kind).toList = (suffixOf kind').toList) : kind = kind' := by
  cases kind <;> cases kind' <;> first | rfl | exact absurd h (by decide)

/-- The file of an archived payload. -/
def archiveFile (ctx : PayloadStoreContext) : List Char :=
  (archivedId ctx.shopifyOrderGid).toList ++ "-attempt".toList ++
    (toString ctx.deliveryCount).toList ++ ['-'] ++ Js.stamp ctx.attemptStartedAt ++
    (suffixOf ctx.kind).toList

theorem slash_notMem_stamp (t : ℤ) : '/' ∉ Js.stamp t := by
  have h := slash_notMem_dashed t
  rwa [String.toList_ofList] at h

theorem slash_notMem_archiveFile (ctx : PayloadStoreContext) : '/' ∉ archiveFile ctx := by
  have hsuffix (kind : PayloadKind) : '/' ∉ (suffixOf kind).toList := by cases kind <;> decide
  unfold archiveFile
  simp only [List.mem_append, not_or, digits_toString]
  refine ⟨⟨⟨⟨⟨?_, by decide⟩, slash_notMem_digits _⟩, by decide⟩, slash_notMem_stamp _⟩, hsuffix _⟩
  exact slash_notMem_replaceUnsafe _

/-- Files of one year determine what they were made from. -/
theorem archiveFile_inj {ctx ctx' : PayloadStoreContext}
    (hyear : (Js.civilOfDays (ctx.attemptStartedAt / 86400000)).1 =
      (Js.civilOfDays (ctx'.attemptStartedAt / 86400000)).1)
    (h : archiveFile ctx = archiveFile ctx') :
    archivedId ctx.shopifyOrderGid = archivedId ctx'.shopifyOrderGid ∧
      ctx.deliveryCount = ctx'.deliveryCount ∧ ctx.attemptStartedAt = ctx'.attemptStartedAt ∧
      ctx.kind = ctx'.kind := by
  have hsuffix (kind : PayloadKind) : 'Z' ∉ (suffixOf kind).toList := by cases kind <;> decide
  have hdigits (n : ℕ) : 't' ∉ (toString n).toList := by
    intro hmem
    rw [digits_toString] at hmem
    have hdigit := Nat.isDigit_of_mem_toDigits (by decide) (by decide) hmem
    revert hdigit
    decide
  obtain ⟨hfront, htime, hkind⟩ := Js.stamp_append_inj hyear (hsuffix _) (hsuffix _) h
  have hcount := List.append_cancel_right hfront
  have hattempt : "-attempt".toList = "-attemp".toList ++ ['t'] := by decide
  rw [hattempt, ← List.append_assoc, ← List.append_assoc] at hcount
  have hnumber := Js.append_singleton_append_inj (hdigits _) (hdigits _) hcount
  rw [hnumber] at hcount
  have hid := List.append_cancel_right (List.append_cancel_right (List.append_cancel_right hcount))
  rw [digits_toString, digits_toString] at hnumber
  exact ⟨String.toList_inj.mp hid, toDigits_inj hnumber, htime, suffixOf_inj hkind⟩

theorem payloadBlobNameFor_eq (ctx : PayloadStoreContext) {year : ℤ} {month day : ℕ}
    (hcivil : Js.civilOfDays (ctx.attemptStartedAt / 86400000) = (year, month, day)) :
    payloadBlobNameFor ctx = String.intercalate "/" ([ctx.environment.text, ctx.connectionId] ++
      [toString year] ++ [Js.padNumber 2 month] ++ [Js.padNumber 2 day] ++
      [String.ofList (archiveFile ctx)]) := by
  have hfile : archivedId ctx.shopifyOrderGid ++ "-attempt" ++ toString ctx.deliveryCount ++ "-" ++
      String.ofList (Js.stamp ctx.attemptStartedAt) ++ suffixOf ctx.kind =
        String.ofList (archiveFile ctx) := by
    apply String.toList_inj.mp
    simp only [String.toList_append, String.toList_ofList, archiveFile]
    rfl
  rw [← hfile]
  unfold payloadBlobNameFor
  rw [hcivil]
  cases ctx.kind <;> rfl

/-- The environment in front of a slash is determined, and so is what follows it. -/
theorem environment_slash_inj {e e' : Environment} {s s' : String}
    (h : String.intercalate "/" [e.text, s] = String.intercalate "/" [e'.text, s']) :
    e = e' ∧ s = s' := by
  have hslash (e : Environment) : '/' ∉ e.text.toList := by cases e <;> decide
  have hchars (e : Environment) (s : String) :
      (String.intercalate "/" [e.text, s]).toList = e.text.toList ++ '/' :: s.toList :=
    toList_intercalate_concat (List.cons_ne_nil e.text []) s
  have heq := congrArg String.toList h
  rw [hchars, hchars] at heq
  obtain ⟨htext, hrest⟩ := Js.append_cons_inj_of_left (hslash e) (hslash e') heq
  exact ⟨Environment.text_inj (String.toList_inj.mp htext), String.toList_inj.mp hrest⟩

/-- The name of an archived payload determines its identity. -/
theorem payloadBlobNameFor_inj {ctx ctx' : PayloadStoreContext} :
    payloadBlobNameFor ctx = payloadBlobNameFor ctx' ↔ ctx.identity = ctx'.identity := by
  constructor
  · intro h
    obtain ⟨year, month, day, hcivil, _⟩ := Js.civilOfDays_spec (ctx.attemptStartedAt / 86400000)
    obtain ⟨year', month', day', hcivil', _⟩ :=
    Js.civilOfDays_spec (ctx'.attemptStartedAt / 86400000)
    have hslash (ctx : PayloadStoreContext) : '/' ∉ (String.ofList (archiveFile ctx)).toList := by
      rw [String.toList_ofList]
      exact slash_notMem_archiveFile ctx
    rw [payloadBlobNameFor_eq ctx hcivil, payloadBlobNameFor_eq ctx' hcivil'] at h
    obtain ⟨hhead, hyear, hfile⟩ := dated_inj (List.cons_ne_nil _ _) (List.cons_ne_nil _ _)
      (hslash ctx) (hslash ctx') h
    obtain ⟨henv, hconnection⟩ := environment_slash_inj hhead
    have hyears : (Js.civilOfDays (ctx.attemptStartedAt / 86400000)).1 =
        (Js.civilOfDays (ctx'.attemptStartedAt / 86400000)).1 := by
      rw [hcivil, hcivil', hyear]
    obtain ⟨hid, hcount, htime, hkind⟩ := archiveFile_inj hyears (String.ofList_injective hfile)
    unfold PayloadStoreContext.identity
    rw [henv, hconnection, hid, hcount, htime, hkind]
  · intro h
    obtain ⟨environment, connectionId, gid, deliveryCount, _, _, startedAt, kind⟩ := ctx
    obtain ⟨environment', connectionId', gid', deliveryCount', _, _, startedAt', kind'⟩ := ctx'
    obtain ⟨rfl, rfl, hid, rfl, rfl, rfl⟩ := ArchiveIdentity.mk.inj h
    unfold archivedId at hid
    unfold payloadBlobNameFor
    simp only [hid]

/-! ## What a delivery archives -/

/-- The identity of what an attempt archives. -/
def Delivery.archiveIdentity (d : Delivery) (attempt : AttemptContext) (kind : PayloadKind) :
    ArchiveIdentity where
  environment := d.deps.environment
  connectionId := d.connection.connectionId
  orderId := archivedId d.msg.orderGid
  deliveryCount := attempt.deliveryCount
  attemptStartedAt := attempt.startedAt
  kind

/-- The context of a payload that the delivery archives. -/
def ArchivedBy (d : Delivery) (ctx : PayloadStoreContext) : Prop :=
  ∃ attempt, d.attemptCtx = some attempt ∧ ctx.identity = d.archiveIdentity attempt ctx.kind

/-- An event that archives for the attempt of the delivery, if it archives. -/
def Archives (d : Delivery) (ev : Ev) : Prop :=
  ∀ payload ctx r, ev = answered (.putPayload payload ctx) r → ArchivedBy d ctx

section Walk

variable {d : Delivery}

theorem archives_io {c : Call} (h : ∀ payload ctx, c ≠ .putPayload payload ctx) :
    Issues (Archives d) (Async.io c) :=
  issues_io fun _ payload ctx _ heq => absurd (Op.io.inj (Sigma.mk.inj heq).1) (h payload ctx)

theorem archives_track (metric : Metric) : Issues (Archives d) (d.track metric) :=
  fun tr res h ev hev _ _ _ heq => absurd heq (observes_track metric tr res h ev hev _ _)

theorem archives_clock : Issues (Archives d) Async.now :=
  .observe fun t _ _ _ heq => absurd heq (observed_clock t _ _)

theorem archives_writeSyncLog (shape : SyncLogShape) :
    Issues (Archives d) (d.writeSyncLog shape) := by
  unfold Delivery.writeSyncLog
  split
  · exact archives_io nofun
  · exact .pure _

theorem archives_recordError (input : String → NewErrorInput) :
    Issues (Archives d) (d.recordError input) := by
  unfold Delivery.recordError
  split
  · exact (issues_ofExcept _).bind fun _ => archives_io nofun
  · exact .pure _

theorem archives_recordAttempt (l : Locals) : Issues (Archives d) (d.recordAttempt l) := by
  unfold Delivery.recordAttempt
  split
  · refine archives_clock.bind fun now => Issues.bind (issues_quietly ?_) fun _ => .pure _
    intro r payload ctx r' heq
    cases (Sigma.mk.inj heq).1
  · exact .pure _

theorem archives_parkOutcome (park : ParkInput) : Issues (Archives d) (parkOutcome d park) := by
  refine Issues.bind (archives_io nofun) fun _ => (archives_recordError _).bind fun _ => ?_
  exact (archives_track _).bind fun _ => (archives_writeSyncLog _).bind fun _ => .pure _

theorem archives_classifyAndRoute (err : Thrown) (order : Option ShopifyOrder) :
    Issues (Archives d) (classifyAndRoute d err order) := by
  unfold classifyAndRoute
  dsimp only
  split
  · split
    · exact (archives_recordError _).bind fun _ => (archives_track _).bind fun _ => .throw _
    · exact .throw _
  · exact archives_parkOutcome _

theorem archives_prepareOrder (order : ShopifyOrder) :
    Issues (Archives d) (prepareOrder d order) := by
  refine (built_prepareOrder d order).issues fun c r h payload ctx r' heq => ?_
  obtain rfl := Op.io.inj (Sigma.mk.inj heq).1
  cases h

theorem archives_afterImport (order : ShopifyOrder) (internalId : String) (uri : Option String) :
    Issues (Archives d) (afterImport d order internalId uri) := by
  refine archives_clock.bind fun _ => (archives_track _).bind fun _ => ?_
  refine (archives_writeSyncLog _).bind fun _ => ?_
  unfold writeTag
  split
  · refine .tryCatch (Issues.bind (archives_io nofun) fun _ => .pure _) fun _ => ?_
    exact archives_recordError _
  · exact .pure _

/-- The pipeline archives for the attempt of its delivery, whatever its variables are. -/
abbrev PipelineArchives {α : Type} (d : Delivery) (x : Handler α) : Prop :=
  Confined (Archives d) (fun _ : Locals => ()) x

theorem pipelineArchives_finish (o : OrderHandlerOutcome) : PipelineArchives d (finish o) :=
  Confined.bind (.modify fun _ => rfl) fun _ => .pure _

theorem pipelineArchives_archive {payload : Js.Fields} {kind : PayloadKind}
    {nsAccountId nsRecordType : Option String} {set : Option String → Locals → Locals} :
    PipelineArchives d (d.archive payload kind nsAccountId nsRecordType set) := by
  unfold Delivery.archive
  split
  · next ctx _ hctx =>
    refine Confined.bind (.await (issues_quietly ?_)) fun _ => .modify fun _ => rfl
    intro r payload' ctx' r' heq
    obtain ⟨_, rfl⟩ := Call.putPayload.inj (Op.io.inj (Sigma.mk.inj heq).1)
    exact ⟨_, hctx, rfl⟩
  · exact .pure _

theorem pipelineArchives_writeOrder (order : ShopifyOrder) (customer : CustomerResolution)
    (payload : NsOrderPayload) :
    PipelineArchives d (writeOrder d order customer payload) := by
  refine pipelineArchives_archive.bind fun _ => Confined.bind (.modify fun _ => rfl) fun _ => ?_
  refine Confined.bind (.await (archives_io nofun)) fun upserted => ?_
  have hrecord : PipelineArchives d (do
      let _ ← Scoped.await (Async.io (.recordSuccess d.parts upserted.internalId d.msg.orderGid))
      let l ← get
      Scoped.await (afterImport d order upserted.internalId l.outboundPayloadUri)
      finish (.imported d.connection.connectionId d.msg.orderGid upserted.internalId
        upserted.created customer)) := by
    refine Confined.bind (.await (archives_io nofun)) fun _ => Confined.get.bind fun l => ?_
    exact (Confined.await (archives_afterImport _ _ _)).bind fun _ => pipelineArchives_finish _
  dsimp only
  split
  · refine Confined.bind (.modify fun _ => rfl) fun _ => ?_
    exact pipelineArchives_archive.bind fun _ => hrecord
  · exact hrecord

theorem pipelineArchives_importOrder : PipelineArchives d (importOrder d) := by
  refine Confined.bind (.await (archives_io nofun)) fun order => ?_
  refine Confined.bind (.modify fun _ => rfl) fun _ => pipelineArchives_archive.bind fun _ => ?_
  split
  · refine Confined.bind (.await (archives_io nofun)) fun _ => ?_
    refine (Confined.await (archives_writeSyncLog _)).bind fun _ => ?_
    exact (Confined.await (archives_track _)).bind fun _ => pipelineArchives_finish _
  · refine (Confined.await (archives_prepareOrder order)).bind fun prepared => ?_
    cases prepared with
    | parked stage detail errorClass =>
      exact (Confined.await (archives_parkOutcome _)).bind fun _ => pipelineArchives_finish _
    | ready customer payload => exact pipelineArchives_writeOrder _ _ _

theorem pipelineArchives_routeThrown (err : Thrown) : PipelineArchives d (routeThrown d err) := by
  have harchive : PipelineArchives d (archiveThrown d err) := by
    unfold archiveThrown
    split
    · exact .throw _
    · exact .throw _
    · exact Confined.bind (.modify fun _ => rfl) fun _ => pipelineArchives_archive
    · exact .pure _
  refine harchive.bind fun _ => Confined.get.bind fun l => ?_
  refine Confined.tryCatch ?_ fun _ => Confined.bind (.modify fun _ => rfl) fun _ => .throw _
  exact (Confined.await (archives_classifyAndRoute _ _)).bind fun _ => pipelineArchives_finish _

theorem archives_claimAndImport : Issues (Archives d) (claimAndImport d) := by
  refine Issues.bind (archives_io nofun) fun claim => ?_
  have hshort (o : OrderHandlerOutcome) : Issues (Archives d) (shortCircuit d o) :=
    (archives_recordAttempt _).bind fun _ => .pure _
  split
  · exact hshort _
  · exact hshort _
  · exact hshort _
  · exact (Confined.tryCatch pipelineArchives_importOrder pipelineArchives_routeThrown).withFinally
      archives_recordAttempt

/-- All that a delivery archives is named by its attempt. -/
theorem archives_deliver : Issues (Archives d) (deliver d) := by
  unfold deliver
  split
  · refine Issues.bind (archives_io nofun) fun found => ?_
    cases found with
    | none =>
      refine Issues.bind (archives_io nofun) fun _ => (archives_writeSyncLog _).bind fun _ => ?_
      exact (archives_track _).bind fun _ => (archives_recordAttempt _).bind fun _ => .pure _
    | some row => exact archives_claimAndImport
  · exact archives_claimAndImport

end Walk

/-! ## What is read back -/

/-- A payload that a delivery archives. -/
structure Upload where
  delivery : Delivery
  payload : Payload
  ctx : PayloadStoreContext

namespace Upload

/-- The delivery has a run in which the store takes the payload. -/
def Runs (u : Upload) : Prop :=
  ∃ tr res uri, Settles (deliver u.delivery) tr res ∧
    answered (.putPayload u.payload u.ctx) (.ok uri) ∈ tr

theorem Runs.archivedBy {u : Upload} (h : u.Runs) : ArchivedBy u.delivery u.ctx := by
  obtain ⟨tr, res, uri, hsettles, hmem⟩ := h
  exact archives_deliver tr res hsettles _ hmem _ _ _ rfl

end Upload

/-- The blobs of a container after uploads, where the bytes of a payload are those of its JSON. -/
def contentsAfter (encode : Payload → List UInt8) (uploads : List Upload) :
    Js.Map String (List UInt8) :=
  uploads.foldl (fun contents u => contents.set (payloadBlobNameFor u.ctx) (encode u.payload))
    .empty

/-- No attempt of one delivery is one of the other. -/
def Delivery.OtherAttempt (d d' : Delivery) : Prop :=
  ∀ attempt attempt' kind, d.attemptCtx = some attempt → d'.attemptCtx = some attempt' →
    d.archiveIdentity attempt kind ≠ d'.archiveIdentity attempt' kind

/-- The storage service answers with what was uploaded last. -/
structure Serves (reader : BlobReader) (container : BlobContainer)
    (contents : Js.Map String (List UInt8)) : Prop where
  properties : ∀ blobName bytes, contents.get blobName = some bytes →
    reader.getProperties ⟨container.name, blobName⟩ =
      .ok ⟨some bytes.length, some "application/json"⟩
  download : ∀ blobName bytes, contents.get blobName = some bytes →
    ∃ chunks, reader.download ⟨container.name, blobName⟩ = .ok (some chunks) ∧
      chunks.flatten = bytes

section ReadBack

variable {rules : UrlRules} {container : BlobContainer} {reader : BlobReader}
  {encode : Payload → List UInt8} {uploads before after : List Upload} {u : Upload}

/-- Later uploads under other names leave a blob as it is. -/
theorem get_contentsAfter
    (h : ∀ u' ∈ after, payloadBlobNameFor u.ctx ≠ payloadBlobNameFor u'.ctx) :
    (contentsAfter encode (before ++ u :: after)).get (payloadBlobNameFor u.ctx) =
      some (encode u.payload) := by
  unfold contentsAfter
  rw [List.foldl_append, List.foldl_cons]
  have hlater (after : List Upload) (contents : Js.Map String (List UInt8))
      (h : ∀ u' ∈ after, payloadBlobNameFor u.ctx ≠ payloadBlobNameFor u'.ctx) :
      (after.foldl (fun contents u => contents.set (payloadBlobNameFor u.ctx) (encode u.payload))
        contents).get (payloadBlobNameFor u.ctx) = contents.get (payloadBlobNameFor u.ctx) := by
    induction after generalizing contents with
    | nil => rfl
    | cons u' after ih =>
      rw [List.foldl_cons, ih _ fun v hv => h v (List.mem_cons_of_mem u' hv)]
      exact Js.Map.get_set_of_ne (h u' List.mem_cons_self) contents _
  rw [hlater after _ h, Js.Map.get_set_self]

theorem totalOfChunks_of_le {total : ℕ} {chunks : List (List UInt8)}
    (h : total + chunks.flatten.length ≤ maxPayloadFetchBytes) :
    totalOfChunks total chunks = .ok (total + chunks.flatten.length) := by
  induction chunks generalizing total with
  | nil => rfl
  | cons chunk chunks ih =>
    rw [List.flatten_cons, List.length_append, ← Nat.add_assoc] at h
    unfold totalOfChunks
    rw [if_neg (by omega), ih h, List.flatten_cons, List.length_append, Nat.add_assoc]

/-- The reader returns a blob that the container has, up to the cap. -/
theorem getJson_of_serves {contents : Js.Map String (List UInt8)} {uri blobName : String}
    {bytes : List UInt8} (hserves : Serves reader container contents)
    (hparse : parseBlobUri rules uri reader.serviceUrl = .ok ⟨container.name, blobName⟩)
    (hget : contents.get blobName = some bytes) :
    reader.getJson rules uri =
      if bytes.length ≤ maxPayloadFetchBytes then
        .ok ⟨reader.toText bytes, bytes.length, "application/json"⟩
      else .error (.tooLarge bytes.length) := by
  obtain ⟨chunks, hdownload, rfl⟩ := hserves.download blobName bytes hget
  unfold BlobReader.getJson
  rw [hparse]
  simp only [orOther, Except.mapError, bind, Except.bind, hserves.properties blobName _ hget,
    hdownload, Option.getD_some]
  by_cases h : chunks.flatten.length ≤ maxPayloadFetchBytes
  · rw [if_neg (Nat.not_lt.mpr h), if_pos h]
    have htotal := @totalOfChunks_of_le 0 chunks (by rwa [Nat.zero_add])
    rw [Nat.zero_add] at htotal
    simp only [pure, Except.pure, htotal]
  · rw [if_pos (Nat.lt_of_not_le h), if_neg h]
    rfl

end ReadBack

namespace Archive

/-- A storage service with the blobs of one container. -/
def storage (contents : Js.Map String (List UInt8)) : BlobReader where
  serviceUrl := "https://dpistdev.blob.core.windows.net/"
  getProperties ref :=
    match contents.get ref.blobName with
    | some bytes => .ok ⟨some bytes.length, some "application/json"⟩
    | none => .error (newError "The specified blob does not exist.")
  download ref := .ok ((contents.get ref.blobName).map fun bytes => [bytes])
  toText bytes := String.ofList (bytes.map fun b => Char.ofNat b.toNat)

theorem storage_serves (contents : Js.Map String (List UInt8)) :
    Serves (storage contents) container contents where
  properties blobName bytes h := by simp only [storage, h]
  download blobName bytes h := ⟨[bytes], by simp only [storage, h, Option.map_some], by simp⟩

/-- The archived order of a run. -/
def isOrderArchive : Ev → Bool
  | ⟨.io (.putPayload _ ctx), .ok _⟩ => ctx.kind = .shopifyOrder
  | _ => false

/-- The first delivery of a message, and the second. -/
def attempt (deliveryCount : ℕ) : Delivery :=
  { Shop.delivery (Shop.message none "orders/create") with
    attemptCtx := some { deliveryCount, startedAt := 1767607201000 } }

/-- In the shop a delivery archives the order. -/
theorem exists_upload {deliveryCount : ℕ}
    (h : ((deliver (attempt deliveryCount)).run.execute Shop.up.respond Shop.world).1.any
      isOrderArchive = true) :
    ∃ u : Upload, u.delivery = attempt deliveryCount ∧ u.Runs ∧ u.ctx.kind = .shopifyOrder := by
  obtain ⟨ev, hmem, hev⟩ := List.any_eq_true.mp h
  have hruns := ((deliver (attempt deliveryCount)).run.exec_execute Shop.up.step_respond
    Shop.world).runs
  unfold isOrderArchive at hev
  split at hev
  · next payload ctx uri =>
    exact ⟨⟨attempt deliveryCount, payload, ctx⟩, rfl, ⟨_, _, uri, hruns, hmem⟩,
    of_decide_eq_true hev⟩
  · cases hev

end Archive

end DpIntegrator
