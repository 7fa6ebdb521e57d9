import DpIntegrator.Functions.Webhook
import DpIntegrator.Js.Url

/-!
# Archived blobs and their URIs

The payload store returns the URI of each blob that it writes, and the admin API serves a blob to
whoever names its URI: it checks the URI, looks it up among the delivery attempts and reads the
blob that the URI names. Blob names are encoded segment by segment, and both the check and the
reader decode them.
-/

namespace DpIntegrator

open Js (Url UrlRules)

/-! ## The payload store -/

/-- A container whose URL is the URL of its account followed by its name. -/
structure BlobContainer where
  account : Url.Root
  name : String
  nonempty : name ≠ ""
  notDots : name ≠ "." ∧ name ≠ ".."
  /-- Container names have no character that a URL would escape. -/
  encoded : Js.encodeURIComponent name = name

def BlobContainer.url (container : BlobContainer) : String :=
  container.account.text ++ "/" ++ container.name

/-- `blobNameFor` of the payload store. -/
def payloadBlobNameFor (ctx : PayloadStoreContext) : String :=
  let id := replaceUnsafe ((Js.split ctx.shopifyOrderGid '/').getLast?.getD "unknown")
  let (year, month, day) := Js.civilOfDays (ctx.attemptStartedAt / 86400000)
  let ts := String.ofList ((Js.toISOString ctx.attemptStartedAt).toList.map fun c =>
    if c = ':' ∨ c = '.' then '-' else c)
  let suffix := match ctx.kind with
    | .nsResponse => "-response.json"
    | .shopifyOrder => "-shopify.json"
    | .outbound => ".json"
  String.intercalate "/" [ctx.environment.text, ctx.connectionId, toString year,
    Js.padNumber 2 month, Js.padNumber 2 day,
    id ++ "-attempt" ++ toString ctx.deliveryCount ++ "-" ++ ts ++ suffix]

/-- The URI that the store returns for a blob. -/
def BlobContainer.uriOf (container : BlobContainer) (blobName : String) : String :=
  container.url ++ "/" ++ encodeBlobPath blobName

/-- The URI that `put` returns. -/
def BlobContainer.putUri (container : BlobContainer) (ctx : PayloadStoreContext) : String :=
  container.uriOf (payloadBlobNameFor ctx)

/-! ## The reader -/

/-- `new URL(input)`. -/
def newUrl (rules : UrlRules) (input : String) : Except Thrown Url :=
  match Url.parse rules input with
  | some url => .ok url
  | none => .error (typeError "Invalid URL")

/-- `decodeURIComponent(s)`. -/
def decodeSegment (segment : String) : Except Thrown String :=
  match Js.decodeURIComponent segment with
  | some decoded => .ok decoded
  | none => .error (.error { name := "URIError", message := "URI malformed" })

/-- The parts of the path of a URL that are not empty. -/
def urlParts (url : Url) : List String := (Js.split url.pathname '/').filter fun p => p ≠ ""

/-- Segments that lead elsewhere, or nowhere. -/
def isRejected (segment : String) : Bool := segment = ".." || segment = "." || segment = ""

structure BlobRef where
  container : String
  blobName : String
  deriving DecidableEq

def parseBlobUri (rules : UrlRules) (uri serviceUrl : String) : Except Thrown BlobRef := do
  let u ← newUrl rules uri
  let expected ← newUrl rules serviceUrl
  if u.origin ≠ expected.origin then
    throw (newError ("BlobReader: URI origin '" ++ u.origin ++ "' does not match service '" ++
      expected.origin ++ "'"))
  match urlParts u with
  | container :: segment :: rest => do
    let decodedSegments ← (segment :: rest).mapM decodeSegment
    match decodedSegments.find? isRejected with
    | some segment =>
      throw (newError ("BlobReader: rejected path segment '" ++ segment ++ "' in URI"))
    | none => return { container, blobName := String.intercalate "/" decodedSegments }
  | _ => throw (newError ("BlobReader: URI '" ++ uri ++ "' missing container/blob path"))

def maxPayloadFetchBytes : ℕ := 5 * 1024 * 1024

structure BlobProperties where
  contentLength : Option ℕ
  contentType : Option String

/-- What the reader uses of the storage service. -/
structure BlobReader where
  serviceUrl : String
  getProperties : BlobRef → Except Thrown BlobProperties
  /-- The chunks of the stream of a blob; `none` where there is no stream. -/
  download : BlobRef → Except Thrown (Option (List (List UInt8)))
  /-- `buffer.toString('utf8')`. -/
  toText : List UInt8 → String

/-- What a read is rejected with: a `BlobTooLargeError`, or another error. -/
inductive BlobReadError
  | tooLarge (size : ℕ)
  | other (err : Thrown)

/-- The message of a `BlobTooLargeError`. -/
def blobTooLargeMessage (size : ℕ) : String :=
  "Blob is " ++ toString size ++ " bytes — exceeds " ++ toString maxPayloadFetchBytes ++ " byte cap"

/-- Take a result of the service or of the language as one of the reader. -/
def orOther {α : Type} (result : Except Thrown α) : Except BlobReadError α :=
  result.mapError BlobReadError.other

/-- The loop over the chunks of a stream: their size in all, up to the cap. -/
def totalOfChunks (total : ℕ) : List (List UInt8) → Except BlobReadError ℕ
  | [] => .ok total
  | chunk :: chunks =>
    if total + chunk.length > maxPayloadFetchBytes then .error (.tooLarge (total + chunk.length))
    else totalOfChunks (total + chunk.length) chunks

structure BlobJson where
  body : String
  size : ℕ
  contentType : String

def BlobReader.getJson (reader : BlobReader) (rules : UrlRules) (uri : String) :
    Except BlobReadError BlobJson := do
  let ref ← orOther (parseBlobUri rules uri reader.serviceUrl)
  let props ← orOther (reader.getProperties ref)
  if props.contentLength.getD 0 > maxPayloadFetchBytes then
    throw (.tooLarge (props.contentLength.getD 0))
  match ← orOther (reader.download ref) with
  | none => throw (.other (newError "BlobReader: empty stream from download"))
  | some chunks =>
    let total ← totalOfChunks 0 chunks
    return {
      body := reader.toText chunks.flatten
      size := total
      contentType := props.contentType.getD "application/json" }

/-- `head`: the size and the type of a blob. -/
def BlobReader.head (reader : BlobReader) (rules : UrlRules) (uri : String) :
    Except Thrown (ℕ × String) := do
  let ref ← parseBlobUri rules uri reader.serviceUrl
  let props ← reader.getProperties ref
  return (props.contentLength.getD 0, props.contentType.getD "application/json")

/-! ## The admin API -/

/-- A response of the payload endpoint. -/
inductive PayloadResponse
  /-- A status with `{ ok: false, reason, detail }`. -/
  | refused (status : ℕ) (reason : String) (detail : Option String)
  | served (body : Option String) (headers : List (String × String))
  deriving DecidableEq

structure AdminPayloadDeps where
  environment : Environment
  blobReader : Option BlobReader
  blobAccountUrl : Option String
  /-- Whether a delivery attempt of an environment names the URI. -/
  attemptNames : (environment : Environment) → (uri : String) → Except Thrown Bool

def badRequest (detail : String) : PayloadResponse := .refused 400 "bad_request" (some detail)

/-- What a segment of the path is refused with. -/
def refusalOf (raw : String) : Option PayloadResponse :=
  match Js.decodeURIComponent raw with
  | none => some (badRequest "invalid url encoding")
  | some decoded => if isRejected decoded then some (badRequest "rejected path segment") else none

/-- The checks of `handleAdminPayload` on the URI: what it is refused with, if it is. -/
def checkPayloadUri (rules : UrlRules) (blobAccountUrl uri : String) :
    Except Thrown (Option PayloadResponse) :=
  match Url.parse rules uri with
  | none => .ok (some (badRequest "uri not a valid URL"))
  | some parsed => do
    let expected ← newUrl rules blobAccountUrl
    if parsed.origin ≠ expected.origin then
      return some (.refused 400 "bad_origin" (some ("origin must be " ++ expected.origin)))
    if (urlParts parsed).length < 2 then
      return some (badRequest "uri missing container/blob path")
    return (urlParts parsed).findSome? refusalOf

def cacheHeaders : List (String × String) :=
  [("Cache-Control", "private, max-age=3600, immutable"), ("X-Content-Type-Options", "nosniff")]

/-- The response with a blob, or with its size only. -/
def servePayload (rules : UrlRules) (blobReader : BlobReader) (uri : String) (headOnly : Bool) :
    PayloadResponse :=
  if headOnly then
    match blobReader.head rules uri with
    | .ok (size, contentType) =>
      .served none (("Content-Length", toString size) :: ("Content-Type", contentType) ::
        cacheHeaders)
    | .error _ => .refused 404 "not_found" none
  else
    match blobReader.getJson rules uri with
    | .ok blob =>
      .served (some blob.body) (("Content-Type", blob.contentType) ::
        ("Content-Length", toString blob.size) :: cacheHeaders)
    | .error (.tooLarge size) =>
      .refused 413 "too_large" (some (blobTooLargeMessage size))
    | .error (.other _) => .refused 404 "not_found" none

def handleAdminPayload (rules : UrlRules) (deps : AdminPayloadDeps) (uri : String)
    (headOnly : Bool) : Except Thrown PayloadResponse :=
  match deps.blobReader, deps.blobAccountUrl.filter (· ≠ "") with
  | some blobReader, some blobAccountUrl => do
    if uri = "" then
      return badRequest "uri required"
    match ← checkPayloadUri rules blobAccountUrl uri with
    | some refusal => return refusal
    | none =>
      if ← deps.attemptNames deps.environment uri then
        return servePayload rules blobReader uri headOnly
      else
        return .refused 404 "not_found" none
  | _, _ => .ok (.refused 503 "not_ready" (some "blob reader not wired"))

/-! ## Round trip -/

/-- A blob name whose segments are not empty and no dot segments. -/
def HasPlainSegments (blobName : String) : Prop :=
  ∀ segment ∈ Js.split blobName '/', segment ≠ "" ∧ segment ≠ "." ∧ segment ≠ ".."

/-- The segments of the path of a blob: its container, and those of its name. -/
def BlobContainer.segments (container : BlobContainer) (blobName : String) : List String :=
  container.name :: Js.split blobName '/'

section RoundTrip

variable {container : BlobContainer} {blobName : String}

theorem split_ne_nil (s : String) (sep : Char) : Js.split s sep ≠ [] := by
  unfold Js.split
  rw [ne_eq, List.map_eq_nil_iff]
  exact Js.splitChars_ne_nil sep s.toList

/-- The parts of a text give the text. -/
theorem intercalate_split (s : String) : String.intercalate "/" (Js.split s '/') = s := by
  apply String.toList_inj.mp
  unfold Js.split
  rw [String.toList_intercalate, List.map_map, Js.Url.splitChars_eq_splitOn]
  have hid : String.toList ∘ String.ofList = id := funext fun cs => String.toList_ofList
  rw [hid, List.map_id]
  exact List.intercalate_splitOn '/'

theorem HasPlainSegments.segments (h : HasPlainSegments blobName) :
    ∀ s ∈ container.segments blobName, s ≠ "" ∧ s ≠ "." ∧ s ≠ ".." := by
  intro s hs
  rcases List.mem_cons.mp hs with rfl | hs
  · exact ⟨container.nonempty, container.notDots⟩
  · exact h s hs

/-- A URI of the store is the account followed by the encoded segments of the blob. -/
theorem uriOf_eq (container : BlobContainer) (blobName : String) :
    container.uriOf blobName = container.account.text ++
      String.ofList (Url.joinPath (Url.encodedPath (container.segments blobName))) := by
  have hne : Url.encodedPath (Js.split blobName '/') ≠ [] := by
    simpa [Url.encodedPath] using split_ne_nil blobName '/'
  apply String.toList_inj.mp
  unfold BlobContainer.uriOf BlobContainer.url encodeBlobPath BlobContainer.segments
  simp only [String.toList_append, String.toList_ofList, String.toList_intercalate, List.map_map]
  change _ = _ ++ Url.joinPath ((Js.encodeURIComponent container.name).toList ::
    Url.encodedPath (Js.split blobName '/'))
  rw [container.encoded, Url.joinPath, List.flatMap_cons]
  change _ = _ ++ (_ ++ Url.joinPath (Url.encodedPath (Js.split blobName '/')))
  rw [Url.joinPath_eq hne]
  simp [Url.encodedPath, Function.comp_def]

variable {rules : UrlRules} {accountUrl serviceUrl : String} {expected : Url}

/-- The URL of an account, with or without a slash behind it, has the account's origin. -/
theorem originOf_of_accountUrl
    (haccountUrl : accountUrl = container.account.text ∨ accountUrl = container.account.text ++ "/")
    (haccount : Url.parse rules accountUrl = some expected) :
    rules.originOf container.account.scheme.toList container.account.authority.toList =
      some expected.origin := by
  have hparse (tail : List Char) (htail : tail = [] ∨ tail = ['/'])
      (heq : accountUrl = container.account.text ++ String.ofList tail) :
      rules.originOf container.account.scheme.toList container.account.authority.toList =
        some expected.origin := by
    have hvisible : ∀ c ∈ tail, 0x20 < c.toNat := by
      rcases htail with rfl | rfl <;> exact List.all_iff_forall_prop.mp (by decide)
    have hslash : tail = [] ∨ ∃ rest, tail = '/' :: rest := htail.imp_right fun h => ⟨[], h⟩
    rw [heq, Url.parse_root rules container.account hvisible hslash] at haccount
    obtain ⟨origin, horigin, rfl⟩ := Option.map_eq_some_iff.mp haccount
    exact horigin
  rcases haccountUrl with heq | heq
  · refine hparse [] (.inl rfl) ?_
    rw [heq]
    exact String.append_empty.symm
  · exact hparse ['/'] (.inr rfl) heq

/-- A URI of the store is a URL at the account's origin, whose path has the encoded segments. -/
theorem parse_uriOf {origin : String} (hname : HasPlainSegments blobName)
    (horigin : rules.originOf container.account.scheme.toList container.account.authority.toList =
      some origin) :
    ∃ url, Url.parse rules (container.uriOf blobName) = some url ∧ url.origin = origin ∧
      urlParts url = (container.segments blobName).map Js.encodeURIComponent := by
  have hsegments : ∀ s ∈ container.segments blobName, s ≠ "" ∧ s ≠ "." ∧ s ≠ ".." :=
    hname.segments
  have hne : container.segments blobName ≠ [] := List.cons_ne_nil _ _
  have hparse := Url.parse_encodedPath rules container.account hne fun s hs => (hsegments s hs).2
  rw [← uriOf_eq, horigin, Option.map_some] at hparse
  exact ⟨_, hparse, rfl, Url.split_encodedPath hne hsegments⟩

theorem isRejected_eq_false {segment : String}
    (h : segment ≠ "" ∧ segment ≠ "." ∧ segment ≠ "..") : isRejected segment = false := by
  unfold isRejected
  rw [decide_eq_false h.1, decide_eq_false h.2.1, decide_eq_false h.2.2]
  rfl

theorem mapM_decodeSegment (segments : List String) :
    (segments.map Js.encodeURIComponent).mapM decodeSegment = .ok segments := by
  induction segments with
  | nil => rfl
  | cons segment rest ih =>
    have hdecode : decodeSegment (Js.encodeURIComponent segment) = .ok segment := by
      unfold decodeSegment
      rw [Js.decodeURIComponent_encodeURIComponent]
    rw [List.map_cons, List.mapM_cons, hdecode, ih]
    rfl

/-- The URI of a blob passes the checks of the admin API. -/
theorem checkPayloadUri_uriOf (hname : HasPlainSegments blobName)
    (haccountUrl : accountUrl = container.account.text ∨ accountUrl = container.account.text ++ "/")
    (haccount : Url.parse rules accountUrl = some expected) :
    checkPayloadUri rules accountUrl (container.uriOf blobName) = .ok none := by
  obtain ⟨url, hparse, horigin, hparts⟩ :=
    parse_uriOf hname (originOf_of_accountUrl haccountUrl haccount)
  have hexpected : newUrl rules accountUrl = .ok expected := by
    unfold newUrl
    rw [haccount]
  have hlength : ¬(urlParts url).length < 2 := by
    have hpos := List.length_pos_iff.mpr (split_ne_nil blobName '/')
    rw [hparts, List.length_map]
    unfold BlobContainer.segments
    rw [List.length_cons]
    omega
  have hrefusal : (urlParts url).findSome? refusalOf = none := by
    rw [hparts, List.findSome?_eq_none_iff]
    intro raw hraw
    obtain ⟨segment, hsegment, rfl⟩ := List.mem_map.mp hraw
    unfold refusalOf
    rw [Js.decodeURIComponent_encodeURIComponent]
    simp only [isRejected_eq_false (hname.segments segment hsegment)]
    rfl
  unfold checkPayloadUri
  simp only [hparse, hexpected]
  change (if url.origin ≠ expected.origin then _ else _) = _
  rw [if_neg (not_not_intro horigin), if_neg hlength, hrefusal]
  rfl

/-- The reader takes the URI of a blob back to its container and its name. -/
theorem parseBlobUri_uriOf (hname : HasPlainSegments blobName)
    (haccountUrl : accountUrl = container.account.text ∨ accountUrl = container.account.text ++ "/")
    (haccount : Url.parse rules accountUrl = some expected)
    (hservice : (Url.parse rules serviceUrl).map Url.origin = some expected.origin) :
    parseBlobUri rules (container.uriOf blobName) serviceUrl =
      .ok { container := container.name, blobName } := by
  obtain ⟨url, hparse, horigin, hparts⟩ :=
    parse_uriOf hname (originOf_of_accountUrl haccountUrl haccount)
  obtain ⟨service, hparseService, hserviceOrigin⟩ := Option.map_eq_some_iff.mp hservice
  have hnew : newUrl rules (container.uriOf blobName) = .ok url := by
    unfold newUrl
    rw [hparse]
  have hnewService : newUrl rules serviceUrl = .ok service := by
    unfold newUrl
    rw [hparseService]
  have hsame : ¬url.origin ≠ service.origin := by
    rw [horigin, hserviceOrigin]
    exact not_not_intro rfl
  have hrejected : (Js.split blobName '/').find? isRejected = none := by
    rw [List.find?_eq_none]
    intro segment hsegment
    rw [isRejected_eq_false (hname segment hsegment)]
    exact Bool.false_ne_true
  have hjoin := intercalate_split blobName
  have hdecoded := mapM_decodeSegment (Js.split blobName '/')
  unfold BlobContainer.segments at hparts
  obtain ⟨first, rest, hsplit⟩ := List.exists_cons_of_ne_nil (split_ne_nil blobName '/')
  rw [hsplit] at hparts hrejected hjoin hdecoded
  rw [List.map_cons, List.map_cons, container.encoded] at hparts
  unfold parseBlobUri
  simp only [hnew, hnewService]
  change (if url.origin ≠ service.origin then _ else _) = _
  rw [if_neg hsame]
  simp only [hparts]
  rw [← List.map_cons, hdecoded]
  change (match (first :: rest).find? isRejected with
    | some segment => _
    | none => _) = _
  rw [hrejected, ← hjoin]
  rfl

/-- The admin API answers the URI of a blob by the delivery attempts alone: it serves the blob that
the reader finds under the URI, when one of them names it. -/
theorem handleAdminPayload_uriOf {deps : AdminPayloadDeps} {reader : BlobReader}
    (hname : HasPlainSegments blobName)
    (haccountUrl : accountUrl = container.account.text ∨ accountUrl = container.account.text ++ "/")
    (haccount : Url.parse rules accountUrl = some expected)
    (hreader : deps.blobReader = some reader) (hdeps : deps.blobAccountUrl = some accountUrl)
    (headOnly : Bool) :
    handleAdminPayload rules deps (container.uriOf blobName) headOnly =
      (deps.attemptNames deps.environment (container.uriOf blobName)).map fun named =>
        if named then servePayload rules reader (container.uriOf blobName) headOnly
        else .refused 404 "not_found" none := by
  have hcheck := checkPayloadUri_uriOf hname haccountUrl haccount
  have huri : container.uriOf blobName ≠ "" := by
    intro hempty
    have hslash : '/' ∈ (container.uriOf blobName).toList := by
      unfold BlobContainer.uriOf
      simp
    rw [hempty] at hslash
    cases hslash
  have hne : accountUrl ≠ "" := by
    rintro rfl
    have hnone : Url.parse rules "" = none := rfl
    rw [hnone] at haccount
    cases haccount
  have hfilter : deps.blobAccountUrl.filter (· ≠ "") = some accountUrl := by
    rw [hdeps, Option.filter_some, if_pos (by simpa using hne)]
  unfold handleAdminPayload
  simp only [hreader, hfilter, if_neg huri, hcheck]
  cases deps.attemptNames deps.environment (container.uriOf blobName) with
  | error err => rfl
  | ok named =>
    cases named with
    | true => rfl
    | false => rfl

end RoundTrip

/-! ## The names of archived payloads -/

theorem split_join (a b : String) :
    Js.split (a ++ "/" ++ b) '/' = Js.split a '/' ++ Js.split b '/' := by
  have htext : (a ++ "/" ++ b).toList = a.toList ++ '/' :: b.toList := by
    rw [String.toList_append, String.toList_append]
    simp
  unfold Js.split
  rw [htext, ← List.map_append]
  simp only [Js.Url.splitChars_eq_splitOn]
  rw [List.splitOn_append_cons_self]

/-- The segments of a name are those of the texts that it was joined from. -/
theorem split_intercalate {parts : List String} (hne : parts ≠ []) :
    Js.split (String.intercalate "/" parts) '/' = parts.flatMap fun part => Js.split part '/' := by
  induction parts with
  | nil => exact absurd rfl hne
  | cons part rest ih =>
    rw [List.flatMap_cons]
    cases rest with
    | nil => simp
    | cons next rest =>
      rw [String.intercalate_cons_cons, split_join, ih (List.cons_ne_nil next rest)]

/-- Names with plain segments, joined by slashes, are one. -/
theorem hasPlainSegments_intercalate_iff {parts : List String} (hne : parts ≠ []) :
    HasPlainSegments (String.intercalate "/" parts) ↔ ∀ part ∈ parts, HasPlainSegments part := by
  unfold HasPlainSegments
  rw [split_intercalate hne, List.forall_mem_flatMap]

/-- A part without a slash is one segment, and plain when not all of it is dots. -/
theorem hasPlainSegments_of_mem {part : String} (hslash : '/' ∉ part.toList) {c : Char}
    (hmem : c ∈ part.toList) (hdot : c ≠ '.') : HasPlainSegments part := by
  have hsplit : Js.split part '/' = [part] := by
    unfold Js.split
    rw [Js.Url.splitChars_eq_splitOn, List.splitOn_eq_singleton hslash, List.map_cons,
      List.map_nil, String.ofList_toList]
  intro segment hsegment
  rw [hsplit, List.mem_singleton] at hsegment
  subst hsegment
  refine ⟨?_, ?_, ?_⟩
  all_goals
    rintro rfl
    simp at hmem
  all_goals exact hdot hmem

theorem slash_notMem_digits (n : ℕ) : '/' ∉ Nat.toDigits 10 n := by
  intro h
  have hdigit := Nat.isDigit_of_mem_toDigits (by decide) (by decide) h
  revert hdigit
  decide

theorem exists_mem_digits (n : ℕ) : ∃ c ∈ Nat.toDigits 10 n, c ≠ '.' := by
  obtain ⟨c, cs, heq⟩ := List.exists_cons_of_ne_nil (Nat.toDigits_ne_nil (n := n) (b := 10))
  have hmem : c ∈ Nat.toDigits 10 n := by
    rw [heq]
    exact List.mem_cons_self
  refine ⟨c, hmem, ?_⟩
  rintro rfl
  have hdigit := Nat.isDigit_of_mem_toDigits (by decide) (by decide) hmem
  revert hdigit
  decide

theorem slash_notMem_padNumber (width n : ℕ) : '/' ∉ (Js.padNumber width n).toList := by
  unfold Js.padNumber List.leftpad
  rw [String.toList_ofList]
  intro h
  rcases List.mem_append.mp h with h | h
  · exact absurd (List.eq_of_mem_replicate h) (by decide)
  · exact slash_notMem_digits n h

theorem hasPlainSegments_padNumber (width n : ℕ) : HasPlainSegments (Js.padNumber width n) := by
  obtain ⟨c, hmem, hdot⟩ := exists_mem_digits n
  refine hasPlainSegments_of_mem (slash_notMem_padNumber width n) ?_ hdot
  unfold Js.padNumber List.leftpad
  rw [String.toList_ofList]
  exact List.mem_append_right _ hmem

theorem toList_toString_int (n : ℤ) : ∃ sign, '/' ∉ sign ∧
    (toString n).toList = sign ++ Nat.toDigits 10 n.natAbs := by
  cases n with
  | ofNat n => exact ⟨[], by simp, by simp [toString, Int.repr, Nat.repr]⟩
  | negSucc n => exact ⟨['-'], by decide, by simp [toString, Int.repr, Nat.repr]⟩

theorem hasPlainSegments_toString_int (n : ℤ) : HasPlainSegments (toString n) := by
  obtain ⟨sign, hsign, htext⟩ := toList_toString_int n
  obtain ⟨c, hmem, hdot⟩ := exists_mem_digits n.natAbs
  apply hasPlainSegments_of_mem (c := c)
  · rw [htext, List.mem_append]
    exact fun h => h.elim hsign (slash_notMem_digits n.natAbs)
  · rw [htext]
    exact List.mem_append_right _ hmem
  · exact hdot

theorem slash_notMem_toISOString (t : ℤ) : '/' ∉ (Js.toISOString t).toList := by
  unfold Js.toISOString
  obtain ⟨year, month, day⟩ := Js.civilOfDays (t / 86400000)
  have hpad := slash_notMem_padNumber
  simp only
  split
  · simp [hpad]
  · split
    · simp [hpad]
    · simp [hpad]

theorem slash_notMem_dashed (t : ℤ) : '/' ∉ (String.ofList ((Js.toISOString t).toList.map
    fun c => if c = ':' ∨ c = '.' then '-' else c)).toList := by
  rw [String.toList_ofList, List.mem_map]
  rintro ⟨c, hmem, hc⟩
  split at hc
  · cases hc
  · subst hc
    exact slash_notMem_toISOString t hmem

theorem slash_notMem_replaceUnsafe (s : String) : '/' ∉ (replaceUnsafe s).toList := by
  unfold replaceUnsafe
  rw [String.toList_ofList, List.mem_flatMap]
  rintro ⟨c, _, hc⟩
  split at hc
  · next hsafe =>
    obtain rfl := List.mem_singleton.mp hc
    revert hsafe
    decide
  · split at hc
    · simp at hc
    · simp at hc

/-- The names that the store makes have plain segments, when the connection's id has. -/
theorem hasPlainSegments_payloadBlobNameFor {ctx : PayloadStoreContext}
    (h : HasPlainSegments ctx.connectionId) : HasPlainSegments (payloadBlobNameFor ctx) := by
  unfold payloadBlobNameFor
  obtain ⟨year, month, day⟩ := Js.civilOfDays (ctx.attemptStartedAt / 86400000)
  apply (hasPlainSegments_intercalate_iff (List.cons_ne_nil _ _)).mpr
  intro part hpart
  simp only [List.mem_cons, List.not_mem_nil, or_false] at hpart
  rcases hpart with rfl | rfl | rfl | rfl | rfl | rfl
  · have hall : ∀ environment : Environment, HasPlainSegments environment.text := by
      intro environment
      unfold HasPlainSegments
      cases environment <;> decide +kernel
    exact hall ctx.environment
  · exact h
  · exact hasPlainSegments_toString_int year
  · exact hasPlainSegments_padNumber 2 month
  · exact hasPlainSegments_padNumber 2 day
  · have hcount : '/' ∉ (toString ctx.deliveryCount).toList := by
      simpa [toString, Nat.repr] using slash_notMem_digits ctx.deliveryCount
    have hid := slash_notMem_replaceUnsafe
      ((Js.split ctx.shopifyOrderGid '/').getLast?.getD "unknown")
    have hts := slash_notMem_dashed ctx.attemptStartedAt
    apply hasPlainSegments_of_mem (c := 'a')
    · simp only [String.toList_append, List.mem_append, not_or]
      refine ⟨⟨⟨⟨⟨hid, by decide⟩, hcount⟩, by decide⟩, hts⟩, ?_⟩
      split <;> decide
    · simp
    · decide

/-- What the store archives for an order is found again under the URI that it returns. -/
theorem parseBlobUri_putUri {rules : UrlRules} {container : BlobContainer}
    {accountUrl serviceUrl : String} {expected : Url} {ctx : PayloadStoreContext}
    (h : HasPlainSegments ctx.connectionId)
    (haccountUrl : accountUrl = container.account.text ∨ accountUrl = container.account.text ++ "/")
    (haccount : Url.parse rules accountUrl = some expected)
    (hservice : (Url.parse rules serviceUrl).map Url.origin = some expected.origin) :
    parseBlobUri rules (container.putUri ctx) serviceUrl =
      .ok { container := container.name, blobName := payloadBlobNameFor ctx } :=
  parseBlobUri_uriOf (hasPlainSegments_payloadBlobNameFor h) haccountUrl haccount hservice

/-! ## The result -/

/-- Blob URIs round-trip. For every container, whose URL is that of its account followed by its
name, and every blob name whose segments are not empty and no dot segments: the admin API's checks
accept the URI of the blob, so that it answers by the delivery attempts alone; the reader takes
the URI back to the container and the name; and no other such name has the URI. The reader's
service may be at any URL with the account's origin. -/
theorem blob_uri_round_trip (rules : UrlRules) (container : BlobContainer)
    {accountUrl serviceUrl : String}
    (haccountUrl : accountUrl = container.account.text ∨ accountUrl = container.account.text ++ "/")
    (haccount : (Url.parse rules accountUrl).isSome)
    (hservice : (Url.parse rules serviceUrl).map Url.origin =
      (Url.parse rules accountUrl).map Url.origin)
    {blobName : String} (hname : HasPlainSegments blobName) :
    checkPayloadUri rules accountUrl (container.uriOf blobName) = .ok none ∧
    (∀ deps reader headOnly, deps.blobReader = some reader →
      deps.blobAccountUrl = some accountUrl →
      handleAdminPayload rules deps (container.uriOf blobName) headOnly =
        (deps.attemptNames deps.environment (container.uriOf blobName)).map fun named =>
          if named then servePayload rules reader (container.uriOf blobName) headOnly
          else .refused 404 "not_found" none) ∧
    parseBlobUri rules (container.uriOf blobName) serviceUrl =
      .ok { container := container.name, blobName } ∧
    ∀ blobName', HasPlainSegments blobName' →
      container.uriOf blobName' = container.uriOf blobName → blobName' = blobName := by
  obtain ⟨expected, hparse⟩ := Option.isSome_iff_exists.mp haccount
  rw [hparse, Option.map_some] at hservice
  have hread := parseBlobUri_uriOf hname haccountUrl hparse hservice
  refine ⟨checkPayloadUri_uriOf hname haccountUrl hparse, ?_, hread, ?_⟩
  · intro deps reader headOnly hreader hdeps
    exact handleAdminPayload_uriOf hname haccountUrl hparse hreader hdeps headOnly
  · intro blobName' hname' huri
    have hread' := parseBlobUri_uriOf hname' haccountUrl hparse hservice
    rw [huri, hread] at hread'
    exact (congrArg BlobRef.blobName (Except.ok.inj hread')).symm

namespace Archive

/-- Hosts in small letters, without a port: the origin is what was written. -/
def rules : UrlRules where
  originOf scheme authority := some (String.ofList (scheme ++ "://".toList ++ authority))
  other _ _ := none

def container : BlobContainer where
  account :=
    { scheme := "https"
      authority := "dpistdev.blob.core.windows.net"
      special := .inr rfl
      nonempty := by decide
      plain := List.all_iff_forall_prop.mp (by decide +kernel) }
  name := "outbound-netsuite"
  nonempty := by decide
  notDots := by decide
  encoded := by decide +kernel

/-- A name with a space, a percent sign, an escaped dot segment and a letter beyond ASCII. -/
def blobName : String := "prod/acme shop/%2e%2e/100% é.json"

/-- The blob is found again under its URI. -/
theorem found_again :
    container.uriOf blobName = "https://dpistdev.blob.core.windows.net/outbound-netsuite/" ++
      "prod/acme%20shop/%252e%252e/100%25%20%C3%A9.json" ∧
    checkPayloadUri rules "https://dpistdev.blob.core.windows.net/" (container.uriOf blobName) =
      .ok none ∧
    parseBlobUri rules (container.uriOf blobName) "https://dpistdev.blob.core.windows.net/" =
      .ok { container := "outbound-netsuite", blobName } := by
  have hname : HasPlainSegments blobName := by
    unfold HasPlainSegments
    decide +kernel
  obtain ⟨hcheck, _, hread, _⟩ := blob_uri_round_trip rules container (.inr rfl)
    (by decide +kernel) rfl hname
  exact ⟨by decide +kernel, hcheck, hread⟩

end Archive

end DpIntegrator
